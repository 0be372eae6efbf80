import JSCameraKit.Libwebsockets.HeaderParser
import JSCameraKit.Library.Paths
import Mathlib.Data.List.GetD
import Mathlib.Data.List.Induction

set_option autoImplicit false

/-! The URI of a request line. While the parser reads it, escaped or not, it keeps the path as it
would be spelled so far: dots behind a slash wait until it is known whether they are a name. -/

namespace JSCameraKit.Libwebsockets.HeaderParser

open Lextable

def marks : Paths.Marks UInt8 :=
  { sep := slash
    dot := dot
    distinct := by decide }

/-- The characters that a URI spells, and which of them are escaped. -/
inductive Written : List UInt8 → List (UInt8 × Bool) → Prop
  | nil : Written [] []
  | plain {c : UInt8} {raw : List UInt8} {text : List (UInt8 × Bool)} (other : c ≠ 37)
      (apart : c ≠ space) (rest : Written raw text) : Written (c :: raw) ((c, false) :: text)
  | escaped {h l high low : UInt8} {raw : List UInt8} {text : List (UInt8 × Bool)}
      (highIs : charToHex h = some high) (lowIs : charToHex l = some low)
      (rest : Written raw text) :
      Written (37 :: h :: l :: raw) (((high <<< 4) ||| low, true) :: text)

/-- A character that has no meaning but its own, and may be a slash or a dot. -/
def Ordinary (char : UInt8 × Bool) : Prop :=
  char.1 ≠ 0 ∧ char.1 ≠ cr ∧ char.1 ≠ 63 ∧
    (char.2 = false → char.1 ≠ 38 ∧ char.1 ≠ 59 ∧ char.1 ≠ 43)

/-! ### The text of a fragment -/

/-- The last fragment has a text and nothing else is behind it. -/
structure Stored (p : Parser) (start : Nat) (text : List UInt8) : Prop where
  offset : p.frag.offset = start
  len : p.frag.len = text.length
  pos : p.ah.pos = start + text.length
  data : ∀ i, i < text.length → p.ah.data (start + i) = text.getD i 0

/-- What does not change while a URI is read. -/
structure Frame (p q : Parser) : Prop where
  state : q.state = p.state
  index : q.ah.fragIndex = p.ah.fragIndex
  nfrag : q.ah.nfrag = p.ah.nfrag
  link : q.frag.nfrag = p.frag.nfrag
  limit : q.currentTokenLimit = p.currentTokenLimit

theorem Frame.refl (p : Parser) : Frame p p := ⟨rfl, rfl, rfl, rfl, rfl⟩

theorem Frame.trans {p q r : Parser} (first : Frame p q) (second : Frame q r) : Frame p r :=
  ⟨second.state.trans first.state, second.index.trans first.index,
    second.nfrag.trans first.nfrag, second.link.trans first.link,
    second.limit.trans first.limit⟩

variable {context : Context} {p : Parser} {start : Nat} {text : List UInt8}

private theorem frag_put_lengthen (p : Parser) (c : UInt8) :
    (p.put c).lengthen.frag = { p.frag with len := (p.frag.len + 1) % 65536 } :=
  Function.update_self ..

theorem Stored.append (stored : Stored p start text) (small : text.length + 1 < 65536)
    (c : UInt8) : Stored (p.put c).lengthen start (text ++ [c]) := by
  have longer : (text ++ [c]).length = text.length + 1 := by simp
  refine ⟨?_, ?_, ?_, ?_⟩
  · rw [frag_put_lengthen]
    exact stored.offset
  · rw [frag_put_lengthen, longer]
    show (p.frag.len + 1) % 65536 = text.length + 1
    rw [stored.len, Nat.mod_eq_of_lt small]
  · rw [longer]
    show p.ah.pos + 1 = start + (text.length + 1)
    rw [stored.pos, Nat.add_assoc]
  · intro i within
    show Function.update p.ah.data p.ah.pos c (start + i) = (text ++ [c]).getD i 0
    by_cases last : i = text.length
    · rw [last, ← stored.pos, Function.update_self, List.getD_append_right _ _ _ _ (Nat.le_refl _),
        Nat.sub_self]
      rfl
    · rw [Function.update_of_ne (by rw [stored.pos]; omega), stored.data i (by omega),
        List.getD_append _ _ _ _ (by omega)]

private theorem frame_append (p : Parser) (c : UInt8) : Frame p (p.put c).lengthen :=
  ⟨rfl, rfl, rfl, by rw [frag_put_lengthen], rfl⟩

theorem Stored.remove {c : UInt8} (stored : Stored p start (text ++ [c]))
    (small : text.length + 1 < 65536) :
    Stored p.remove start text ∧ p.remove.ah.data p.remove.ah.pos = c ∧ Frame p p.remove := by
  have longer : (text ++ [c]).length = text.length + 1 := by simp
  have frag : p.remove.frag = { p.frag with len := (p.frag.len + 65535) % 65536 } :=
    Function.update_self ..
  have len := stored.len
  have pos := stored.pos
  rw [longer] at len pos
  have posRemove : p.remove.ah.pos = start + text.length := by
    show p.ah.pos - 1 = start + text.length
    omega
  refine ⟨⟨?_, ?_, posRemove, ?_⟩, ?_, ⟨rfl, rfl, rfl, by rw [frag], rfl⟩⟩
  · rw [frag]
    exact stored.offset
  · rw [frag]
    show (p.frag.len + 65535) % 65536 = text.length
    omega
  · intro i within
    have value := stored.data i (by omega)
    rw [List.getD_append _ _ _ _ within] at value
    exact value
  · have value := stored.data text.length (by omega)
    rw [List.getD_append_right _ _ _ _ (Nat.le_refl _), Nat.sub_self] at value
    rw [posRemove]
    exact value

/-! ### Back over a directory -/

/-- The loop stops behind the slash that it took away, or at the first character. -/
theorem backLoop_spec (name : List UInt8) (flat : slash ∉ name) (fuel : Nat) (p : Parser)
    (enough : name.length < fuel) (deep : text ≠ [] ∨ name ≠ [])
    (small : (text ++ [slash] ++ name).length < 65536)
    (stored : Stored p start (text ++ [slash] ++ name)) :
    Stored (backLoop fuel p) start (if text = [] then [slash] else text) ∧
      Frame p (backLoop fuel p) ∧ (backLoop fuel p).ues = p.ues := by
  induction fuel generalizing name p with
  | zero => omega
  | succ fuel ih =>
      rw [backLoop]
      rcases List.eq_nil_or_concat name with none | ⟨before, c, parts⟩
      · have some : text ≠ [] := by simpa [none] using deep
        rw [none, List.append_nil] at stored
        obtain ⟨less, removed, frame⟩ := stored.remove (by simpa [none] using small)
        rw [if_neg fun more => more.2 removed, if_neg some]
        exact ⟨less, frame, rfl⟩
      · rw [List.concat_eq_append] at parts
        rw [parts, ← List.append_assoc] at stored small
        rw [parts, List.mem_append, not_or] at flat
        have other : c ≠ slash := fun same => flat.2 (same ▸ List.mem_singleton_self _)
        have length : name.length = before.length + 1 := by
          rw [parts, List.length_append, List.length_singleton]
        rw [List.length_append, List.length_singleton] at small
        obtain ⟨less, removed, frame⟩ := stored.remove small
        have len : p.remove.frag.len = text.length + 1 + before.length := by
          rw [less.len]
          simp
          omega
        by_cases more : 1 < p.remove.frag.len
        · have deeper : text ≠ [] ∨ before ≠ [] := by
            by_contra none
            rw [not_or, not_not, not_not] at none
            rw [none.1, none.2] at len
            rw [len] at more
            exact absurd more (by decide)
          obtain ⟨rest, frameRest, ues⟩ :=
            ih before flat.1 p.remove (by omega) deeper (by omega) less
          rw [if_pos ⟨more, by rw [removed]; exact other⟩]
          exact ⟨rest, frame.trans frameRest, ues⟩
        · have textNone : text = [] := List.eq_nil_of_length_eq_zero (by omega)
          have beforeNone : before = [] := List.eq_nil_of_length_eq_zero (by omega)
          rw [if_neg fun both => more both.1, if_pos textNone]
          rw [textNone, beforeNone] at less
          exact ⟨less, frame, rfl⟩

private theorem directory_ends (dirs : List (List UInt8)) :
    ∃ text, Paths.directory marks dirs = text ++ [slash] ∧
      (text = [] ↔ dirs = []) := by
  rcases List.eq_nil_or_concat dirs with none | ⟨before, name, parts⟩
  · exact ⟨[], by rw [none]; rfl, ⟨fun _ => none, fun _ => rfl⟩⟩
  · rw [List.concat_eq_append] at parts
    refine ⟨Paths.directory marks before ++ name, ?_, ⟨fun none => ?_, fun none => ?_⟩⟩
    · rw [parts, Paths.directory_append]
      rfl
    · cases none
    · rw [parts] at none
      simp at none

private theorem backUp_spec {dirs : List (List UInt8)} (plain : ∀ dir ∈ dirs, Paths.Plain marks dir)
    (small : (Paths.directory marks dirs).length < 65536)
    (stored : Stored p start (Paths.directory marks dirs)) :
    Stored (backUp p) start (Paths.spelled marks (dirs, [dot, dot])) ∧ Frame p (backUp p) ∧
      (backUp p).ues = p.ues := by
  have spelled : Paths.spelled marks (dirs, [dot, dot]) =
      if dirs.dropLast = [] then [slash] else (Paths.directory marks dirs.dropLast).dropLast :=
    if_pos rfl
  rw [backUp, spelled]
  rcases List.eq_nil_or_concat dirs with none | ⟨before, name, parts⟩
  · have len := stored.len
    rw [none] at stored len
    rw [if_neg (by rw [len]; decide), none, List.dropLast_nil, if_pos rfl]
    exact ⟨stored, Frame.refl p, rfl⟩
  · rw [List.concat_eq_append] at parts
    have here := plain name (by rw [parts]; simp)
    have nonempty := List.length_pos_iff_ne_nil.mpr here.1
    obtain ⟨text, textIs, noneIff⟩ := directory_ends before
    have spelledDirs : Paths.directory marks dirs = text ++ [slash] ++ name ++ [slash] := by
      rw [parts, Paths.directory_append, textIs]
      rfl
    rw [spelledDirs] at stored small
    have len := stored.len
    have total : (text ++ [slash] ++ name ++ [slash]).length = text.length + name.length + 2 := by
      simp
      omega
    have inner : (text ++ [slash] ++ name).length = text.length + name.length + 1 := by
      simp
      omega
    obtain ⟨less, _, frame⟩ := stored.remove (by omega)
    obtain ⟨rest, frameRest, ues⟩ := backLoop_spec name here.2.2.2 p.frag.len p.remove (by omega)
      (.inr here.1) (by omega) less
    have up : (if dirs.dropLast = [] then [slash]
        else (Paths.directory marks dirs.dropLast).dropLast) =
        if text = [] then [slash] else text := by
      rw [parts, List.dropLast_concat, textIs, List.dropLast_concat]
      by_cases none : text = []
      · rw [if_pos none, if_pos (noneIff.mp none)]
      · rw [if_neg none, if_neg fun same => none (noneIff.mpr same)]
    rw [if_pos (by omega), up]
    exact ⟨rest, frame.trans frameRest, ues⟩

/-! ### One character -/

/-- The dots of the name that is read are not stored while it may be made of them alone. -/
def kept (ups : UriPathState) (place : Paths.Place UInt8) : List UInt8 :=
  match ups with
  | .idle => Paths.directory marks place.1 ++ place.2
  | _ => Paths.directory marks place.1

/-- What the state of the parser says of the name that is read. -/
def Reads (ups : UriPathState) (name : List UInt8) : Prop :=
  match ups with
  | .idle => Paths.Plain marks name
  | .seenSlash => name = []
  | .seenSlashDot => name = [dot]
  | .seenSlashDotDot => name = [dot, dot]

structure At (p : Parser) (start : Nat) (place : Paths.Place UInt8) : Prop where
  sound : Paths.Sound marks place
  reads : Reads p.ups place.2
  stored : Stored p start (kept p.ups place)

/-- The characters that a place takes to spell. -/
def weight (place : Paths.Place UInt8) : Nat :=
  (Paths.directory marks place.1).length + place.2.length

/-- What a parser with another character behind its text is. -/
structure Added (p q : Parser) (start : Nat) (text : List UInt8) : Prop where
  stored : Stored q start text
  frame : Frame p q
  ups : q.ups = p.ups
  ues : q.ues = p.ues

private theorem added_put {c : UInt8} (stored : Stored p start text)
    (small : text.length + 1 < 65536) :
    Added p (p.put c).lengthen start (text ++ [c]) :=
  ⟨stored.append small c, frame_append p c, rfl, rfl⟩

variable (context) in
private theorem issueChar_stored {c : UInt8} (stored : Stored p start text) (some : c ≠ 0)
    (room : start + text.length < context.maxHttpHeaderData)
    (limit : text.length < p.currentTokenLimit) :
    ∃ q, issueChar context c p = .ok (false, q) ∧ Added p q start (text ++ [c]) := by
  have short := context.short
  have inside : p.ah.pos < context.maxHttpHeaderData := by
    rw [stored.pos]
    exact room
  have below : p.frag.len < p.currentTokenLimit := by
    rw [stored.len]
    exact limit
  refine ⟨(p.put c).lengthen, ?_, added_put stored (by omega)⟩
  rw [issueChar, if_pos inside, if_pos below, if_neg some]

variable (context) in
private theorem issue_stored {c : UInt8} (stored : Stored p start text) (some : c ≠ 0)
    (room : start + text.length < context.maxHttpHeaderData)
    (limit : text.length < p.currentTokenLimit) :
    ∃ q, issue context c p = .ok q ∧ Added p q start (text ++ [c]) := by
  obtain ⟨q, issued, added⟩ := issueChar_stored context stored some room limit
  refine ⟨q, ?_, added⟩
  rw [issue, issued]
  rfl

theorem swallow_plain (state : p.state ≠ .token tokenChallenge) : swallow p = .ok p :=
  if_neg state

variable (context) in
private theorem argsStep_stored {c : UInt8} {enc : Bool} (stored : Stored p start text)
    (ordinary : Ordinary (c, enc)) (state : p.state ≠ .token tokenChallenge)
    (room : start + text.length < context.maxHttpHeaderData)
    (limit : text.length < p.currentTokenLimit) :
    ∃ q, argsStep context c enc p = .ok q ∧ Added p q start (text ++ [c]) := by
  obtain ⟨some, line, question, _⟩ := ordinary
  obtain ⟨q, issued, added⟩ := issueChar_stored context stored some room limit
  refine ⟨q, ?_, added⟩
  rw [argsStep, if_neg fun args => question args.1, checkEol, if_neg fun ends => line ends.2,
    issueAndSwallow, issued]
  have stateNext : q.state ≠ .token tokenChallenge := by
    rw [added.frame.state]
    exact state
  exact swallow_plain stateNext

/-- The step of the path that an unescaped character makes. -/
def pathThen (context : Context) (c : UInt8) (enc : Bool) (p : Parser) :
    Except Failure Parser :=
  (pathStep context c enc p).bind fun next =>
    match next.1 with
    | none => swallow next.2
    | some issued => argsStep context issued enc next.2

private theorem plain_single {c : UInt8} (other : c ≠ slash) (flat : c ≠ dot) :
    Paths.Plain marks [c] := by
  refine ⟨List.cons_ne_nil _ _, fun same => flat (List.head_eq_of_cons_eq same), ?_, ?_⟩
  · intro same
    cases List.tail_eq_of_cons_eq same
  · exact fun member => other (List.mem_singleton.mp member).symm

private theorem step_slash (place : Paths.Place UInt8) :
    Paths.step marks place slash = (Paths.enter marks place.1 place.2, []) :=
  if_pos rfl

private theorem step_other {c : UInt8} (other : c ≠ slash) (place : Paths.Place UInt8) :
    Paths.step marks place c = (place.1, place.2 ++ [c]) :=
  if_neg other

variable {place : Paths.Place UInt8} {c : UInt8} {enc : Bool}

variable (context) in
private theorem pathStep_idle (idle : p.ups = .idle) (ordinary : Ordinary (c, enc))
    (args : p.ah.fragIndex tokenHttpUriArgs = 0) :
    ∃ equal, pathStep context c enc p =
      .ok (some c, { p with
        postLiteralEqual := equal
        ups := if c = slash then .seenSlash else .idle }) := by
  obtain ⟨some, _, _, raw⟩ := ordinary
  dsimp only at some raw
  have separate : ¬((c = 38 ∨ c = 59) ∧ enc = false) := by
    rintro ⟨mark, unescaped⟩
    rcases mark with ampersand | semicolon
    · exact (raw unescaped).1 ampersand
    · exact (raw unescaped).2.1 semicolon
  have named : (if c = 61 ∧ enc = true ∧ p.ah.fragIndex tokenHttpUriArgs ≠ 0 ∧
      p.postLiteralEqual = false then 95 else c) = c :=
    if_neg fun both => both.2.2.1 args
  have spaced : (if c = 43 ∧ enc = false then space else c) = c :=
    if_neg fun both => (raw both.2).2.2 both.1
  have slashed : (c = slash ∧ p.ah.fragIndex tokenHttpUriArgs = 0) = (c = slash) := by
    rw [args]
    simp
  refine ⟨p.postLiteralEqual || decide (c = 61 ∧ enc = false), ?_⟩
  rw [pathStep, idle]
  dsimp only
  rw [if_neg some, if_neg separate]
  simp only [named, spaced, slashed]

theorem Stored.congr {q : Parser} (stored : Stored p start text) (ah : q.ah = p.ah) :
    Stored q start text := by
  have frag : q.frag = p.frag := by rw [Parser.frag, Parser.frag, ah]
  exact ⟨by rw [frag]; exact stored.offset, by rw [frag]; exact stored.len,
    by rw [ah]; exact stored.pos, by rw [ah]; exact stored.data⟩

/-- What a step over one character comes to. -/
structure Stepped (p q : Parser) (start : Nat) (place : Paths.Place UInt8) : Prop where
  at_ : At q start place
  frame : Frame p q
  ues : q.ues = p.ues

theorem Added.stepped {q r : Parser} {after : Paths.Place UInt8}
    (added : Added r q start (kept q.ups after)) (frame : Frame p r) (ues : r.ues = p.ues)
    (sound : Paths.Sound marks after) (reads : Reads q.ups after.2) :
    Stepped p q start after :=
  ⟨⟨sound, reads, added.stored⟩, frame.trans added.frame, added.ues.trans ues⟩

private theorem pathThen_idle (at_ : At p start place) (idle : p.ups = .idle)
    (ordinary : Ordinary (c, enc)) (state : p.state ≠ .token tokenChallenge)
    (args : p.ah.fragIndex tokenHttpUriArgs = 0)
    (room : start + weight place < context.maxHttpHeaderData)
    (limit : weight place < p.currentTokenLimit) :
    ∃ q, pathThen context c enc p = .ok q ∧ Stepped p q start (Paths.step marks place c) := by
  obtain ⟨equal, walked⟩ := pathStep_idle context idle ordinary args
  have reads := at_.reads
  have stored := at_.stored
  rw [idle] at reads stored
  have weightIs : (kept .idle place).length = weight place := List.length_append
  have sound := Paths.sound_step at_.sound c
  generalize nextIs : ({ p with
    postLiteralEqual := equal
    ups := if c = slash then .seenSlash else .idle } : Parser) = next at walked
  have frame : Frame p next := by
    rw [← nextIs]
    exact ⟨rfl, rfl, rfl, rfl, rfl⟩
  have storedNext : Stored next start (kept .idle place) :=
    stored.congr (by rw [← nextIs])
  obtain ⟨q, issued, added⟩ := argsStep_stored context storedNext ordinary
    (by rw [frame.state]; exact state) (by omega) (by rw [frame.limit]; omega)
  refine ⟨q, ?_, ?_⟩
  · rw [pathThen, walked]
    exact issued
  · have upsNext : next.ups = if c = slash then .seenSlash else .idle := by rw [← nextIs]
    have upsQ := added.ups.trans upsNext
    have ues : next.ues = p.ues := by rw [← nextIs]
    by_cases slashed : c = slash
    · have up : ¬(place.2 = [] ∨ place.2 = [dot]) := by
        rintro (none | single)
        · exact reads.1 none
        · exact reads.2.1 single
      have entered : Paths.enter marks place.1 place.2 = place.1 ++ [place.2] :=
        (if_neg up).trans (if_neg reads.2.2.1)
      rw [if_pos slashed] at upsQ
      rw [slashed] at sound added ⊢
      rw [step_slash, entered] at sound ⊢
      have spelled : kept .idle place ++ [slash] = kept q.ups (place.1 ++ [place.2], []) := by
        rw [upsQ]
        exact (Paths.directory_append place.1 place.2).symm
      rw [spelled] at added
      exact added.stepped frame ues sound (by rw [upsQ]; rfl)
    · rw [if_neg slashed] at upsQ
      rw [step_other slashed] at sound ⊢
      have spelled : kept .idle place ++ [c] = kept q.ups (place.1, place.2 ++ [c]) := by
        rw [upsQ]
        exact List.append_assoc ..
      rw [spelled] at added
      refine added.stepped frame ues sound ?_
      rw [upsQ]
      refine ⟨by simp, fun single => ?_, fun double => ?_, sound.2⟩
      · exact reads.1 (by simpa using congrArg List.dropLast single)
      · exact reads.2.1 (by simpa using congrArg List.dropLast double)

private theorem plain_dot {c : UInt8} (other : c ≠ slash) (flat : c ≠ dot) :
    Paths.Plain marks ([dot] ++ [c]) := by
  refine ⟨List.cons_ne_nil _ _, ?_, ?_, ?_⟩
  · intro same
    cases List.tail_eq_of_cons_eq same
  · intro same
    exact flat (List.head_eq_of_cons_eq (List.tail_eq_of_cons_eq same))
  · simp [marks, other.symm]
    decide

private theorem plain_dotDot {c : UInt8} (other : c ≠ slash) :
    Paths.Plain marks ([dot, dot] ++ [c]) := by
  refine ⟨List.cons_ne_nil _ _, ?_, ?_, ?_⟩
  · intro same
    cases List.tail_eq_of_cons_eq same
  · intro same
    cases List.tail_eq_of_cons_eq (List.tail_eq_of_cons_eq same)
  · simp [marks, other.symm]
    decide

variable {dirs : List (List UInt8)} {r : Parser}

variable (context) in
private theorem argsStep_named {dots : List UInt8} (plainDirs : ∀ dir ∈ dirs, Paths.Plain marks dir)
    (plain : Paths.Plain marks (dots ++ [c])) (ordinary : Ordinary (c, enc))
    (stored : Stored r start (Paths.directory marks dirs ++ dots)) (idle : r.ups = .idle)
    (frame : Frame p r) (ues : r.ues = p.ues) (state : p.state ≠ .token tokenChallenge)
    (room : start + weight (dirs, dots) < context.maxHttpHeaderData)
    (limit : weight (dirs, dots) < p.currentTokenLimit) :
    ∃ q, argsStep context c enc r = .ok q ∧ Stepped p q start (dirs, dots ++ [c]) := by
  have weightIs : (Paths.directory marks dirs ++ dots).length = weight (dirs, dots) :=
    List.length_append
  obtain ⟨q, issued, added⟩ := argsStep_stored context stored ordinary
    (by rw [frame.state]; exact state) (by omega) (by rw [frame.limit]; omega)
  have ups := added.ups.trans idle
  refine ⟨q, issued, ?_⟩
  have spelled : Paths.directory marks dirs ++ dots ++ [c] = kept q.ups (dirs, dots ++ [c]) := by
    rw [ups]
    exact List.append_assoc ..
  rw [spelled] at added
  refine added.stepped frame ues ⟨plainDirs, plain.2.2.2⟩ ?_
  rw [ups]
  exact plain

private theorem stepped_waiting (stored : Stored p start (Paths.directory marks dirs))
    (plainDirs : ∀ dir ∈ dirs, Paths.Plain marks dir) (ups : UriPathState) {name : List UInt8}
    (reads : Reads ups name) (waits : ups ≠ .idle) (flat : slash ∉ name) :
    Stepped p { p with ups := ups } start (dirs, name) := by
  have spelled : kept ups (dirs, name) = Paths.directory marks dirs := by
    cases ups with
    | idle => exact absurd rfl waits
    | seenSlash => rfl
    | seenSlashDot => rfl
    | seenSlashDotDot => rfl
  refine ⟨⟨⟨plainDirs, flat⟩, reads, ?_⟩, ⟨rfl, rfl, rfl, rfl, rfl⟩, rfl⟩
  show Stored _ start (kept ups (dirs, name))
  rw [spelled]
  exact stored.congr rfl

private theorem pathThen_slash (at_ : At p start place) (seen : p.ups = .seenSlash)
    (ordinary : Ordinary (c, enc)) (state : p.state ≠ .token tokenChallenge)
    (room : start + weight place < context.maxHttpHeaderData)
    (limit : weight place < p.currentTokenLimit) :
    ∃ q, pathThen context c enc p = .ok q ∧ Stepped p q start (Paths.step marks place c) := by
  rcases place with ⟨dirs, name⟩
  have reads : name = [] := by
    have reads := at_.reads
    rw [seen] at reads
    exact reads
  have stored : Stored p start (Paths.directory marks dirs) := by
    have stored := at_.stored
    rw [seen] at stored
    exact stored
  have plain : ∀ dir ∈ dirs, Paths.Plain marks dir := at_.sound.1
  rw [reads] at room limit ⊢
  rw [pathThen, pathStep, seen]
  dsimp only
  by_cases slashed : c = slash
  · refine ⟨p, ?_, ?_⟩
    · rw [if_pos slashed]
      exact swallow_plain state
    · have same : ({ p with ups := .seenSlash } : Parser) = p := by rw [← seen]
      have stepped := stepped_waiting stored plain .seenSlash rfl (by decide) List.not_mem_nil
      rw [same] at stepped
      rw [slashed]
      exact stepped
  · by_cases dotted : c = dot
    · refine ⟨{ p with ups := .seenSlashDot }, ?_, ?_⟩
      · rw [if_neg slashed, if_pos dotted]
        exact swallow_plain state
      · rw [dotted, step_other (by decide)]
        have flat : slash ∉ [dot] := by decide
        exact stepped_waiting stored plain .seenSlashDot rfl (by decide) flat
    · rw [if_neg slashed, if_neg dotted, step_other slashed]
      refine argsStep_named context plain (plain_single slashed dotted) ordinary ?_ rfl
        ⟨rfl, rfl, rfl, rfl, rfl⟩ rfl state room limit
      rw [List.append_nil]
      exact stored.congr rfl

private theorem pathThen_dot (at_ : At p start place) (seen : p.ups = .seenSlashDot)
    (ordinary : Ordinary (c, enc)) (state : p.state ≠ .token tokenChallenge)
    (room : start + weight place < context.maxHttpHeaderData)
    (limit : weight place < p.currentTokenLimit) :
    ∃ q, pathThen context c enc p = .ok q ∧ Stepped p q start (Paths.step marks place c) := by
  rcases place with ⟨dirs, name⟩
  have reads : name = [dot] := by
    have reads := at_.reads
    rw [seen] at reads
    exact reads
  have stored : Stored p start (Paths.directory marks dirs) := by
    have stored := at_.stored
    rw [seen] at stored
    exact stored
  have plain : ∀ dir ∈ dirs, Paths.Plain marks dir := at_.sound.1
  rw [reads] at room limit ⊢
  rw [pathThen, pathStep, seen]
  dsimp only
  by_cases dotted : c = dot
  · refine ⟨{ p with ups := .seenSlashDotDot }, ?_, ?_⟩
    · rw [if_pos dotted]
      exact swallow_plain state
    · rw [dotted, step_other (by decide)]
      have flat : slash ∉ [dot, dot] := by decide
      exact stepped_waiting stored plain .seenSlashDotDot rfl (by decide) flat
  · by_cases slashed : c = slash
    · refine ⟨{ p with ups := .seenSlash }, ?_, ?_⟩
      · rw [if_neg dotted, if_pos slashed]
        exact swallow_plain state
      · have entered : Paths.enter marks dirs [dot] = dirs := if_pos (.inr rfl)
        rw [slashed, step_slash, entered]
        exact stepped_waiting stored plain .seenSlash rfl (by decide) List.not_mem_nil
    · have waiting : Frame p { p with ups := .idle } := ⟨rfl, rfl, rfl, rfl, rfl⟩
      have weightIs : weight (dirs, [dot]) = (Paths.directory marks dirs).length + 1 := rfl
      obtain ⟨r, issued, added⟩ := issue_stored context
        (p := { p with ups := .idle }) (c := dot) (stored.congr rfl) (by decide) (by omega)
        (by show _ < p.currentTokenLimit; omega)
      have frame : Frame p r := waiting.trans added.frame
      obtain ⟨q, named, stepped⟩ := argsStep_named context (p := p) plain
        (plain_dot slashed dotted) ordinary added.stored added.ups frame added.ues state room limit
      refine ⟨q, ?_, ?_⟩
      · rw [if_neg dotted, if_neg slashed, issued]
        exact named
      · rw [step_other slashed]
        exact stepped

private theorem pathThen_dotDot (at_ : At p start place) (seen : p.ups = .seenSlashDotDot)
    (ordinary : Ordinary (c, enc)) (state : p.state ≠ .token tokenChallenge)
    (room : start + weight place < context.maxHttpHeaderData)
    (limit : weight place < p.currentTokenLimit) :
    ∃ q, pathThen context c enc p = .ok q ∧ Stepped p q start (Paths.step marks place c) := by
  rcases place with ⟨dirs, name⟩
  have reads : name = [dot, dot] := by
    have reads := at_.reads
    rw [seen] at reads
    exact reads
  have stored : Stored p start (Paths.directory marks dirs) := by
    have stored := at_.stored
    rw [seen] at stored
    exact stored
  have plain : ∀ dir ∈ dirs, Paths.Plain marks dir := at_.sound.1
  rw [reads] at room limit ⊢
  have short := context.short
  have weightIs : weight (dirs, [dot, dot]) = (Paths.directory marks dirs).length + 2 := rfl
  rw [pathThen, pathStep, seen]
  dsimp only
  by_cases slashed : c = slash
  · obtain ⟨up, frame, ues⟩ := backUp_spec plain (by omega) stored
    have entered : Paths.enter marks dirs [dot, dot] = dirs.dropLast := rfl
    have plainUp : ∀ dir ∈ dirs.dropLast, Paths.Plain marks dir :=
      fun dir member => plain dir (List.dropLast_subset dirs member)
    have spelled : Paths.spelled marks (dirs, [dot, dot]) =
        if dirs.dropLast = [] then [slash]
        else (Paths.directory marks dirs.dropLast).dropLast := if_pos rfl
    rw [spelled] at up
    have upFrame : Frame p { backUp p with ups := .seenSlash } :=
      ⟨frame.state, frame.index, frame.nfrag, frame.link, frame.limit⟩
    have len := up.len
    rw [slashed, step_slash, entered, if_pos (.inl rfl)]
    by_cases root : dirs.dropLast = []
    · rw [if_pos root] at up len
      have shallow : ¬1 < ({ backUp p with ups := .seenSlash } : Parser).frag.len := by
        show ¬1 < (backUp p).frag.len
        rw [len]
        decide
      rw [if_neg shallow, root]
      refine ⟨{ backUp p with ups := .seenSlash }, ?_, ?_⟩
      · exact swallow_plain (by rw [upFrame.state]; exact state)
      · refine ⟨⟨⟨fun _ member => absurd member List.not_mem_nil, List.not_mem_nil⟩, rfl, ?_⟩,
          upFrame, ues⟩
        exact up.congr rfl
    · obtain ⟨before, last, parts⟩ := (List.eq_nil_or_concat dirs.dropLast).resolve_left root
      rw [List.concat_eq_append] at parts
      have some := List.length_pos_iff_ne_nil.mpr
        (plainUp last (by rw [parts]; simp)).1
      have spelledUp : Paths.directory marks dirs.dropLast =
          Paths.directory marks before ++ last ++ [slash] := by
        rw [parts]
        exact Paths.directory_append before last
      have shorter : (Paths.directory marks dirs.dropLast).length ≤ _ :=
        Paths.length_directory_dropLast dirs
      rw [if_neg root, spelledUp, List.dropLast_concat] at up len
      rw [spelledUp, List.length_append, List.length_singleton] at shorter
      have rootLength : 0 < (Paths.directory marks before).length := Nat.succ_pos _
      rw [List.length_append] at len shorter
      have deep : 1 < ({ backUp p with ups := .seenSlash } : Parser).frag.len := by
        show 1 < (backUp p).frag.len
        omega
      have ordinarySlash : Ordinary (slash, enc) := slashed ▸ ordinary
      obtain ⟨q, issued, added⟩ := argsStep_stored context
        (p := { backUp p with ups := .seenSlash }) (up.congr rfl) ordinarySlash
        (by rw [upFrame.state]; exact state)
        (by rw [List.length_append]; omega)
        (by rw [upFrame.limit, List.length_append]; omega)
      rw [← spelledUp] at added
      rw [if_pos deep]
      refine ⟨q, issued, ⟨⟨⟨plainUp, List.not_mem_nil⟩, ?_, ?_⟩, upFrame.trans added.frame,
        added.ues.trans ues⟩⟩
      · rw [added.ups]
        rfl
      · rw [added.ups]
        exact added.stored
  · obtain ⟨first, issuedFirst, addedFirst⟩ := issue_stored context (c := dot) stored (by decide)
      (by omega) (by omega)
    have lengthFirst : (Paths.directory marks dirs ++ [dot]).length =
        (Paths.directory marks dirs).length + 1 := List.length_append
    obtain ⟨second, issuedSecond, addedSecond⟩ := issue_stored context (c := dot)
      addedFirst.stored (by decide) (by omega) (by rw [addedFirst.frame.limit]; omega)
    have frame := addedFirst.frame.trans addedSecond.frame
    have spelled : Paths.directory marks dirs ++ [dot] ++ [dot] =
        Paths.directory marks dirs ++ [dot, dot] := List.append_assoc ..
    have storedSecond := addedSecond.stored
    rw [spelled] at storedSecond
    have frameIdle : Frame p { second with ups := .idle } :=
      ⟨frame.state, frame.index, frame.nfrag, frame.link, frame.limit⟩
    obtain ⟨q, named, stepped⟩ := argsStep_named context (p := p)
      (r := { second with ups := .idle }) plain (plain_dotDot slashed) ordinary
      (storedSecond.congr rfl) rfl frameIdle (addedSecond.ues.trans addedFirst.ues) state room
      limit
    refine ⟨q, ?_, ?_⟩
    · rw [if_neg fun up => up.elim slashed ordinary.2.2.1, issuedFirst]
      simp only [Except.bind, issuedSecond, Except.map]
      exact named
    · rw [step_other slashed]
      exact stepped

variable (context) in
private theorem pathThen_spec (at_ : At p start place) (ordinary : Ordinary (c, enc))
    (state : p.state ≠ .token tokenChallenge) (args : p.ah.fragIndex tokenHttpUriArgs = 0)
    (room : start + weight place < context.maxHttpHeaderData)
    (limit : weight place < p.currentTokenLimit) :
    ∃ q, pathThen context c enc p = .ok q ∧ Stepped p q start (Paths.step marks place c) := by
  cases seen : p.ups with
  | idle => exact pathThen_idle at_ seen ordinary state args room limit
  | seenSlash => exact pathThen_slash at_ seen ordinary state room limit
  | seenSlashDot => exact pathThen_dot at_ seen ordinary state room limit
  | seenSlashDotDot => exact pathThen_dotDot at_ seen ordinary state room limit

/-! ### A URI -/

variable {token : Nat}

/-- While a URI is read, a character that is no space goes through the two state machines. -/
theorem lwsParse_uri (state : p.state = .token token) (method : token ∈ methods)
    (apart : c ≠ space) : lwsParse context p c = uriStep context c p := by
  rw [lwsParse, state]
  dsimp only
  rw [tokenStep, if_neg fun both => apart both.2, if_neg (not_not.mpr method), if_neg apart]

private theorem lwsParse_plain (state : p.state = .token token) (method : token ∈ methods)
    (ues : p.ues = .idle) (apart : c ≠ space) (other : c ≠ 37) :
    lwsParse context p c = pathThen context c false p := by
  rw [lwsParse_uri state method apart, uriStep, unescape, ues]
  dsimp only
  rw [if_neg other]
  rfl

private theorem charToHex_space : charToHex space = none := by decide

private theorem method_state (method : token ∈ methods) (state : p.state = .token token) :
    p.state ≠ .token tokenChallenge := by
  intro same
  rw [state] at same
  injection same with same
  rw [same] at method
  exact absurd method (by decide)

private theorem parseAll_escaped {h l high low : UInt8} (state : p.state = .token token)
    (method : token ∈ methods) (ues : p.ues = .idle) (highIs : charToHex h = some high)
    (lowIs : charToHex l = some low) :
    parseAll context p [37, h, l] =
      pathThen context ((high <<< 4) ||| low) true { p with escStash := h, ues := .idle } := by
  have apart {x digit : UInt8} (digitIs : charToHex x = some digit) : x ≠ space := by
    intro same
    rw [same, charToHex_space] at digitIs
    cases digitIs
  have challenge := method_state method state
  have percent : lwsParse context p 37 = .ok { p with ues := .seenPercent } := by
    rw [lwsParse_uri state method (by decide), uriStep, unescape, ues]
    exact swallow_plain challenge
  have first : lwsParse context { p with ues := .seenPercent } h =
      .ok { p with escStash := h, ues := .seenPercentH1 } := by
    rw [lwsParse_uri (p := { p with ues := .seenPercent }) state method (apart highIs), uriStep,
      unescape]
    simp only [highIs]
    exact swallow_plain challenge
  have second : lwsParse context { p with escStash := h, ues := .seenPercentH1 } l =
      pathThen context ((high <<< 4) ||| low) true { p with escStash := h, ues := .idle } := by
    rw [lwsParse_uri (p := { p with escStash := h, ues := .seenPercentH1 }) state method
      (apart lowIs), uriStep, unescape]
    simp only [lowIs, highIs, Option.getD_some]
    rfl
  rw [parseAll_cons_of_ok percent, parseAll_cons_of_ok first, parseAll_singleton, second]

private theorem weight_step (place : Paths.Place UInt8) (c : UInt8) :
    weight (Paths.step marks place c) ≤ weight place + 1 :=
  Paths.length_step place c

variable (context) in
private theorem parseAll_written {raw : List UInt8} {text : List (UInt8 × Bool)}
    (written : Written raw text) (p : Parser) (place : Paths.Place UInt8)
    (at_ : At p start place) (ordinary : ∀ char ∈ text, Ordinary char)
    (state : p.state = .token token) (method : token ∈ methods)
    (args : p.ah.fragIndex tokenHttpUriArgs = 0) (ues : p.ues = .idle)
    (room : start + weight place + text.length < context.maxHttpHeaderData)
    (limit : weight place + text.length ≤ p.currentTokenLimit) :
    ∃ q, parseAll context p raw = .ok q ∧
      Stepped p q start ((text.map Prod.fst).foldl (Paths.step marks) place) := by
  induction written generalizing p place with
  | nil => exact ⟨p, rfl, at_, Frame.refl p, rfl⟩
  | @plain c raw text other apart _ ih =>
      have grown := weight_step place c
      rw [List.length_cons] at room limit
      obtain ⟨q, walked, stepped⟩ := pathThen_spec context at_
        (ordinary _ List.mem_cons_self) (method_state method state) args (by omega) (by omega)
      obtain ⟨r, rest, steppedRest⟩ := ih q (Paths.step marks place c) stepped.at_
        (fun char member => ordinary char (List.mem_cons_of_mem _ member))
        (stepped.frame.state.trans state) (by rw [stepped.frame.index]; exact args)
        (stepped.ues.trans ues) (by omega) (by rw [stepped.frame.limit]; omega)
      refine ⟨r, ?_, steppedRest.at_, stepped.frame.trans steppedRest.frame,
        steppedRest.ues.trans stepped.ues⟩
      rw [parseAll_cons_of_ok ((lwsParse_plain state method ues apart other).trans walked)]
      exact rest
  | @escaped h l high low raw text highIs lowIs _ ih =>
      have grown := weight_step place ((high <<< 4) ||| low)
      rw [List.length_cons] at room limit
      have waiting : At { p with escStash := h, ues := .idle } start place :=
        ⟨at_.sound, at_.reads, at_.stored.congr rfl⟩
      obtain ⟨q, walked, stepped⟩ := pathThen_spec context waiting
        (ordinary _ List.mem_cons_self) (method_state method state) args (by omega)
        (by show _ < p.currentTokenLimit; omega)
      have frame : Frame p q :=
        ⟨stepped.frame.state, stepped.frame.index, stepped.frame.nfrag, stepped.frame.link,
          stepped.frame.limit⟩
      obtain ⟨r, rest, steppedRest⟩ := ih q (Paths.step marks place _) stepped.at_
        (fun char member => ordinary char (List.mem_cons_of_mem _ member))
        (frame.state.trans state) (by rw [frame.index]; exact args) stepped.ues (by omega)
        (by rw [frame.limit]; omega)
      refine ⟨r, ?_, steppedRest.at_, frame.trans steppedRest.frame, ?_⟩
      · have unit := (parseAll_escaped state method ues highIs lowIs).trans walked
        exact (parseAll_append_of_ok unit raw).trans rest
      · rw [steppedRest.ues, stepped.ues, ues]

/-! ### A request line -/

theorem lwsParse_name (state : p.state = .namePart) : lwsParse context p c = nameStep context c p := by
  rw [lwsParse, state]

variable (context) in
theorem parseAll_name {n : Nat} (rest : List UInt8) (c : UInt8) (pos : Nat) (p : Parser)
    (state : p.state = .namePart) (at_ : p.lextablePos = some pos)
    (found : Matcher.run matcher pos (c :: rest) = some n) :
    ∃ last, parseAll context p (c :: rest) =
      nameKnown context n { p with lextablePos := last } := by
  induction rest generalizing c p pos with
  | nil =>
      obtain ⟨next, stepped, token⟩ := Matcher.run_cons_eq_some found
      refine ⟨some next, ?_⟩
      rw [parseAll_singleton, lwsParse_name state, nameStep, at_]
      dsimp only
      have decoded : lextableDecode pos c = some next := stepped
      have ends : terminal next = some n := token
      rw [decoded]
      dsimp only
      rw [ends]
  | cons d rest ih =>
      obtain ⟨next, stepped, foundRest⟩ := Matcher.run_cons_eq_some found
      have decoded : lextableDecode pos c = some next := stepped
      have open_ : terminal next = none := Matcher.token_eq_none_of_run foundRest
      have parsed : lwsParse context p c = .ok { p with lextablePos := some next } := by
        rw [lwsParse_name state, nameStep, at_]
        dsimp only
        rw [decoded]
        dsimp only
        rw [open_]
      obtain ⟨last, restIs⟩ := ih d next { p with lextablePos := some next } state rfl foundRest
      exact ⟨last, (parseAll_cons_of_ok parsed _).trans restIs⟩

/-- The parser at the start of a URI. -/
structure AtUri (context : Context) (n : Nat) (q : Parser) : Prop where
  state : q.state = .token n
  nfrag : q.ah.nfrag = 1
  index : q.ah.fragIndex = Function.update (fun _ => 0) n 1
  stored : Stored q 0 []
  link : q.frag.nfrag = 0
  ups : q.ups = .idle
  ues : q.ues = .idle
  limit : q.currentTokenLimit = tokenLimit context n

theorem method_names {n : Nat} (method : n ∈ methods) :
    n ≠ tokenSworigin ∧ n ≠ tokenChallenge ∧ n ≠ tokenHttpUriArgs ∧ n ≠ tokenHttp ∧ n < 80 ∧
      ascii (set.getD n "") ≠ [] := by
  have all : ∀ m ∈ methods, m ≠ tokenSworigin ∧ m ≠ tokenChallenge ∧ m ≠ tokenHttpUriArgs ∧
      m ≠ tokenHttp ∧ m < 80 ∧ ascii (set.getD m "") ≠ [] := by decide
  exact all n method

variable (context) in
private theorem nameKnown_method (q : Parser) {n : Nat} (method : n ∈ methods)
    (index : q.ah.fragIndex = fun _ => 0) (nfrag : q.ah.nfrag = 0) :
    nameKnown context n q =
      .ok (({ q with
        state := .token n
        currentTokenLimit := tokenLimit context n } : Parser).nextFrag.freshFrag.withIndex n) := by
  obtain ⟨origin, challenge, _⟩ := method_names method
  have absent (token : Nat) : q.ah.fragIndex token = 0 := by rw [index]
  generalize namedIs : ({ q with
    state := .token n
    currentTokenLimit := tokenLimit context n } : Parser) = named
  have first : named.nextFrag.ah.nfrag = 1 := by
    rw [← namedIs]
    exact congrArg (· + 1) nfrag
  have state : named.nextFrag.state = .token n := by
    rw [← namedIs]
    rfl
  have fresh : named.nextFrag.freshFrag.ah.fragIndex n = 0 := by
    rw [← namedIs]
    exact absent n
  rw [nameKnown, if_neg fun both => both.2 (absent n)]
  dsimp only
  rw [if_neg origin, if_neg challenge, namedIs, startFragment, excessive, first,
    if_neg (by decide), if_neg (by decide), state]
  dsimp only
  rw [beginFragment, if_pos fresh]

variable (context) in
private theorem parseAll_method (p : Parser) (ups : p.ups = .idle) (ues : p.ues = .idle) {n : Nat}
    (method : n ∈ methods) (name : List UInt8)
    (named : name.map lower = ascii (set.getD n "")) :
    ∃ q, parseAll context (beginHeaders (lwsHeaderTableReset p)) name = .ok q ∧
      AtUri context n q := by
  obtain ⟨_, _, _, _, known, spelled⟩ := method_names method
  have found := (lextable_finds name n).mpr ⟨known, named⟩
  cases name with
  | nil => exact absurd named.symm spelled
  | cons c rest =>
      obtain ⟨last, parsed⟩ := parseAll_name context rest c 0
        (beginHeaders (lwsHeaderTableReset p)) rfl rfl found
      have started := nameKnown_method context
        { beginHeaders (lwsHeaderTableReset p) with lextablePos := last } method rfl rfl
      refine ⟨_, parsed.trans started, rfl, rfl, rfl, ?_, ?_, ups, ues, rfl⟩
      · exact ⟨rfl, rfl, rfl, fun i within => absurd within (Nat.not_lt_zero i)⟩
      · rfl

private theorem parseAll_spaces {n : Nat} {q : Parser} (atUri : AtUri context n q) (count : Nat) :
    parseAll context q (List.replicate count space) = .ok q := by
  have one : lwsParse context q space = .ok q := by
    have len : (q.ah.frags (q.ah.fragIndex n)).len = 0 := by
      have stored := atUri.stored.len
      rw [Parser.frag, atUri.nfrag] at stored
      rw [atUri.index, Function.update_self]
      exact stored
    rw [lwsParse, atUri.state]
    exact if_pos ⟨len, rfl⟩
  induction count with
  | zero => rfl
  | succ count ih => exact (parseAll_cons_of_ok one _).trans ih

private theorem ordinary_slash (enc : Bool) : Ordinary (slash, enc) := by
  cases enc <;> simp only [Ordinary] <;> decide

variable (context) in
private theorem pathThen_root (stored : Stored p start []) (idle : p.ups = .idle)
    (state : p.state ≠ .token tokenChallenge) (args : p.ah.fragIndex tokenHttpUriArgs = 0)
    (room : start < context.maxHttpHeaderData) (limit : 0 < p.currentTokenLimit) (enc : Bool) :
    ∃ q, pathThen context slash enc p = .ok q ∧ Stepped p q start ([], []) := by
  have ordinary := ordinary_slash enc
  obtain ⟨equal, walked⟩ := pathStep_idle context idle ordinary args
  rw [if_pos rfl] at walked
  generalize nextIs : ({ p with postLiteralEqual := equal, ups := .seenSlash } : Parser) = next
    at walked
  have frame : Frame p next := by
    rw [← nextIs]
    exact ⟨rfl, rfl, rfl, rfl, rfl⟩
  have storedNext : Stored next start [] := stored.congr (by rw [← nextIs])
  obtain ⟨q, issued, added⟩ := argsStep_stored context storedNext ordinary
    (by rw [frame.state]; exact state) room (by rw [frame.limit]; exact limit)
  have ups : q.ups = .seenSlash := by rw [added.ups, ← nextIs]
  have ues : next.ues = p.ues := by rw [← nextIs]
  refine ⟨q, ?_, ⟨⟨⟨fun _ member => absurd member List.not_mem_nil, List.not_mem_nil⟩, ?_, ?_⟩,
    frame.trans added.frame, added.ues.trans ues⟩⟩
  · rw [pathThen, walked]
    exact issued
  · rw [ups]
    rfl
  · rw [ups]
    exact added.stored

variable (context) in
private theorem parseAll_rooted {raw : List UInt8} {text : List (UInt8 × Bool)}
    (written : Written raw ((slash, enc) :: text)) (stored : Stored p start [])
    (idle : p.ups = .idle) (ues : p.ues = .idle) (state : p.state = .token token)
    (method : token ∈ methods) (args : p.ah.fragIndex tokenHttpUriArgs = 0)
    (ordinary : ∀ char ∈ text, Ordinary char)
    (room : start + text.length + 1 < context.maxHttpHeaderData)
    (limit : text.length + 1 ≤ p.currentTokenLimit) :
    ∃ q, parseAll context p raw = .ok q ∧
      Stepped p q start (Paths.walk marks (text.map Prod.fst)) := by
  have challenge := method_state method state
  have root : weight ([], []) = 1 := rfl
  generalize wholeIs : (slash, enc) :: text = whole at written
  cases written with
  | nil => cases wholeIs
  | @plain c raw after other apart rest =>
      obtain ⟨char, rfl⟩ := List.cons_eq_cons.mp wholeIs
      have same : slash = c := congrArg Prod.fst char
      obtain ⟨q, walked, stepped⟩ := pathThen_root context stored idle challenge args (by omega)
        (by omega) false
      obtain ⟨r, parsed, steppedRest⟩ := parseAll_written context rest q ([], []) stepped.at_
        ordinary (stepped.frame.state.trans state) method
        (by rw [stepped.frame.index]; exact args) (stepped.ues.trans ues) (by omega)
        (by rw [stepped.frame.limit]; omega)
      refine ⟨r, ?_, steppedRest.at_, stepped.frame.trans steppedRest.frame,
        steppedRest.ues.trans stepped.ues⟩
      rw [same] at walked
      rw [parseAll_cons_of_ok ((lwsParse_plain state method ues apart other).trans walked)]
      exact parsed
  | @escaped h l high low raw after highIs lowIs rest =>
      obtain ⟨char, rfl⟩ := List.cons_eq_cons.mp wholeIs
      have same : slash = (high <<< 4) ||| low := congrArg Prod.fst char
      obtain ⟨q, walked, stepped⟩ := pathThen_root context
        (p := { p with escStash := h, ues := .idle }) (stored.congr rfl) idle challenge args
        (by omega) (by show 0 < p.currentTokenLimit; omega) true
      have frame : Frame p q :=
        ⟨stepped.frame.state, stepped.frame.index, stepped.frame.nfrag, stepped.frame.link,
          stepped.frame.limit⟩
      obtain ⟨r, parsed, steppedRest⟩ := parseAll_written context rest q ([], []) stepped.at_
        ordinary (frame.state.trans state) method (by rw [frame.index]; exact args) stepped.ues
        (by omega) (by rw [frame.limit]; omega)
      refine ⟨r, ?_, steppedRest.at_, frame.trans steppedRest.frame, ?_⟩
      · rw [same] at walked
        have unit := (parseAll_escaped state method ues highIs lowIs).trans walked
        exact (parseAll_append_of_ok unit raw).trans parsed
      · rw [steppedRest.ues, stepped.ues, ues]

/-- Where a URI ends what is stored is the spelling of the place that it leads to. -/
theorem upToEnd {place : Paths.Place UInt8} (at_ : At p start place)
    (small : weight place < 65536) :
    Stored (if p.ups = .seenSlashDotDot then backUp p else p) start
        (Paths.spelled marks place) ∧
      Frame p (if p.ups = .seenSlashDotDot then backUp p else p) ∧
      (if p.ups = .seenSlashDotDot then backUp p else p).ues = p.ues := by
  rcases place with ⟨dirs, name⟩
  have reads := at_.reads
  have stored := at_.stored
  have plain := at_.sound.1
  cases seen : p.ups with
  | idle =>
      rw [seen] at reads stored
      have spelled : Paths.spelled marks (dirs, name) = Paths.directory marks dirs ++ name :=
        (if_neg reads.2.2.1).trans (if_neg reads.2.1)
      rw [if_neg (by decide), spelled]
      exact ⟨stored, Frame.refl p, rfl⟩
  | seenSlash =>
      rw [seen] at reads stored
      have none : name = [] := reads
      have spelled : Paths.spelled marks (dirs, []) = Paths.directory marks dirs :=
        List.append_nil _
      rw [if_neg (by decide), none, spelled]
      exact ⟨stored, Frame.refl p, rfl⟩
  | seenSlashDot =>
      rw [seen] at reads stored
      have single : name = [dot] := reads
      have spelled : Paths.spelled marks (dirs, [dot]) = Paths.directory marks dirs := rfl
      rw [if_neg (by decide), single, spelled]
      exact ⟨stored, Frame.refl p, rfl⟩
  | seenSlashDotDot =>
      rw [seen] at reads stored
      have double : name = [dot, dot] := reads
      have fits : (Paths.directory marks dirs).length < 65536 :=
        Nat.lt_of_le_of_lt (Nat.le_add_right _ _) small
      rw [if_pos rfl, double]
      exact backUp_spec plain fits stored

/-- The header of a token is the text, with a zero behind it, at the start of the array. -/
structure Holds (q : Parser) (token : Nat) (text : List UInt8) : Prop where
  pointer : lwsHdrSimplePtr q.ah token = some 0
  length : lwsHdrTotalLength q.ah token = some text.length
  data : ∀ i, i < text.length → q.ah.data i = text.getD i 0
  zero : q.ah.data text.length = 0

variable (context) in
private theorem issue_zero (room : p.ah.pos < context.maxHttpHeaderData)
    (limit : p.frag.len ≤ p.currentTokenLimit) : issue context 0 p = .ok (p.put 0) := by
  rw [issue, issueChar, if_pos room]
  by_cases below : p.frag.len < p.currentTokenLimit
  · rw [if_pos below]
    rfl
  · rw [if_neg below, if_pos (by omega)]
    rfl

variable (context) in
private theorem startFragment_http (q : Parser) {n : Nat} (method : n ∈ methods)
    (state : q.state = .token tokenHttp) (nfrag : q.ah.nfrag = 1)
    (index : q.ah.fragIndex = Function.update (fun _ => 0) n 1) :
    startFragment context q = .ok (q.nextFrag.freshFrag.withIndex tokenHttp) := by
  have http := (method_names method).2.2.2.1
  have second : q.nextFrag.ah.nfrag = 2 := congrArg (· + 1) nfrag
  have stateNext : q.nextFrag.state = .token tokenHttp := state
  have fresh : q.nextFrag.freshFrag.ah.fragIndex tokenHttp = 0 := by
    show q.ah.fragIndex tokenHttp = 0
    rw [index]
    exact Function.update_of_ne http.symm ..
  rw [startFragment, excessive, second, if_neg (by decide), if_neg (by decide), stateNext]
  dsimp only
  rw [beginFragment, if_pos fresh]

private theorem holds_http {q : Parser} {n : Nat} (method : n ∈ methods) (nfrag : q.ah.nfrag = 1)
    (index : q.ah.fragIndex = Function.update (fun _ => 0) n 1) (link : q.frag.nfrag = 0)
    (stored : Stored q 0 text) :
    Holds (({ q.put 0 with state := .token tokenHttp } : Parser).nextFrag.freshFrag.withIndex
      tokenHttp) n text := by
  have http := (method_names method).2.2.2.1
  generalize nextIs : ({ q.put 0 with state := .token tokenHttp } : Parser) = next
  have frags : next.ah.frags = q.ah.frags := by rw [← nextIs]; rfl
  have data : next.ah.data = Function.update q.ah.data q.ah.pos 0 := by rw [← nextIs]; rfl
  have nfragNext : next.nextFrag.ah.nfrag = 2 := by
    rw [← nextIs]
    exact congrArg (· + 1) nfrag
  have indexNext : (next.nextFrag.freshFrag.withIndex tokenHttp).ah.fragIndex n = 1 := by
    have before : next.ah.fragIndex n = 1 := by
      rw [← nextIs]
      show q.ah.fragIndex n = 1
      rw [index, Function.update_self]
    rw [← before]
    exact Function.update_of_ne http ..
  have fragOne : (next.nextFrag.freshFrag.withIndex tokenHttp).ah.frags 1 = q.frag := by
    have other : (1 : Nat) ≠ next.nextFrag.ah.nfrag := by
      rw [nfragNext]
      decide
    rw [Parser.frag, nfrag, ← frags]
    exact Function.update_of_ne other ..
  refine ⟨?_, ?_, ?_, ?_⟩
  · rw [lwsHdrSimplePtr, indexNext, if_neg (by decide), fragOne, stored.offset]
  · rw [lwsHdrTotalLength, indexNext, if_neg (by decide), fragsSize, totalFrom, fragOne,
      if_pos link, stored.len]
  · intro i within
    show next.ah.data i = _
    have value := stored.data i within
    rw [Nat.zero_add] at value
    rw [data, Function.update_of_ne (by rw [stored.pos]; omega), value]
  · show next.ah.data text.length = 0
    rw [data, stored.pos, Nat.zero_add, Function.update_self]

/-- The parser behind the path of a request, and before the zero that ends it. -/
structure PathRead (context : Context) (n : Nat) (path : List UInt8) (q : Parser) : Prop where
  stored : Stored q 0 path
  nfrag : q.ah.nfrag = 1
  index : q.ah.fragIndex = Function.update (fun _ => 0) n 1
  link : q.frag.nfrag = 0
  ues : q.ues = .idle
  limit : q.currentTokenLimit = tokenLimit context n

/-- The version of a request starts its fragment. -/
def beginVersion (q : Parser) : Parser :=
  ({ q.put 0 with state := .token tokenHttp } : Parser).nextFrag.freshFrag.withIndex tokenHttp

variable (context) in
private theorem lwsParse_end {n : Nat} {place : Paths.Place UInt8} (at_ : At p 0 place)
    (state : p.state = .token n) (method : n ∈ methods) (nfrag : p.ah.nfrag = 1)
    (index : p.ah.fragIndex = Function.update (fun _ => 0) n 1) (link : p.frag.nfrag = 0)
    (ues : p.ues = .idle) (limitIs : p.currentTokenLimit = tokenLimit context n)
    (room : weight place < context.maxHttpHeaderData)
    (limit : weight place ≤ tokenLimit context n) :
    ∃ q, lwsParse context p space = .ok (beginVersion q) ∧
      PathRead context n (Paths.spelled marks place) q := by
  have short := context.short
  have indexN : p.ah.fragIndex n = 1 := by rw [index, Function.update_self]
  have begun : p.frag.len ≠ 0 := by
    rw [at_.stored.len, kept.eq_def]
    cases p.ups <;> simp [Paths.directory]
  obtain ⟨stored, frame, uesUp⟩ := upToEnd at_ (by omega)
  have spelledLength : (Paths.spelled marks place).length ≤ weight place :=
    Paths.length_spelled place
  generalize upIs : (if p.ups = .seenSlashDotDot then backUp p else p) = up
    at stored frame uesUp
  have sealed := issue_zero context (p := up)
    (by rw [stored.pos]; omega) (by rw [stored.len, frame.limit]; omega)
  have started := startFragment_http context
    { up.put 0 with state := .token tokenHttp } method rfl (frame.nfrag.trans nfrag)
    (frame.index.trans index)
  refine ⟨up, ?_, stored, frame.nfrag.trans nfrag, frame.index.trans index,
    frame.link.trans link, uesUp.trans ues, frame.limit.trans limitIs⟩
  rw [lwsParse, state]
  dsimp only
  rw [tokenStep, if_neg fun both => begun (by rw [Parser.frag, nfrag, ← indexN]; exact both.1),
    if_neg (not_not.mpr method), if_pos rfl, endOfUri, if_neg begun]
  show (issue context 0 (if p.ups = .seenSlashDotDot then backUp p else p)).bind _ = _
  rw [upIs, sealed]
  exact started

variable (context) in
theorem parseAll_path (p : Parser) (ups : p.ups = .idle) (ues : p.ues = .idle) {n : Nat}
    (method : n ∈ methods) (name : List UInt8)
    (named : name.map lower = ascii (set.getD n "")) (spaces : Nat) {raw : List UInt8}
    {text : List (UInt8 × Bool)} (written : Written raw ((slash, enc) :: text))
    (ordinary : ∀ char ∈ text, Ordinary char)
    (room : text.length + 1 < context.maxHttpHeaderData)
    (limit : text.length + 1 ≤ tokenLimit context n) :
    ∃ q, parseAll context (beginHeaders (lwsHeaderTableReset p))
        (name ++ (List.replicate spaces space ++ (raw ++ [space]))) = .ok (beginVersion q) ∧
      PathRead context n (Paths.spelled marks (Paths.walk marks (text.map Prod.fst))) q ∧
      Paths.Sound marks (Paths.walk marks (text.map Prod.fst)) := by
  obtain ⟨first, parsedName, atUri⟩ := parseAll_method context p ups ues method name named
  have args : first.ah.fragIndex tokenHttpUriArgs = 0 := by
    rw [atUri.index]
    exact Function.update_of_ne (method_names method).2.2.1.symm ..
  obtain ⟨second, parsedUri, stepped⟩ := parseAll_rooted context written atUri.stored atUri.ups
    atUri.ues atUri.state method args ordinary (by omega) (by rw [atUri.limit]; exact limit)
  have weighed : weight (Paths.walk marks (text.map Prod.fst)) ≤ text.length + 1 := by
    have walked : weight (Paths.walk marks (text.map Prod.fst)) ≤ _ :=
      Paths.length_walk (text.map Prod.fst)
    rw [List.length_map] at walked
    exact walked
  obtain ⟨q, parsedEnd, read⟩ := lwsParse_end context stepped.at_
    (stepped.frame.state.trans atUri.state) method (stepped.frame.nfrag.trans atUri.nfrag)
    (stepped.frame.index.trans atUri.index) (stepped.frame.link.trans atUri.link)
    (stepped.ues.trans atUri.ues) (stepped.frame.limit.trans atUri.limit) (by omega) (by omega)
  refine ⟨q, ?_, read, stepped.at_.sound⟩
  rw [parseAll_append_of_ok parsedName, parseAll_append_of_ok (parseAll_spaces atUri spaces),
    parseAll_append_of_ok parsedUri, parseAll_singleton]
  exact parsedEnd

/-- The path of a request is kept in its one spelling, so no name of it is empty or made of one
dot or two. A path that is spelled so is kept as it is. -/
theorem parseAll_requestLine (context : Context) (p : Parser) (ups : p.ups = .idle)
    (ues : p.ues = .idle) {n : Nat} (method : n ∈ methods) (name : List UInt8)
    (named : name.map lower = ascii (set.getD n "")) (spaces : Nat) {raw : List UInt8}
    {enc : Bool} {text : List (UInt8 × Bool)} (written : Written raw ((slash, enc) :: text))
    (ordinary : ∀ char ∈ text, Ordinary char)
    (room : text.length + 1 < context.maxHttpHeaderData)
    (limit : text.length + 1 ≤ tokenLimit context n) :
    ∃ q, parseAll context (beginHeaders (lwsHeaderTableReset p))
        (name ++ (List.replicate spaces space ++ (raw ++ [space]))) = .ok q ∧
      q.state = .token tokenHttp ∧
      Holds q n (Paths.spelled marks (Paths.walk marks (text.map Prod.fst))) ∧
      Paths.Canonical marks (Paths.spelled marks (Paths.walk marks (text.map Prod.fst))) ∧
      (Paths.Canonical marks (slash :: text.map Prod.fst) →
        Paths.spelled marks (Paths.walk marks (text.map Prod.fst)) =
          slash :: text.map Prod.fst) := by
  obtain ⟨q, parsed, read, sound⟩ := parseAll_path context p ups ues method name named spaces
    written ordinary room limit
  exact ⟨beginVersion q, parsed, rfl,
    holds_http method read.nfrag read.index read.link read.stored,
    Paths.canonical_spelled sound, Paths.spelled_walk⟩

def smallContext : Context :=
  { maxHttpHeaderData := 4096
    tokenLimits := none
    serving := true
    positive := by decide
    short := by decide
    limits := fun _ none => by cases none }

def smallParser : Parser :=
  { ah :=
      { data := fun _ => 255
        frags := fun _ => { offset := 7, len := 7, nfrag := 7 }
        fragIndex := fun _ => 7
        pos := 7
        nfrag := 7 }
    state := .complete
    lextablePos := none
    ups := .idle
    ues := .idle
    escStash := 0
    postLiteralEqual := true
    currentTokenLimit := 0
    hdrParsingCompleted := true }

/-- Of the path /a/.%2E/b, up to the first slash of it. -/
def smallText : List (UInt8 × Bool) :=
  [(97, false), (slash, false), (dot, false), (dot, true), (slash, false), (98, false)]

private theorem written_small :
    Written [slash, 97, slash, dot, 37, 50, 69, slash, 98] ((slash, false) :: smallText) := by
  refine .plain (by decide) (by decide) (.plain (by decide) (by decide)
    (.plain (by decide) (by decide) (.plain (by decide) (by decide) ?_)))
  have high : charToHex 50 = some 2 := by decide
  have low : charToHex 69 = some 14 := by decide
  have escaped := Written.escaped high low
    (.plain (c := slash) (by decide) (by decide) (.plain (c := 98) (by decide) (by decide) .nil))
  exact escaped

private theorem ordinary_small : ∀ char ∈ smallText, Ordinary char := by
  simp only [smallText, List.forall_mem_cons, List.not_mem_nil, false_imp_iff, implies_true,
    and_true, true_imp_iff, Ordinary]
  decide

/-- GET /a/.%2E/b is a request for /b. -/
theorem parseAll_requestLine_small :
    ∃ q, parseAll smallContext (beginHeaders (lwsHeaderTableReset smallParser))
        ([71, 69, 84, 32] ++ ([32] ++ ([slash, 97, slash, dot, 37, 50, 69, slash, 98] ++ [32]))) =
        .ok q ∧
      Holds q 0 [slash, 98] := by
  obtain ⟨q, parsed, _, holds, _⟩ := parseAll_requestLine smallContext smallParser rfl rfl
    (n := 0) (by decide) [71, 69, 84, 32] (by decide) 1 written_small ordinary_small (by decide)
    (by decide)
  exact ⟨q, parsed, holds⟩

end JSCameraKit.Libwebsockets.HeaderParser
