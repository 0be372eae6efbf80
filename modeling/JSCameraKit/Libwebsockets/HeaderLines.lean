import JSCameraKit.Libwebsockets.UriPath
import Mathlib.Data.List.Basic

set_option autoImplicit false

/-! The lines of a request. The text of each line that the table knows is a fragment with a zero
behind it, and the fragments of one header are linked in the order of their lines. -/

namespace JSCameraKit.Libwebsockets.HeaderParser

open Lextable

/-! ### The fragments of a list of texts -/

/-- A token, and the text of one line of it. -/
abbrev Piece := Nat × List UInt8

/-- The fragment of the token that comes next behind the first `n`, or zero. -/
def nextOf (token n : Nat) (tokens : List Nat) : Nat :=
  if token ∈ tokens.drop n then n + (tokens.drop n).idxOf token + 1 else 0

def textsOf (token : Nat) (pieces : List Piece) : List (List UInt8) :=
  (pieces.filter fun piece => piece.1 = token).map Prod.snd

def flat (pieces : List Piece) : List UInt8 := pieces.flatMap fun piece => piece.2 ++ [0]

structure Table (ah : Headers) (pieces : List Piece) : Prop where
  nfrag : ah.nfrag = pieces.length
  frag : ∀ n token text, pieces[n]? = some (token, text) → ah.frags (n + 1) =
    { offset := (flat (pieces.take n)).length
      len := text.length
      nfrag := nextOf token (n + 1) (pieces.map Prod.fst) }
  index : ∀ token, ah.fragIndex token = nextOf token 0 (pieces.map Prod.fst)

structure Contents (ah : Headers) (bytes : List UInt8) : Prop where
  pos : ah.pos = bytes.length
  data : ∀ i, i < bytes.length → ah.data i = bytes.getD i 0

private theorem nextOf_append {tokens : List Nat} {n : Nat} (within : n ≤ tokens.length)
    (token other : Nat) :
    nextOf token n (tokens ++ [other]) =
      if nextOf token n tokens ≠ 0 then nextOf token n tokens
      else if other = token then tokens.length + 1 else 0 := by
  rw [nextOf, nextOf, List.drop_append_of_le_length within]
  by_cases member : token ∈ tokens.drop n
  · rw [if_pos (List.mem_append_left _ member), if_pos member,
      List.idxOf_append_of_mem member, if_pos (Nat.succ_ne_zero _)]
  · rw [if_neg member, if_neg (not_not.mpr rfl)]
    by_cases same : other = token
    · have found : token ∈ tokens.drop n ++ [other] :=
        List.mem_append_right _ (List.mem_singleton.mpr same.symm)
      rw [if_pos found, if_pos same, List.idxOf_append_of_notMem member, same,
        List.idxOf_cons_self, List.length_drop]
      omega
    · have absent : token ∉ tokens.drop n ++ [other] := by
        rw [List.mem_append, List.mem_singleton, not_or]
        exact ⟨member, fun found => same found.symm⟩
      rw [if_neg absent, if_neg same]

private theorem nextOf_length (token n : Nat) {tokens : List Nat} (past : tokens.length ≤ n) :
    nextOf token n tokens = 0 := by
  rw [nextOf, List.drop_of_length_le past, if_neg List.not_mem_nil]

private theorem first_cases (token : Nat) (rest : List Piece) :
    (token ∉ rest.map Prod.fst ∧ textsOf token rest = []) ∨
      ∃ text, token ∈ rest.map Prod.fst ∧
        rest[(rest.map Prod.fst).idxOf token]? = some (token, text) ∧
        textsOf token rest =
          text :: textsOf token (rest.drop ((rest.map Prod.fst).idxOf token + 1)) := by
  induction rest with
  | nil => exact .inl ⟨List.not_mem_nil, rfl⟩
  | cons piece rest ih =>
      obtain ⟨first, text⟩ := piece
      rw [List.map_cons]
      by_cases same : first = token
      · refine .inr ⟨text, ?_, ?_, ?_⟩
        · rw [same]
          exact List.mem_cons_self
        · rw [same, List.idxOf_cons_self]
          rfl
        · rw [same, List.idxOf_cons_self, textsOf, List.filter_cons_of_pos (by simp)]
          rfl
      · have skipped : textsOf token ((first, text) :: rest) = textsOf token rest := by
          rw [textsOf, List.filter_cons_of_neg (by simpa using same), textsOf]
        rw [skipped, List.idxOf_cons_ne _ same]
        rcases ih with ⟨absent, none⟩ | ⟨next, member, got, texts⟩
        · refine .inl ⟨?_, none⟩
          rw [List.mem_cons, not_or]
          exact ⟨fun found => same found.symm, absent⟩
        · exact .inr ⟨next, List.mem_cons_of_mem _ member, got, texts⟩

theorem nextOf_cases (token n : Nat) (pieces : List Piece) :
    (nextOf token n (pieces.map Prod.fst) = 0 ∧ textsOf token (pieces.drop n) = []) ∨
      ∃ k text, n ≤ k ∧ nextOf token n (pieces.map Prod.fst) = k + 1 ∧
        pieces[k]? = some (token, text) ∧
        textsOf token (pieces.drop n) = text :: textsOf token (pieces.drop (k + 1)) := by
  rw [nextOf, ← List.map_drop]
  rcases first_cases token (pieces.drop n) with ⟨absent, none⟩ | ⟨text, member, got, texts⟩
  · exact .inl ⟨if_neg absent, none⟩
  · refine .inr ⟨n + ((pieces.drop n).map Prod.fst).idxOf token, text, Nat.le_add_right _ _,
      if_pos member, ?_, ?_⟩
    · rw [← List.getElem?_drop]
      exact got
    · rw [texts, List.drop_drop, Nat.add_assoc]

private theorem getElem?_concat_eq_some {pieces : List Piece} {last piece : Piece} {n : Nat}
    (got : (pieces ++ [last])[n]? = some piece) :
    (n < pieces.length ∧ pieces[n]? = some piece) ∨ (n = pieces.length ∧ last = piece) := by
  by_cases before : n < pieces.length
  · rw [List.getElem?_append_left before] at got
    exact .inl ⟨before, got⟩
  · rw [List.getElem?_append_right (by omega), List.getElem?_singleton] at got
    by_cases here : n - pieces.length = 0
    · rw [if_pos here] at got
      exact .inr ⟨by omega, Option.some.inj got⟩
    · rw [if_neg here] at got
      cases got

theorem length_of_getElem? {pieces : List Piece} {piece : Piece} {n : Nat}
    (got : pieces[n]? = some piece) : n < pieces.length := by
  by_contra past
  rw [List.getElem?_eq_none (by omega)] at got
  cases got

variable {context : Context} {p : Parser} {pieces : List Piece} {token : Nat}
  {text bytes : List UInt8}

theorem Contents.put (contents : Contents p.ah bytes) (c : UInt8) :
    Contents (p.put c).ah (bytes ++ [c]) := by
  have longer : (bytes ++ [c]).length = bytes.length + 1 := by simp
  constructor
  · rw [longer]
    show p.ah.pos + 1 = _
    rw [contents.pos]
  · intro i within
    show Function.update p.ah.data p.ah.pos c i = _
    rw [longer] at within
    by_cases last : i = bytes.length
    · rw [last, ← contents.pos, Function.update_self, contents.pos,
        List.getD_append_right _ _ _ _ (Nat.le_refl _), Nat.sub_self]
      rfl
    · rw [Function.update_of_ne (by rw [contents.pos]; exact last), contents.data i (by omega),
        List.getD_append _ _ _ _ (by omega)]

theorem Table.current (table : Table p.ah (pieces ++ [(token, text)])) :
    p.frag = { offset := (flat pieces).length, len := text.length, nfrag := 0 } := by
  have got : (pieces ++ [(token, text)])[pieces.length]? = some (token, text) := by simp
  have nfrag : p.ah.nfrag = pieces.length + 1 := by
    rw [table.nfrag, List.length_append, List.length_singleton]
  rw [Parser.frag, nfrag, table.frag _ _ _ got, List.take_left' rfl,
    nextOf_length _ _ (by simp)]

theorem Table.lengthen (table : Table p.ah (pieces ++ [(token, text)]))
    (small : text.length + 1 < 65536) (c : UInt8) :
    Table p.lengthen.ah (pieces ++ [(token, text ++ [c])]) := by
  have nfrag : p.ah.nfrag = pieces.length + 1 := by
    rw [table.nfrag, List.length_append, List.length_singleton]
  have tokens (last : List UInt8) : (pieces ++ [(token, last)]).map Prod.fst =
      pieces.map Prod.fst ++ [token] := by rw [List.map_append]; rfl
  refine ⟨?_, ?_, ?_⟩
  · show p.ah.nfrag = _
    rw [nfrag, List.length_append, List.length_singleton]
  · intro n other found got
    show Function.update p.ah.frags p.ah.nfrag _ (n + 1) = _
    rcases getElem?_concat_eq_some got with ⟨before, got⟩ | ⟨here, same⟩
    · have old := table.frag n other found (by rw [List.getElem?_append_left before]; exact got)
      rw [Function.update_of_ne (by omega), old, tokens, tokens,
        List.take_append_of_le_length (by omega), List.take_append_of_le_length (by omega)]
    · cases same
      have current := table.current
      rw [Parser.frag, nfrag] at current
      rw [here, nfrag, Function.update_self, current, List.take_left' rfl,
        nextOf_length _ _ (by simp), List.length_append, List.length_singleton]
      show ({
        offset := (flat pieces).length
        len := (text.length + 1) % 65536
        nfrag := 0 } : Fragment) = _
      rw [Nat.mod_eq_of_lt small]
  · intro other
    rw [tokens, ← tokens text]
    exact table.index other

/-! ### A fragment of a token -/

private theorem lastFragment_text {frags : Nat → Fragment}
    (links : ∀ n token text, pieces[n]? = some (token, text) →
      (frags (n + 1)).nfrag = nextOf token (n + 1) (pieces.map Prod.fst))
    (fuel k : Nat) (got : pieces[k]? = some (token, text)) (enough : pieces.length ≤ k + fuel) :
    ∃ last other, lastFragment frags fuel (k + 1) = some (last + 1) ∧
      pieces[last]? = some (token, other) ∧
        nextOf token (last + 1) (pieces.map Prod.fst) = 0 := by
  have within := length_of_getElem? got
  induction fuel generalizing k text with
  | zero => omega
  | succ fuel ih =>
      rw [lastFragment, links k token text got]
      rcases nextOf_cases token (k + 1) pieces with ⟨ends, _⟩ | ⟨next, more, later, goes, found, _⟩
      · exact ⟨k, text, if_pos ends, got, ends⟩
      · rw [goes, if_neg (Nat.succ_ne_zero next)]
        exact ih next found (by omega) (length_of_getElem? found)

private theorem last_unique {first second : Nat} {one two : List UInt8}
    (gotOne : pieces[first]? = some (token, one)) (gotTwo : pieces[second]? = some (token, two))
    (lastOne : nextOf token (first + 1) (pieces.map Prod.fst) = 0)
    (lastTwo : nextOf token (second + 1) (pieces.map Prod.fst) = 0) : first = second := by
  have later (a b : Nat) (there : List UInt8) (got : pieces[b]? = some (token, there))
      (last : nextOf token (a + 1) (pieces.map Prod.fst) = 0) : ¬a < b := by
    intro before
    have place : a + 1 + (b - (a + 1)) = b := by omega
    have member : token ∈ (pieces.map Prod.fst).drop (a + 1) := by
      refine List.mem_iff_getElem?.mpr ⟨b - (a + 1), ?_⟩
      rw [List.getElem?_drop, List.getElem?_map, place, got]
      rfl
    rw [nextOf, if_pos member] at last
    omega
  have notBefore := later first second two gotTwo lastOne
  have notBehind := later second first one gotOne lastTwo
  omega

private theorem nextOf_ne_zero {n : Nat} (got : pieces[n]? = some (token, text)) :
    nextOf token 0 (pieces.map Prod.fst) ≠ 0 := by
  have member : token ∈ (pieces.map Prod.fst).drop 0 := by
    refine List.mem_iff_getElem?.mpr ⟨n, ?_⟩
    rw [List.drop_zero, List.getElem?_map, got]
    rfl
  rw [nextOf, if_pos member]
  exact Nat.succ_ne_zero _

theorem Table.extend {ah : Headers} (table : Table p.ah pieces)
    (nfrag : ah.nfrag = pieces.length + 1)
    (last : ah.frags (pieces.length + 1) =
      { offset := (flat pieces).length, len := 0, nfrag := 0 })
    (before : ∀ n other text, pieces[n]? = some (other, text) → ah.frags (n + 1) =
      { p.ah.frags (n + 1) with
        nfrag := nextOf other (n + 1) (pieces.map Prod.fst ++ [token]) })
    (index : ∀ other, ah.fragIndex other = nextOf other 0 (pieces.map Prod.fst ++ [token])) :
    Table ah (pieces ++ [(token, [])]) := by
  have tokens : (pieces ++ [(token, ([] : List UInt8))]).map Prod.fst =
      pieces.map Prod.fst ++ [token] := by rw [List.map_append]; rfl
  refine ⟨?_, ?_, ?_⟩
  · rw [nfrag, List.length_append, List.length_singleton]
  · intro n other text got
    rcases getElem?_concat_eq_some got with ⟨within, got⟩ | ⟨here, same⟩
    · rw [before n other text got, table.frag n other text got, tokens,
        List.take_append_of_le_length (by omega)]
    · cases same
      rw [here, last, List.take_left' rfl, nextOf_length _ _ (by simp)]
      rfl
  · intro other
    rw [tokens]
    exact index other

private theorem nextOf_append_of_ne {other n : Nat} (within : n ≤ pieces.length)
    (apart : token ≠ other) :
    nextOf other n (pieces.map Prod.fst ++ [token]) = nextOf other n (pieces.map Prod.fst) := by
  rw [nextOf_append (by rw [List.length_map]; exact within)]
  by_cases goes : nextOf other n (pieces.map Prod.fst) = 0
  · rw [if_neg (not_not.mpr goes), if_neg apart, goes]
  · rw [if_pos goes]

variable (context) in
private theorem issueChar_text {c : UInt8} (table : Table p.ah (pieces ++ [(token, text)]))
    (contents : Contents p.ah (flat pieces ++ text)) (some : c ≠ 0)
    (room : (flat pieces).length + text.length < context.maxHttpHeaderData)
    (limit : text.length < p.currentTokenLimit) :
    issueChar context c p = .ok (false, (p.put c).lengthen) ∧
      Table (p.put c).lengthen.ah (pieces ++ [(token, text ++ [c])]) ∧
      Contents (p.put c).lengthen.ah (flat pieces ++ (text ++ [c])) := by
  have short := context.short
  have inside : p.ah.pos < context.maxHttpHeaderData := by
    rw [contents.pos, List.length_append]
    exact room
  have below : p.frag.len < p.currentTokenLimit := by
    rw [table.current]
    exact limit
  have put : Table (p.put c).ah (pieces ++ [(token, text)]) :=
    ⟨table.nfrag, table.frag, table.index⟩
  have written := contents.put c
  refine ⟨?_, put.lengthen (by omega) c, ?_⟩
  · rw [issueChar, if_pos inside, if_pos below, if_neg some]
  · rw [← List.append_assoc]
    exact ⟨written.pos, written.data⟩

/-- A fragment that is not the first of its token starts with a space. -/
def startText : List (List UInt8) → List UInt8
  | [] => []
  | _ :: _ => [space]

theorem Table.fresh_first (table : Table p.ah pieces) (contents : Contents p.ah (flat pieces))
    (absent : nextOf token 0 (pieces.map Prod.fst) = 0) :
    Table (p.nextFrag.freshFrag.withIndex token).ah (pieces ++ [(token, [])]) := by
  have number : p.nextFrag.ah.nfrag = pieces.length + 1 := congrArg (· + 1) table.nfrag
  have tokensLength : (pieces.map Prod.fst).length = pieces.length := List.length_map _
  refine table.extend number ?_ ?_ ?_
  · show Function.update p.ah.frags p.nextFrag.ah.nfrag _ (pieces.length + 1) = _
    rw [number, Function.update_self]
    show ({ offset := p.ah.pos, len := 0, nfrag := 0 } : Fragment) = _
    rw [contents.pos]
  · intro n other text got
    have within := length_of_getElem? got
    have apart : token ≠ other := by
      intro same
      rw [same] at absent
      exact nextOf_ne_zero got absent
    show Function.update p.ah.frags p.nextFrag.ah.nfrag _ (n + 1) = _
    rw [number, Function.update_of_ne (by omega), nextOf_append_of_ne (by omega) apart,
      table.frag n other text got]
  · intro other
    show Function.update p.ah.fragIndex token p.nextFrag.ah.nfrag other = _
    by_cases same : token = other
    · rw [← same, Function.update_self, nextOf_append (Nat.zero_le _), if_neg (not_not.mpr absent),
        if_pos rfl, number, tokensLength]
    · rw [Function.update_of_ne (Ne.symm same), nextOf_append_of_ne (Nat.zero_le _) same]
      exact table.index other

theorem Table.fresh_linked (table : Table p.ah pieces) (contents : Contents p.ah (flat pieces))
    {last : Nat} (got : pieces[last]? = some (token, text))
    (ends : nextOf token (last + 1) (pieces.map Prod.fst) = 0) :
    Table (p.nextFrag.freshFrag.linkFrom (last + 1)).ah (pieces ++ [(token, [])]) := by
  have number : p.nextFrag.ah.nfrag = pieces.length + 1 := congrArg (· + 1) table.nfrag
  have tokensLength : (pieces.map Prod.fst).length = pieces.length := List.length_map _
  have lastWithin := length_of_getElem? got
  have old {n : Nat} (within : n < pieces.length) :
      p.nextFrag.freshFrag.ah.frags (n + 1) = p.ah.frags (n + 1) := by
    show Function.update p.ah.frags p.nextFrag.ah.nfrag _ (n + 1) = _
    rw [number, Function.update_of_ne (by omega)]
  refine table.extend number ?_ ?_ ?_
  · show Function.update p.nextFrag.freshFrag.ah.frags (last + 1) _ (pieces.length + 1) = _
    rw [Function.update_of_ne (by omega)]
    show Function.update p.ah.frags p.nextFrag.ah.nfrag _ (pieces.length + 1) = _
    rw [number, Function.update_self]
    show ({ offset := p.ah.pos, len := 0, nfrag := 0 } : Fragment) = _
    rw [contents.pos]
  · intro n other found gotOther
    have within := length_of_getElem? gotOther
    show Function.update p.nextFrag.freshFrag.ah.frags (last + 1) _ (n + 1) = _
    by_cases here : n = last
    · rw [here, got] at gotOther
      cases gotOther
      rw [here, Function.update_self, old lastWithin,
        nextOf_append (by omega), if_neg (not_not.mpr ends), if_pos rfl, tokensLength]
      show ({ p.ah.frags (last + 1) with nfrag := p.nextFrag.ah.nfrag } : Fragment) = _
      rw [number]
    · have same : nextOf other (n + 1) (pieces.map Prod.fst ++ [token]) =
          nextOf other (n + 1) (pieces.map Prod.fst) := by
        by_cases apart : token = other
        · rw [nextOf_append (by omega), if_pos]
          intro over_
          rw [← apart] at over_ gotOther
          exact here (last_unique gotOther got over_ ends)
        · exact nextOf_append_of_ne (by omega) apart
      rw [Function.update_of_ne (by omega), old within, same, table.frag n other found gotOther]
  · intro other
    show p.ah.fragIndex other = _
    by_cases same : token = other
    · rw [← same, nextOf_append (Nat.zero_le _), if_pos (nextOf_ne_zero got)]
      exact table.index token
    · rw [nextOf_append_of_ne (Nat.zero_le _) same]
      exact table.index other

variable (context) in
private theorem beginFragment_text (table : Table p.ah pieces)
    (contents : Contents p.ah (flat pieces))
    (token : Nat) (few : pieces.length ≤ fragsSize)
    (room : (flat pieces).length < context.maxHttpHeaderData)
    (limit : 0 < p.currentTokenLimit) :
    ∃ q, beginFragment context token p.nextFrag = .ok q ∧
      Table q.ah (pieces ++ [(token, startText (textsOf token pieces))]) ∧
      Contents q.ah (flat pieces ++ startText (textsOf token pieces)) ∧
      q.state = p.state ∧ q.ues = p.ues ∧ q.currentTokenLimit = p.currentTokenLimit := by
  have number : p.nextFrag.ah.nfrag = pieces.length + 1 := congrArg (· + 1) table.nfrag
  have index : p.nextFrag.freshFrag.ah.fragIndex token = nextOf token 0 (pieces.map Prod.fst) :=
    table.index token
  have nothing : Contents p.ah (flat pieces ++ []) := by
    rw [List.append_nil]
    exact contents
  rw [beginFragment]
  rcases nextOf_cases token 0 pieces with ⟨absent, none⟩ | ⟨k, first, _, goes, got, texts⟩
  · rw [List.drop_zero] at none
    rw [none, if_pos (index.trans absent)]
    exact ⟨_, rfl, table.fresh_first contents absent, ⟨nothing.pos, nothing.data⟩, rfl, rfl, rfl⟩
  · rw [List.drop_zero] at texts
    have links : ∀ n other text, pieces[n]? = some (other, text) →
        (p.nextFrag.freshFrag.ah.frags (n + 1)).nfrag =
          nextOf other (n + 1) (pieces.map Prod.fst) := by
      intro n other text found
      have within := length_of_getElem? found
      have old : p.nextFrag.freshFrag.ah.frags (n + 1) = p.ah.frags (n + 1) := by
        show Function.update p.ah.frags p.nextFrag.ah.nfrag _ (n + 1) = _
        rw [number, Function.update_of_ne (by omega)]
      rw [old, table.frag n other text found]
    obtain ⟨last, other, walked, found, ends⟩ :=
      lastFragment_text links fragsSize k got (by omega)
    have linked := table.fresh_linked contents found ends
    obtain ⟨issued, longer, written⟩ := issueChar_text context (c := space)
      (p := p.nextFrag.freshFrag.linkFrom (last + 1)) linked ⟨nothing.pos, nothing.data⟩
      (by decide) room limit
    rw [texts, if_neg (by rw [index, goes]; exact Nat.succ_ne_zero k), index, goes, walked]
    dsimp only
    rw [issue, issued]
    exact ⟨_, rfl, longer, written, rfl, rfl, rfl⟩

/-! ### The text of a line -/

/-- A space is not kept while the first text of the token is empty. -/
def takeChar (texts : List (List UInt8)) (text : List UInt8) (c : UInt8) : List UInt8 :=
  if texts.headD text = [] ∧ c = space then text else text ++ [c]

/-- What is kept of a line of a token that has these texts. -/
def lineText : List (List UInt8) → List UInt8 → List UInt8
  | [], value => value.dropWhile fun c => c = space
  | [] :: _, value => space :: value.filter fun c => c ≠ space
  | (_ :: _) :: _, value => space :: value

private theorem foldl_takeChar_some (value : List UInt8) (texts : List (List UInt8))
    (text : List UInt8) (some : ∀ more, texts.headD (text ++ more) ≠ []) :
    value.foldl (takeChar texts) text = text ++ value := by
  induction value generalizing text with
  | nil => rw [List.foldl_nil, List.append_nil]
  | cons c rest ih =>
      have here : texts.headD text ≠ [] := by
        have now := some []
        rwa [List.append_nil] at now
      have later : ∀ more, texts.headD (text ++ [c] ++ more) ≠ [] := by
        intro more
        rw [List.append_assoc]
        exact some ([c] ++ more)
      rw [List.foldl_cons, takeChar, if_neg fun both => here both.1, ih _ later, List.append_assoc]
      rfl

private theorem foldl_takeChar_none (value : List UInt8) (more : List (List UInt8))
    (text : List UInt8) :
    value.foldl (takeChar ([] :: more)) text = text ++ value.filter fun c => c ≠ space := by
  induction value generalizing text with
  | nil => rw [List.foldl_nil, List.filter_nil, List.append_nil]
  | cons c rest ih =>
      rw [List.foldl_cons, ih, takeChar]
      by_cases blank : c = space
      · rw [if_pos ⟨rfl, blank⟩, List.filter_cons_of_neg (by simpa using blank)]
      · rw [if_neg fun both => blank both.2, List.filter_cons_of_pos (by simpa using blank),
          List.append_assoc]
        rfl

private theorem foldl_takeChar (texts : List (List UInt8)) (value : List UInt8) :
    value.foldl (takeChar texts) (startText texts) = lineText texts value := by
  cases texts with
  | nil =>
      rw [startText, lineText]
      induction value with
      | nil => rfl
      | cons c rest ih =>
          rw [List.foldl_cons, takeChar]
          by_cases blank : c = space
          · rw [if_pos ⟨rfl, blank⟩, ih, List.dropWhile_cons_of_pos (by simpa using blank)]
          · rw [if_neg fun both => blank both.2, List.dropWhile_cons_of_neg (by simpa using blank),
              List.nil_append]
            exact foldl_takeChar_some rest [] [c] fun more => List.cons_ne_nil c more
  | cons first more =>
      cases first with
      | nil => exact foldl_takeChar_none value more [space]
      | cons c rest => exact foldl_takeChar_some value _ [space] fun _ => List.cons_ne_nil c rest

private theorem length_takeChars (texts : List (List UInt8)) (value text : List UInt8) :
    (value.foldl (takeChar texts) text).length ≤ text.length + value.length := by
  induction value generalizing text with
  | nil => exact Nat.le_refl _
  | cons c rest ih =>
      have one : (takeChar texts text c).length ≤ text.length + 1 := by
        rw [takeChar]
        split
        · exact Nat.le_succ _
        · exact Nat.le_of_eq List.length_append
      have more := ih (takeChar texts text c)
      rw [List.foldl_cons, List.length_cons]
      omega

theorem Table.first (table : Table p.ah (pieces ++ [(token, text)])) :
    (p.ah.frags (p.ah.fragIndex token)).len =
      ((textsOf token pieces).headD text).length := by
  have texts : textsOf token (pieces ++ [(token, text)]) = textsOf token pieces ++ [text] := by
    rw [textsOf, List.filter_append, List.map_append, List.filter_cons_of_pos (by simp)]
    rfl
  rw [table.index]
  rcases nextOf_cases token 0 (pieces ++ [(token, text)]) with
    ⟨_, none⟩ | ⟨k, first, _, goes, got, all⟩
  · rw [List.drop_zero, texts] at none
    exact absurd none (List.append_ne_nil_of_right_ne_nil _ (List.cons_ne_nil _ _))
  · rw [List.drop_zero, texts] at all
    rw [goes, table.frag k token first got]
    cases front : textsOf token pieces with
    | nil =>
        rw [front, List.nil_append] at all
        rw [List.head_eq_of_cons_eq all]
        rfl
    | cons head more =>
        rw [front, List.cons_append] at all
        rw [← List.head_eq_of_cons_eq all]
        rfl

/-! ### One line -/

/-- The parser in the text of a line, without a limit of its own. -/
structure Reading (context : Context) (pieces : List Piece) (token : Nat) (text : List UInt8)
    (p : Parser) : Prop where
  state : p.state = .token token
  ues : p.ues = .idle
  limit : p.currentTokenLimit = context.maxHttpHeaderData
  table : Table p.ah (pieces ++ [(token, text)])
  contents : Contents p.ah (flat pieces ++ text)

/-- The parser at the start of a line. -/
structure Between (pieces : List Piece) (p : Parser) : Prop where
  state : p.state = .namePart
  lextablePos : p.lextablePos = some 0
  ues : p.ues = .idle
  table : Table p.ah pieces
  contents : Contents p.ah (flat pieces)

theorem Reading.apart (reading : Reading context pieces token text p)
    (named : token ≠ tokenChallenge) : p.state ≠ .token tokenChallenge := by
  rw [reading.state]
  intro same
  injection same with same
  exact named same

theorem Reading.char (reading : Reading context pieces token text p) {c : UInt8}
    (other : token ∉ methods) (named : token ≠ tokenChallenge) (some : c ≠ 0) (inside : c ≠ cr)
    (room : (flat pieces).length + text.length < context.maxHttpHeaderData) :
    ∃ q, lwsParse context p c = .ok q ∧
      Reading context pieces token (takeChar (textsOf token pieces) text c) q := by
  have first := reading.table.first
  rw [lwsParse, reading.state, takeChar]
  dsimp only
  rw [tokenStep]
  by_cases skipped : (textsOf token pieces).headD text = [] ∧ c = space
  · rw [if_pos skipped, if_pos ⟨by rw [first, skipped.1]; rfl, skipped.2⟩]
    exact ⟨p, rfl, reading⟩
  · have kept : ¬((p.ah.frags (p.ah.fragIndex token)).len = 0 ∧ c = space) := by
      rintro ⟨empty, blank⟩
      rw [first] at empty
      exact skipped ⟨List.eq_nil_of_length_eq_zero empty, blank⟩
    obtain ⟨issued, table, contents⟩ := issueChar_text context reading.table reading.contents
      some room (by rw [reading.limit]; omega)
    rw [if_neg skipped, if_neg kept, if_pos other, checkEol, if_neg fun ends => inside ends.2,
      issueAndSwallow, issued]
    exact ⟨_, swallow_plain (p := (p.put c).lengthen) (reading.apart named), reading.state,
      reading.ues, reading.limit, table, contents⟩

theorem Reading.chars (value : List UInt8) (reading : Reading context pieces token text p)
    (other : token ∉ methods) (named : token ≠ tokenChallenge)
    (clean : ∀ c ∈ value, c ≠ 0 ∧ c ≠ cr)
    (room : (flat pieces).length + text.length + value.length ≤ context.maxHttpHeaderData) :
    ∃ q, parseAll context p value = .ok q ∧
      Reading context pieces token (value.foldl (takeChar (textsOf token pieces)) text) q := by
  induction value generalizing p text with
  | nil => exact ⟨p, rfl, reading⟩
  | cons c rest ih =>
      rw [List.length_cons] at room
      have head := clean c List.mem_cons_self
      obtain ⟨q, parsed, next⟩ := reading.char other named head.1 head.2 (by omega)
      have one := length_takeChars (textsOf token pieces) [c] text
      rw [List.length_singleton] at one
      obtain ⟨r, parsedRest, final⟩ := ih next
        (fun char member => clean char (List.mem_cons_of_mem c member)) (by
          have grown : (takeChar (textsOf token pieces) text c).length ≤ text.length + 1 := one
          omega)
      exact ⟨r, (parseAll_cons_of_ok parsed rest).trans parsedRest, final⟩

private theorem flat_append (pieces : List Piece) (token : Nat) (text : List UInt8) :
    flat (pieces ++ [(token, text)]) = flat pieces ++ (text ++ [0]) := by
  rw [flat, List.flatMap_append, List.flatMap_singleton]
  rfl

theorem Reading.line (reading : Reading context pieces token text p) (other : token ∉ methods)
    (named : token ≠ tokenChallenge)
    (room : (flat pieces).length + text.length < context.maxHttpHeaderData) :
    ∃ q, parseAll context p [cr, lf] = .ok q ∧ Between (pieces ++ [(token, text)]) q := by
  have inside : p.ah.pos < context.maxHttpHeaderData := by
    rw [reading.contents.pos, List.length_append]
    exact room
  have below : p.frag.len < p.currentTokenLimit := by
    rw [reading.table.current, reading.limit]
    show text.length < _
    omega
  generalize sawIs : ({ p with state := .skippingSawCr } : Parser) = saw
  have issued : issueChar context 0 saw = .ok (false, saw.put 0) := by
    rw [← sawIs, issueChar, if_pos inside]
    exact if_pos below
  have sawState : saw.state = .skippingSawCr := by rw [← sawIs]
  have sawUes : saw.ues = .idle := by
    rw [← sawIs]
    exact reading.ues
  have carriage : lwsParse context p cr = .ok (saw.put 0) := by
    rw [lwsParse, reading.state]
    dsimp only
    rw [tokenStep, if_neg fun both => absurd both.2 (by decide), if_pos other, checkEol,
      if_pos ⟨reading.apart named, rfl⟩, if_neg (not_not.mpr reading.ues), sawIs, issueAndSwallow,
      issued]
    refine swallow_plain (p := saw.put 0) ?_
    show saw.state ≠ _
    rw [sawState]
    exact ParserState.noConfusion
  have feed : lwsParse context (saw.put 0) lf =
      .ok { saw.put 0 with state := .namePart, lextablePos := some 0 } := by
    have state : (saw.put 0).state = .skippingSawCr := sawState
    rw [lwsParse, state]
    dsimp only
    have ues : (saw.put 0).ues = .idle := sawUes
    rw [if_neg (not_not.mpr ues), if_pos rfl]
  have written : Contents saw.ah (flat pieces ++ text) := by
    rw [← sawIs]
    exact reading.contents
  have longer := written.put 0
  rw [List.append_assoc, ← flat_append pieces token text] at longer
  have table : Table saw.ah (pieces ++ [(token, text)]) := by
    rw [← sawIs]
    exact reading.table
  refine ⟨{ saw.put 0 with state := .namePart, lextablePos := some 0 }, ?_, rfl, rfl, sawUes,
    ⟨table.nfrag, table.frag, table.index⟩, ⟨longer.pos, longer.data⟩⟩
  rw [parseAll_cons_of_ok carriage, parseAll_singleton]
  exact feed

/-- A line of the table: its text is one more fragment. -/
def addLine (pieces : List Piece) (line : Piece) : List Piece :=
  pieces ++ [(line.1, lineText (textsOf line.1 pieces) line.2)]

variable (context) in
private theorem nameKnown_text (between : Between pieces p) {n : Nat} (other : n ∉ methods)
    (named : n ≠ tokenChallenge) (noLimits : context.tokenLimits = none) (last : Option Nat)
    (few : pieces.length + 1 < fragsSize)
    (room : (flat pieces).length < context.maxHttpHeaderData) :
    ∃ q, nameKnown context n { p with lextablePos := last } = .ok q ∧
      Reading context pieces (if n = tokenSworigin then tokenOrigin else n)
        (startText (textsOf (if n = tokenSworigin then tokenOrigin else n) pieces)) q := by
  generalize tokenIs : (if n = tokenSworigin then tokenOrigin else n) = token
  have apart : token ≠ tokenChallenge := by
    rw [← tokenIs]
    split
    · decide
    · exact named
  have limit : tokenLimit context token = context.maxHttpHeaderData := by
    rw [tokenLimit, noLimits]
  generalize startIs : ({ p with
    lextablePos := last
    state := .token token
    currentTokenLimit := tokenLimit context token } : Parser) = start
  have number : start.nextFrag.ah.nfrag = pieces.length + 1 := by
    rw [← startIs]
    exact congrArg (· + 1) between.table.nfrag
  have state : start.nextFrag.state = .token token := by
    rw [← startIs]
    rfl
  have table : Table start.ah pieces := by
    rw [← startIs]
    exact between.table
  have contents : Contents start.ah (flat pieces) := by
    rw [← startIs]
    exact between.contents
  have startLimit : start.currentTokenLimit = context.maxHttpHeaderData := by
    rw [← startIs]
    exact limit
  have startUes : start.ues = .idle := by
    rw [← startIs]
    exact between.ues
  obtain ⟨q, begun, tableNext, contentsNext, stateNext, uesNext, limitNext⟩ :=
    beginFragment_text context table contents token (by omega) room (by rw [startLimit]; omega)
  refine ⟨q, ?_, stateNext.trans state, uesNext.trans startUes, limitNext.trans startLimit,
    tableNext, contentsNext⟩
  rw [nameKnown, if_neg fun both => other both.1]
  dsimp only
  rw [tokenIs, if_neg apart, startIs, startFragment, excessive, number,
    if_neg (by omega), if_neg (by omega), state]
  exact begun

variable (context) in
theorem Between.known (between : Between pieces p) {n : Nat} (other : n ∉ methods)
    (named : n ≠ tokenChallenge) (noLimits : context.tokenLimits = none) {name value : List UInt8}
    (found : Matcher.run matcher 0 name = some n) (clean : ∀ c ∈ value, c ≠ 0 ∧ c ≠ cr)
    (few : pieces.length + 1 < fragsSize)
    (room : (flat pieces).length + value.length + 1 < context.maxHttpHeaderData) :
    ∃ q, parseAll context p (name ++ (value ++ [cr, lf])) = .ok q ∧
      Between (addLine pieces (if n = tokenSworigin then tokenOrigin else n, value)) q := by
  cases name with
  | nil =>
      have open_ : terminal 0 = none := by decide
      rw [Matcher.run] at found
      exact absurd (open_.symm.trans found) (Option.some_ne_none n).symm
  | cons c rest =>
      obtain ⟨last, parsedName⟩ := parseAll_name context rest c 0 p between.state
        between.lextablePos found
      obtain ⟨first, begun, reading⟩ := nameKnown_text context between other named noLimits last
        few (by omega)
      have methodless : (if n = tokenSworigin then tokenOrigin else n) ∉ methods := by
        split
        · decide
        · exact other
      have apart : (if n = tokenSworigin then tokenOrigin else n) ≠ tokenChallenge := by
        split
        · decide
        · exact named
      generalize (if n = tokenSworigin then tokenOrigin else n) = token
        at reading methodless apart ⊢
      have short : (startText (textsOf token pieces)).length ≤ 1 := by
        cases textsOf token pieces <;> simp [startText]
      obtain ⟨second, parsedValue, readingValue⟩ := reading.chars value methodless apart clean
        (by omega)
      have length := length_takeChars (textsOf token pieces) value
        (startText (textsOf token pieces))
      obtain ⟨q, parsedEnd, betweenNext⟩ := readingValue.line methodless apart (by omega)
      rw [foldl_takeChar] at betweenNext
      refine ⟨q, ?_, betweenNext⟩
      rw [parseAll_append_of_ok (parsedName.trans begun), parseAll_append_of_ok parsedValue]
      exact parsedEnd

/-! ### A line that the table does not know -/

/-- No name of the table is at the start of the line, and the line is not at the start of one. -/
def Unknown (line : List UInt8) : Prop :=
  cr ∉ line ∧ ∀ n, n < 80 →
    ¬ascii (set.getD n "") <+: line.map lower ∧ ¬line.map lower <+: ascii (set.getD n "")

private theorem parseAll_reached {text : List UInt8} {pos : Nat}
    (reached : Matcher.Reached matcher 0 text pos) (open_ : terminal pos = none)
    (state : p.state = .namePart) (start : p.lextablePos = some 0) :
    parseAll context p text = .ok { p with lextablePos := some pos } := by
  induction reached with
  | start =>
      rw [← start]
      rfl
  | @next text before after symbol _ openBefore stepped ih =>
      have decoded : lextableDecode before symbol = some after := stepped
      have one : lwsParse context { p with lextablePos := some before } symbol =
          .ok { p with lextablePos := some after } := by
        rw [lwsParse_name (p := { p with lextablePos := some before }) state, nameStep]
        simp only [decoded, open_]
      rw [parseAll_append_of_ok (ih openBefore), parseAll_singleton]
      exact one

private theorem parseAll_skipping {rest : List UInt8} (inside : cr ∉ rest)
    (state : p.state = .skipping) :
    parseAll context p rest = .ok p := by
  induction rest with
  | nil => rfl
  | cons c rest ih =>
      rw [List.mem_cons, not_or] at inside
      have one : lwsParse context p c = .ok p := by
        rw [lwsParse, state]
        exact if_neg fun same => inside.1 same.symm
      exact (parseAll_cons_of_ok one rest).trans (ih inside.2)

variable (context) in
theorem Between.unknown (between : Between pieces p) {line : List UInt8}
    (unknown : Unknown line) (sent : ∃ method ∈ methods, method ∈ pieces.map Prod.fst) :
    ∃ q, parseAll context p (line ++ [cr, lf]) = .ok q ∧ Between pieces q := by
  obtain ⟨inside, names⟩ := unknown
  rcases Matcher.walk_cases matcher_agrees 40 0 matcher_bounded line with
    ⟨word, member, start⟩ | ⟨before, symbol, rest, pos, parts, reached, open_, fails⟩ |
    ⟨word, member, start⟩
  · obtain ⟨known, spelled⟩ := words_set.2 word member
    rw [spelled] at start
    exact absurd start (names word.2 known).1
  · rw [parts, List.mem_append, List.mem_cons, not_or, not_or] at inside
    obtain ⟨method, isMethod, present⟩ := sent
    have index : p.ah.fragIndex method ≠ 0 := by
      rw [between.table.index, nextOf, List.drop_zero, if_pos present]
      exact Nat.succ_ne_zero _
    have begun : ¬(context.serving = true ∧
        (methods.all fun method => p.ah.fragIndex method = 0) = true) := by
      rintro ⟨_, all⟩
      have none := List.all_eq_true.mp all method isMethod
      exact index (of_decide_eq_true none)
    have decoded : lextableDecode pos symbol = none := fails
    have failed : lwsParse context { p with lextablePos := some pos } symbol =
        .ok { p with lextablePos := none, state := .skipping } := by
      rw [lwsParse_name (p := { p with lextablePos := some pos }) between.state, nameStep]
      simp only [decoded]
      rw [if_neg begun]
    generalize skipIs : ({ p with lextablePos := none, state := .skipping } : Parser) = skip
      at failed
    have state : skip.state = .skipping := by rw [← skipIs]
    have carriage : lwsParse context skip cr = .ok { skip with state := .skippingSawCr } := by
      rw [lwsParse, state]
      exact if_pos rfl
    have ues : skip.ues = .idle := by
      rw [← skipIs]
      exact between.ues
    have feed : lwsParse context { skip with state := .skippingSawCr } lf =
        .ok { skip with state := .namePart, lextablePos := some 0 } := by
      rw [lwsParse]
      dsimp only
      rw [if_neg (not_not.mpr ues), if_pos rfl]
    refine ⟨{ skip with state := .namePart, lextablePos := some 0 }, ?_, rfl, rfl, ues,
      ?_, ?_⟩
    · rw [parts, List.append_assoc, List.cons_append,
        parseAll_append_of_ok (parseAll_reached reached open_ between.state between.lextablePos),
        parseAll_cons_of_ok failed, parseAll_append_of_ok (parseAll_skipping inside.2.2 state),
        parseAll_cons_of_ok carriage, parseAll_singleton]
      exact feed
    · rw [← skipIs]
      exact between.table
    · rw [← skipIs]
      exact between.contents
  · obtain ⟨known, spelled⟩ := words_set.2 word member
    rw [spelled] at start
    exact absurd start (names word.2 known).2

/-! ### All lines -/

/-- The lines behind a request line, and the tokens and values of those that the table knows. -/
inductive Lines : List UInt8 → List Piece → Prop
  | nil : Lines [cr, lf] []
  | known {n : Nat} {name value raw : List UInt8} {lines : List Piece} (other : n ∉ methods)
      (named : n ≠ tokenChallenge) (known : n < 80)
      (spelled : name.map lower = ascii (set.getD n ""))
      (clean : ∀ c ∈ value, c ≠ 0 ∧ c ≠ cr) (rest : Lines raw lines) :
      Lines (name ++ (value ++ [cr, lf]) ++ raw)
        ((if n = tokenSworigin then tokenOrigin else n, value) :: lines)
  | unknown {line raw : List UInt8} {lines : List Piece} (unknown : Unknown line)
      (rest : Lines raw lines) : Lines (line ++ [cr, lf] ++ raw) lines

/-- The parser behind the last line. -/
structure Parsed (pieces : List Piece) (q : Parser) : Prop where
  state : q.state = .complete
  completed : q.hdrParsingCompleted = true
  table : Table q.ah pieces
  contents : Contents q.ah (flat pieces)

variable (context) in
theorem Between.finish (between : Between pieces p) :
    ∃ q, parseAll context p [cr, lf] = .ok q ∧ Parsed pieces q := by
  have found : Matcher.run matcher 0 [cr, lf] = some tokenChallenge :=
    (lextable_finds _ _).mpr ⟨by decide, by decide⟩
  obtain ⟨last, parsed⟩ := parseAll_name context [lf] cr 0 p between.state between.lextablePos found
  refine ⟨{ p with
    lextablePos := last
    state := .complete
    currentTokenLimit := tokenLimit context tokenChallenge
    hdrParsingCompleted := true }, parsed.trans ?_, rfl, rfl, ?_, ?_⟩
  · have token : (if tokenChallenge = tokenSworigin then tokenOrigin else tokenChallenge) =
        tokenChallenge := rfl
    rw [nameKnown, if_neg fun both => absurd both.1 (by decide)]
    dsimp only
    rw [token, if_pos rfl, setParsingComplete, if_neg (not_not.mpr between.ues)]
  · exact between.table
  · exact between.contents

private theorem length_addLine (pieces : List Piece) (line : Piece) :
    (flat (addLine pieces line)).length ≤ (flat pieces).length + line.2.length + 2 := by
  have text := length_takeChars (textsOf line.1 pieces) line.2
    (startText (textsOf line.1 pieces))
  have short : (startText (textsOf line.1 pieces)).length ≤ 1 := by
    cases textsOf line.1 pieces <;> simp [startText]
  rw [foldl_takeChar] at text
  rw [addLine, flat_append, List.length_append, List.length_append, List.length_singleton]
  omega

variable (context) in
private theorem parseAll_lines {raw : List UInt8} {lines : List Piece} (written : Lines raw lines)
    (p : Parser) (pieces : List Piece) (between : Between pieces p)
    (noLimits : context.tokenLimits = none)
    (sent : ∃ method ∈ methods, method ∈ pieces.map Prod.fst)
    (few : pieces.length + lines.length < fragsSize)
    (room : (flat pieces).length + raw.length ≤ context.maxHttpHeaderData) :
    ∃ q, parseAll context p raw = .ok q ∧ Parsed (lines.foldl addLine pieces) q := by
  induction written generalizing p pieces with
  | nil => exact between.finish context
  | @known n name value raw lines other named known spelled clean _ ih =>
      have grown := length_addLine pieces (if n = tokenSworigin then tokenOrigin else n, value)
      have one : (addLine pieces (if n = tokenSworigin then tokenOrigin else n, value)).length =
          pieces.length + 1 := by rw [addLine, List.length_append, List.length_singleton]
      rw [List.length_cons] at few
      simp only [List.length_append, List.length_cons, List.length_nil] at room
      obtain ⟨next, parsed, betweenNext⟩ := between.known context other named noLimits
        ((lextable_finds name n).mpr ⟨known, spelled⟩) clean (by omega) (by omega)
      obtain ⟨method, isMethod, present⟩ := sent
      obtain ⟨q, rest, done⟩ := ih next _ betweenNext
        ⟨method, isMethod, by
          rw [addLine, List.map_append]
          exact List.mem_append_left _ present⟩ (by omega) (by dsimp only at grown; omega)
      exact ⟨q, (parseAll_append_of_ok parsed _).trans rest, done⟩
  | @unknown line raw lines unknown _ ih =>
      simp only [List.length_append, List.length_cons, List.length_nil] at room
      obtain ⟨next, parsed, betweenNext⟩ := between.unknown context unknown sent
      obtain ⟨q, rest, done⟩ := ih next pieces betweenNext sent few (by omega)
      exact ⟨q, (parseAll_append_of_ok parsed _).trans rest, done⟩

/-! ### A whole request -/

theorem PathRead.reading {n : Nat} {path : List UInt8} {q : Parser}
    (read : PathRead context n path q) (method : n ∈ methods)
    (noLimits : context.tokenLimits = none) :
    Reading context [(n, path)] tokenHttp [] (beginVersion q) := by
  have http : n ≠ tokenHttp := (method_names method).2.2.2.1
  have whole : q.ah.frags 1 = { offset := 0, len := path.length, nfrag := 0 } := by
    have offset := read.stored.offset
    have len := read.stored.len
    have link := read.link
    rw [Parser.frag, read.nfrag] at offset len link
    generalize q.ah.frags 1 = frag at offset len link ⊢
    cases frag
    dsimp only at offset len link
    rw [offset, len, link]
  have contents : Contents q.ah path := by
    refine ⟨read.stored.pos.trans (Nat.zero_add _), ?_⟩
    intro i within
    have value := read.stored.data i within
    rwa [Nat.zero_add] at value
  have ended := contents.put 0
  generalize startIs : ({ q.put 0 with state := .token tokenHttp } : Parser) = start
  have begun : beginVersion q = start.nextFrag.freshFrag.withIndex tokenHttp := by
    rw [beginVersion, startIs]
  have table : Table start.ah [(n, path)] := by
    rw [← startIs]
    refine ⟨read.nfrag, ?_, ?_⟩
    · intro m token text got
      have first : m = 0 := by
        have within := length_of_getElem? got
        exact Nat.lt_one_iff.mp within
      rw [first] at got ⊢
      cases got
      have ends : nextOf n (0 + 1) ([(n, path)].map Prod.fst) = 0 :=
        nextOf_length n 1 (Nat.le_refl 1)
      rw [ends]
      exact whole
    · intro token
      show q.ah.fragIndex token = _
      rw [read.index]
      by_cases same : token = n
      · have here : [n].idxOf n = 0 := List.idxOf_cons_self
        rw [same, Function.update_self]
        show 1 = if n ∈ [n] then 0 + [n].idxOf n + 1 else 0
        rw [if_pos (List.mem_singleton_self n), here]
      · rw [Function.update_of_ne same, nextOf, if_neg]
        exact fun member => same (List.mem_singleton.mp member)
  have written : Contents start.ah (flat [(n, path)]) := by
    rw [← startIs, flat, List.flatMap_singleton]
    exact ⟨ended.pos, ended.data⟩
  have absent : nextOf tokenHttp 0 ([(n, path)].map Prod.fst) = 0 := by
    rw [nextOf, if_neg]
    exact fun member => http (List.mem_singleton.mp member).symm
  rw [begun]
  refine ⟨?_, ?_, ?_, table.fresh_first written absent, ?_⟩
  · rw [← startIs]
    rfl
  · rw [← startIs]
    exact read.ues
  · rw [← startIs]
    exact read.limit.trans (by rw [tokenLimit, noLimits])
  · rw [List.append_nil]
    exact ⟨written.pos, written.data⟩

theorem flat_split {k : Nat} (got : pieces[k]? = some (token, text)) :
    flat pieces = flat (pieces.take k) ++ (text ++ 0 :: flat (pieces.drop (k + 1))) := by
  have within := length_of_getElem? got
  have here : pieces[k] = (token, text) := by
    rw [List.getElem?_eq_getElem within] at got
    exact Option.some.inj got
  have parts : pieces.take k ++ (token, text) :: pieces.drop (k + 1) = pieces := by
    rw [← here, ← List.drop_eq_getElem_cons within, List.take_append_drop]
  calc flat pieces
      = flat (pieces.take k ++ (token, text) :: pieces.drop (k + 1)) := by rw [parts]
    _ = _ := by
      rw [flat, List.flatMap_append, List.flatMap_cons, List.append_assoc]
      rfl

theorem Table.total {ah : Headers} (table : Table ah pieces) (fuel k : Nat)
    (got : pieces[k]? = some (token, text)) (enough : pieces.length ≤ k + fuel) :
    totalFrom ah.frags fuel (k + 1) =
      some (text :: textsOf token (pieces.drop (k + 1))).flatten.length := by
  induction fuel generalizing k text with
  | zero =>
      have within := length_of_getElem? got
      omega
  | succ fuel ih =>
      rw [totalFrom, table.frag k token text got]
      dsimp only
      rcases nextOf_cases token (k + 1) pieces with ⟨ends, none⟩ |
        ⟨next, more, later, goes, found, texts⟩
      · rw [if_pos ends, none, List.flatten_cons, List.flatten_nil, List.append_nil]
      · rw [goes, if_neg (Nat.succ_ne_zero next), ih next found (by omega), texts]
        show some (text.length + (more :: _).flatten.length) = some (text ++ _).length
        rw [List.length_append]

/-- A header has the texts of its lines: their length in all, and the first of them with its
zero where the pointer leads. -/
structure Header (q : Parser) (token : Nat) (texts : List (List UInt8)) : Prop where
  length : lwsHdrTotalLength q.ah token = some texts.flatten.length
  absent : texts = [] → lwsHdrSimplePtr q.ah token = none
  first : ∀ text more, texts = text :: more → ∃ place,
    lwsHdrSimplePtr q.ah token = some place ∧
      (∀ i, i < text.length → q.ah.data (place + i) = text.getD i 0) ∧
        q.ah.data (place + text.length) = 0

theorem Parsed.header {q : Parser} (parsed : Parsed pieces q) (few : pieces.length ≤ fragsSize)
    (token : Nat) : Header q token (textsOf token pieces) := by
  have index := parsed.table.index token
  rcases nextOf_cases token 0 pieces with ⟨absent, none⟩ | ⟨k, text, _, goes, got, texts⟩
  · rw [List.drop_zero] at none
    rw [absent] at index
    rw [none]
    refine ⟨?_, fun _ => ?_, fun text more some => by cases some⟩
    · rw [lwsHdrTotalLength, if_pos index]
      rfl
    · rw [lwsHdrSimplePtr, if_pos index]
  · rw [List.drop_zero] at texts
    rw [goes] at index
    have present : q.ah.fragIndex token ≠ 0 := by
      rw [index]
      exact Nat.succ_ne_zero k
    rw [texts]
    refine ⟨?_, fun none => (by cases none), ?_⟩
    · rw [lwsHdrTotalLength, if_neg present, index,
        parsed.table.total fragsSize k got (by omega)]
    · intro first more same
      have split_ := flat_split got
      have contents := parsed.contents.data
      rw [← List.head_eq_of_cons_eq same]
      refine ⟨(flat (pieces.take k)).length, ?_, ?_, ?_⟩
      · rw [lwsHdrSimplePtr, if_neg present, index, parsed.table.frag k token text got]
      · intro i within
        have inside : (flat (pieces.take k)).length + i < (flat pieces).length := by
          rw [split_, List.length_append, List.length_append]
          omega
        rw [contents _ inside, split_, List.getD_append_right _ _ _ _ (Nat.le_add_right _ _),
          Nat.add_sub_cancel_left, List.getD_append _ _ _ _ within]
      · have inside : (flat (pieces.take k)).length + text.length < (flat pieces).length := by
          rw [split_, List.length_append, List.length_append, List.length_cons]
          omega
        rw [contents _ inside, split_, List.getD_append_right _ _ _ _ (Nat.le_add_right _ _),
          Nat.add_sub_cancel_left, List.getD_append_right _ _ _ _ (Nat.le_refl _), Nat.sub_self]
        rfl

private theorem length_foldl_addLine (lines pieces : List Piece) :
    (lines.foldl addLine pieces).length = pieces.length + lines.length := by
  induction lines generalizing pieces with
  | nil => rfl
  | cons line rest ih =>
      rw [List.foldl_cons, ih, addLine, List.length_append, List.length_singleton,
        List.length_cons]
      omega

private theorem length_flat_lines {raw : List UInt8} {lines : List Piece}
    (written : Lines raw lines)
    (pieces : List Piece) :
    (flat (lines.foldl addLine pieces)).length ≤ (flat pieces).length + raw.length := by
  induction written generalizing pieces with
  | nil => exact Nat.le_add_right _ _
  | @known n _ value raw _ _ _ _ _ _ _ ih =>
      have grown := length_addLine pieces (if n = tokenSworigin then tokenOrigin else n, value)
      have rest := ih (addLine pieces (if n = tokenSworigin then tokenOrigin else n, value))
      dsimp only at grown
      simp only [List.foldl_cons, List.length_append, List.length_cons, List.length_nil]
      omega
  | unknown _ _ ih =>
      have rest := ih pieces
      rw [List.length_append]
      omega

theorem parseAll_parsed (context : Context) (noLimits : context.tokenLimits = none) (p : Parser)
    (ups : p.ups = .idle) (ues : p.ues = .idle) {n : Nat} (method : n ∈ methods)
    (name : List UInt8) (named : name.map lower = ascii (set.getD n "")) (spaces : Nat)
    {raw : List UInt8} {enc : Bool} {text : List (UInt8 × Bool)}
    (written : Written raw ((slash, enc) :: text)) (ordinary : ∀ char ∈ text, Ordinary char)
    {version : List UInt8} (clean : ∀ c ∈ version, c ≠ 0 ∧ c ≠ cr) {rawLines : List UInt8}
    {lines : List Piece} (behind : Lines rawLines lines) (few : lines.length + 2 < fragsSize)
    (room : text.length + version.length + rawLines.length + 4 ≤ context.maxHttpHeaderData) :
    ∃ q, parseAll context (beginHeaders (lwsHeaderTableReset p))
        (name ++ (List.replicate spaces space ++ (raw ++ [space])) ++
          (version ++ [cr, lf] ++ rawLines)) = .ok q ∧
      Parsed (((tokenHttp, version) :: lines).foldl addLine
        [(n, Paths.spelled marks (Paths.walk marks (text.map Prod.fst)))]) q ∧
      (((tokenHttp, version) :: lines).foldl addLine
        [(n, Paths.spelled marks (Paths.walk marks (text.map Prod.fst)))]).length ≤ fragsSize ∧
      (flat (((tokenHttp, version) :: lines).foldl addLine
        [(n, Paths.spelled marks (Paths.walk marks (text.map Prod.fst)))])).length ≤
          context.maxHttpHeaderData := by
  have limit : tokenLimit context n = context.maxHttpHeaderData := by rw [tokenLimit, noLimits]
  obtain ⟨first, parsedPath, read, _⟩ := parseAll_path context p ups ues method name named spaces
    written ordinary (by omega) (by rw [limit]; omega)
  have reading := read.reading method noLimits
  generalize pathIs : Paths.spelled marks (Paths.walk marks (text.map Prod.fst)) = path at *
  have pathLength : path.length ≤ text.length + 1 := by
    have spelled : path.length ≤ weight (Paths.walk marks (text.map Prod.fst)) := by
      rw [← pathIs]
      exact Paths.length_spelled _
    have walked : weight (Paths.walk marks (text.map Prod.fst)) ≤ _ :=
      Paths.length_walk (text.map Prod.fst)
    rw [List.length_map] at walked
    exact Nat.le_trans spelled walked
  have flatPath : (flat [(n, path)]).length = path.length + 1 := by
    rw [flat, List.flatMap_singleton, List.length_append, List.length_singleton]
  have apart : tokenHttp ≠ n := (method_names method).2.2.2.1.symm
  have texts : textsOf tokenHttp [(n, path)] = [] := by
    rw [textsOf, List.filter_cons_of_neg (by simpa using apart.symm)]
    rfl
  have grown := length_takeChars (textsOf tokenHttp [(n, path)]) version []
  rw [List.length_nil, Nat.zero_add] at grown
  obtain ⟨second, parsedVersion, readingVersion⟩ := reading.chars version (by decide) (by decide)
    clean (by rw [List.length_nil]; omega)
  obtain ⟨third, parsedEnd, between⟩ := readingVersion.line (by decide) (by decide) (by omega)
  have lineIs : [(n, path)] ++ [(tokenHttp, version.foldl
      (takeChar (textsOf tokenHttp [(n, path)])) [])] = addLine [(n, path)] (tokenHttp, version) := by
    rw [addLine, ← foldl_takeChar, texts]
    rfl
  rw [lineIs] at between
  have two : (addLine [(n, path)] (tokenHttp, version)).length = 2 := rfl
  have longer := length_addLine [(n, path)] (tokenHttp, version)
  dsimp only at longer
  obtain ⟨q, parsedLines, parsed⟩ := parseAll_lines context behind third _ between noLimits
    ⟨n, method, List.mem_cons_self⟩ (by omega) (by omega)
  have count : (((tokenHttp, version) :: lines).foldl addLine [(n, path)]).length =
      lines.length + 2 := by
    have one : [(n, path)].length = 1 := rfl
    rw [length_foldl_addLine, one, List.length_cons]
    omega
  have bytes := length_flat_lines behind (addLine [(n, path)] (tokenHttp, version))
  refine ⟨q, ?_, parsed, by rw [count]; omega, by rw [List.foldl_cons]; omega⟩
  rw [parseAll_append_of_ok parsedPath, List.append_assoc,
    parseAll_append_of_ok parsedVersion, parseAll_append_of_ok parsedEnd]
  exact parsedLines

/-- A request is read to its end, and each of its headers has what its lines say, in their order
and with lines of other headers, or of ones that the table does not know, between them. -/
theorem parseAll_request (context : Context) (noLimits : context.tokenLimits = none) (p : Parser)
    (ups : p.ups = .idle) (ues : p.ues = .idle) {n : Nat} (method : n ∈ methods)
    (name : List UInt8) (named : name.map lower = ascii (set.getD n "")) (spaces : Nat)
    {raw : List UInt8} {enc : Bool} {text : List (UInt8 × Bool)}
    (written : Written raw ((slash, enc) :: text)) (ordinary : ∀ char ∈ text, Ordinary char)
    {version : List UInt8} (clean : ∀ c ∈ version, c ≠ 0 ∧ c ≠ cr) {rawLines : List UInt8}
    {lines : List Piece} (behind : Lines rawLines lines) (few : lines.length + 2 < fragsSize)
    (room : text.length + version.length + rawLines.length + 4 ≤ context.maxHttpHeaderData) :
    ∃ q, parseAll context (beginHeaders (lwsHeaderTableReset p))
        (name ++ (List.replicate spaces space ++ (raw ++ [space])) ++
          (version ++ [cr, lf] ++ rawLines)) = .ok q ∧
      q.state = .complete ∧
      ∀ token, Header q token (textsOf token (((tokenHttp, version) :: lines).foldl addLine
        [(n, Paths.spelled marks (Paths.walk marks (text.map Prod.fst)))])) := by
  obtain ⟨q, parsedAll, parsed, short, _⟩ := parseAll_parsed context noLimits p ups ues method name
    named spaces written ordinary clean behind few room
  exact ⟨q, parsedAll, parsed.state, parsed.header short⟩

theorem clean_of_all (value : List UInt8) (all : value.all fun c => c ≠ 0 && c ≠ cr) :
    ∀ c ∈ value, c ≠ 0 ∧ c ≠ cr := by
  intro c member
  have one := List.all_eq_true.mp all c member
  rw [Bool.and_eq_true] at one
  exact ⟨of_decide_eq_true one.1, of_decide_eq_true one.2⟩

private theorem lines_small :
    Lines (ascii "Host:" ++ (ascii " x" ++ [cr, lf]) ++ (ascii "Foo: y" ++ [cr, lf] ++
      (ascii "host:" ++ (ascii "z" ++ [cr, lf]) ++ [cr, lf])))
      [(3, ascii " x"), (3, ascii "z")] := by
  have unknown : Unknown (ascii "Foo: y") := ⟨by decide, by decide +kernel⟩
  have other : 3 ∉ methods := by decide
  have last : Lines (ascii "host:" ++ (ascii "z" ++ [cr, lf]) ++ [cr, lf]) [(3, ascii "z")] :=
    .known other (by decide) (by decide) (by decide) (clean_of_all _ (by decide)) .nil
  exact .known other (by decide) (by decide) (by decide) (clean_of_all _ (by decide))
    (.unknown unknown last)

/-- The header of the two lines has two texts. -/
theorem parseAll_request_small :
    ∃ q, parseAll smallContext (beginHeaders (lwsHeaderTableReset smallParser))
        (ascii "GET /a HTTP/1.1\r\nHost: x\r\nFoo: y\r\nhost:z\r\n\r\n") = .ok q ∧
      q.state = .complete ∧ Header q 3 [ascii "x", ascii " z"] := by
  have written : Written [slash, 97] [(slash, false), (97, false)] :=
    .plain (by decide) (by decide) (.plain (by decide) (by decide) .nil)
  have ordinary : ∀ char ∈ [((97 : UInt8), false)], Ordinary char := by
    intro char member
    rw [List.mem_singleton.mp member]
    simp only [Ordinary]
    decide
  obtain ⟨q, parsed, state, headers⟩ := parseAll_request smallContext rfl smallParser rfl rfl
    (n := 0) (by decide) (ascii "GET ") (by decide) 0 written ordinary
    (clean_of_all (ascii "HTTP/1.1") (by decide)) lines_small (by decide) (by decide)
  have bytes : ascii "GET /a HTTP/1.1\r\nHost: x\r\nFoo: y\r\nhost:z\r\n\r\n" =
      ascii "GET " ++ (List.replicate 0 space ++ ([slash, 97] ++ [space])) ++
        (ascii "HTTP/1.1" ++ [cr, lf] ++ (ascii "Host:" ++ (ascii " x" ++ [cr, lf]) ++
          (ascii "Foo: y" ++ [cr, lf] ++
            (ascii "host:" ++ (ascii "z" ++ [cr, lf]) ++ [cr, lf])))) := by decide +kernel
  rw [bytes]
  exact ⟨q, parsed, state, headers 3⟩

end JSCameraKit.Libwebsockets.HeaderParser
