import JSCameraKit.Libwebsockets.HeaderParser

set_option autoImplicit false

/-! The parser of the headers stays inside of its arrays on every input. The fragments are apart
from each other, their links lead forward, and what is not being read has its zero at the end. -/

namespace JSCameraKit.Libwebsockets.HeaderParser

open Lextable

variable {Value : Type}

/-- The parser is not at fault, and what it returns is as told. -/
def Safe (good : Value → Prop) : Except Failure Value → Prop
  | .ok value => good value
  | .error failure => failure ≠ .fault

theorem Safe.imp {good better : Value → Prop} {result : Except Failure Value}
    (safe : Safe good result) (weaker : ∀ value, good value → better value) :
    Safe better result := by
  cases result with
  | error failure => exact safe
  | ok value => exact weaker value safe

theorem Safe.bind {Other : Type} {good : Value → Prop} {better : Other → Prop}
    {result : Except Failure Value} {next : Value → Except Failure Other}
    (safe : Safe good result) (after : ∀ value, good value → Safe better (next value)) :
    Safe better (result.bind next) := by
  cases result with
  | error failure => exact safe
  | ok value => exact after value safe

theorem Safe.map {Other : Type} {good : Value → Prop} {better : Other → Prop}
    {result : Except Failure Value} {change : Value → Other} (safe : Safe good result)
    (after : ∀ value, good value → better (change value)) : Safe better (result.map change) := by
  cases result with
  | error failure => exact safe
  | ok value => exact after value safe

/-! ### The fragments -/

def Fragment.end_ (frag : Fragment) : Nat := frag.offset + frag.len

/-- The fragments are behind each other, the last one ends before the next character, and the
links lead to later ones. -/
structure Laid (ah : Headers) : Prop where
  nfrag : ah.nfrag < fragsSize
  index : ∀ token, ah.fragIndex token ≤ ah.nfrag
  links : ∀ n, 0 < n → n ≤ ah.nfrag → (ah.frags n).nfrag = 0 ∨
    n < (ah.frags n).nfrag ∧ (ah.frags n).nfrag ≤ ah.nfrag
  ordered : ∀ i j, 0 < i → i < j → j ≤ ah.nfrag → (ah.frags i).end_ ≤ (ah.frags j).offset
  current : 0 < ah.nfrag → (ah.frags ah.nfrag).end_ ≤ ah.pos

/-- While the text of a token is read. -/
structure Open (context : Context) (token : Nat) (p : Parser) : Prop where
  laid : Laid p.ah
  room : p.ah.pos ≤ context.maxHttpHeaderData
  named : token < tokenCount ∧ token ≠ tokenChallenge
  index : p.ah.fragIndex token ≠ 0
  within : p.frag.len ≤ p.currentTokenLimit
  limit : 0 < p.currentTokenLimit

/-- The last character is the zero of the last fragment. -/
def Sealed (p : Parser) : Prop :=
  p.frag.offset < p.ah.pos ∧ p.ah.data (p.ah.pos - 1) = 0

structure Kept (context : Context) (p : Parser) : Prop where
  laid : Laid p.ah
  room : p.ah.pos ≤ context.maxHttpHeaderData
  token : ∀ token, p.state = .token token → Open context token p
  name : p.state = .namePart → ∃ pos text, p.lextablePos = some pos ∧ terminal pos = none ∧
    Matcher.Reached matcher 0 text pos
  sealed : (∀ token, p.state ≠ .token token) → 0 < p.ah.nfrag → Sealed p

variable {context : Context} {token : Nat} {p : Parser}

theorem Open.some (opened : Open context token p) : 0 < p.ah.nfrag :=
  Nat.lt_of_lt_of_le (Nat.pos_of_ne_zero opened.index) (opened.laid.index token)

theorem Open.len_lt (opened : Open context token p) : p.frag.len < 65536 := by
  have current := opened.laid.current opened.some
  have room := opened.room
  have short := context.short
  have : p.frag.len ≤ p.frag.end_ := Nat.le_add_left ..
  have : p.frag.end_ ≤ p.ah.pos := current
  omega

theorem Laid.last {ah : Headers} (laid : Laid ah) (some : 0 < ah.nfrag)
    (data : Nat → UInt8) (frag : Fragment) (pos : Nat)
    (offset : frag.offset = (ah.frags ah.nfrag).offset)
    (link : frag.nfrag = (ah.frags ah.nfrag).nfrag) (fits : frag.end_ ≤ pos) :
    Laid { ah with data := data, frags := Function.update ah.frags ah.nfrag frag, pos := pos } := by
  refine ⟨laid.nfrag, laid.index, ?_, ?_, ?_⟩
  · intro n positive within
    dsimp only at within ⊢
    by_cases last : n = ah.nfrag
    · rw [last, Function.update_self, link]
      exact laid.links _ some (Nat.le_refl _)
    · rw [Function.update_of_ne last]
      exact laid.links n positive within
  · intro i j positive before within
    dsimp only at within ⊢
    rw [Function.update_of_ne (by omega)]
    by_cases last : j = ah.nfrag
    · rw [last, Function.update_self, offset]
      exact laid.ordered i ah.nfrag positive (last ▸ before) (Nat.le_refl _)
    · rw [Function.update_of_ne last]
      exact laid.ordered i j positive before within
  · intro _
    dsimp only
    rw [Function.update_self]
    exact fits

theorem Laid.fresh {ah : Headers} (laid : Laid ah) (room : ah.nfrag + 1 < fragsSize)
    {frags : Nat → Fragment} {index : Nat → Nat}
    (same : ∀ n, 0 < n → n ≤ ah.nfrag → (frags n).offset = (ah.frags n).offset ∧
      (frags n).len = (ah.frags n).len ∧
      ((frags n).nfrag = (ah.frags n).nfrag ∨ (frags n).nfrag = ah.nfrag + 1))
    (new : frags (ah.nfrag + 1) = { offset := ah.pos, len := 0, nfrag := 0 })
    (indexed : ∀ token, index token = ah.fragIndex token ∨ index token = ah.nfrag + 1) :
    Laid { ah with frags := frags, fragIndex := index, nfrag := ah.nfrag + 1 } := by
  have ends : ∀ n, 0 < n → n ≤ ah.nfrag → (frags n).end_ = (ah.frags n).end_ := by
    intro n positive within
    obtain ⟨offset, len, _⟩ := same n positive within
    rw [Fragment.end_, Fragment.end_, offset, len]
  refine ⟨room, ?_, ?_, ?_, ?_⟩
  · intro token
    have before := laid.index token
    dsimp only
    rcases indexed token with old | added
    · omega
    · omega
  · intro n positive within
    dsimp only at within ⊢
    by_cases last : n = ah.nfrag + 1
    · rw [last, new]
      exact .inl rfl
    · have link := (same n positive (by omega)).2.2
      have before := laid.links n positive (by omega)
      omega
  · intro i j positive before within
    dsimp only at within ⊢
    rw [ends i positive (by omega)]
    by_cases last : j = ah.nfrag + 1
    · rw [last, new]
      by_cases previous : i = ah.nfrag
      · rw [previous]
        exact laid.current (previous ▸ positive)
      · have current := laid.current (by omega)
        have ordered := laid.ordered i ah.nfrag positive (by omega) (Nat.le_refl _)
        rw [Fragment.end_] at current
        show (ah.frags i).end_ ≤ ah.pos
        omega
    · rw [(same j (by omega) (by omega)).1]
      exact laid.ordered i j positive before (by omega)
  · intro _
    dsimp only
    rw [new]
    exact Nat.le_refl _

private theorem lastFragment_spec {frags : Nat → Fragment} {top : Nat}
    (links : ∀ n, 0 < n → n ≤ top → (frags n).nfrag = 0 ∨
      n < (frags n).nfrag ∧ (frags n).nfrag ≤ top)
    (fuel n : Nat) (positive : 0 < n) (within : n ≤ top) (enough : top - n < fuel) :
    ∃ last, lastFragment frags fuel n = some last ∧ n ≤ last ∧ last ≤ top := by
  induction fuel generalizing n with
  | zero => omega
  | succ fuel ih =>
      rw [lastFragment]
      by_cases ends : (frags n).nfrag = 0
      · rw [if_pos ends]
        exact ⟨n, rfl, Nat.le_refl _, within⟩
      · have link := links n positive within
        rw [if_neg ends]
        obtain ⟨last, found, after, before⟩ := ih (frags n).nfrag (by omega) (by omega) (by omega)
        exact ⟨last, found, by omega, before⟩

/-! ### Characters -/

theorem Open.congr {q : Parser} (opened : Open context token p) (ah : q.ah = p.ah)
    (limit : q.currentTokenLimit = p.currentTokenLimit) : Open context token q := by
  have frag : q.frag = p.frag := by rw [Parser.frag, Parser.frag, ah]
  exact ⟨ah ▸ opened.laid, ah ▸ opened.room, opened.named, ah ▸ opened.index,
    by rw [frag, limit]; exact opened.within, by rw [limit]; exact opened.limit⟩

/-- A character is put behind the fragment, which may be as long as before or one longer. -/
theorem Open.put (opened : Open context token p) (c : UInt8)
    (room : p.ah.pos < context.maxHttpHeaderData) :
    Open context token (p.put c) ∧
      (p.frag.len < p.currentTokenLimit →
        Open context token (p.put c).lengthen ∧ 0 < (p.put c).lengthen.frag.len) := by
  have current := opened.laid.current opened.some
  have len := opened.len_lt
  have endIs : (p.ah.frags p.ah.nfrag).end_ = p.frag.offset + p.frag.len := rfl
  have short := context.short
  constructor
  · have laid := opened.laid.last opened.some (Function.update p.ah.data p.ah.pos c) p.frag
      (p.ah.pos + 1) rfl rfl (Nat.le_succ_of_le current)
    rw [Parser.frag, Function.update_eq_self] at laid
    exact ⟨laid, room, opened.named, opened.index, opened.within, opened.limit⟩
  · intro below
    have longer : (p.frag.len + 1) % 65536 = p.frag.len + 1 :=
      Nat.mod_eq_of_lt (by omega)
    have frag : (p.put c).lengthen.frag = { p.frag with len := p.frag.len + 1 } := by
      rw [← longer]
      exact Function.update_self ..
    have laid := opened.laid.last opened.some (Function.update p.ah.data p.ah.pos c)
      { p.frag with len := p.frag.len + 1 } (p.ah.pos + 1) rfl rfl
      (by rw [Fragment.end_]; dsimp only; omega)
    refine ⟨⟨?_, room, opened.named, opened.index, ?_, opened.limit⟩, ?_⟩
    · rw [← longer] at laid
      exact laid
    · rw [frag]
      exact below
    · rw [frag]
      exact Nat.succ_pos _

private theorem sealed_put (opened : Open context token p) : Sealed (p.put 0) := by
  have current := opened.laid.current opened.some
  have endIs : (p.ah.frags p.ah.nfrag).end_ = p.frag.offset + p.frag.len := rfl
  constructor
  · show p.frag.offset < p.ah.pos + 1
    omega
  · exact Function.update_self ..

private theorem issueChar_spec (opened : Open context token p) (c : UInt8) :
    Safe (fun issued => Open context token issued.2 ∧ issued.2.state = p.state ∧
      (c = 0 ∨ issued.1 = true → Sealed issued.2) ∧ (c ≠ 0 → 0 < issued.2.frag.len))
      (issueChar context c p) := by
  have within := opened.within
  have limit := opened.limit
  have bound := opened.room
  rw [issueChar]
  by_cases room : p.ah.pos < context.maxHttpHeaderData
  · rw [if_pos room]
    by_cases below : p.frag.len < p.currentTokenLimit
    · rw [if_pos below]
      by_cases zero : c = 0
      · rw [if_pos zero, zero]
        exact ⟨(opened.put 0 room).1, rfl, fun _ => sealed_put opened, fun other => absurd rfl other⟩
      · have longer := (opened.put c room).2 below
        rw [if_neg zero]
        exact ⟨longer.1, rfl, fun ends => by simp [zero] at ends, fun _ => longer.2⟩
    · rw [if_neg below, if_pos (by omega)]
      refine ⟨(opened.put 0 room).1, rfl, fun _ => sealed_put opened, fun _ => ?_⟩
      show 0 < p.frag.len
      omega
  · rw [if_neg room, if_pos (by omega)]
    exact fun same => by cases same

private theorem issue_spec (opened : Open context token p) (c : UInt8) :
    Safe (fun issued => Open context token issued ∧ issued.state = p.state ∧
      (c = 0 → Sealed issued) ∧ (c ≠ 0 → 0 < issued.frag.len)) (issue context c p) :=
  (issueChar_spec opened c).map fun _ ⟨kept, state, ends, longer⟩ =>
    ⟨kept, state, fun zero => ends (.inl zero), longer⟩

/-! ### Back over a directory -/

private theorem frag_shorten (some : 0 < p.frag.len) (small : p.frag.len < 65536) :
    p.shorten.frag = { p.frag with len := p.frag.len - 1 } := by
  have shorter : (p.frag.len + 65535) % 65536 = p.frag.len - 1 := by omega
  rw [← shorter]
  exact Function.update_self ..

theorem Open.shorten (opened : Open context token p) (longer : 0 < p.frag.len) :
    Open context token p.shorten := by
  have current := opened.laid.current opened.some
  have within := opened.within
  have endIs : (p.ah.frags p.ah.nfrag).end_ = p.frag.offset + p.frag.len := rfl
  have frag := frag_shorten longer opened.len_lt
  have shorter : (p.frag.len + 65535) % 65536 = p.frag.len - 1 := by
    have len := opened.len_lt
    omega
  have laid := opened.laid.last opened.some p.ah.data { p.frag with len := p.frag.len - 1 }
    p.ah.pos rfl rfl (by rw [Fragment.end_]; dsimp only; omega)
  rw [← shorter] at laid
  refine ⟨laid, opened.room, opened.named, opened.index, ?_, opened.limit⟩
  rw [frag]
  exact Nat.le_trans (Nat.sub_le _ _) within

theorem Open.remove (opened : Open context token p) (longer : 0 < p.frag.len) :
    Open context token p.remove ∧ p.remove.frag.len = p.frag.len - 1 := by
  have shorter := opened.shorten longer
  have current := opened.laid.current opened.some
  have room := opened.room
  have endIs : (p.ah.frags p.ah.nfrag).end_ = p.frag.offset + p.frag.len := rfl
  have frag := frag_shorten longer opened.len_lt
  have fragRemove : p.remove.frag = p.shorten.frag := rfl
  have laid := shorter.laid.last shorter.some p.ah.data p.shorten.frag (p.ah.pos - 1) rfl rfl
    (by rw [frag, Fragment.end_]; dsimp only; omega)
  rw [Parser.frag, Function.update_eq_self] at laid
  refine ⟨⟨laid, ?_, shorter.named, shorter.index, shorter.within, shorter.limit⟩, ?_⟩
  · show p.ah.pos - 1 ≤ context.maxHttpHeaderData
    omega
  · rw [fragRemove, frag]

theorem Open.backLoop (fuel : Nat) (opened : Open context token p) (longer : 0 < p.frag.len) :
    Open context token (HeaderParser.backLoop fuel p) ∧
      (HeaderParser.backLoop fuel p).state = p.state := by
  induction fuel generalizing p with
  | zero => exact ⟨opened, rfl⟩
  | succ fuel ih =>
      have less := opened.remove longer
      rw [HeaderParser.backLoop]
      split
      · next more =>
          have rest := ih less.1 (by omega)
          exact ⟨rest.1, rest.2⟩
      · exact ⟨less.1, rfl⟩

theorem Open.backUp (opened : Open context token p) :
    Open context token (HeaderParser.backUp p) ∧
      (HeaderParser.backUp p).state = p.state := by
  rw [HeaderParser.backUp]
  split
  · next deep =>
      have less := opened.remove (by omega)
      exact less.1.backLoop _ (by omega)
  · exact ⟨opened, rfl⟩

/-! ### New fragments -/

private theorem frag_withIndex (q : Parser) (index : Nat) : (q.withIndex index).frag = q.frag := rfl

private theorem freshFrag_frags (q : Parser) :
    q.freshFrag.ah.frags q.ah.nfrag = { offset := q.ah.pos, len := 0, nfrag := 0 } ∧
      ∀ n, n ≠ q.ah.nfrag → q.freshFrag.ah.frags n = q.ah.frags n :=
  ⟨Function.update_self .., fun _ other => Function.update_of_ne other ..⟩

private theorem withFrag_frags (q : Parser) (change : Fragment → Fragment) :
    (q.withFrag change).ah.frags q.ah.nfrag = change q.frag ∧
      ∀ n, n ≠ q.ah.nfrag → (q.withFrag change).ah.frags n = q.ah.frags n :=
  ⟨Function.update_self .., fun _ other => Function.update_of_ne other ..⟩

theorem Laid.started (laid : Laid p.ah) (more : p.ah.nfrag + 1 < fragsSize) (index : Nat) :
    Laid (p.nextFrag.freshFrag.withIndex index).ah ∧
      (p.nextFrag.freshFrag.withIndex index).frag.len = 0 ∧
      ∀ other, p.ah.fragIndex other ≠ 0 ∨ other = index →
        (p.nextFrag.freshFrag.withIndex index).ah.fragIndex other ≠ 0 := by
  obtain ⟨added, others⟩ := freshFrag_frags p.nextFrag
  have indexed : (p.nextFrag.freshFrag.withIndex index).ah.fragIndex index = p.ah.nfrag + 1 :=
    Function.update_self ..
  refine ⟨?_, ?_, ?_⟩
  · apply laid.fresh more
    · intro n _ within
      rw [others n (Nat.ne_of_lt (Nat.lt_succ_of_le within))]
      exact ⟨rfl, rfl, .inl rfl⟩
    · exact added
    · intro other
      by_cases same : other = index
      · rw [same]
        exact .inr indexed
      · exact .inl (Function.update_of_ne same ..)
  · rw [frag_withIndex, Parser.frag]
    exact congrArg Fragment.len added
  · intro other known
    by_cases same : other = index
    · rw [same, indexed]
      exact Nat.succ_ne_zero _
    · have kept : (p.nextFrag.freshFrag.withIndex index).ah.fragIndex other =
          p.ah.fragIndex other := Function.update_of_ne same ..
      rw [kept]
      exact known.resolve_right same

private theorem beginFragment_spec (laid : Laid p.ah) (room : p.ah.pos ≤ context.maxHttpHeaderData)
    (more : p.ah.nfrag + 1 < fragsSize) (named : token < tokenCount ∧ token ≠ tokenChallenge)
    (limit : 0 < p.currentTokenLimit) :
    Safe (fun next => Open context token next ∧ next.state = p.state)
      (beginFragment context token p.nextFrag) := by
  have added : p.nextFrag.freshFrag.ah.frags (p.ah.nfrag + 1) =
      { offset := p.ah.pos, len := 0, nfrag := 0 } := Function.update_self ..
  have others : ∀ n, n ≤ p.ah.nfrag → p.nextFrag.freshFrag.ah.frags n = p.ah.frags n :=
    fun n within => Function.update_of_ne (Nat.ne_of_lt (Nat.lt_succ_of_le within)) ..
  rw [beginFragment]
  by_cases first : p.nextFrag.freshFrag.ah.fragIndex token = 0
  · rw [if_pos first]
    obtain ⟨laidNext, len, index⟩ := laid.started more token
    refine ⟨⟨laidNext, room, named, index token (.inr rfl), ?_, limit⟩, rfl⟩
    rw [len]
    exact Nat.zero_le _
  · have index := laid.index token
    have links : ∀ n, 0 < n → n ≤ p.ah.nfrag →
        (p.nextFrag.freshFrag.ah.frags n).nfrag = 0 ∨
          n < (p.nextFrag.freshFrag.ah.frags n).nfrag ∧
            (p.nextFrag.freshFrag.ah.frags n).nfrag ≤ p.ah.nfrag := by
      intro n positive within
      rw [others n within]
      exact laid.links n positive within
    obtain ⟨last, found, after, before⟩ := lastFragment_spec links fragsSize
      (p.nextFrag.freshFrag.ah.fragIndex token) (Nat.pos_of_ne_zero first) index (by omega)
    rw [if_neg first, found]
    have linked : Open context token (p.nextFrag.freshFrag.linkFrom last) := by
      have positive : 0 < last := Nat.lt_of_lt_of_le (Nat.pos_of_ne_zero first) after
      have top : (p.nextFrag.freshFrag.linkFrom last).ah.frags (p.ah.nfrag + 1) =
          { offset := p.ah.pos, len := 0, nfrag := 0 } := by
        rw [← added]
        exact Function.update_of_ne (by omega) ..
      refine ⟨?_, room, named, first, ?_, limit⟩
      · apply laid.fresh more _ top fun other => .inl rfl
        intro n _ within
        by_cases same : n = last
        · have changed : (p.nextFrag.freshFrag.linkFrom last).ah.frags n =
              { p.ah.frags n with nfrag := p.ah.nfrag + 1 } := by
            rw [← others n within, same]
            exact Function.update_self ..
          rw [changed]
          exact ⟨rfl, rfl, .inr rfl⟩
        · have kept : (p.nextFrag.freshFrag.linkFrom last).ah.frags n = p.ah.frags n := by
            rw [← others n within]
            exact Function.update_of_ne same ..
          rw [kept]
          exact ⟨rfl, rfl, .inl rfl⟩
      · rw [Parser.frag]
        show ((p.nextFrag.freshFrag.linkFrom last).ah.frags (p.ah.nfrag + 1)).len ≤ _
        rw [top]
        exact Nat.zero_le _
    exact (issue_spec linked space).imp fun _ issued => ⟨issued.1, issued.2.1⟩

private theorem startFragment_spec (laid : Laid p.ah) (room : p.ah.pos ≤ context.maxHttpHeaderData)
    (state : p.state = .token token) (named : token < tokenCount ∧ token ≠ tokenChallenge)
    (limit : 0 < p.currentTokenLimit) :
    Safe (fun next => Open context token next ∧ next.state = p.state)
      (startFragment context p) := by
  have bound : p.nextFrag.ah.nfrag ≤ fragsSize := laid.nfrag
  rw [startFragment, excessive]
  by_cases full : p.nextFrag.ah.nfrag = fragsSize
  · rw [if_pos full]
    exact fun same => by cases same
  · have more : p.ah.nfrag + 1 < fragsSize := Nat.lt_of_le_of_ne bound full
    have stateNext : p.nextFrag.state = .token token := state
    rw [if_neg full, if_neg (Nat.not_lt.mpr bound), stateNext]
    exact beginFragment_spec laid room more named limit

private theorem excessive_full (full : fragsSize ≤ p.nextFrag.ah.nfrag)
    (bound : p.ah.nfrag < fragsSize)
    (good : Parser → Prop) : Safe good (excessive context p.nextFrag) := by
  have same : p.nextFrag.ah.nfrag = fragsSize := Nat.le_antisymm bound full
  rw [excessive, if_pos same]
  exact fun failure => by cases failure

theorem Open.separated (opened : Open context token p) (more : p.ah.nfrag + 1 < fragsSize) :
    Open context token
      (p.withFrag fun frag => { frag with nfrag := p.ah.nfrag + 1 }).nextFrag.freshFrag := by
  obtain ⟨ended, before⟩ :=
    withFrag_frags p fun frag => { frag with nfrag := p.ah.nfrag + 1 }
  obtain ⟨started, others⟩ :=
    freshFrag_frags (p.withFrag fun frag => { frag with nfrag := p.ah.nfrag + 1 }).nextFrag
  generalize linkedIs : (p.withFrag fun frag =>
    { frag with nfrag := p.ah.nfrag + 1 }).nextFrag.freshFrag = next at started others ⊢
  have values : ∀ n, 0 < n → n ≤ p.ah.nfrag → (next.ah.frags n).offset = (p.ah.frags n).offset ∧
      (next.ah.frags n).len = (p.ah.frags n).len ∧
      ((next.ah.frags n).nfrag = (p.ah.frags n).nfrag ∨
        (next.ah.frags n).nfrag = p.ah.nfrag + 1) := by
    intro n _ within
    have older := others n (Nat.ne_of_lt (Nat.lt_succ_of_le within))
    by_cases same : n = p.ah.nfrag
    · rw [older.trans ((congrArg _ same).trans ended), same]
      exact ⟨rfl, rfl, .inr rfl⟩
    · rw [older.trans (before n same)]
      exact ⟨rfl, rfl, .inl rfl⟩
  have laid := opened.laid.fresh more values started fun _ => .inl rfl
  have added : next.frag = { offset := p.ah.pos, len := 0, nfrag := 0 } := by
    rw [← linkedIs] at started ⊢
    exact started
  have within : next.frag.len ≤ next.currentTokenLimit := by
    rw [added]
    exact Nat.zero_le _
  rw [← linkedIs] at within laid ⊢
  exact ⟨laid, opened.room, opened.named, opened.index, within, opened.limit⟩

private theorem separate_spec (opened : Open context token p) (c : UInt8) (some : c ≠ 0) :
    Safe (fun next => Open context token next ∧ next.state = p.state)
      (separate context c p) := by
  apply (issue_spec opened c).bind
  intro issued ⟨kept, state, _, longer⟩
  have shorter := kept.shorten (longer some)
  dsimp only
  split
  · next full => exact excessive_full full shorter.laid.nfrag _
  · next room =>
      have nfrag : issued.shorten.ah.nfrag = issued.ah.nfrag := rfl
      have more : issued.ah.nfrag + 1 < fragsSize := Nat.lt_of_not_le room
      rw [← nfrag] at more
      have separated := shorter.separated more
      rw [nfrag] at separated
      exact ⟨separated.congr rfl rfl, state⟩

/-! ### The text of a token -/

private theorem unescape_spec (opened : Open context token p) (c : UInt8) :
    Safe (fun read => Open context token read.2 ∧ read.2.state = p.state) (unescape c p) := by
  rw [unescape]
  cases p.ues with
  | idle =>
      dsimp only
      split
      · exact ⟨opened.congr rfl rfl, rfl⟩
      · exact ⟨opened, rfl⟩
  | seenPercent =>
      dsimp only
      cases charToHex c with
      | none => exact fun same => by cases same
      | some digit => exact ⟨opened.congr rfl rfl, rfl⟩
  | seenPercentH1 =>
      dsimp only
      cases charToHex c with
      | none => exact fun same => by cases same
      | some digit => exact ⟨opened.congr rfl rfl, rfl⟩

private theorem pathStep_spec (opened : Open context token p) (c : UInt8) (enc : Bool) :
    Safe (fun next => Open context token next.2 ∧ next.2.state = p.state)
      (pathStep context c enc p) := by
  rw [pathStep]
  cases p.ups with
  | idle =>
      dsimp only
      by_cases zero : c = 0
      · rw [if_pos zero]
        exact fun same => by cases same
      · rw [if_neg zero]
        split
        · exact (separate_spec opened c zero).map fun next separated => separated
        · exact ⟨opened.congr rfl rfl, rfl⟩
  | seenSlash =>
      dsimp only
      split
      · exact ⟨opened, rfl⟩
      · split
        · exact ⟨opened.congr rfl rfl, rfl⟩
        · exact ⟨opened.congr rfl rfl, rfl⟩
  | seenSlashDot =>
      dsimp only
      split
      · exact ⟨opened.congr rfl rfl, rfl⟩
      · split
        · exact ⟨opened.congr rfl rfl, rfl⟩
        · have idle : Open context token { p with ups := .idle } := opened.congr rfl rfl
          exact (issue_spec idle dot).map fun _ issued => ⟨issued.1, issued.2.1⟩
  | seenSlashDotDot =>
      dsimp only
      split
      · have up := opened.backUp
        split
        · exact ⟨up.1.congr rfl rfl, up.2⟩
        · exact ⟨up.1.congr rfl rfl, up.2⟩
      · apply (issue_spec opened dot).bind
        intro first issued
        exact (issue_spec issued.1 dot).map fun _ second =>
          ⟨second.1.congr rfl rfl, second.2.1.trans issued.2.1⟩

theorem Open.kept (opened : Open context token p) (state : p.state = .token token) :
    Kept context p := by
  refine ⟨opened.laid, opened.room, ?_, ?_, ?_⟩
  · intro other same
    rw [state] at same
    cases same
    exact opened
  · intro same
    rw [state] at same
    cases same
  · exact fun others => absurd state (others token)

theorem Open.kept_sealed (opened : Open context token p)
    (state : p.state = .skipping ∨ p.state = .skippingSawCr) (ends : Sealed p) :
    Kept context p := by
  refine ⟨opened.laid, opened.room, ?_, ?_, fun _ _ => ends⟩
  · intro other same
    rw [same] at state
    simp at state
  · intro same
    rw [same] at state
    simp at state

private theorem swallow_kept (kept : Kept context p) : Safe (Kept context) (swallow p) := by
  rw [swallow]
  split
  · next challenge => exact absurd rfl (kept.token _ challenge).named.2
  · exact kept

private theorem issueAndSwallow_spec (opened : Open context token p) (c : UInt8)
    (state : p.state = .token token ∨ p.state = .skippingSawCr ∧ c = 0) :
    Safe (Kept context) (issueAndSwallow context c p) := by
  apply (issueChar_spec opened c).bind
  intro ⟨spent, next⟩ ⟨kept, same, ends, _⟩
  dsimp only at kept same ends ⊢
  apply swallow_kept
  cases spent with
  | true =>
      have skipped : Open context token { next with state := .skipping } := kept.congr rfl rfl
      exact skipped.kept_sealed (.inl rfl) (ends (.inr rfl))
  | false =>
      rcases state with reading | ⟨line, zero⟩
      · exact kept.kept (same.trans reading)
      · exact kept.kept_sealed (.inr (same.trans line)) (ends (.inl zero))

private theorem checkEol_spec (opened : Open context token p) (state : p.state = .token token)
    (c : UInt8) : Safe (Kept context) (checkEol context c p) := by
  rw [checkEol]
  split
  · split
    · exact fun same => by cases same
    · have line : Open context token { p with state := .skippingSawCr } := opened.congr rfl rfl
      exact issueAndSwallow_spec line 0 (.inr ⟨rfl, rfl⟩)
  · exact issueAndSwallow_spec opened c (.inl state)

private theorem argsStep_spec (opened : Open context token p) (state : p.state = .token token)
    (c : UInt8) (enc : Bool) : Safe (Kept context) (argsStep context c enc p) := by
  rw [argsStep]
  split
  · split
    · exact fun same => by cases same
    · apply (issue_spec opened 0).bind
      intro ended ⟨kept, same, _, _⟩
      dsimp only
      split
      · next full => exact excessive_full full kept.laid.nfrag _
      · next room =>
          have more : ended.ah.nfrag + 1 < fragsSize := Nat.lt_of_not_le room
          obtain ⟨laid, len, index⟩ := kept.laid.started more tokenHttpUriArgs
          have started : Open context token
              (ended.nextFrag.freshFrag.withIndex tokenHttpUriArgs) :=
            ⟨laid, kept.room, kept.named, index token (.inl kept.index),
              by rw [len]; exact Nat.zero_le _, kept.limit⟩
          apply swallow_kept
          refine Open.kept ?_ (same.trans state)
          exact started.congr rfl rfl
  · exact checkEol_spec opened state c

private theorem endOfUri_spec (opened : Open context token p) :
    Safe (Kept context) (endOfUri context p) := by
  rw [endOfUri]
  have rooted : Safe (fun rooted => Open context token rooted)
      (if p.frag.len = 0 then issue context slash p else .ok p) := by
    split
    · exact (issue_spec opened slash).imp fun _ issued => issued.1
    · exact opened
  apply rooted.bind
  intro rooted kept
  have up : Open context token
      (if rooted.ups = .seenSlashDotDot then backUp rooted else rooted) := by
    split
    · exact kept.backUp.1
    · exact kept
  apply (issue_spec up 0).bind
  intro ended ⟨last, _, _, _⟩
  have http : tokenHttp < tokenCount ∧ tokenHttp ≠ tokenChallenge := by decide
  have started : Safe (fun next => Open context tokenHttp next ∧
      next.state = .token tokenHttp)
      (startFragment context { ended with state := .token tokenHttp }) :=
    startFragment_spec last.laid last.room rfl http last.limit
  exact started.imp fun _ next => next.1.kept next.2

private theorem uriStep_spec (opened : Open context token p) (state : p.state = .token token)
    (c : UInt8) : Safe (Kept context) (uriStep context c p) := by
  apply (unescape_spec opened c).bind
  intro ⟨unescaped, read⟩ ⟨kept, same⟩
  dsimp only at kept same ⊢
  cases unescaped with
  | none => exact swallow_kept (kept.kept (same.trans state))
  | some char =>
      apply (pathStep_spec kept char.1 char.2).bind
      intro ⟨issued, next⟩ ⟨keptNext, sameNext⟩
      dsimp only at keptNext sameNext ⊢
      have stateNext := sameNext.trans (same.trans state)
      cases issued with
      | none => exact swallow_kept (keptNext.kept stateNext)
      | some other => exact argsStep_spec keptNext stateNext other char.2

private theorem tokenStep_spec (opened : Open context token p) (state : p.state = .token token)
    (c : UInt8) : Safe (Kept context) (tokenStep context token c p) := by
  rw [tokenStep]
  split
  · exact opened.kept state
  · split
    · exact checkEol_spec opened state c
    · split
      · exact endOfUri_spec opened
      · exact uriStep_spec opened state c

/-! ### Names -/

private theorem setParsingComplete_spec (laid : Laid p.ah)
    (room : p.ah.pos ≤ context.maxHttpHeaderData) (ends : 0 < p.ah.nfrag → Sealed p) :
    Safe (Kept context) (setParsingComplete p) := by
  rw [setParsingComplete]
  split
  · exact fun same => by cases same
  · exact ⟨laid, room, fun _ same => (by cases same), fun same => (by cases same),
      fun _ => ends⟩

private theorem tokenLimit_pos (context : Context) (token : Nat) :
    0 < tokenLimit context token := by
  rw [tokenLimit]
  cases limited : context.tokenLimits with
  | none => exact context.positive
  | some limits => exact context.limits limits limited token

private theorem nameKnown_spec (laid : Laid p.ah) (room : p.ah.pos ≤ context.maxHttpHeaderData)
    (ends : 0 < p.ah.nfrag → Sealed p) {n : Nat} (known : n < 80) :
    Safe (Kept context) (nameKnown context n p) := by
  have counted : (if n = tokenSworigin then tokenOrigin else n) < tokenCount := by
    rw [tokenOrigin, tokenCount]
    split <;> omega
  rw [nameKnown]
  split
  · exact fun same => by cases same
  · generalize (if n = tokenSworigin then tokenOrigin else n) = token at counted ⊢
    dsimp only
    split
    · exact setParsingComplete_spec laid room ends
    · next reads =>
        have started : Safe (fun next => Open context token next ∧ next.state = .token token)
            (startFragment context { p with
              state := .token token
              currentTokenLimit := tokenLimit context token }) :=
          startFragment_spec laid room rfl ⟨counted, reads⟩
            (tokenLimit_pos context token)
        exact started.imp fun _ next => next.1.kept next.2

private theorem nameStep_spec (kept : Kept context p) (state : p.state = .namePart) (c : UInt8) :
    Safe (Kept context) (nameStep context c p) := by
  have ends : 0 < p.ah.nfrag → Sealed p :=
    kept.sealed fun token same => by rw [state] at same; cases same
  obtain ⟨pos, text, posIs, inside, reached⟩ := kept.name state
  rw [nameStep, posIs]
  dsimp only
  cases decoded : lextableDecode pos c with
  | none =>
      dsimp only
      split
      · exact fun same => by cases same
      · exact ⟨kept.laid, kept.room, fun _ same => (by cases same), fun same => (by cases same),
          fun _ => ends⟩
  | some next =>
      have longer : Matcher.Reached matcher 0 (text ++ [c]) next := reached.next inside decoded
      dsimp only
      cases token : terminal next with
      | none =>
          refine ⟨kept.laid, kept.room, fun _ same => ?_, fun _ => ⟨next, _, rfl, token, longer⟩,
            fun _ => ends⟩
          rw [state] at same
          cases same
      | some n =>
          have found := (lextable_finds (text ++ [c]) n).mp (longer.run_eq.trans token)
          exact nameKnown_spec (p := { p with lextablePos := some next }) kept.laid kept.room
            ends found.1

private theorem start_open : terminal 0 = none := by decide

private theorem lwsParse_spec (kept : Kept context p) (c : UInt8) :
    Safe (Kept context) (lwsParse context p c) := by
  rw [lwsParse]
  cases state : p.state with
  | token token => exact tokenStep_spec (kept.token token state) state c
  | namePart => exact nameStep_spec kept state c
  | skipping =>
      have ends := kept.sealed fun token same => by rw [state] at same; cases same
      dsimp only
      split
      · exact ⟨kept.laid, kept.room, fun _ same => (by cases same), fun same => (by cases same),
          fun _ => ends⟩
      · exact kept
  | skippingSawCr =>
      have ends := kept.sealed fun token same => by rw [state] at same; cases same
      dsimp only
      split
      · exact fun same => by cases same
      · split
        · exact ⟨kept.laid, kept.room, fun _ same => (by cases same), fun _ =>
            ⟨0, [], rfl, start_open, .start⟩,
            fun _ => ends⟩
        · exact ⟨kept.laid, kept.room, fun _ same => (by cases same),
            fun same => (by cases same), fun _ => ends⟩
  | complete => exact kept

/-! ### All of a request -/

private theorem begin_kept (context : Context) (p : Parser) :
    Kept context (beginHeaders (lwsHeaderTableReset p)) := by
  have nfrag : (beginHeaders (lwsHeaderTableReset p)).ah.nfrag = 0 := rfl
  refine ⟨⟨?_, fun _ => Nat.le_refl _, ?_, ?_, ?_⟩, Nat.zero_le _, fun _ same => (by cases same),
    fun _ => ⟨0, [], rfl, start_open, .start⟩, ?_⟩
  · rw [nfrag]
    decide
  · intro n positive within
    omega
  · intro i j positive before within
    omega
  · intro some
    omega
  · intro _ some
    omega

private theorem parseAll_spec (kept : Kept context p) (text : List UInt8) :
    Safe (Kept context) (parseAll context p text) := by
  induction text generalizing p with
  | nil => exact kept
  | cons c text ih =>
      have one := lwsParse_spec kept c
      rw [parseAll, List.foldlM_cons]
      exact one.bind fun next keptNext => ih keptNext

/-- The links come to an end, and all that they lead to is before the next character. -/
theorem totalFrom_spec {ah : Headers} (laid : Laid ah) (fuel n : Nat) (positive : 0 < n)
    (within : n ≤ ah.nfrag) (enough : ah.nfrag - n < fuel) :
    ∃ total, totalFrom ah.frags fuel n = some total ∧
      (ah.frags n).offset + total ≤ ah.pos := by
  induction fuel generalizing n with
  | zero => omega
  | succ fuel ih =>
      have current := laid.current (by omega)
      rw [totalFrom]
      by_cases ends : (ah.frags n).nfrag = 0
      · rw [if_pos ends]
        refine ⟨_, rfl, ?_⟩
        by_cases last : n = ah.nfrag
        · rw [last]
          exact current
        · have ordered := laid.ordered n ah.nfrag positive (by omega) (Nat.le_refl _)
          rw [Fragment.end_] at ordered current
          omega
      · have link := laid.links n positive within
        obtain ⟨rest, restIs, before⟩ :=
          ih (ah.frags n).nfrag (by omega) (by omega) (by omega)
        have ordered := laid.ordered n (ah.frags n).nfrag positive (by omega) (by omega)
        rw [Fragment.end_] at ordered
        rw [if_neg ends, restIs]
        exact ⟨(ah.frags n).len + rest, rfl, by omega⟩

/-- On no input is the parser at fault. Of what it has read the lengths are within the text, and
the text that a pointer is given to has its end there. -/
theorem parseAll_within (context : Context) (p : Parser) (text : List UInt8) :
    parseAll context (beginHeaders (lwsHeaderTableReset p)) text ≠ .error .fault ∧
      ∀ q, parseAll context (beginHeaders (lwsHeaderTableReset p)) text = .ok q →
        q.ah.pos ≤ context.maxHttpHeaderData ∧ q.ah.nfrag < fragsSize ∧
          (∀ token, ∃ total, lwsHdrTotalLength q.ah token = some total ∧ total ≤ q.ah.pos) ∧
          (q.state = .complete → ∀ token place, lwsHdrSimplePtr q.ah token = some place →
            ∃ last, place ≤ last ∧ last < q.ah.pos ∧ q.ah.data last = 0) := by
  have safe := parseAll_spec (begin_kept context p) text
  constructor
  · intro fault
    rw [fault] at safe
    exact safe rfl
  · intro q result
    rw [result] at safe
    refine ⟨safe.room, safe.laid.nfrag, ?_, ?_⟩
    · intro token
      rw [lwsHdrTotalLength]
      by_cases absent : q.ah.fragIndex token = 0
      · rw [if_pos absent]
        exact ⟨0, rfl, Nat.zero_le _⟩
      · have bound := safe.laid.nfrag
        obtain ⟨total, totalIs, before⟩ := totalFrom_spec safe.laid fragsSize
          (q.ah.fragIndex token) (Nat.pos_of_ne_zero absent) (safe.laid.index token) (by omega)
        rw [if_neg absent]
        exact ⟨total, totalIs, by omega⟩
    · intro complete token place pointer
      rw [lwsHdrSimplePtr] at pointer
      by_cases absent : q.ah.fragIndex token = 0
      · rw [if_pos absent] at pointer
        cases pointer
      · rw [if_neg absent] at pointer
        have index := safe.laid.index token
        have ended := safe.sealed (fun other same => by rw [complete] at same; cases same)
          (by omega)
        have start : q.frag.offset = (q.ah.frags q.ah.nfrag).offset := rfl
        rw [← Option.some.inj pointer]
        refine ⟨q.ah.pos - 1, ?_, ?_, ended.2⟩
        · have before := ended.1
          by_cases last : q.ah.fragIndex token = q.ah.nfrag
          · rw [last]
            omega
          · have ordered := safe.laid.ordered (q.ah.fragIndex token) q.ah.nfrag (by omega)
              (by omega) (Nat.le_refl _)
            rw [Fragment.end_] at ordered
            omega
        · have before := ended.1
          omega

end JSCameraKit.Libwebsockets.HeaderParser
