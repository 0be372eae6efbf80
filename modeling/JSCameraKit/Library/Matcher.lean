import Mathlib.Data.List.Nodup

set_option autoImplicit false

/-! A matcher takes a text symbol by symbol and stops at the first token. Where its steps are
listed, the words that lead to a token can be listed as well, and the matcher accepts these
words and nothing else. -/

namespace Matcher

variable {State Symbol Token : Type} [DecidableEq Symbol]

structure Steps (State Symbol Token : Type) where
  next : State → Symbol → Option State
  token : State → Option Token

/-- The token of a text that ends where the token is reached. -/
def run (steps : Steps State Symbol Token) : State → List Symbol → Option Token
  | state, [] => steps.token state
  | state, symbol :: rest =>
      match steps.token state with
      | some _ => none
      | none => (steps.next state symbol).bind fun after => run steps after rest

/-- The words from a state that are shorter than the fuel. -/
def words (steps : Steps State Symbol Token)
    (edges : State → Option (List (Symbol × State))) :
    Nat → State → List (List Symbol × Token)
  | 0, _ => []
  | fuel + 1, state =>
      match steps.token state with
      | some token => [([], token)]
      | none =>
          ((edges state).getD []).flatMap fun edge =>
            (words steps edges fuel edge.2).map fun word => (edge.1 :: word.1, word.2)

/-- Every way from a state goes on to a token before the fuel is used, the edges of all states
on it are known, and no symbol has two of them. -/
def bounded (steps : Steps State Symbol Token)
    (edges : State → Option (List (Symbol × State))) : Nat → State → Bool
  | 0, _ => false
  | fuel + 1, state =>
      match steps.token state with
      | some _ => true
      | none =>
          match edges state with
          | none => false
          | some listed =>
              !listed.isEmpty && decide (listed.map Prod.fst).Nodup &&
                listed.all fun edge => bounded steps edges fuel edge.2

variable {steps : Steps State Symbol Token} {edges : State → Option (List (Symbol × State))}
  {fold : Symbol → Symbol}

/-- The step of a symbol is the edge of the symbol that it counts as. -/
def Agrees (steps : Steps State Symbol Token)
    (edges : State → Option (List (Symbol × State))) (fold : Symbol → Symbol) : Prop :=
  ∀ state listed symbol, edges state = some listed →
    steps.next state symbol = (listed.find? fun edge => edge.1 = fold symbol).map Prod.snd

theorem next_eq_some_iff (agrees : Agrees steps edges fold) {state : State}
    {listed : List (Symbol × State)} (known : edges state = some listed)
    (distinct : (listed.map Prod.fst).Nodup) (symbol : Symbol) (after : State) :
    steps.next state symbol = some after ↔ (fold symbol, after) ∈ listed := by
  rw [agrees state listed symbol known, Option.map_eq_some_iff]
  constructor
  · rintro ⟨edge, found, rfl⟩
    have same : edge.1 = fold symbol := by simpa using List.find?_some found
    rw [← same]
    exact List.mem_of_find?_eq_some found
  · intro member
    have exists_ : (listed.find? fun edge => edge.1 = fold symbol).isSome :=
      List.find?_isSome.mpr ⟨_, member, by simp⟩
    obtain ⟨edge, found⟩ := Option.isSome_iff_exists.mp exists_
    have same : edge.1 = fold symbol := by simpa using List.find?_some found
    refine ⟨edge, found, ?_⟩
    rw [List.inj_on_of_nodup_map distinct (List.mem_of_find?_eq_some found) member same]

/-- The matcher accepts the words and nothing else. -/
theorem run_eq_some_iff (agrees : Agrees steps edges fold) (fuel : Nat) (state : State)
    (short : bounded steps edges fuel state = true) (text : List Symbol) (token : Token) :
    run steps state text = some token ↔ (text.map fold, token) ∈ words steps edges fuel state := by
  induction fuel generalizing state text with
  | zero => cases short
  | succ fuel ih =>
      rw [bounded] at short
      rw [words]
      cases reached : steps.token state with
      | some other =>
          cases text with
          | nil => simp [run, reached, eq_comm]
          | cons symbol rest => simp [run, reached]
      | none =>
          cases known : edges state with
          | none => simp only [reached, known, Bool.false_eq_true] at short
          | some listed =>
              simp only [reached, known, Bool.and_eq_true, decide_eq_true_eq,
                List.all_eq_true] at short
              have stepIff := next_eq_some_iff agrees known short.1.2
              cases text with
              | nil => simp [run, reached]
              | cons symbol rest =>
                  have stepped : run steps state (symbol :: rest) =
                      (steps.next state symbol).bind fun after => run steps after rest := by
                    rw [run, reached]
                  rw [stepped, Option.bind_eq_some_iff, List.map_cons, List.mem_flatMap]
                  constructor
                  · rintro ⟨after, stepIs, found⟩
                    have member := (stepIff symbol after).mp stepIs
                    have longer := (ih after (short.2 _ member) rest).mp found
                    exact ⟨_, member, List.mem_map.mpr ⟨_, longer, rfl⟩⟩
                  · rintro ⟨⟨first, after⟩, member, found⟩
                    obtain ⟨⟨tail, last⟩, longer, same⟩ := List.mem_map.mp found
                    simp only [Prod.mk.injEq, List.cons.injEq] at same
                    obtain ⟨⟨rfl, rfl⟩, rfl⟩ := same
                    exact ⟨after, (stepIff symbol after).mpr member,
                      (ih after (short.2 _ member) rest).mpr longer⟩

/-! ### Symbol by symbol -/

omit [DecidableEq Symbol] in
theorem token_eq_none_of_run {state : State} {symbol : Symbol} {rest : List Symbol}
    {token : Token} (found : run steps state (symbol :: rest) = some token) :
    steps.token state = none := by
  cases reached : steps.token state with
  | none => rfl
  | some other =>
      rw [run, reached] at found
      cases found

omit [DecidableEq Symbol] in
theorem run_cons_eq_some {state : State} {symbol : Symbol} {rest : List Symbol}
    {token : Token} (found : run steps state (symbol :: rest) = some token) :
    ∃ after, steps.next state symbol = some after ∧ run steps after rest = some token := by
  have reached := token_eq_none_of_run found
  rw [run, reached] at found
  exact Option.bind_eq_some_iff.mp found

/-- The states that a text leads to with no token before its end. -/
inductive Reached (steps : Steps State Symbol Token) (start : State) :
    List Symbol → State → Prop
  | start : Reached steps start [] start
  | next {text : List Symbol} {state after : State} {symbol : Symbol} :
      Reached steps start text state → steps.token state = none →
        steps.next state symbol = some after → Reached steps start (text ++ [symbol]) after

omit [DecidableEq Symbol] in
theorem Reached.run_append {start state : State} {text : List Symbol}
    (reached : Reached steps start text state) (rest : List Symbol) :
    run steps start (text ++ rest) = run steps state rest := by
  induction reached generalizing rest with
  | start => rfl
  | next _ open_ stepped ih =>
      rw [List.append_assoc, List.singleton_append, ih, run, open_, stepped]
      rfl

omit [DecidableEq Symbol] in
/-- The token of the state that a text leads to is the token of the text. -/
theorem Reached.run_eq {start state : State} {text : List Symbol}
    (reached : Reached steps start text state) : run steps start text = steps.token state := by
  have at_end := reached.run_append []
  rw [List.append_nil] at at_end
  rw [at_end, run]

omit [DecidableEq Symbol] in
theorem Reached.cons {start after state : State} {symbol : Symbol} {text : List Symbol}
    (open_ : steps.token start = none) (stepped : steps.next start symbol = some after)
    (reached : Reached steps after text state) : Reached steps start (symbol :: text) state := by
  induction reached with
  | start => exact .next .start open_ stepped
  | next _ openRest steppedRest ih => exact .next ih openRest steppedRest

/-- From every state there is a word. -/
theorem words_ne_nil (fuel : Nat) (state : State)
    (short : bounded steps edges fuel state = true) : words steps edges fuel state ≠ [] := by
  induction fuel generalizing state with
  | zero => cases short
  | succ fuel ih =>
      rw [bounded] at short
      rw [words]
      cases reached : steps.token state with
      | some token => exact List.cons_ne_nil _ _
      | none =>
          cases known : edges state with
          | none => simp only [reached, known, Bool.false_eq_true] at short
          | some listed =>
              simp only [reached, known, Bool.and_eq_true, List.all_eq_true] at short
              cases listed with
              | nil => simp at short
              | cons edge more =>
                  have rest := ih edge.2 (short.2 edge List.mem_cons_self)
                  simp [rest]

/-- A text has a word of the matcher at its start, or a symbol that the matcher does not know
behind what it does know, or it is itself the start of a word. -/
theorem walk_cases (agrees : Agrees steps edges fold) (fuel : Nat) (state : State)
    (short : bounded steps edges fuel state = true) (text : List Symbol) :
    (∃ word ∈ words steps edges fuel state, word.1 <+: text.map fold) ∨
      (∃ before symbol rest after, text = before ++ symbol :: rest ∧
        Reached steps state before after ∧ steps.token after = none ∧
          steps.next after symbol = none) ∨
      ∃ word ∈ words steps edges fuel state, text.map fold <+: word.1 := by
  induction fuel generalizing state text with
  | zero => cases short
  | succ fuel ih =>
      cases text with
      | nil =>
          obtain ⟨word, member⟩ := List.exists_mem_of_ne_nil _
            (words_ne_nil (fuel + 1) state short)
          exact .inr (.inr ⟨word, member, List.nil_prefix⟩)
      | cons symbol rest =>
          rw [bounded] at short
          rw [words]
          cases reached : steps.token state with
          | some token => exact .inl ⟨_, List.mem_singleton_self _, List.nil_prefix⟩
          | none =>
              cases known : edges state with
              | none => simp only [reached, known, Bool.false_eq_true] at short
              | some listed =>
                  simp only [reached, known, Bool.and_eq_true, decide_eq_true_eq,
                    List.all_eq_true] at short
                  have stepIff := next_eq_some_iff agrees known short.1.2 symbol
                  cases stepIs : steps.next state symbol with
                  | none => exact .inr (.inl ⟨[], symbol, rest, state, rfl, .start, reached, stepIs⟩)
                  | some after =>
                      have member := (stepIff after).mp stepIs
                      have longer (word : List Symbol × Token)
                          (found : word ∈ words steps edges fuel after) :
                          (fold symbol :: word.1, word.2) ∈ ((some listed).getD []).flatMap
                            fun edge => (words steps edges fuel edge.2).map
                              fun word => (edge.1 :: word.1, word.2) :=
                        List.mem_flatMap.mpr ⟨_, member, List.mem_map.mpr ⟨word, found, rfl⟩⟩
                      rcases ih after (short.2 _ member) rest with
                        ⟨word, found, start⟩ | ⟨before, other, more, last, parts, way, fails⟩ |
                        ⟨word, found, start⟩
                      · exact .inl ⟨_, longer word found, List.cons_prefix_cons.mpr ⟨rfl, start⟩⟩
                      · exact .inr (.inl ⟨symbol :: before, other, more, last, by rw [parts]; rfl,
                          way.cons reached stepIs, fails⟩)
                      · exact .inr (.inr
                          ⟨_, longer word found, List.cons_prefix_cons.mpr ⟨rfl, start⟩⟩)

end Matcher
