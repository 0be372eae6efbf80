import Mathlib.Data.List.Perm.Basic

set_option autoImplicit false

/-! Lists edited at one index: what is found in the edited list was there before, or is
the edited item. -/

namespace ListEdit

variable {Item : Type}

theorem modify_cases {items : List Item} {change : Item → Item} {number index : Nat}
    {item : Item} (found : (items.modify number change)[index]? = some item) :
    (index = number ∧ ∃ before, items[number]? = some before ∧ item = change before) ∨
      (index ≠ number ∧ items[index]? = some item) := by
  rw [List.getElem?_modify] at found
  obtain ⟨before, there, changed⟩ := Option.map_eq_some_iff.mp found
  split at changed
  · rename_i same
    subst same
    exact .inl ⟨rfl, before, there, changed.symm⟩
  · rename_i different
    rw [changed] at there
    exact .inr ⟨fun same => different same.symm, there⟩

theorem mem_modify {items : List Item} {change : Item → Item} {number : Nat} {item : Item}
    (member : item ∈ items.modify number change) :
    item ∈ items ∨ ∃ before, items[number]? = some before ∧ item = change before := by
  obtain ⟨index, found⟩ := List.mem_iff_getElem?.mp member
  rcases modify_cases found with ⟨_, edited⟩ | ⟨_, kept⟩
  · exact .inr edited
  · exact .inl (List.mem_of_getElem? kept)

theorem mem_modify_self {items : List Item} {number : Nat} {item : Item}
    (found : items[number]? = some item) (change : Item → Item) :
    change item ∈ items.modify number change := by
  apply List.mem_of_getElem?
  rw [List.getElem?_modify_eq, found]
  rfl

theorem set_cases {items : List Item} {number index : Nat} {placed item : Item}
    (found : (items.set number placed)[index]? = some item) :
    (index = number ∧ item = placed) ∨ (index ≠ number ∧ items[index]? = some item) := by
  by_cases same : index = number
  · subst same
    obtain ⟨inRange, here⟩ := List.getElem?_eq_some_iff.mp found
    rw [List.getElem_set_self] at here
    exact .inl ⟨rfl, here.symm⟩
  · rw [List.getElem?_set_ne (Ne.symm same)] at found
    exact .inr ⟨same, found⟩

theorem concat_cases {items : List Item} {index : Nat} {added item : Item}
    (found : (items ++ [added])[index]? = some item) :
    items[index]? = some item ∨ (index = items.length ∧ item = added) := by
  rcases Nat.lt_trichotomy index items.length with less | same | more
  · rw [List.getElem?_append_left less] at found
    exact .inl found
  · subst same
    rw [List.getElem?_concat_length] at found
    exact .inr ⟨rfl, (Option.some.inj found).symm⟩
  · rw [List.getElem?_eq_none (by rw [List.length_append, List.length_singleton]; omega)] at found
    cases found

theorem getElem?_modify_found {items : List Item} {number : Nat} {item : Item}
    (found : items[number]? = some item) (change : Item → Item) (index : Nat) :
    (items.modify number change)[index]? =
      if index = number then some (change item) else items[index]? := by
  rw [List.getElem?_modify]
  by_cases same : index = number
  · rw [same, found]
    simp
  · cases items[index]? <;> simp [Ne.symm same, same]

theorem countP_modify (holds : Item → Bool) (change : Item → Item) {items : List Item}
    {number : Nat} {item : Item} (found : items[number]? = some item) :
    (items.modify number change).countP holds + (if holds item then 1 else 0) =
      items.countP holds + (if holds (change item) then 1 else 0) := by
  induction items generalizing number with
  | nil => cases found
  | cons head rest ih =>
      cases number with
      | zero =>
          cases found
          rw [List.modify_zero_cons, List.countP_cons, List.countP_cons]
          omega
      | succ number =>
          have inside := ih found
          rw [List.modify_succ_cons, List.countP_cons, List.countP_cons]
          omega

theorem modify_concat (items : List Item) (item : Item) (change : Item → Item) :
    (items ++ [item]).modify items.length change = items ++ [change item] := by
  induction items with
  | nil => rfl
  | cons head items ih => exact congrArg (head :: ·) ih

theorem perm_cons_eraseIdx {items : List Item} {index : Nat} {item : Item}
    (found : items[index]? = some item) : items.Perm (item :: items.eraseIdx index) := by
  obtain ⟨inRange, rfl⟩ := List.getElem?_eq_some_iff.mp found
  exact (List.getElem_cons_eraseIdx_perm inRange).symm

/-- An item taken from one list goes behind another. -/
theorem perm_moved {items rest : List Item} {item : Item} (taken : items.Perm (item :: rest))
    (others : List Item) : (rest ++ (others ++ [item])).Perm (items ++ others) := by
  rw [← List.append_assoc]
  have front : (rest ++ others ++ [item]).Perm ((item :: rest) ++ others) :=
    List.perm_append_comm
  exact front.trans (taken.symm.append_right others)

end ListEdit
