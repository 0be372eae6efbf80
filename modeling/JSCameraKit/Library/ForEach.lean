import Mathlib.Data.List.Basic

set_option autoImplicit false

/-! `Array.prototype.forEach` over a list that its visits change. The length is read once,
before the first turn, and each turn looks up its index in the list as it stands then. An
item that removes itself moves the items behind it to the front by one, so that the turn
of the next one has passed. -/

namespace ForEach

variable {State Item Key : Type}

/-- The turns from an index on. -/
def turns (items : State → List Item) (visit : Item → State → State) :
    Nat → Nat → State → State
  | 0, _, state => state
  | left + 1, index, state =>
      match (items state)[index]? with
      | none => turns items visit left (index + 1) state
      | some item => turns items visit left (index + 1) (visit item state)

def forEach (items : State → List Item) (visit : Item → State → State) (state : State) : State :=
  turns items visit (items state).length 0 state

/-- The items left and those that removed themselves, where `takes` tells which do. -/
def walk (takes : Item → Bool) : List Item → List Item × List Item
  | [] => ([], [])
  | [item] => if takes item then ([], [item]) else ([item], [])
  | item :: next :: rest =>
      if takes item then (next :: (walk takes rest).1, item :: (walk takes rest).2)
      else (item :: (walk takes (next :: rest)).1, (walk takes (next :: rest)).2)

/-- A visit removes its own item, found by its key, or does nothing. -/
structure SelfRemoving [DecidableEq Key] (items : State → List Item)
    (visit : Item → State → State) (takes : Item → Bool) (key : Item → Key) : Prop where
  taken : ∀ item state, takes item = true →
    items (visit item state) = (items state).eraseP fun other => key other = key item
  kept : ∀ item state, takes item = false → visit item state = state

/-! ### Every list -/

theorem turns_preserves {items : State → List Item} {visit : Item → State → State}
    (good : State → Prop) (keeps : ∀ item state, good state → good (visit item state))
    (left index : Nat) (state : State) (holds : good state) :
    good (turns items visit left index state) := by
  induction left generalizing index state with
  | zero => exact holds
  | succ left ih =>
      unfold turns
      split
      · exact ih (index + 1) state holds
      · exact ih (index + 1) _ (keeps _ state holds)

/-- What every visit preserves is preserved. -/
theorem forEach_preserves {items : State → List Item} {visit : Item → State → State}
    (good : State → Prop) (keeps : ∀ item state, good state → good (visit item state))
    {state : State} (holds : good state) : good (forEach items visit state) :=
  turns_preserves good keeps (items state).length 0 state holds

/-! ### The walk -/

theorem turns_past (items : State → List Item) (visit : Item → State → State) (left : Nat)
    (index : Nat) (state : State) (past : (items state).length ≤ index) :
    turns items visit left index state = state := by
  induction left generalizing index with
  | zero => rfl
  | succ left ih =>
      rw [turns, List.getElem?_eq_none past]
      apply ih
      omega

theorem eraseP_key [DecidableEq Key] (key : Item → Key) (before : List Item) (item : Item)
    (rest : List Item) (distinct : ((before ++ item :: rest).map key).Nodup) :
    (before ++ item :: rest).eraseP (fun other => key other = key item) = before ++ rest := by
  rw [List.map_append, List.map_cons, List.nodup_append] at distinct
  have away : ∀ other ∈ before, ¬decide (key other = key item) = true := by
    intro other member same
    exact distinct.2.2 (key other) (List.mem_map_of_mem member) (key item) List.mem_cons_self
      (of_decide_eq_true same)
  rw [List.eraseP_append_right _ away, List.eraseP_cons, decide_eq_true rfl, cond_true]

/-- The turns over the rest of the list, once the items before it have had theirs. -/
theorem turns_eq_walk [DecidableEq Key] {items : State → List Item}
    {visit : Item → State → State} {takes : Item → Bool} {key : Item → Key}
    (removing : SelfRemoving items visit takes key) (rest before : List Item) (left : Nat)
    (state : State) (same : items state = before ++ rest)
    (distinct : ((before ++ rest).map key).Nodup) (enough : rest.length ≤ left) :
    turns items visit left before.length state =
        (walk takes rest).2.foldl (fun state item => visit item state) state ∧
      items (turns items visit left before.length state) = before ++ (walk takes rest).1 := by
  induction rest using walk.induct takes generalizing before left state with
  | case1 =>
      rw [List.append_nil] at same
      rw [turns_past items visit left before.length state (Nat.le_of_eq (by rw [same]))]
      exact ⟨rfl, same.trans (List.append_nil before).symm⟩
  | case2 item taken =>
      obtain ⟨left, rfl⟩ : ∃ later, left = later + 1 := Nat.exists_eq_add_of_le' enough
      have visited := removing.taken item state taken
      rw [same, eraseP_key key before item [] distinct, List.append_nil] at visited
      rw [turns, same, List.getElem?_concat_length]
      dsimp only
      rw [turns_past items visit left _ _ (by rw [visited]; omega), walk, if_pos taken]
      exact ⟨rfl, visited.trans (List.append_nil before).symm⟩
  | case3 item notTaken =>
      obtain ⟨left, rfl⟩ : ∃ later, left = later + 1 := Nat.exists_eq_add_of_le' enough
      rw [turns, same, List.getElem?_concat_length]
      dsimp only
      rw [removing.kept item state (Bool.eq_false_iff.mpr notTaken),
        turns_past items visit left _ _ (by rw [same]; simp), walk, if_neg notTaken]
      exact ⟨rfl, same⟩
  | case4 item next rest taken ih =>
      obtain ⟨left, rfl⟩ : ∃ later, left = later + 1 :=
        Nat.exists_eq_add_of_le' (Nat.le_trans (by simp) enough)
      have visited := removing.taken item state taken
      rw [same, eraseP_key key before item (next :: rest) distinct, List.append_cons] at visited
      have fewer : ((before ++ [next] ++ rest).map key).Nodup := by
        refine distinct.sublist (List.Sublist.map key ?_)
        rw [List.append_assoc]
        exact (List.sublist_cons_self item (next :: rest)).append_left before
      have later := ih (before ++ [next]) left (visit item state) visited fewer
        (by simp only [List.length_cons] at enough; omega)
      rw [turns, same, List.getElem?_append_right (Nat.le_refl _), Nat.sub_self,
        List.getElem?_cons_zero]
      dsimp only
      rw [List.length_append, List.length_singleton] at later
      rw [walk, if_pos taken, later.2, List.append_assoc]
      exact ⟨later.1, rfl⟩
  | case5 item next rest notTaken ih =>
      obtain ⟨left, rfl⟩ : ∃ later, left = later + 1 :=
        Nat.exists_eq_add_of_le' (Nat.le_trans (by simp) enough)
      have moved : before ++ item :: next :: rest = before ++ [item] ++ next :: rest := by
        rw [List.append_assoc, List.singleton_append]
      have later := ih (before ++ [item]) left state (same.trans moved) (moved ▸ distinct)
        (by simp only [List.length_cons] at enough ⊢; omega)
      rw [turns, same, List.getElem?_append_right (Nat.le_refl _), Nat.sub_self,
        List.getElem?_cons_zero]
      dsimp only
      rw [removing.kept item state (Bool.eq_false_iff.mpr notTaken)]
      rw [List.length_append, List.length_singleton] at later
      rw [walk, if_neg notTaken, later.2, List.append_assoc]
      exact ⟨later.1, rfl⟩

theorem forEach_eq_walk [DecidableEq Key] {items : State → List Item}
    {visit : Item → State → State} {takes : Item → Bool} {key : Item → Key}
    (removing : SelfRemoving items visit takes key) (state : State)
    (distinct : ((items state).map key).Nodup) :
    forEach items visit state =
        (walk takes (items state)).2.foldl (fun state item => visit item state) state ∧
      items (forEach items visit state) = (walk takes (items state)).1 :=
  turns_eq_walk removing (items state) [] (items state).length state rfl distinct (Nat.le_refl _)

/-! ### Who is missed -/

theorem walk_left_sublist (takes : Item → Bool) (items : List Item) :
    (walk takes items).1.Sublist items := by
  induction items using walk.induct takes with
  | case1 => exact .slnil
  | case2 item taken =>
      rw [walk, if_pos taken]
      exact List.nil_sublist [item]
  | case3 item notTaken =>
      rw [walk, if_neg notTaken]
  | case4 item next rest taken ih =>
      rw [walk, if_pos taken]
      exact .cons item (.cons_cons next ih)
  | case5 item next rest notTaken ih =>
      rw [walk, if_neg notTaken]
      exact .cons_cons item ih

theorem walk_taken_sublist (takes : Item → Bool) (items : List Item) :
    (walk takes items).2.Sublist items := by
  induction items using walk.induct takes with
  | case1 => exact .slnil
  | case2 item taken =>
      rw [walk, if_pos taken]
  | case3 item notTaken =>
      rw [walk, if_neg notTaken]
      exact List.nil_sublist [item]
  | case4 item next rest taken ih =>
      rw [walk, if_pos taken]
      exact .cons_cons item (.cons next ih)
  | case5 item next rest notTaken ih =>
      rw [walk, if_neg notTaken]
      exact .cons item ih

theorem mem_walk {takes : Item → Bool} {items : List Item} {item : Item} (member : item ∈ items) :
    item ∈ (walk takes items).1 ∨ item ∈ (walk takes items).2 := by
  induction items using walk.induct takes with
  | case1 => cases member
  | case2 head taken =>
      rw [walk, if_pos taken]
      exact .inr member
  | case3 head notTaken =>
      rw [walk, if_neg notTaken]
      exact .inl member
  | case4 head next rest taken ih =>
      rw [walk, if_pos taken]
      rcases List.mem_cons.mp member with rfl | behind
      · exact .inr List.mem_cons_self
      · rcases List.mem_cons.mp behind with rfl | later
        · exact .inl List.mem_cons_self
        · exact (ih later).imp (List.mem_cons_of_mem next) (List.mem_cons_of_mem head)
  | case5 head next rest notTaken ih =>
      rw [walk, if_neg notTaken]
      rcases List.mem_cons.mp member with rfl | behind
      · exact .inl List.mem_cons_self
      · exact (ih behind).imp_left (List.mem_cons_of_mem head)

/-- Where at most one item removes itself, none is missed. -/
theorem walk_eq_filter (takes : Item → Bool) (items : List Item)
    (atMostOne : (items.filter takes).length ≤ 1) :
    walk takes items = (items.filter fun item => !takes item, items.filter takes) := by
  induction items using walk.induct takes with
  | case1 => rfl
  | case2 item taken => simp [walk, taken]
  | case3 item notTaken => simp [walk, notTaken]
  | case4 item next rest taken ih =>
      rw [List.filter_cons_of_pos taken, List.length_cons] at atMostOne
      have none : (next :: rest).filter takes = [] := List.length_eq_zero_iff.mp (by omega)
      rw [List.filter_eq_nil_iff, List.forall_mem_cons] at none
      have noRest : rest.filter takes = [] := List.filter_eq_nil_iff.mpr none.2
      rw [walk, if_pos taken, ih (by rw [noRest]; exact Nat.zero_le 1)]
      simp [taken, none.1, noRest]
  | case5 item next rest notTaken ih =>
      rw [List.filter_cons_of_neg notTaken] at atMostOne ⊢
      have stays : (!takes item) = true := by simp [notTaken]
      rw [walk, if_neg notTaken, ih atMostOne,
        @List.filter_cons_of_pos Item (fun item => !takes item) item (next :: rest) stays]

/-- Where every item removes itself, every second one is called and the others are missed. -/
theorem walk_all_taken (items : List Item) (index : Nat) :
    (walk (fun _ => true) items).2[index]? = items[2 * index]? := by
  induction items using walk.induct (fun _ => true) generalizing index with
  | case1 => rfl
  | case2 item taken =>
      rw [walk, if_pos taken]
      cases index with
      | zero => rfl
      | succ index => exact (List.getElem?_eq_none (by simp; omega)).symm
  | case3 item notTaken => exact absurd rfl notTaken
  | case4 item next rest taken ih =>
      rw [walk, if_pos taken]
      cases index with
      | zero => rfl
      | succ index => exact ih index
  | case5 item next rest notTaken ih => exact absurd rfl notTaken

end ForEach
