import Mathlib.Data.List.Basic

set_option autoImplicit false

/-! A list walked by its indices while the visits edit it: they take items out, wherever these
stand, and add new ones at the end. The length is read once, before the first turn. The walk
is compared with what a walk over a copy of the list is for: each item of the copy has its
turn unless it was taken out in the turn of an item before it. -/

namespace LiveWalk

variable {State Item : Type}

structure Turn (State Item : Type) where
  item : Item
  before : State
  after : State

/-- The turns from an index on. A visit that does not finish ends the walk. -/
def turns (items : State → List Item) (visit : Item → State → State × Bool) :
    Nat → Nat → State → List (Turn State Item)
  | 0, _, _ => []
  | left + 1, index, state =>
      match (items state)[index]? with
      | none => turns items visit left (index + 1) state
      | some item =>
          ⟨item, state, (visit item state).1⟩ ::
            if (visit item state).2 then turns items visit left (index + 1) (visit item state).1
            else []

variable {items : State → List Item} {visit : Item → State → State × Bool}
  {number : Item → Nat} {bound : State → Nat}

theorem turns_of_found (visit : Item → State → State × Bool) {index : Nat} {state : State}
    {item : Item} (left : Nat) (found : (items state)[index]? = some item) :
    turns items visit (left + 1) index state =
      ⟨item, state, (visit item state).1⟩ ::
        if (visit item state).2 then turns items visit left (index + 1) (visit item state).1
        else [] := by
  rw [turns, found]

theorem turns_eq_nil_iff (left index : Nat) (state : State) :
    turns items visit left index state = [] ↔ left = 0 ∨ (items state).length ≤ index := by
  induction left generalizing index with
  | zero => exact ⟨fun _ => .inl rfl, fun _ => rfl⟩
  | succ left ih =>
      rw [turns]
      split
      next past =>
        have outside := List.getElem?_eq_none_iff.mp past
        rw [ih]
        omega
      next item found =>
        obtain ⟨inside, _⟩ := List.getElem?_eq_some_iff.mp found
        constructor
        · intro same
          cases same
        · omega

/-- The state that the turns end in, and whether each visit finished. -/
def walk (items : State → List Item) (visit : Item → State → State × Bool) :
    Nat → Nat → State → State × Bool
  | 0, _, state => (state, true)
  | left + 1, index, state =>
      match (items state)[index]? with
      | none => walk items visit left (index + 1) state
      | some item =>
          if (visit item state).2 then walk items visit left (index + 1) (visit item state).1
          else visit item state

theorem walk_finishes_iff (left index : Nat) (state : State) :
    (walk items visit left index state).2 = true ↔
      ∀ turn ∈ turns items visit left index state, (visit turn.item turn.before).2 = true := by
  induction left generalizing index state with
  | zero => exact iff_of_true rfl (List.forall_mem_nil _)
  | succ left ih =>
      rw [walk, turns]
      split
      next => exact ih (index + 1) state
      next item found =>
        rw [List.forall_mem_cons]
        split
        next finished =>
          rw [ih (index + 1)]
          exact ⟨fun rest => ⟨finished, rest⟩, And.right⟩
        next throws => exact iff_of_false throws fun both => throws both.1

/-- What every visit keeps holds before each turn, of an item that is in the list then. -/
theorem forall_turns_of_kept (items : State → List Item)
    (visit : Item → State → State × Bool) (good : State → Prop)
    (keep : ∀ item state, item ∈ items state → good state → good (visit item state).1)
    (left index : Nat) (state : State) (holds : good state) :
    ∀ turn ∈ turns items visit left index state,
      turn.item ∈ items turn.before ∧ good turn.before := by
  induction left generalizing index state with
  | zero => exact List.forall_mem_nil _
  | succ left ih =>
      rw [turns]
      split
      next => exact ih (index + 1) state holds
      next item found =>
        have member : item ∈ items state := List.mem_of_getElem? found
        rw [List.forall_mem_cons]
        refine ⟨⟨member, holds⟩, ?_⟩
        split
        next => exact ih (index + 1) _ (keep item state member holds)
        next => exact List.forall_mem_nil _

variable [DecidableEq Item]

/-- No turn of an item before this one took it out. -/
def Stays (items : State → List Item) (number : Item → Nat) (walk : List (Turn State Item))
    (item : Item) : Prop :=
  ∀ turn ∈ walk, number turn.item < number item → item ∈ items turn.before →
    item ∈ items turn.after

instance (items : State → List Item) (number : Item → Nat) (walk : List (Turn State Item)) :
    DecidablePred (Stays items number walk) :=
  fun item => inferInstanceAs (Decidable (∀ turn ∈ walk, number turn.item < number item →
    item ∈ items turn.before → item ∈ items turn.after))

/-- The items that have a turn are those of the copy that stay, once each and in order. -/
def ReachesEach (items : State → List Item) (number : Item → Nat) (copy : List Item)
    (walk : List (Turn State Item)) : Prop :=
  walk.map Turn.item = copy.filter (Stays items number walk)

instance (items : State → List Item) (number : Item → Nat) (copy : List Item)
    (walk : List (Turn State Item)) : Decidable (ReachesEach items number copy walk) :=
  inferInstanceAs (Decidable (walk.map Turn.item = copy.filter (Stays items number walk)))

/-- The copy is gone through, and what has been taken out is left out. A visit finishes, and
takes out no item that has had its turn, as long as another item waits for its own. Once none
waits, the list has no item where the walk goes on. -/
def Undisturbed (items : State → List Item) (visit : Item → State → State × Bool)
    (number : Item → Nat) : List Item → Nat → Nat → State → Prop
  | [], left, index, state => left = 0 ∨ (items state).length ≤ index
  | item :: rest, left, index, state =>
      if item ∈ items state then
        ((∃ waiting ∈ rest, waiting ∈ items (visit item state).1) →
          (visit item state).2 = true ∧
            ∀ passed ∈ items state, number passed ≤ number item →
              passed ∈ items (visit item state).1) ∧
        ((visit item state).2 = true →
          Undisturbed items visit number rest (left - 1) (index + 1) (visit item state).1)
      else Undisturbed items visit number rest left index state

/-- Items taken out of a list, and new ones at the end, with numbers from a bound on. -/
def Edited (number : Item → Nat) (bound : Nat) (old new : List Item) : Prop :=
  ∃ added, new = old.filter (· ∈ new) ++ added ∧ ∀ item ∈ added, bound ≤ number item

structure Edits (items : State → List Item) (visit : Item → State → State × Bool)
    (number : Item → Nat) (bound : State → Nat) : Prop where
  below : ∀ state, ∀ item ∈ items state, number item < bound state
  grows : ∀ item state, bound state ≤ bound (visit item state).1
  edited : ∀ item state,
    Edited number (bound state) (items state) (items (visit item state).1)

/-! ### Edited lists -/

theorem eq_filter_of_sublist {old new : List Item} (distinct : old.Nodup)
    (sublist : new.Sublist old) : new = old.filter (· ∈ new) := by
  induction sublist with
  | slnil => rfl
  | @cons new old item sublist ih =>
      have distinct := List.nodup_cons.mp distinct
      have away : item ∉ new := fun member => distinct.1 (sublist.subset member)
      rw [List.filter_cons, if_neg (by simpa using away)]
      exact ih distinct.2
  | @cons_cons new old item sublist ih =>
      have distinct := List.nodup_cons.mp distinct
      have others : old.filter (· ∈ item :: new) = old.filter (· ∈ new) := by
        apply List.filter_congr
        intro other member
        have different : other ≠ item := fun same => distinct.1 (same ▸ member)
        simp [different]
      rw [List.filter_cons, if_pos (decide_eq_true List.mem_cons_self), others, ← ih distinct.2]

theorem Edited.of_sublist {old new : List Item} (bound : Nat) (distinct : old.Nodup)
    (sublist : new.Sublist old) : Edited number bound old new :=
  ⟨[], by rw [List.append_nil]; exact eq_filter_of_sublist distinct sublist,
    List.forall_mem_nil _⟩

theorem Edited.refl (bound : Nat) (old : List Item) : Edited number bound old old := by
  have all : old.filter (· ∈ old) = old :=
    List.filter_eq_self.mpr fun item member => decide_eq_true member
  exact ⟨[], by rw [all, List.append_nil], List.forall_mem_nil _⟩

theorem Edited.concat {bound : Nat} (old : List Item) {item : Item}
    (new : bound ≤ number item) : Edited number bound old (old ++ [item]) := by
  have all : old.filter (· ∈ old ++ [item]) = old :=
    List.filter_eq_self.mpr fun item member => decide_eq_true (List.mem_append_left _ member)
  exact ⟨[item], by rw [all], List.forall_mem_singleton.mpr new⟩

theorem Edited.trans {first second : Nat} {old mid new : List Item}
    (front : Edited number first old mid) (grows : first ≤ second)
    (below : ∀ item ∈ old, number item < second) (back : Edited number second mid new) :
    Edited number first old new := by
  obtain ⟨added, midSame, addedNew⟩ := front
  obtain ⟨more, newSame, moreNew⟩ := back
  have between : old.filter (· ∈ new) = (old.filter (· ∈ mid)).filter (· ∈ new) := by
    rw [List.filter_filter]
    apply List.filter_congr
    intro item member
    by_cases kept : item ∈ new
    · have there : item ∈ mid := by
        rw [newSame, List.mem_append] at kept
        rcases kept with stayed | fresh
        · exact List.mem_of_mem_filter stayed
        · have above := moreNew item fresh
          have less := below item member
          omega
      simp [kept, there]
    · simp [kept]
  refine ⟨added.filter (· ∈ new) ++ more, ?_, ?_⟩
  · rw [between, ← List.append_assoc, ← List.filter_append, ← midSame]
    exact newSame
  · intro item member
    rcases List.mem_append.mp member with early | late
    · exact addedNew item (List.mem_of_mem_filter early)
    · exact Nat.le_trans grows (moreNew item late)

/-! ### The list behind an index -/

omit [DecidableEq Item] in
theorem mem_drop_of_mem_drop_filter {test : Item → Bool} (list : List Item) (index : Nat)
    {item : Item} (member : item ∈ (list.filter test).drop index) : item ∈ list.drop index := by
  induction list generalizing index with
  | nil => exact member
  | cons head rest ih =>
      cases index with
      | zero => exact List.mem_of_mem_filter member
      | succ index =>
          rw [List.drop_succ_cons]
          by_cases passes : test head = true
          · rw [List.filter_cons_of_pos passes, List.drop_succ_cons] at member
            exact ih index member
          · rw [List.filter_cons_of_neg passes] at member
            exact List.mem_of_mem_drop
              (by rw [List.drop_drop]; exact ih (index + 1) member :
                item ∈ (rest.drop index).drop 1)

namespace Edits

variable (edits : Edits items visit number bound)
include edits

theorem mem_before {item old : Item} {state : State} (below : number old < bound state)
    (member : old ∈ items (visit item state).1) : old ∈ items state := by
  obtain ⟨added, same, new⟩ := edits.edited item state
  rw [same, List.mem_append] at member
  rcases member with kept | fresh
  · exact List.mem_of_mem_filter kept
  · have above := new old fresh
    omega

/-- Where all items from an index on have greater numbers, so have those of the later turns:
items only move to the front, and new ones are behind. -/
theorem number_lt_of_turn {least : Nat} (left index : Nat) (state : State)
    (small : least < bound state) (above : ∀ item ∈ (items state).drop index, least < number item) :
    ∀ turn ∈ turns items visit left index state, least < number turn.item := by
  induction left generalizing index state with
  | zero =>
      intro turn member
      cases member
  | succ left ih =>
      intro turn member
      have next : ∀ item ∈ (items state).drop (index + 1), least < number item := by
        intro item behind
        rw [← List.drop_drop] at behind
        exact above item (List.mem_of_mem_drop behind)
      rw [turns] at member
      split at member
      next past => exact ih (index + 1) state small next turn member
      next item found =>
        rcases List.mem_cons.mp member with rfl | later
        · exact above item (List.mem_of_getElem? (i := 0) (by rw [List.getElem?_drop]; exact found))
        · split at later
          next finished =>
            refine ih (index + 1) _ (Nat.lt_of_lt_of_le small (edits.grows item state)) ?_ turn later
            intro other behind
            obtain ⟨added, same, new⟩ := edits.edited item state
            rw [same, List.drop_append, List.mem_append] at behind
            rcases behind with kept | fresh
            · exact next other (mem_drop_of_mem_drop_filter _ _ kept)
            · exact Nat.lt_of_lt_of_le small (new other (List.mem_of_mem_drop fresh))
          next => cases later

end Edits

/-! ### The walk and the copy -/

/-- Where the walk stands: before the items that wait are those that have had a turn, behind
them the new ones. -/
structure Stands (items : State → List Item) (number : Item → Nat) (bound : State → Nat)
    (passed rest added : List Item) (state : State) : Prop where
  same : items state = passed ++ rest.filter (· ∈ items state) ++ added
  ordered : rest.Pairwise fun item other => number item < number other
  before : ∀ item ∈ passed, ∀ other ∈ rest, number item < number other
  behind : ∀ item ∈ rest, ∀ other ∈ added, number item < number other
  below : ∀ item ∈ rest, number item < bound state

namespace Stands

variable {passed rest added : List Item} {index : Nat} {state : State} {item : Item}

theorem skip (stands : Stands items number bound passed (item :: rest) added state)
    (gone : item ∉ items state) : Stands items number bound passed rest added state where
  same := by
    have same := stands.same
    rwa [List.filter_cons_of_neg (by simpa using gone)] at same
  ordered := stands.ordered.of_cons
  before := fun old member other waits =>
    stands.before old member other (List.mem_cons_of_mem item waits)
  behind := fun old waits => stands.behind old (List.mem_cons_of_mem item waits)
  below := fun old waits => stands.below old (List.mem_cons_of_mem item waits)

theorem eq_of_mem (stands : Stands items number bound passed (item :: rest) added state)
    (member : item ∈ items state) :
    items state = passed ++ [item] ++ rest.filter (· ∈ items state) ++ added := by
  have same := stands.same
  rw [List.filter_cons_of_pos (by simpa using member)] at same
  rw [List.append_assoc passed, List.singleton_append]
  exact same

theorem found (stands : Stands items number bound passed (item :: rest) added state)
    (member : item ∈ items state) : (items state)[passed.length]? = some item := by
  rw [stands.eq_of_mem member, List.append_assoc, List.append_assoc,
    List.getElem?_append_right (Nat.le_refl _), Nat.sub_self]
  rfl

/-- The visit leaves some of the items that have had a turn, and of those that wait. -/
theorem visited (edits : Edits items visit number bound)
    (stands : Stands items number bound passed (item :: rest) added state)
    (member : item ∈ items state) :
    ∃ more, Stands items number bound
        ((passed ++ [item]).filter (· ∈ items (visit item state).1)) rest more
        (visit item state).1 ∧
      ∀ other ∈ more, number item < number other := by
  obtain ⟨new, same, above⟩ := edits.edited item state
  have first := List.pairwise_cons.mp stands.ordered
  have waiting : (rest.filter (· ∈ items state)).filter (· ∈ items (visit item state).1) =
      rest.filter (· ∈ items (visit item state).1) := by
    rw [List.filter_filter]
    apply List.filter_congr
    intro other waits
    by_cases kept : other ∈ items (visit item state).1
    · have there := edits.mem_before (stands.below other (List.mem_cons_of_mem item waits)) kept
      simp [kept, there]
    · simp [kept]
  have behind : ∀ old ∈ item :: rest,
      ∀ other ∈ added.filter (· ∈ items (visit item state).1) ++ new,
        number old < number other := by
    intro old waits other later
    rcases List.mem_append.mp later with kept | fresh
    · exact stands.behind old waits other (List.mem_of_mem_filter kept)
    · exact Nat.lt_of_lt_of_le (stands.below old waits) (above other fresh)
  refine ⟨added.filter (· ∈ items (visit item state).1) ++ new, ⟨?_, first.2, ?_, ?_, ?_⟩,
    behind item List.mem_cons_self⟩
  · rw [← List.append_assoc, ← waiting, ← List.filter_append, ← List.filter_append,
      ← stands.eq_of_mem member]
    exact same
  · intro old past other waits
    rcases List.mem_append.mp (List.mem_of_mem_filter past) with passed | this
    · exact stands.before old passed other (List.mem_cons_of_mem item waits)
    · rw [List.mem_singleton.mp this]
      exact first.1 other waits
  · intro old waits
    exact behind old (List.mem_cons_of_mem item waits)
  · intro old waits
    exact Nat.lt_of_lt_of_le (stands.below old (List.mem_cons_of_mem item waits))
      (edits.grows item state)

theorem kept_iff (stands : Stands items number bound passed (item :: rest) added state)
    (member : item ∈ items state) (after : List Item) :
    ((passed ++ [item]).filter (· ∈ after)).length = passed.length + 1 ↔
      ∀ old ∈ items state, number old ≤ number item → old ∈ after := by
  have first := List.pairwise_cons.mp stands.ordered
  rw [← List.length_singleton (a := item), ← List.length_append,
    List.length_filter_eq_length_iff]
  constructor
  · intro kept old there atMost
    rw [stands.eq_of_mem member, List.mem_append, List.mem_append] at there
    rcases there with (past | waits) | new
    · exact of_decide_eq_true (kept old past)
    · have later := first.1 old (List.mem_of_mem_filter waits)
      omega
    · have later := stands.behind item List.mem_cons_self old new
      omega
  · intro kept old past
    apply decide_eq_true
    have there : old ∈ items state := by
      rw [stands.eq_of_mem member, List.append_assoc]
      exact List.mem_append_left _ past
    apply kept old there
    rcases List.mem_append.mp past with passed | this
    · exact Nat.le_of_lt (stands.before old passed item List.mem_cons_self)
    · exact Nat.le_of_eq (congrArg number (List.mem_singleton.mp this))

theorem number_lt_of_mem_drop {least : Nat}
    (stands : Stands items number bound passed rest added state)
    (past : passed.length ≤ index) (waits : ∀ other ∈ rest, least < number other)
    (new : ∀ other ∈ added, least < number other) :
    ∀ other ∈ (items state).drop index, least < number other := by
  intro other beyond
  obtain ⟨more, rfl⟩ := Nat.exists_eq_add_of_le past
  rw [stands.same, List.append_assoc, ← List.drop_drop, List.drop_left] at beyond
  rcases List.mem_append.mp (List.mem_of_mem_drop beyond) with waiting | fresh
  · exact waits other (List.mem_of_mem_filter waiting)
  · exact new other fresh

/-- Where fewer items are before those that wait than there were turns, the first that waits
is missed. -/
theorem missed (edits : Edits items visit number bound)
    (stands : Stands items number bound passed rest added state) (left : Nat)
    (waits : ∃ waiting ∈ rest, waiting ∈ items state) (fewer : passed.length < index) :
    ∃ waiting ∈ rest, waiting ∈ items state ∧
      ∀ turn ∈ turns items visit left index state, number waiting < number turn.item := by
  cases waiting : rest.filter (· ∈ items state) with
  | nil =>
      obtain ⟨item, member, there⟩ := waits
      exact absurd there (by simpa using List.filter_eq_nil_iff.mp waiting item member)
  | cons first later =>
      have isFirst : first ∈ rest.filter (· ∈ items state) := by
        rw [waiting]
        exact List.mem_cons_self
      have member := List.mem_of_mem_filter isFirst
      have sorted := stands.ordered.sublist (List.filter_sublist (p := (· ∈ items state)))
      rw [waiting, List.pairwise_cons] at sorted
      refine ⟨first, member, of_decide_eq_true (List.mem_filter.mp isFirst).2, ?_⟩
      apply edits.number_lt_of_turn left index state (stands.below first member)
      intro other beyond
      obtain ⟨more, rfl⟩ := Nat.exists_eq_add_of_lt fewer
      rw [stands.same, waiting, List.append_assoc, Nat.add_assoc, ← List.drop_drop,
        List.drop_left, List.cons_append, List.drop_succ_cons] at beyond
      rcases List.mem_append.mp (List.mem_of_mem_drop beyond) with last | new
      · exact sorted.1 other last
      · exact stands.behind first member other new

end Stands

variable {passed rest added : List Item} {index : Nat} {state after : State} {item : Item}

theorem cons_eq_iff {tail : List (Turn State Item)} (member : item ∈ items state)
    (ordered : ∀ other ∈ rest, number item < number other)
    (old : ∀ other ∈ rest, other ∈ items after → other ∈ items state)
    (later : ∀ turn ∈ tail, number item < number turn.item) :
    (Turn.mk item state after :: tail).map Turn.item =
        (item :: rest).filter (fun other => other ∈ items state ∧
          Stays items number (Turn.mk item state after :: tail) other) ↔
      tail.map Turn.item =
        rest.filter fun other => other ∈ items after ∧ Stays items number tail other := by
  have stays : Stays items number (Turn.mk item state after :: tail) item := by
    intro turn inWalk earlier
    rcases List.mem_cons.mp inWalk with rfl | behind
    · exact absurd earlier (Nat.lt_irrefl _)
    · exact absurd earlier (Nat.lt_asymm (later turn behind))
  have same : rest.filter (fun other => other ∈ items state ∧
      Stays items number (Turn.mk item state after :: tail) other) =
      rest.filter fun other => other ∈ items after ∧ Stays items number tail other := by
    apply List.filter_congr
    intro other waits
    apply decide_eq_decide.mpr
    rw [Stays, List.forall_mem_cons]
    constructor
    · intro ⟨there, first, others⟩
      exact ⟨first (ordered other waits) there, others⟩
    · intro ⟨kept, others⟩
      exact ⟨old other waits kept, fun _ _ => kept, others⟩
  rw [List.map_cons, List.filter_cons, if_pos (decide_eq_true ⟨member, stays⟩), same,
    List.cons_inj_right]

/-- An item that waits, and only has items behind it called, is not reached. -/
theorem reached_ne {walk : List (Turn State Item)} {waiting : Item} (waits : waiting ∈ rest)
    (there : waiting ∈ items state)
    (passedBy : ∀ turn ∈ walk, number waiting < number turn.item) :
    walk.map Turn.item ≠
      rest.filter fun other => other ∈ items state ∧ Stays items number walk other := by
  intro reached
  have stays : Stays items number walk waiting := by
    intro turn inWalk earlier
    exact absurd earlier (Nat.lt_asymm (passedBy turn inWalk))
  have due : waiting ∈ walk.map Turn.item := by
    rw [reached, List.mem_filter]
    exact ⟨waits, decide_eq_true ⟨there, stays⟩⟩
  obtain ⟨turn, inWalk, same⟩ := List.mem_map.mp due
  have less := passedBy turn inWalk
  rw [same] at less
  exact Nat.lt_irrefl _ less

theorem nil_eq_filter_iff :
    [] = rest.filter (fun other => other ∈ items state ∧ Stays items number [] other) ↔
      ¬∃ waiting ∈ rest, waiting ∈ items state := by
  rw [eq_comm, List.filter_eq_nil_iff]
  constructor
  · intro none ⟨other, waits, there⟩
    exact none other waits (decide_eq_true ⟨there, List.forall_mem_nil _⟩)
  · intro quiet other waits due
    exact quiet ⟨other, waits, (of_decide_eq_true due).1⟩

/-- From any point of the walk: the items that wait are reached exactly when it is undisturbed. -/
theorem reaches_iff_undisturbed (edits : Edits items visit number bound) (left : Nat)
    (stands : Stands items number bound passed rest added state) (enough : rest.length ≤ left)
    (atIndex : (∃ waiting ∈ rest, waiting ∈ items state) → passed.length = index) :
    (turns items visit left index state).map Turn.item =
        rest.filter (fun other => other ∈ items state ∧
          Stays items number (turns items visit left index state) other) ↔
      Undisturbed items visit number rest left index state := by
  induction rest generalizing passed added left index state with
  | nil =>
      rw [List.filter_nil, List.map_eq_nil_iff, turns_eq_nil_iff, Undisturbed]
  | cons item rest ih =>
      by_cases member : item ∈ items state
      · obtain ⟨left, rfl⟩ : ∃ fewer, left = fewer + 1 :=
          Nat.exists_eq_add_of_le' (Nat.le_trans (Nat.le_add_left 1 rest.length) enough)
        have here := atIndex ⟨item, List.mem_cons_self, member⟩
        have found := stands.found member
        rw [here] at found
        obtain ⟨more, next, new⟩ := stands.visited edits member
        have kept := stands.kept_iff member (items (visit item state).1)
        have small := Nat.lt_of_lt_of_le (stands.below item List.mem_cons_self)
          (edits.grows item state)
        have atMost := List.length_filter_le (· ∈ items (visit item state).1) (passed ++ [item])
        rw [List.length_append, List.length_singleton, here] at atMost
        rw [here] at kept
        have first := List.pairwise_cons.mp stands.ordered
        have old : ∀ other ∈ rest, other ∈ items (visit item state).1 → other ∈ items state :=
          fun other waits =>
            edits.mem_before (stands.below other (List.mem_cons_of_mem item waits))
        have walk := turns_of_found visit left found
        rw [Undisturbed, if_pos member, Nat.add_sub_cancel]
        cases finished : (visit item state).2 with
        | false =>
            rw [finished, if_neg Bool.false_ne_true] at walk
            rw [walk, cons_eq_iff member first.1 old (List.forall_mem_nil _),
              List.map_nil, nil_eq_filter_iff]
            constructor
            · intro quiet
              exact ⟨fun waits => absurd waits quiet, fun never => absurd never Bool.false_ne_true⟩
            · intro ⟨must, _⟩ waits
              exact Bool.false_ne_true (must waits).1
        | true =>
            have behind := next.number_lt_of_mem_drop atMost first.1 new
            have later := edits.number_lt_of_turn left (index + 1) _ small behind
            rw [finished, if_pos rfl] at walk
            rw [walk, cons_eq_iff member first.1 old later]
            have room : rest.length ≤ left := Nat.le_of_succ_le_succ enough
            by_cases lost : (∃ waiting ∈ rest, waiting ∈ items (visit item state).1) ∧
                ((passed ++ [item]).filter (· ∈ items (visit item state).1)).length < index + 1
            · obtain ⟨other, waiting, there, passedBy⟩ := next.missed edits left lost.1 lost.2
              have not := reached_ne waiting there passedBy
              exact ⟨fun reached => absurd reached not,
                fun both => absurd (kept.mpr (both.1 lost.1).2) (Nat.ne_of_lt lost.2)⟩
            · have all : (∃ waiting ∈ rest, waiting ∈ items (visit item state).1) →
                  ((passed ++ [item]).filter (· ∈ items (visit item state).1)).length =
                    index + 1 :=
                fun waits => Nat.le_antisymm atMost (Nat.not_lt.mp fun fewer => lost ⟨waits, fewer⟩)
              rw [ih left next room all]
              exact ⟨fun rest => ⟨fun waits => ⟨rfl, kept.mp (all waits)⟩, fun _ => rest⟩,
                fun both => both.2 rfl⟩
      · have waiting : (∃ waiting ∈ rest, waiting ∈ items state) → passed.length = index := by
          intro ⟨other, waits, there⟩
          exact atIndex ⟨other, List.mem_cons_of_mem item waits, there⟩
        have rest := ih left (stands.skip member) (Nat.le_of_succ_le enough) waiting
        rw [Undisturbed, if_neg member, ← rest, List.filter_cons_of_neg (by simp [member])]

/-- A walk from the start of a list reaches each item of its copy exactly when it is
undisturbed. -/
theorem reachesEach_iff_undisturbed (edits : Edits items visit number bound)
    (ordered : (items state).Pairwise fun item other => number item < number other) :
    ReachesEach items number (items state) (turns items visit (items state).length 0 state) ↔
      Undisturbed items visit number (items state) (items state).length 0 state := by
  have all : (items state).filter (· ∈ items state) = items state :=
    List.filter_eq_self.mpr fun item member => decide_eq_true member
  have stands : Stands items number bound [] (items state) [] state :=
    { same := by rw [all, List.append_nil, List.nil_append]
      ordered := ordered
      before := List.forall_mem_nil _
      behind := fun _ _ => List.forall_mem_nil _
      below := edits.below state }
  have reaches := reaches_iff_undisturbed edits (items state).length stands (Nat.le_refl _)
    fun _ => List.length_nil
  rw [← reaches, ReachesEach]
  generalize turns items visit (items state).length 0 state = walk
  have same : (items state).filter (fun item => item ∈ items state ∧ Stays items number walk item) =
      (items state).filter (Stays items number walk) := by
    apply List.filter_congr
    intro item member
    simp [member]
  rw [same]

end LiveWalk
