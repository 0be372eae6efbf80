import Mathlib.Data.List.Basic
import Mathlib.Data.List.Perm.Basic
import Mathlib.Data.List.Nodup
import JSCameraKit.Library.Machine

set_option autoImplicit false

/-! One queue shared by many keys. An entry is pushed for a key and later
delivered (the oldest of its key first) or dropped, with the others of its key
or with the whole queue. Along every run the settled and the pending entries of
one key, put together, are the entries pushed for it, in order: nothing is lost,
nothing is settled twice, and no key overtakes itself. -/

structure KeyedQueue (Key Item : Type) where
  pending : List (Item × Key)
  /-- Settled entries in the order of their settlement; `true` when delivered. -/
  settled : List ((Item × Key) × Bool)
  pushed : List (Item × Key)

namespace KeyedQueue

variable {Key Item : Type} [DecidableEq Key]

/-! ### The entries of one key -/

def ofKey (key : Key) (entries : List (Item × Key)) : List (Item × Key) :=
  entries.filter fun entry => entry.2 = key

def others (key : Key) (entries : List (Item × Key)) : List (Item × Key) :=
  entries.filter fun entry => entry.2 ≠ key

def oldest (key : Key) (entries : List (Item × Key)) : Option (Item × Key) :=
  entries.find? fun entry => entry.2 = key

/-- The entries left once the oldest of `key` is taken. -/
def withoutOldest (key : Key) (entries : List (Item × Key)) : List (Item × Key) :=
  entries.eraseP fun entry => entry.2 = key

@[simp] theorem ofKey_nil (key : Key) : ofKey key ([] : List (Item × Key)) = [] := rfl

@[simp] theorem ofKey_append (key : Key) (left right : List (Item × Key)) :
    ofKey key (left ++ right) = ofKey key left ++ ofKey key right :=
  List.filter_append left right

theorem ofKey_cons_same (key : Key) (item : Item) (rest : List (Item × Key)) :
    ofKey key ((item, key) :: rest) = (item, key) :: ofKey key rest := by
  simp [ofKey]

theorem ofKey_cons_other {key : Key} {entry : Item × Key} (different : entry.2 ≠ key)
    (rest : List (Item × Key)) : ofKey key (entry :: rest) = ofKey key rest := by
  simp [ofKey, different]

theorem mem_ofKey {key : Key} {entry : Item × Key} {entries : List (Item × Key)} :
    entry ∈ ofKey key entries ↔ entry ∈ entries ∧ entry.2 = key := by
  simp [ofKey]

theorem mem_others {key : Key} {entry : Item × Key} {entries : List (Item × Key)} :
    entry ∈ others key entries ↔ entry ∈ entries ∧ entry.2 ≠ key := by
  simp [others]

theorem ofKey_ofKey_same (key : Key) (entries : List (Item × Key)) :
    ofKey key (ofKey key entries) = ofKey key entries := by
  simp [ofKey, List.filter_filter]

theorem ofKey_ofKey_other {key other : Key} (different : other ≠ key)
    (entries : List (Item × Key)) : ofKey other (ofKey key entries) = [] := by
  rw [List.eq_nil_iff_forall_not_mem]
  intro entry member
  obtain ⟨inKey, atOther⟩ := mem_ofKey.mp member
  exact different (atOther.symm.trans (mem_ofKey.mp inKey).2)

theorem ofKey_others_same (key : Key) (entries : List (Item × Key)) :
    ofKey key (others key entries) = [] := by
  rw [List.eq_nil_iff_forall_not_mem]
  intro entry member
  obtain ⟨inOthers, atKey⟩ := mem_ofKey.mp member
  exact (mem_others.mp inOthers).2 atKey

theorem ofKey_others_other {key other : Key} (different : other ≠ key)
    (entries : List (Item × Key)) : ofKey other (others key entries) = ofKey other entries := by
  simp only [ofKey, others, List.filter_filter]
  apply List.filter_congr
  intro entry _
  by_cases atOther : entry.2 = other
  · simp [atOther, different]
  · simp [atOther]

theorem ofKey_others_perm (key : Key) (entries : List (Item × Key)) :
    (ofKey key entries ++ others key entries).Perm entries := by
  simpa [ofKey, others] using
    List.filter_append_perm (fun entry : Item × Key => decide (entry.2 = key)) entries

/-! ### Taking the oldest entry of a key -/

theorem oldest_key {key : Key} {entry : Item × Key} {entries : List (Item × Key)}
    (found : oldest key entries = some entry) : entry.2 = key := by
  simpa using List.find?_some found

theorem oldest_eq_none {key : Key} {entries : List (Item × Key)} :
    oldest key entries = none ↔ ofKey key entries = [] := by
  simp [oldest, ofKey, List.find?_eq_none, List.filter_eq_nil_iff]

theorem withoutOldest_of_none {key : Key} {entries : List (Item × Key)}
    (missing : oldest key entries = none) : withoutOldest key entries = entries := by
  apply List.eraseP_of_forall_not
  simpa [oldest, List.find?_eq_none] using missing

/-- The oldest entry splits the queue: none of its key comes before it, and
taking it leaves everything else in place. -/
theorem oldest_split {key : Key} {entry : Item × Key} {entries : List (Item × Key)}
    (found : oldest key entries = some entry) :
    ∃ before after, entries = before ++ entry :: after ∧ ofKey key before = [] ∧
      withoutOldest key entries = before ++ after := by
  obtain ⟨atKey, before, after, split, earlier⟩ := List.find?_eq_some_iff_append.mp found
  refine ⟨before, after, split, ?_, ?_⟩
  · rw [ofKey, List.filter_eq_nil_iff]
    intro other member
    simpa using earlier other member
  · rw [withoutOldest, split, List.eraseP_append_right]
    · simp only [List.eraseP_cons, atKey, cond_true]
    · intro other member
      simpa using earlier other member

theorem ofKey_withoutOldest_same {key : Key} {entry : Item × Key} {entries : List (Item × Key)}
    (found : oldest key entries = some entry) :
    ofKey key entries = entry :: ofKey key (withoutOldest key entries) := by
  obtain ⟨before, after, split, none_before, taken⟩ := oldest_split found
  have atKey := oldest_key found
  subst atKey
  rw [taken, split, ofKey_append, ofKey_append, none_before]
  exact ofKey_cons_same _ _ _

theorem ofKey_withoutOldest_other {key other : Key} (different : other ≠ key)
    (entries : List (Item × Key)) :
    ofKey other (withoutOldest key entries) = ofKey other entries := by
  cases found : oldest key entries with
  | none => rw [withoutOldest_of_none found]
  | some entry =>
      obtain ⟨before, after, split, _, taken⟩ := oldest_split found
      have away : entry.2 ≠ other := fun same => different (same.symm.trans (oldest_key found))
      rw [taken, split, ofKey_append, ofKey_append, ofKey_cons_other away]

/-- Taking the oldest entry of a key takes one of its entries, if there is one. -/
theorem ofKey_withoutOldest_length (key : Key) (entries : List (Item × Key)) :
    (ofKey key (withoutOldest key entries)).length = (ofKey key entries).length - 1 := by
  cases found : oldest key entries with
  | none =>
      rw [withoutOldest_of_none found, oldest_eq_none.mp found]
      rfl
  | some entry =>
      rw [ofKey_withoutOldest_same found, List.length_cons, Nat.add_sub_cancel]

theorem withoutOldest_perm {key : Key} {entry : Item × Key} {entries : List (Item × Key)}
    (found : oldest key entries = some entry) :
    (entry :: withoutOldest key entries).Perm entries := by
  obtain ⟨before, after, split, _, taken⟩ := oldest_split found
  rw [taken, split]
  exact List.perm_middle.symm

theorem withoutOldest_subset (key : Key) (entries : List (Item × Key)) :
    withoutOldest key entries ⊆ entries :=
  List.eraseP_subset

/-! ### The queue as a machine -/

inductive Action (Key Item : Type)
  | push (item : Item) (key : Key)
  | deliver (key : Key)
  | drop (key : Key)
  | dropAll

def settle (delivered : Bool) (entries : List (Item × Key)) : List ((Item × Key) × Bool) :=
  entries.map fun entry => (entry, delivered)

omit [DecidableEq Key] in
@[simp] theorem settle_map_fst (delivered : Bool) (entries : List (Item × Key)) :
    (settle delivered entries).map Prod.fst = entries := by
  simp [settle, Function.comp_def]

def step (queue : KeyedQueue Key Item) : Action Key Item → KeyedQueue Key Item
  | .push item key =>
      { queue with
        pending := queue.pending ++ [(item, key)]
        pushed := queue.pushed ++ [(item, key)] }
  | .deliver key =>
      { queue with
        pending := withoutOldest key queue.pending
        settled := queue.settled ++ settle true (oldest key queue.pending).toList }
  | .drop key =>
      { queue with
        pending := others key queue.pending
        settled := queue.settled ++ settle false (ofKey key queue.pending) }
  | .dropAll =>
      { queue with
        pending := []
        settled := queue.settled ++ settle false queue.pending }

def empty : KeyedQueue Key Item :=
  { pending := [], settled := [], pushed := [] }

variable (Key Item) in
def machine : Machine (KeyedQueue Key Item) (Action Key Item) :=
  { initial := fun queue => queue = empty
    step := fun queue action => some (queue.step action) }

/-- The settled and pending entries of each key are those pushed for it, in order. -/
def InOrder (queue : KeyedQueue Key Item) : Prop :=
  ∀ key, ofKey key (queue.settled.map Prod.fst) ++ ofKey key queue.pending =
    ofKey key queue.pushed

/-- Settled and pending entries together are the pushed ones, each as often as pushed. -/
def Conserved (queue : KeyedQueue Key Item) : Prop :=
  (queue.settled.map Prod.fst ++ queue.pending).Perm queue.pushed

theorem step_inOrder (queue : KeyedQueue Key Item) (action : Action Key Item)
    (ordered : queue.InOrder) : (queue.step action).InOrder := by
  intro key
  cases action with
  | push item target =>
      simp only [step, ofKey_append, ← List.append_assoc, ordered key]
  | deliver target =>
      simp only [step, List.map_append, settle_map_fst, ofKey_append, List.append_assoc]
      rw [← ordered key]
      cases found : oldest target queue.pending with
      | none => simp [withoutOldest_of_none found]
      | some entry =>
          by_cases same : key = target
          · subst same
            have atKey := oldest_key found
            subst atKey
            rw [ofKey_withoutOldest_same found, Option.toList_some]
            rw [show ofKey entry.2 [entry] = [entry] from ofKey_cons_same _ _ _]
            rfl
          · have away : entry.2 ≠ key := fun at_key => same (at_key.symm.trans (oldest_key found))
            rw [ofKey_withoutOldest_other same, Option.toList_some, ofKey_cons_other away]
            rfl
  | drop target =>
      simp only [step, List.map_append, settle_map_fst, ofKey_append, List.append_assoc]
      rw [← ordered key]
      by_cases same : key = target
      · subst same
        rw [ofKey_ofKey_same, ofKey_others_same, List.append_nil]
      · rw [ofKey_ofKey_other same, ofKey_others_other same, List.nil_append]
  | dropAll =>
      simp only [step, List.map_append, settle_map_fst, ofKey_append, ofKey_nil,
        List.append_nil]
      exact ordered key

theorem step_conserved (queue : KeyedQueue Key Item) (action : Action Key Item)
    (conserved : queue.Conserved) : (queue.step action).Conserved := by
  unfold Conserved at conserved ⊢
  cases action with
  | push item target =>
      simp only [step]
      rw [← List.append_assoc]
      exact conserved.append_right _
  | deliver target =>
      simp only [step, List.map_append, settle_map_fst, List.append_assoc]
      refine List.Perm.trans (List.Perm.append_left _ ?_) conserved
      cases found : oldest target queue.pending with
      | none => simp [withoutOldest_of_none found]
      | some entry => exact withoutOldest_perm found
  | drop target =>
      simp only [step, List.map_append, settle_map_fst, List.append_assoc]
      exact ((ofKey_others_perm target queue.pending).append_left _).trans conserved
  | dropAll =>
      simpa only [step, List.map_append, settle_map_fst, List.append_nil] using conserved

theorem reachable_inOrder {queue : KeyedQueue Key Item}
    (reached : (machine Key Item).Reachable queue) : queue.InOrder := by
  refine reached.invariant InOrder ?_ ?_
  · intro start starts key
    cases starts
    rfl
  · intro before action after _ ordered taken
    cases taken
    exact step_inOrder before action ordered

theorem reachable_conserved {queue : KeyedQueue Key Item}
    (reached : (machine Key Item).Reachable queue) : queue.Conserved := by
  refine reached.invariant Conserved ?_ ?_
  · intro start starts
    cases starts
    exact List.Perm.refl _
  · intro before action after _ conserved taken
    cases taken
    exact step_conserved before action conserved

/-- Across keys too, the pending entries stand in the order they were pushed. -/
theorem reachable_pending_sublist {queue : KeyedQueue Key Item}
    (reached : (machine Key Item).Reachable queue) : queue.pending.Sublist queue.pushed := by
  refine reached.invariant (fun queue => queue.pending.Sublist queue.pushed) ?_ ?_
  · intro start starts
    cases starts
    exact List.Sublist.refl _
  · intro before action after _ sublist taken
    cases taken
    cases action with
    | push item key => exact sublist.append (List.Sublist.refl _)
    | deliver key => exact List.eraseP_sublist.trans sublist
    | drop key => exact List.filter_sublist.trans sublist
    | dropAll => exact List.nil_sublist _

/-- What is delivered for a key is delivered in the order it was pushed. -/
theorem InOrder.delivered_sublist {queue : KeyedQueue Key Item} (ordered : queue.InOrder)
    (key : Key) :
    (ofKey key ((queue.settled.filter Prod.snd).map Prod.fst)).Sublist
      (ofKey key queue.pushed) := by
  rw [← ordered key]
  refine List.Sublist.trans ?_ (List.sublist_append_left _ _)
  exact (List.filter_sublist.map Prod.fst).filter _

end KeyedQueue
