import Mathlib.Data.List.Nodup
import Mathlib.Logic.Function.Basic

set_option autoImplicit false

/-! Lists that run through their nodes. A node has the pointer to the next one and the address
of the pointer that leads to it: that of the head of a list, or the next pointer of the node
before. So a node is taken out of whatever list it is in without a walk. The pointers hold
some lists where each list is read off from its head and every node of it knows what leads to
it; putting a node first and taking one out are `List.cons` and `List.erase` then. -/

/-- The address of a pointer to a node. -/
inductive Links.Cell (Key Node : Type)
  | head (key : Key)
  | next (node : Node)
  deriving DecidableEq

structure Links (Key Node : Type) where
  head : Key → Option Node
  next : Node → Option Node
  prev : Node → Option (Links.Cell Key Node)

namespace Links

variable {Key Node : Type}

def empty : Links Key Node :=
  { head := fun _ => none
    next := fun _ => none
    prev := fun _ => none }

def read (links : Links Key Node) : Cell Key Node → Option Node
  | .head key => links.head key
  | .next node => links.next node

variable [DecidableEq Key] [DecidableEq Node]

def write (links : Links Key Node) (cell : Cell Key Node) (value : Option Node) :
    Links Key Node :=
  match cell with
  | .head key => { links with head := Function.update links.head key value }
  | .next node => { links with next := Function.update links.next node value }

/-- What leads to a node, if there is one, is at an address. -/
def setPrev (links : Links Key Node) (node : Option Node) (cell : Option (Cell Key Node)) :
    Links Key Node :=
  match node with
  | none => links
  | some node => { links with prev := Function.update links.prev node cell }

def insertFirst (links : Links Key Node) (key : Key) (node : Node) : Links Key Node :=
  (((links.write (.next node) (links.head key)).setPrev (links.head key)
    (some (.next node))).setPrev (some node) (some (.head key))).write (.head key) (some node)

/-- The node is passed over by what leads to it. Its own pointers stay. -/
def bypass (links : Links Key Node) (node : Node) : Links Key Node :=
  let passed :=
    match links.prev node with
    | none => links
    | some cell => links.write cell (links.next node)
  passed.setPrev (links.next node) (links.prev node)

def clear (links : Links Key Node) (node : Node) : Links Key Node :=
  (links.write (.next node) none).setPrev (some node) none

/-- The node is passed over, and its own pointers are cleared. -/
def unlink (links : Links Key Node) (node : Node) : Links Key Node :=
  match links.prev node with
  | none => links
  | some _ => (links.bypass node).clear node

/-! ### Lists and pointers -/

omit [DecidableEq Key] [DecidableEq Node] in
/-- The list that is read from an address on. -/
def Chain (links : Links Key Node) : Cell Key Node → List Node → Prop
  | cell, [] => links.read cell = none
  | cell, node :: rest =>
      links.read cell = some node ∧ links.prev node = some cell ∧
        links.Chain (.next node) rest

structure Holds (links : Links Key Node) (lists : Key → List Node) : Prop where
  chain : ∀ key, links.Chain (.head key) (lists key)
  nodup : ∀ key, (lists key).Nodup
  apart : ∀ key other node, node ∈ lists key → node ∈ lists other → key = other

variable {links other : Links Key Node} {lists : Key → List Node} {cell : Cell Key Node}
  {node : Node} {nodes : List Node}

/-! ### What the operations write -/

theorem read_write (links : Links Key Node) (cell at_ : Cell Key Node) (value : Option Node) :
    (links.write cell value).read at_ = if at_ = cell then value else links.read at_ := by
  cases cell with
  | head key =>
      cases at_ with
      | head other => simp [write, read, Function.update_apply]
      | next other => simp [write, read]
  | next node =>
      cases at_ with
      | head other => simp [write, read]
      | next other => simp [write, read, Function.update_apply]

theorem prev_write (links : Links Key Node) (cell : Cell Key Node) (value : Option Node) :
    (links.write cell value).prev = links.prev := by
  cases cell <;> rfl

omit [DecidableEq Key] in
theorem read_setPrev (links : Links Key Node) (node : Option Node)
    (value : Option (Cell Key Node)) : (links.setPrev node value).read = links.read := by
  cases node <;> rfl

omit [DecidableEq Key] in
theorem prev_setPrev (links : Links Key Node) (node : Option Node)
    (value : Option (Cell Key Node)) (at_ : Node) :
    (links.setPrev node value).prev at_ = if node = some at_ then value else links.prev at_ := by
  cases node with
  | none => simp [setPrev]
  | some node => simp [setPrev, Function.update_apply, eq_comm]

theorem read_insertFirst (links : Links Key Node) (key : Key) (node : Node)
    (at_ : Cell Key Node) :
    (links.insertFirst key node).read at_ =
      if at_ = .head key then some node
      else if at_ = .next node then links.head key
      else links.read at_ := by
  rw [insertFirst, read_write, read_setPrev, read_setPrev, read_write]

theorem prev_insertFirst (links : Links Key Node) (key : Key) (node at_ : Node) :
    (links.insertFirst key node).prev at_ =
      if node = at_ then some (.head key)
      else if links.head key = some at_ then some (.next node)
      else links.prev at_ := by
  rw [insertFirst, prev_write, prev_setPrev, prev_setPrev, prev_write]
  simp only [Option.some.injEq]

theorem read_bypass (leads : links.prev node = some cell) (at_ : Cell Key Node) :
    (links.bypass node).read at_ = if at_ = cell then links.next node else links.read at_ := by
  simp only [bypass, leads]
  rw [read_setPrev, read_write]

theorem prev_bypass (leads : links.prev node = some cell) (at_ : Node) :
    (links.bypass node).prev at_ =
      if links.next node = some at_ then some cell else links.prev at_ := by
  simp only [bypass, leads]
  rw [prev_setPrev, prev_write]

theorem read_clear (links : Links Key Node) (node : Node) (at_ : Cell Key Node) :
    (links.clear node).read at_ = if at_ = .next node then none else links.read at_ := by
  rw [clear, read_setPrev, read_write]

theorem prev_clear (links : Links Key Node) (node at_ : Node) :
    (links.clear node).prev at_ = if node = at_ then none else links.prev at_ := by
  rw [clear, prev_setPrev, prev_write]
  simp only [Option.some.injEq]

theorem unlink_of_prev (leads : links.prev node = some cell) :
    links.unlink node = (links.bypass node).clear node := by
  rw [unlink, leads]

/-! ### One list -/

omit [DecidableEq Key] [DecidableEq Node] in
/-- A list depends on the pointers of its own nodes and on the one that leads to the first. -/
theorem Chain.congr (chain : links.Chain cell nodes) (read : other.read cell = links.read cell)
    (next : ∀ node ∈ nodes, other.next node = links.next node)
    (prev : ∀ node ∈ nodes, other.prev node = links.prev node) : other.Chain cell nodes := by
  induction nodes generalizing cell with
  | nil => exact read.trans chain
  | cons node rest ih =>
      obtain ⟨first, back, later⟩ := chain
      refine ⟨read.trans first, (prev node List.mem_cons_self).trans back, ?_⟩
      apply ih later (next node List.mem_cons_self)
      · intro node listed
        exact next node (List.mem_cons_of_mem _ listed)
      · intro node listed
        exact prev node (List.mem_cons_of_mem _ listed)

omit [DecidableEq Key] [DecidableEq Node] in
/-- What leads to a node of a list is the start of it or the pointer of a node before. -/
theorem Chain.prev_of_mem (chain : links.Chain cell nodes) (member : node ∈ nodes) :
    ∃ leads, links.prev node = some leads ∧
      (leads = cell ∨ ∃ before ∈ nodes, leads = .next before) := by
  induction nodes generalizing cell with
  | nil => cases member
  | cons first rest ih =>
      obtain ⟨_, back, later⟩ := chain
      cases List.mem_cons.mp member with
      | inl same =>
          rw [same]
          exact ⟨cell, back, .inl rfl⟩
      | inr inside =>
          obtain ⟨leads, found, atFirst | ⟨before, listed, atBefore⟩⟩ := ih later inside
          · exact ⟨leads, found, .inr ⟨first, List.mem_cons_self, atFirst⟩⟩
          · exact ⟨leads, found, .inr ⟨before, List.mem_cons_of_mem _ listed, atBefore⟩⟩

omit [DecidableEq Key] [DecidableEq Node] in
theorem Chain.next_mem (chain : links.Chain cell nodes) (member : node ∈ nodes) {after : Node}
    (follows : links.next node = some after) : after ∈ nodes := by
  induction nodes generalizing cell with
  | nil => cases member
  | cons first rest ih =>
      obtain ⟨_, _, later⟩ := chain
      cases List.mem_cons.mp member with
      | inl same =>
          rw [same] at follows
          cases rest with
          | nil => exact absurd (follows.symm.trans later) (Option.some_ne_none _)
          | cons second rest =>
              have found : some after = some second := follows.symm.trans later.1
              cases found
              exact List.mem_cons_of_mem _ List.mem_cons_self
      | inr inside => exact List.mem_cons_of_mem _ (ih later inside)

omit [DecidableEq Key] [DecidableEq Node] in
/-- The pointer of a node is to the one that follows it. -/
theorem Chain.next_eq {front back : List Node}
    (chain : links.Chain cell (front ++ node :: back)) : links.next node = back.head? := by
  induction front generalizing cell with
  | nil =>
      cases back with
      | nil => exact chain.2.2
      | cons second rest => exact chain.2.2.1
  | cons first rest ih => exact ih chain.2.2

omit [DecidableEq Key] [DecidableEq Node] in
theorem Chain.read_eq (chain : links.Chain cell nodes) : links.read cell = nodes.head? := by
  cases nodes with
  | nil => exact chain
  | cons first rest => exact chain.1

omit [DecidableEq Key] [DecidableEq Node] in
/-- What leads to a node has the node. -/
theorem Chain.read_prev (chain : links.Chain cell nodes) (member : node ∈ nodes)
    {leads : Cell Key Node} (back : links.prev node = some leads) :
    links.read leads = some node := by
  induction nodes generalizing cell with
  | nil => cases member
  | cons first rest ih =>
      cases List.mem_cons.mp member with
      | inl same =>
          rw [same] at back
          cases chain.2.1.symm.trans back
          rw [same]
          exact chain.1
      | inr inside => exact ih chain.2.2 inside

omit [DecidableEq Key] [DecidableEq Node] in
/-- A node knows what leads to it, and the one after it knows the node. -/
theorem Chain.prev_next (chain : links.Chain cell nodes) (member : node ∈ nodes) {after : Node}
    (follows : links.next node = some after) : links.prev after = some (.next node) := by
  induction nodes generalizing cell with
  | nil => cases member
  | cons first rest ih =>
      cases List.mem_cons.mp member with
      | inl same =>
          rw [same] at follows
          rw [same]
          cases rest with
          | nil => exact absurd (follows.symm.trans chain.2.2) (Option.some_ne_none _)
          | cons second rest =>
              cases follows.symm.trans chain.2.2.1
              exact chain.2.2.2.1
      | inr inside => exact ih chain.2.2 inside

theorem Chain.insertFirst {key : Key} (chain : links.Chain (.head key) nodes)
    (nodup : nodes.Nodup) (fresh : node ∉ nodes) :
    (links.insertFirst key node).Chain (.head key) (node :: nodes) := by
  have differ : Cell.next node ≠ .head key := by simp
  refine ⟨by rw [read_insertFirst, if_pos rfl], by rw [prev_insertFirst, if_pos rfl], ?_⟩
  cases nodes with
  | nil =>
      show (links.insertFirst key node).read _ = none
      rw [read_insertFirst, if_neg differ, if_pos rfl]
      exact chain
  | cons first rest =>
      have apart : node ≠ first := (List.ne_of_not_mem_cons fresh)
      have unique := (List.nodup_cons.mp nodup).1
      refine ⟨?_, ?_, ?_⟩
      · rw [read_insertFirst, if_neg differ, if_pos rfl]
        exact chain.1
      · have atHead : links.head key = some first := chain.1
        rw [prev_insertFirst, if_neg apart, if_pos atHead]
      · apply chain.2.2.congr
        · rw [read_insertFirst, if_neg (by simp), if_neg (by simpa using apart.symm)]
        · intro later listed
          have other : later ≠ node := fun same => fresh (same ▸ List.mem_cons_of_mem _ listed)
          have kept := read_insertFirst links key node (.next later)
          rw [if_neg (by simp), if_neg (by simpa using other)] at kept
          exact kept
        · intro later listed
          have other : node ≠ later := fun same => fresh (same ▸ List.mem_cons_of_mem _ listed)
          have notFirst : links.head key ≠ some later := by
            intro same
            cases chain.1.symm.trans same
            exact unique listed
          rw [prev_insertFirst, if_neg other, if_neg notFirst]

/-- A list that a node is not on, and whose head it is not put at, is as it was. -/
theorem Chain.insertFirst_apart {key other : Key} {first : List Node}
    (chain : links.Chain (.head other) nodes) (head : links.Chain (.head key) first)
    (differ : other ≠ key) (disjoint : ∀ node ∈ nodes, node ∉ first) (fresh : node ∉ nodes) :
    (links.insertFirst key node).Chain (.head other) nodes := by
  apply chain.congr
  · rw [read_insertFirst, if_neg (by simpa using differ), if_neg (by simp)]
  · intro later listed
    have distinct : later ≠ node := fun same => fresh (same ▸ listed)
    have kept := read_insertFirst links key node (.next later)
    rw [if_neg (by simp), if_neg (by simpa using distinct)] at kept
    exact kept
  · intro later listed
    have distinct : node ≠ later := fun same => fresh (same ▸ listed)
    have notFirst : links.head key ≠ some later := by
      intro same
      have begins : first.head? = some later := head.read_eq.symm.trans same
      exact disjoint later listed (List.mem_of_mem_head? begins)
    rw [prev_insertFirst, if_neg distinct, if_neg notFirst]

theorem Chain.bypass (chain : links.Chain cell nodes) (nodup : nodes.Nodup)
    (member : node ∈ nodes) (outside : ∀ before ∈ nodes, cell ≠ .next before) :
    (links.bypass node).Chain cell (nodes.erase node) := by
  induction nodes generalizing cell with
  | nil => cases member
  | cons first rest ih =>
      obtain ⟨leadsFirst, back, later⟩ := chain
      obtain ⟨unique, nodupRest⟩ := List.nodup_cons.mp nodup
      by_cases same : first = node
      · rw [same] at back later unique
        rw [same, List.erase_cons_head]
        -- What led to the node leads to the rest now.
        cases rest with
        | nil =>
            show (links.bypass node).read cell = none
            rw [read_bypass back, if_pos rfl]
            exact later
        | cons second more =>
            have follows : links.next node = some second := later.1
            refine ⟨?_, ?_, ?_⟩
            · rw [read_bypass back, if_pos rfl, follows]
            · rw [prev_bypass back, if_pos follows]
            · apply later.2.2.congr
              · rw [read_bypass back, if_neg]
                exact (outside second (List.mem_cons_of_mem _ List.mem_cons_self)).symm
              · intro last listed
                have kept := read_bypass back (.next last)
                have elsewhere := outside last
                  (List.mem_cons_of_mem _ (List.mem_cons_of_mem _ listed))
                rw [if_neg elsewhere.symm] at kept
                exact kept
              · intro last listed
                have distinct : links.next node ≠ some last := by
                  intro found
                  cases follows.symm.trans found
                  exact (List.nodup_cons.mp nodupRest).1 listed
                rw [prev_bypass back, if_neg distinct]
      · have inside : node ∈ rest := by
          cases List.mem_cons.mp member with
          | inl head => exact absurd head.symm same
          | inr inside => exact inside
        rw [List.erase_cons_tail (by simpa using same)]
        have apart : ∀ before ∈ rest, (Cell.next first : Cell Key Node) ≠ .next before := by
          intro before listed found
          cases found
          exact unique listed
        obtain ⟨leads, found, place⟩ := later.prev_of_mem inside
        have elsewhere : cell ≠ leads := by
          intro atCell
          cases place with
          | inl atFirst => exact outside first List.mem_cons_self (atCell.trans atFirst)
          | inr atBefore =>
              obtain ⟨before, listed, isBefore⟩ := atBefore
              exact outside before (List.mem_cons_of_mem _ listed) (atCell.trans isBefore)
        refine ⟨?_, ?_, ih later nodupRest inside apart⟩
        · rw [read_bypass found, if_neg elsewhere]
          exact leadsFirst
        · have notFirst : links.next node ≠ some first := by
            intro follows
            exact unique (later.next_mem inside follows)
          rw [prev_bypass found, if_neg notFirst]
          exact back

/-- A list apart from the one that a node is taken out of is as it was. -/
theorem Chain.bypass_apart {key : Key} {mine : List Node}
    (chain : links.Chain cell nodes) (holder : links.Chain (.head key) mine)
    (member : node ∈ mine) (differ : cell ≠ .head key)
    (outside : ∀ before ∈ mine, cell ≠ .next before)
    (disjoint : ∀ node ∈ nodes, node ∉ mine) : (links.bypass node).Chain cell nodes := by
  obtain ⟨leads, found, place⟩ := holder.prev_of_mem member
  apply chain.congr
  · have elsewhere : cell ≠ leads := by
      intro atCell
      cases place with
      | inl atHead => exact differ (atCell.trans atHead)
      | inr atBefore =>
          obtain ⟨before, listed, isBefore⟩ := atBefore
          exact outside before listed (atCell.trans isBefore)
    rw [read_bypass found, if_neg elsewhere]
  · intro later listed
    have elsewhere : Cell.next later ≠ leads := by
      intro atNext
      cases place with
      | inl atHead => exact absurd (atNext.trans atHead) (by simp)
      | inr atBefore =>
          obtain ⟨before, mem, isBefore⟩ := atBefore
          cases atNext.trans isBefore
          exact disjoint later listed mem
    have kept := read_bypass found (.next later)
    rw [if_neg elsewhere] at kept
    exact kept
  · intro later listed
    have distinct : links.next node ≠ some later := by
      intro follows
      exact disjoint later listed (holder.next_mem member follows)
    rw [prev_bypass found, if_neg distinct]

/-- Clearing the pointers of a node that is on no list changes none. -/
theorem Chain.clear (chain : links.Chain cell nodes) (fresh : node ∉ nodes)
    (elsewhere : cell ≠ .next node) : (links.clear node).Chain cell nodes := by
  apply chain.congr
  · rw [read_clear, if_neg elsewhere]
  · intro later listed
    have distinct : later ≠ node := fun same => fresh (same ▸ listed)
    have kept := read_clear links node (.next later)
    rw [if_neg (by simpa using distinct)] at kept
    exact kept
  · intro later listed
    have distinct : node ≠ later := fun same => fresh (same ▸ listed)
    rw [prev_clear, if_neg distinct]

/-! ### All the lists -/

omit [DecidableEq Key] [DecidableEq Node] in
theorem holds_empty : (Links.empty : Links Key Node).Holds (fun _ => []) :=
  { chain := fun _ => rfl
    nodup := fun _ => List.nodup_nil
    apart := fun _ _ _ member _ => absurd member List.not_mem_nil }

theorem Holds.insertFirst (holds : links.Holds lists) (key : Key)
    (fresh : ∀ key, node ∉ lists key) :
    (links.insertFirst key node).Holds (Function.update lists key (node :: lists key)) := by
  refine { chain := ?_, nodup := ?_, apart := ?_ }
  · intro other
    by_cases same : other = key
    · rw [same, Function.update_self]
      exact (holds.chain key).insertFirst (holds.nodup key) (fresh key)
    · rw [Function.update_of_ne same]
      apply (holds.chain other).insertFirst_apart (holds.chain key) same _ (fresh other)
      intro later listed first
      exact same (holds.apart other key later listed first)
  · intro other
    by_cases same : other = key
    · rw [same, Function.update_self]
      exact List.nodup_cons.mpr ⟨fresh key, holds.nodup key⟩
    · rw [Function.update_of_ne same]
      exact holds.nodup other
  · have listed : ∀ {at_ later},
        later ∈ Function.update lists key (node :: lists key) at_ →
          later ∈ lists at_ ∨ (at_ = key ∧ later = node) := by
      intro at_ later member
      by_cases same : at_ = key
      · rw [same, Function.update_self] at member
        rw [same]
        cases List.mem_cons.mp member with
        | inl first => exact .inr ⟨rfl, first⟩
        | inr inside => exact .inl inside
      · rw [Function.update_of_ne same] at member
        exact .inl member
    intro one other later first second
    cases listed first with
    | inl inOne =>
        cases listed second with
        | inl inOther => exact holds.apart one other later inOne inOther
        | inr new => exact absurd (new.2 ▸ inOne) (fresh one)
    | inr new =>
        cases listed second with
        | inl inOther => exact absurd (new.2 ▸ inOther) (fresh other)
        | inr again => exact new.1.trans again.1.symm

theorem Holds.bypass (holds : links.Holds lists) (key : Key)
    (member : node ∈ lists key) :
    (links.bypass node).Holds (fun key => (lists key).erase node) := by
  refine { chain := ?_, nodup := ?_, apart := ?_ }
  · intro other
    by_cases same : other = key
    · rw [same]
      apply (holds.chain key).bypass (holds.nodup key) member
      intro before _
      simp
    · have absent : node ∉ lists other := by
        intro listed
        exact same (holds.apart other key node listed member)
      rw [List.erase_of_not_mem absent]
      apply (holds.chain other).bypass_apart (holds.chain key) member (by simpa using same)
      · intro before _
        simp
      · intro later listed mine
        exact same (holds.apart other key later listed mine)
  · intro other
    exact (holds.nodup other).erase node
  · intro one other later first second
    exact holds.apart one other later (List.mem_of_mem_erase first) (List.mem_of_mem_erase second)

theorem Holds.clear (holds : links.Holds lists) (fresh : ∀ key, node ∉ lists key) :
    (links.clear node).Holds lists := by
  refine { chain := ?_, nodup := holds.nodup, apart := holds.apart }
  intro other
  exact (holds.chain other).clear (fresh other) (by simp)

omit [DecidableEq Key] [DecidableEq Node] in
theorem Holds.prev_eq_some (holds : links.Holds lists) (key : Key)
    (member : node ∈ lists key) :
    ∃ leads, links.prev node = some leads := by
  obtain ⟨leads, found, _⟩ := (holds.chain key).prev_of_mem member
  exact ⟨leads, found⟩

theorem Holds.unlink (holds : links.Holds lists) (key : Key)
    (member : node ∈ lists key) :
    (links.unlink node).Holds (fun key => (lists key).erase node) := by
  obtain ⟨leads, found⟩ := holds.prev_eq_some key member
  rw [unlink_of_prev found]
  apply (holds.bypass key member).clear
  intro other listed
  exact ((holds.nodup other).mem_erase_iff.mp listed).1 rfl

omit [DecidableEq Key] [DecidableEq Node] in
/-- A node in use is on a list or its pointers are clear. -/
def Settled (links : Links Key Node) (lists : Key → List Node) (used : Node → Prop) : Prop :=
  ∀ node, used node → (∀ key, node ∉ lists key) →
    links.prev node = none ∧ links.next node = none

theorem Settled.insertFirst {used : Node → Prop} (settled : links.Settled lists used)
    (holds : links.Holds lists) (key : Key) :
    (links.insertFirst key node).Settled (Function.update lists key (node :: lists key)) used := by
  intro later inUse absent
  have here := absent key
  rw [Function.update_self, List.mem_cons, not_or] at here
  have unlisted : ∀ other, later ∉ lists other := by
    intro other
    by_cases same : other = key
    · rw [same]
      exact here.2
    · have there := absent other
      rw [Function.update_of_ne same] at there
      exact there
  have notFirst : links.head key ≠ some later := by
    intro first
    have begins : (lists key).head? = some later := (holds.chain key).read_eq.symm.trans first
    exact unlisted key (List.mem_of_mem_head? begins)
  have next := read_insertFirst links key node (.next later)
  rw [if_neg (by simp), if_neg (by simpa using here.1)] at next
  rw [prev_insertFirst, if_neg (Ne.symm here.1), if_neg notFirst]
  exact ⟨(settled later inUse unlisted).1, next.trans (settled later inUse unlisted).2⟩

/-- The pointers of the node that is taken out stay, so it is not in use any more. -/
theorem Settled.bypass {used : Node → Prop} (settled : links.Settled lists used)
    (holds : links.Holds lists) (key : Key)
    (member : node ∈ lists key) :
    (links.bypass node).Settled (fun key => (lists key).erase node)
      (fun other => used other ∧ other ≠ node) := by
  intro later inUse absent
  obtain ⟨leads, back, place⟩ := (holds.chain key).prev_of_mem member
  have unlisted : ∀ other, later ∉ lists other := by
    intro other listed
    exact absent other ((List.mem_erase_of_ne inUse.2).mpr listed)
  have notNext : links.next node ≠ some later := by
    intro follows
    exact unlisted key ((holds.chain key).next_mem member follows)
  have elsewhere : Cell.next later ≠ leads := by
    intro atNext
    cases place with
    | inl atHead => exact absurd (atNext.trans atHead) (by simp)
    | inr atBefore =>
        obtain ⟨before, listed, isBefore⟩ := atBefore
        cases atNext.trans isBefore
        exact unlisted key listed
  have next := read_bypass back (.next later)
  rw [if_neg elsewhere] at next
  rw [prev_bypass back, if_neg notNext]
  exact ⟨(settled later inUse.1 unlisted).1, next.trans (settled later inUse.1 unlisted).2⟩

/-- Nothing changes where a node is passed over that is on no list. -/
theorem bypass_of_clear (off : links.prev node = none ∧ links.next node = none) :
    links.bypass node = links := by
  simp only [bypass, off]
  rfl

theorem Settled.clear {used : Node → Prop}
    (settled : links.Settled lists fun other => used other ∧ other ≠ node) :
    (links.clear node).Settled lists used := by
  intro later inUse absent
  have next := read_clear links node (.next later)
  by_cases same : node = later
  · rw [if_pos (by rw [same])] at next
    rw [prev_clear, if_pos same]
    exact ⟨rfl, next⟩
  · rw [if_neg (by simpa using Ne.symm same)] at next
    rw [prev_clear, if_neg same]
    have old := settled later ⟨inUse, Ne.symm same⟩ absent
    exact ⟨old.1, next.trans old.2⟩

theorem Settled.unlink {used : Node → Prop} (settled : links.Settled lists used)
    (holds : links.Holds lists) (key : Key)
    (member : node ∈ lists key) :
    (links.unlink node).Settled (fun key => (lists key).erase node) used := by
  obtain ⟨leads, back⟩ := holds.prev_eq_some key member
  rw [unlink_of_prev back]
  exact (settled.bypass holds key member).clear

omit [DecidableEq Key] [DecidableEq Node] in
theorem Settled.mono {used fewer : Node → Prop} (settled : links.Settled lists used)
    (within : ∀ node, fewer node → used node) : links.Settled lists fewer :=
  fun node inUse absent => settled node (within node inUse) absent

/-! ### Where pointers lead -/

omit [DecidableEq Key] [DecidableEq Node] in
theorem Holds.head_listed (holds : links.Holds lists) {key : Key}
    (first : links.head key = some node) : node ∈ lists key := by
  have begins : (lists key).head? = some node := (holds.chain key).read_eq.symm.trans first
  exact List.mem_of_mem_head? begins

omit [DecidableEq Key] [DecidableEq Node] in
theorem Settled.next_listed {used : Node → Prop} (settled : links.Settled lists used)
    (holds : links.Holds lists) {before : Node} (inUse : used before)
    (follows : links.next before = some node) : ∃ key, node ∈ lists key := by
  by_cases onList : ∃ key, before ∈ lists key
  · obtain ⟨key, member⟩ := onList
    exact ⟨key, (holds.chain key).next_mem member follows⟩
  · have clear := settled before inUse fun key member => onList ⟨key, member⟩
    rw [clear.2] at follows
    cases follows

omit [DecidableEq Key] [DecidableEq Node] in
theorem Settled.prev_listed {used : Node → Prop} (settled : links.Settled lists used)
    (holds : links.Holds lists) {after : Node} (inUse : used after)
    (leads : links.prev after = some (.next node)) : ∃ key, node ∈ lists key := by
  by_cases onList : ∃ key, after ∈ lists key
  · obtain ⟨key, member⟩ := onList
    obtain ⟨cell, found, place⟩ := (holds.chain key).prev_of_mem member
    have same : some cell = some (.next node) := found.symm.trans leads
    cases same
    cases place with
    | inl atHead => cases atHead
    | inr atBefore =>
        obtain ⟨before, listed, isBefore⟩ := atBefore
        cases isBefore
        exact ⟨key, listed⟩
  · have clear := settled after inUse fun key member => onList ⟨key, member⟩
    rw [clear.1] at leads
    cases leads

/-! ### A walk that the visits may take nodes out in -/

section sweep

variable {State : Type} {pointers : State → Links Key Node} {visit : Node → State → State}
  {Good : State → List Node → Prop} {key : Key}

omit [DecidableEq Key] [DecidableEq Node] in
/-- The pointer to the next node is read before the visit. -/
def sweep (pointers : State → Links Key Node) (visit : Node → State → State) :
    Nat → Option Node → State → State
  | 0, _, state => state
  | _ + 1, none, state => state
  | fuel + 1, some node, state =>
      sweep pointers visit fuel ((pointers state).next node) (visit node state)

omit [DecidableEq Key] [DecidableEq Node] in
/-- Visits that keep the nodes after the visited one let the walk visit each node once. -/
theorem sweep_eq_foldl
    (holds : ∀ state nodes, Good state nodes → (pointers state).Chain (.head key) nodes)
    (visits : ∀ state front node back, Good state (front ++ node :: back) →
      ∃ front', Good (visit node state) (front' ++ back))
    {fuel : Nat} {front back : List Node} {state : State} (good : Good state (front ++ back))
    (enough : back.length ≤ fuel) :
    sweep pointers visit fuel back.head? state =
      back.foldl (fun state node => visit node state) state := by
  induction back generalizing fuel front state with
  | nil =>
      cases fuel with
      | zero => rfl
      | succ fuel => rfl
  | cons node rest ih =>
      cases fuel with
      | zero => simp at enough
      | succ fuel =>
          have follows := (holds state _ good).next_eq
          obtain ⟨front', kept⟩ := visits state front node rest good
          have shorter : rest.length ≤ fuel := by
            rw [List.length_cons] at enough
            omega
          show sweep pointers visit fuel ((pointers state).next node) (visit node state) = _
          rw [follows, ih kept shorter, List.foldl_cons]

end sweep

end Links
