import JSCameraKit.WebSocketServer.WriteQueue

set_option autoImplicit false

/-! Runs of the operations on the write queue, each one atomic under
`clientWriteableMutex`. The arrays refine a keyed queue, and what that queue
conserves and keeps in order is read back on the arrays. -/

namespace JSCameraKit
namespace WebSocketServer

open KeyedQueue (ofKey others oldest withoutOldest)

/-- A block as one call of `waitForWriteable:onClient:` passed it. The number tells
apart two calls that pass the same block. -/
structure Call (Block : Type) where
  number : Nat
  block : Block

/-- The arrays with every call of `waitForWriteable:onClient:` and every block
invoked so far, in order. -/
structure History (Wsi Block : Type) where
  queue : WriteQueue Wsi (Call Block)
  calls : List (Call Block × Wsi)
  invoked : List (Invocation Wsi (Call Block))

inductive Operation (Wsi Block : Type)
  | onClientAdded (wsi : Wsi)
  | waitForWriteable (block : Block) (wsi : Wsi)
  | onClientWritable (wsi : Wsi)
  | onConnectionClose (wsi : Wsi)
  | cancelAllWrites

namespace History

variable {Wsi Block : Type}

def init : History Wsi Block :=
  { queue := WriteQueue.init, calls := [], invoked := [] }

def after (history : History Wsi Block) (outcome : Outcome Wsi (Call Block)) :
    History Wsi Block :=
  { history with queue := outcome.1, invoked := history.invoked ++ outcome.2 }

/-- A settled entry as the invocation the arrays make of it. -/
def invocation (settled : (Call Block × Wsi) × Bool) : Invocation Wsi (Call Block) :=
  (settled.1.1, if settled.2 then some settled.1.2 else none)

private theorem invocation_delivered (entry : Option (Call Block × Wsi)) (wsi : Wsi)
    (atKey : ∀ found, entry = some found → found.2 = wsi) :
    (entry.map fun found => (found.1, some wsi)).toList =
      (KeyedQueue.settle true entry.toList).map invocation := by
  cases entry with
  | none => rfl
  | some found =>
      have same := atKey found rfl
      subst same
      rfl

private theorem invocation_dropped (entries : List (Call Block × Wsi)) :
    entries.map (fun entry => (entry.1, none)) =
      (KeyedQueue.settle false entries).map invocation := by
  simp [KeyedQueue.settle, invocation, Function.comp_def]

variable [DecidableEq Wsi]

def step (history : History Wsi Block) : Operation Wsi Block → Option (History Wsi Block)
  | .onClientAdded wsi => some { history with queue := history.queue.onClientAdded wsi }
  | .waitForWriteable block wsi =>
      let call : Call Block := { number := history.calls.length, block := block }
      some
        { history with
          queue := history.queue.waitForWriteable call wsi
          calls := history.calls ++ [(call, wsi)] }
  | .onClientWritable wsi => (history.queue.onClientWritable wsi).map history.after
  | .onConnectionClose wsi => (history.queue.onConnectionClose wsi).map history.after
  | .cancelAllWrites => history.queue.cancelAllWrites.map history.after

variable (Wsi Block) in
def machine : Machine (History Wsi Block) (Operation Wsi Block) :=
  { initial := fun history => history = init
    step := step }

/-- The arrays and the invocations of a history, read as a keyed queue. -/
structure Implements (history : History Wsi Block) (queue : KeyedQueue Wsi (Call Block)) :
    Prop where
  paired : history.queue.Paired
  pending : history.queue.entries = queue.pending
  calls : history.calls = queue.pushed
  invoked : history.invoked = queue.settled.map invocation

/-- Each operation on the arrays is one action of the keyed queue, or none for
operations about clients without entries; and no operation raises. -/
theorem step_implements {history : History Wsi Block} {queue : KeyedQueue Wsi (Call Block)}
    (agrees : history.Implements queue) (operation : Operation Wsi Block) :
    ∃ next after, history.step operation = some next ∧ next.Implements after ∧
      (after = queue ∨ ∃ action, after = queue.step action) := by
  cases operation with
  | onClientAdded wsi =>
      exact ⟨_, queue, rfl, ⟨agrees.paired, agrees.pending, agrees.calls, agrees.invoked⟩,
        .inl rfl⟩
  | waitForWriteable block wsi =>
      refine ⟨_, queue.step (.push ⟨history.calls.length, block⟩ wsi), rfl, ?_,
        .inr ⟨_, rfl⟩⟩
      rw [agrees.paired.waitForWriteable]
      exact
        { paired := WriteQueue.paired_ofEntries _ _
          pending := by simp [KeyedQueue.step, agrees.pending]
          calls := by simp [KeyedQueue.step, agrees.calls]
          invoked := agrees.invoked }
  | onClientWritable wsi =>
      have outcome := agrees.paired.onClientWritable wsi
      refine ⟨_, queue.step (.deliver wsi), by rw [step, outcome]; rfl, ?_, .inr ⟨_, rfl⟩⟩
      exact
        { paired := WriteQueue.paired_ofEntries _ _
          pending := by simp [History.after, KeyedQueue.step, agrees.pending]
          calls := agrees.calls
          invoked := by
            have delivered := invocation_delivered (oldest wsi queue.pending) wsi
              fun _ => KeyedQueue.oldest_key
            simp [History.after, KeyedQueue.step, agrees.pending, agrees.invoked, delivered] }
  | onConnectionClose wsi =>
      have outcome := WriteQueue.onConnectionClose_ofEntries history.queue.clients
        history.queue.entries wsi
      rw [← agrees.paired.eq_ofEntries] at outcome
      by_cases known : wsi ∈ history.queue.clients
      · rw [if_pos known, if_pos known] at outcome
        refine ⟨_, queue.step (.drop wsi), by rw [step, outcome]; rfl, ?_, .inr ⟨_, rfl⟩⟩
        exact
          { paired := WriteQueue.paired_ofEntries _ _
            pending := by simp [History.after, KeyedQueue.step, agrees.pending]
            calls := agrees.calls
            invoked := by
              simp [History.after, KeyedQueue.step, agrees.pending, agrees.invoked,
                invocation_dropped] }
      · rw [if_neg known, if_neg known] at outcome
        refine ⟨_, queue, by rw [step, outcome]; rfl, ?_, .inl rfl⟩
        exact
          { paired := WriteQueue.paired_ofEntries _ _
            pending := by simp [History.after, agrees.pending]
            calls := agrees.calls
            invoked := by simp [History.after, agrees.invoked] }
  | cancelAllWrites =>
      have outcome := agrees.paired.cancelAllWrites
      refine ⟨_, queue.step .dropAll, by rw [step, outcome]; rfl, ?_, .inr ⟨_, rfl⟩⟩
      exact
        { paired := WriteQueue.paired_ofEntries _ _
          pending := by simp [History.after, KeyedQueue.step]
          calls := agrees.calls
          invoked := by
            simp [History.after, KeyedQueue.step, agrees.pending, agrees.invoked,
              invocation_dropped] }

/-- The arrays refine the keyed queue. -/
theorem simulation :
    Machine.Simulation (machine Wsi Block) (KeyedQueue.machine Wsi (Call Block)) Implements where
  start := by
    intro history starts
    cases starts
    exact ⟨KeyedQueue.empty, rfl, ⟨rfl, rfl, rfl, rfl⟩⟩
  step := by
    intro history operation next queue _ agrees taken
    obtain ⟨outcome, after, stepped, implemented, moved⟩ := step_implements agrees operation
    have same : outcome = next := Option.some.inj (stepped.symm.trans taken)
    subst same
    refine ⟨after, implemented, ?_⟩
    rcases moved with same | ⟨action, moved⟩
    · exact .inl same
    · exact .inr ⟨action, congrArg some moved.symm⟩

private theorem reachable_numbers {history : History Wsi Block}
    (reached : (machine Wsi Block).Reachable history) :
    history.calls.map (fun call => call.1.number) = List.range history.calls.length := by
  refine reached.invariant (fun history =>
    history.calls.map (fun call => call.1.number) = List.range history.calls.length) ?_ ?_
  · intro start starts
    cases starts
    rfl
  · intro before operation next _ numbered taken
    have keep (outcome : Option (Outcome Wsi (Call Block)))
        (moved : outcome.map before.after = some next) : next.calls = before.calls := by
      obtain ⟨result, _, same⟩ := Option.map_eq_some_iff.mp moved
      rw [← same]
      rfl
    cases operation with
    | onClientAdded wsi =>
        cases taken
        exact numbered
    | waitForWriteable block wsi =>
        cases taken
        simp [numbered, List.range_succ]
    | onClientWritable wsi => rw [keep _ taken, numbered]
    | onConnectionClose wsi => rw [keep _ taken, numbered]
    | cancelAllWrites => rw [keep _ taken, numbered]

/-- What the queue promises of every run of the operations. -/
structure Discipline (history : History Wsi Block) : Prop where
  equalLength :
    history.queue.clientWriteableCallbacks.length = history.queue.clientWriteablePtrs.length
  /-- One index holds the callback and the pointer of one and the same call. -/
  sameCall : ∀ (index : Nat) (callback : Call Block) (ptr : Wsi),
    history.queue.clientWriteableCallbacks[index]? = some callback →
    history.queue.clientWriteablePtrs[index]? = some ptr →
      history.calls[callback.number]? = some (callback, ptr)
  /-- Each call is pending once or was invoked once, never both. -/
  settledOnce : ∀ number, number < history.calls.length →
    (history.queue.clientWriteableCallbacks.map Call.number).count number +
      (history.invoked.map fun invocation => invocation.1.number).count number = 1
  /-- A call is invoked with its own socket or with `nil`. -/
  ownSocket : ∀ callback argument, (callback, argument) ∈ history.invoked →
    ∃ wsi, (callback, wsi) ∈ history.calls ∧ (argument = none ∨ argument = some wsi)
  /-- A socket receives its callbacks in the order they were enqueued for it. -/
  inOrder : ∀ wsi,
    ((history.invoked.filter fun invocation => invocation.2 = some wsi).map Prod.fst).Sublist
      ((history.calls.filter fun call => call.2 = wsi).map Prod.fst)
  /-- A writable socket invokes exactly its oldest pending callback, if any. -/
  onClientWritable : ∀ wsi,
    ((∀ ptr ∈ history.queue.clientWriteablePtrs, ptr ≠ wsi) ∧
        history.queue.onClientWritable wsi = some (history.queue, [])) ∨
      ∃ (before : List (Call Block × Wsi)) (callback : Call Block)
          (after : List (Call Block × Wsi)) (next : WriteQueue Wsi (Call Block)),
        history.queue.entries = before ++ (callback, wsi) :: after ∧
        (∀ entry ∈ before, entry.2 ≠ wsi) ∧
        (∀ entry ∈ after, callback.number < entry.1.number) ∧
        history.queue.onClientWritable wsi = some (next, [(callback, some wsi)]) ∧
        next.Paired ∧ next.entries = before ++ after
  /-- The close of a registered client invokes its callbacks with `nil`, and those only. -/
  onConnectionClose : ∀ wsi ∈ history.queue.clients, ∃ next,
    history.queue.onConnectionClose wsi =
        some (next, (history.queue.entries.filter fun entry => entry.2 = wsi).map
          fun entry => (entry.1, none)) ∧
      next.Paired ∧
      next.entries = history.queue.entries.filter fun entry => entry.2 ≠ wsi
  /-- No operation raises a range exception. -/
  runs : ∀ operation, ∃ next, history.step operation = some next

omit [DecidableEq Wsi] in
private theorem entries_numbers {queue : WriteQueue Wsi (Call Block)} (paired : queue.Paired) :
    queue.entries.map (fun entry => entry.1.number) =
      queue.clientWriteableCallbacks.map Call.number := by
  have callbacks : queue.entries.map Prod.fst = queue.clientWriteableCallbacks :=
    List.map_fst_zip (Nat.le_of_eq paired)
  rw [← callbacks, List.map_map]
  rfl

section Implemented

variable {history : History Wsi Block} {queue : KeyedQueue Wsi (Call Block)}

omit [DecidableEq Wsi] in
theorem Implements.settled_numbers (agrees : history.Implements queue) :
    history.invoked.map (fun invocation => invocation.1.number) =
      (queue.settled.map Prod.fst).map fun entry => entry.1.number := by
  rw [agrees.invoked, List.map_map, List.map_map]
  rfl

omit [DecidableEq Wsi] in
private theorem numbered_call (numbered : history.calls.map (fun call => call.1.number) =
      List.range history.calls.length) {call : Call Block × Wsi}
    (member : call ∈ history.calls) : history.calls[call.1.number]? = some call := by
  obtain ⟨index, inRange, here⟩ := List.mem_iff_getElem.mp member
  have number := congrArg (fun numbers => numbers[index]?) numbered
  simp only [List.getElem?_map, List.getElem?_eq_getElem inRange, here, Option.map_some,
    List.getElem?_range inRange, Option.some.injEq] at number
  rw [number, List.getElem?_eq_getElem inRange, here]

omit [DecidableEq Wsi] in
theorem Implements.sameCall (agrees : history.Implements queue)
    (sublist : queue.pending.Sublist queue.pushed)
    (numbered : history.calls.map (fun call => call.1.number) =
      List.range history.calls.length)
    (index : Nat) (callback : Call Block) (ptr : Wsi)
    (atCallbacks : history.queue.clientWriteableCallbacks[index]? = some callback)
    (atPtrs : history.queue.clientWriteablePtrs[index]? = some ptr) :
    history.calls[callback.number]? = some (callback, ptr) := by
  have entry : history.queue.entries[index]? = some (callback, ptr) := by
    rw [WriteQueue.entries, List.getElem?_zip_eq_some]
    exact ⟨atCallbacks, atPtrs⟩
  have pending : (callback, ptr) ∈ queue.pending := by
    rw [← agrees.pending]
    exact List.mem_of_getElem? entry
  have called : (callback, ptr) ∈ history.calls := by
    rw [agrees.calls]
    exact sublist.subset pending
  exact numbered_call numbered called

omit [DecidableEq Wsi] in
theorem Implements.settledOnce (agrees : history.Implements queue)
    (conserved : queue.Conserved)
    (numbered : history.calls.map (fun call => call.1.number) =
      List.range history.calls.length)
    (number : Nat) (made : number < history.calls.length) :
    (history.queue.clientWriteableCallbacks.map Call.number).count number +
      (history.invoked.map fun invocation => invocation.1.number).count number = 1 := by
  have numbers := (conserved.map fun entry => entry.1.number).count_eq number
  rw [← agrees.calls, numbered, List.map_append, List.count_append, ← agrees.settled_numbers,
    ← agrees.pending, entries_numbers agrees.paired] at numbers
  have once : (List.range history.calls.length).count number = 1 :=
    List.count_eq_one_of_mem List.nodup_range (List.mem_range.mpr made)
  omega

omit [DecidableEq Wsi] in
theorem Implements.ownSocket (agrees : history.Implements queue) (conserved : queue.Conserved)
    (callback : Call Block) (argument : Option Wsi)
    (invoked : (callback, argument) ∈ history.invoked) :
    ∃ wsi, (callback, wsi) ∈ history.calls ∧ (argument = none ∨ argument = some wsi) := by
  rw [agrees.invoked] at invoked
  obtain ⟨⟨⟨item, wsi⟩, delivered⟩, settled, same⟩ := List.mem_map.mp invoked
  simp only [invocation, Prod.mk.injEq] at same
  obtain ⟨rfl, rfl⟩ := same
  refine ⟨wsi, ?_, ?_⟩
  · rw [agrees.calls]
    exact conserved.subset (List.mem_append_left _ (List.mem_map_of_mem settled))
  · cases delivered <;> simp

theorem Implements.inOrder (agrees : history.Implements queue) (ordered : queue.InOrder)
    (wsi : Wsi) :
    ((history.invoked.filter fun invocation => invocation.2 = some wsi).map Prod.fst).Sublist
      ((history.calls.filter fun call => call.2 = wsi).map Prod.fst) := by
  have delivered := (ordered.delivered_sublist wsi).map Prod.fst
  have received : (history.invoked.filter fun invocation => invocation.2 = some wsi).map
      Prod.fst = (ofKey wsi ((queue.settled.filter Prod.snd).map Prod.fst)).map Prod.fst := by
    rw [agrees.invoked, ofKey, List.filter_map, List.filter_map, List.map_map, List.map_map,
      List.filter_filter]
    congr 1
    apply List.filter_congr
    rintro ⟨⟨callback, ptr⟩, flag⟩ _
    cases flag <;> simp [invocation]
  rw [received, agrees.calls]
  exact delivered

theorem Implements.onClientWritable (agrees : history.Implements queue)
    (sublist : queue.pending.Sublist queue.pushed)
    (numbered : history.calls.map (fun call => call.1.number) =
      List.range history.calls.length) (wsi : Wsi) :
    ((∀ ptr ∈ history.queue.clientWriteablePtrs, ptr ≠ wsi) ∧
        history.queue.onClientWritable wsi = some (history.queue, [])) ∨
      ∃ (before : List (Call Block × Wsi)) (callback : Call Block)
          (after : List (Call Block × Wsi)) (next : WriteQueue Wsi (Call Block)),
        history.queue.entries = before ++ (callback, wsi) :: after ∧
        (∀ entry ∈ before, entry.2 ≠ wsi) ∧
        (∀ entry ∈ after, callback.number < entry.1.number) ∧
        history.queue.onClientWritable wsi = some (next, [(callback, some wsi)]) ∧
        next.Paired ∧ next.entries = before ++ after := by
  have shape := agrees.paired.eq_ofEntries
  have outcome := agrees.paired.onClientWritable wsi
  cases found : oldest wsi history.queue.entries with
  | none =>
      refine .inl ⟨?_, ?_⟩
      · have ptrs : history.queue.entries.map Prod.snd = history.queue.clientWriteablePtrs :=
          List.map_snd_zip (Nat.le_of_eq agrees.paired.symm)
        intro ptr member
        rw [← ptrs] at member
        obtain ⟨entry, inEntries, rfl⟩ := List.mem_map.mp member
        simpa using List.find?_eq_none.mp found entry inEntries
      · rw [outcome, found, KeyedQueue.withoutOldest_of_none found, ← shape]
        rfl
  | some entry =>
      obtain ⟨callback, ptr⟩ := entry
      obtain rfl : ptr = wsi := KeyedQueue.oldest_key found
      obtain ⟨before, after, split, earlier, taken⟩ := KeyedQueue.oldest_split found
      have increasing : (history.queue.entries.map fun entry => entry.1.number).Pairwise
          (· < ·) := by
        rw [agrees.pending]
        refine List.Pairwise.sublist (sublist.map _) ?_
        rw [← agrees.calls, numbered]
        exact List.pairwise_lt_range
      rw [split, List.map_append, List.map_cons, List.pairwise_append,
        List.pairwise_cons] at increasing
      refine .inr ⟨before, callback, after, _, split, ?_, ?_, ?_,
        WriteQueue.paired_ofEntries history.queue.clients (before ++ after),
        WriteQueue.entries_ofEntries _ _⟩
      · intro other member atKey
        have inKey := KeyedQueue.mem_ofKey.mpr ⟨member, atKey⟩
        rw [earlier] at inKey
        cases inKey
      · intro other member
        exact increasing.2.1.1 _ (List.mem_map_of_mem member)
      · rw [outcome, found, taken]
        rfl

theorem Implements.onConnectionClose (agrees : history.Implements queue) (wsi : Wsi)
    (known : wsi ∈ history.queue.clients) :
    ∃ next, history.queue.onConnectionClose wsi =
        some (next, (history.queue.entries.filter fun entry => entry.2 = wsi).map
          fun entry => (entry.1, none)) ∧
      next.Paired ∧
      next.entries = history.queue.entries.filter fun entry => entry.2 ≠ wsi := by
  have outcome := WriteQueue.onConnectionClose_ofEntries history.queue.clients
    history.queue.entries wsi
  rw [← agrees.paired.eq_ofEntries, if_pos known, if_pos known] at outcome
  exact ⟨_, outcome, WriteQueue.paired_ofEntries _ _, WriteQueue.entries_ofEntries _ _⟩

end Implemented

/-- The queue discipline holds after every sequence of the operations. -/
theorem discipline_of_reachable {history : History Wsi Block}
    (reached : (machine Wsi Block).Reachable history) : history.Discipline := by
  obtain ⟨queue, queueReached, agrees⟩ := simulation.reachable reached
  have conserved := KeyedQueue.reachable_conserved queueReached
  have sublist := KeyedQueue.reachable_pending_sublist queueReached
  have numbered := reachable_numbers reached
  exact
    { equalLength := agrees.paired
      sameCall := agrees.sameCall sublist numbered
      settledOnce := agrees.settledOnce conserved numbered
      ownSocket := agrees.ownSocket conserved
      inOrder := agrees.inOrder (KeyedQueue.reachable_inOrder queueReached)
      onClientWritable := agrees.onClientWritable sublist numbered
      onConnectionClose := agrees.onConnectionClose
      runs := fun operation =>
        let ⟨next, _, stepped, _⟩ := step_implements agrees operation
        ⟨next, stepped⟩ }

/-- Two clients share the queue; the first is written to and the second closes. -/
def twoClients : List (Operation Nat Unit) :=
  [.onClientAdded 1, .onClientAdded 2, .waitForWriteable () 1, .waitForWriteable () 2,
    .waitForWriteable () 1, .onClientWritable 1, .onConnectionClose 2]

theorem discipline_of_twoClients :
    ∃ history, (machine Nat Unit).run init twoClients = some history ∧
      history.invoked = [(⟨0, ()⟩, some 1), (⟨1, ()⟩, none)] ∧ history.Discipline :=
  ⟨_, rfl, rfl, discipline_of_reachable (Machine.Reachable.run twoClients (.initial rfl) rfl)⟩

end History

end WebSocketServer
end JSCameraKit
