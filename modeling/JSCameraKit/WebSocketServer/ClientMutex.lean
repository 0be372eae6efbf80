import JSCameraKit.Library.ListEdit
import JSCameraKit.Library.Machine
import JSCameraKit.WebSocketServer.WriteQueue

set_option autoImplicit false

/-! The threads that take `clientWriteableMutex`, which is not recursive. A method is the
instructions that it has still to execute; a completion block of a caller may call any
method that writes or cancels, so that what it calls is chosen when it runs. -/

namespace JSCameraKit
namespace WebSocketServer
namespace ClientMutex

open KeyedQueue (ofKey)

/-- A `Callback`: a completion block of the caller, a block that leaves a dispatch group,
or nil. -/
inductive Callback
  | caller
  | leave (group : Nat)
  | nil
  deriving DecidableEq

/-- A `WritableCallback`. That of `writeDatas:toSocket:` ends with the block that it was
given, which leaves the group of its call. -/
inductive WritableCallback
  | string (block : Callback) (group : Nat)
  | data (group : Nat)
  deriving DecidableEq

inductive Method (Wsi : Type)
  | writeString (block : Callback)
  | writeJSON (block : Callback)
  | writeData (block : Callback)
  | writeDatas (block : Callback)
  | cancelAllWrites
  | onClientAdded (wsi : Wsi)
  | onConnectionClose (wsi : Wsi)
  | onClientWritable (wsi : Wsi)

inductive Instruction (Wsi : Type)
  | method (method : Method Wsi)
  | lock
  | unlock
  /-- The blocks of `lockClients:`. -/
  | enqueue (callback : WritableCallback) (wsi : Wsi)
  | cancelAll
  | close (wsi : Wsi)
  | writable (wsi : Wsi)
  | addClient (wsi : Wsi)
  | call (block : Callback)
  | enter (group : Nat)
  /-- `dispatch_async` of a block that waits for the group and calls the completion block. -/
  | dispatchAsync (group : Nat) (block : Callback)
  | wait (group : Nat)

structure State (Wsi : Type) where
  queue : WriteQueue Wsi WritableCallback
  /-- The enters of each dispatch group not yet left. -/
  groups : List Nat
  /-- The thread that holds the mutex. -/
  holder : Option Nat
  threads : List (List (Instruction Wsi))

/-- A call of a public method, with a completion block or without. -/
inductive Request
  | writeString (hasBlock : Bool)
  | writeJSON (hasBlock : Bool)
  | writeData (hasBlock : Bool)
  | writeDatas (hasBlock : Bool)
  | cancelAllWrites

inductive Label (Wsi : Type)
  | request (request : Request)
  | established (wsi : Wsi)
  | closed (wsi : Wsi)
  | writable (wsi : Wsi)
  /-- A thread executes its next instruction; a completion block makes the calls given. -/
  | advance (thread : Nat) (calls : List Request)

variable {Wsi : Type}

def callback (hasBlock : Bool) : Callback :=
  if hasBlock then .caller else .nil

def Request.method : Request → Method Wsi
  | .writeString hasBlock => .writeString (callback hasBlock)
  | .writeJSON hasBlock => .writeJSON (callback hasBlock)
  | .writeData hasBlock => .writeData (callback hasBlock)
  | .writeDatas hasBlock => .writeDatas (callback hasBlock)
  | .cancelAllWrites => .cancelAllWrites

/-- What a pending block does with a socket or with nil, the writing apart. -/
def WritableCallback.settle : WritableCallback → Option Wsi → Callback
  | .string block _, none => block
  | .string _ group, some _ => .leave group
  | .data group, _ => .leave group

def lockClients (block : Instruction Wsi) : List (Instruction Wsi) :=
  [.lock, block, .unlock]

/-- The loop of `eachClient` and what is dispatched behind it. A loop that finds the array
mutated raises an exception; here it goes on. -/
def eachClient (clients : List Wsi) (group : Nat) (block : Callback)
    (round : Wsi → List (Instruction Wsi)) : List (Instruction Wsi) :=
  clients.flatMap (fun wsi => .enter group :: round wsi) ++ [.dispatchAsync group block]

/-- The instructions of a method, where a dispatch group that it creates has the number given. -/
def instructions (clients : List Wsi) (group : Nat) : Method Wsi → List (Instruction Wsi)
  | .writeString block =>
      if clients.isEmpty then [.call block]
      else
        eachClient clients group block fun wsi => lockClients (.enqueue (.string block group) wsi)
  | .writeJSON block => [.method (.writeString block)]
  | .writeData block =>
      if clients.isEmpty then [.call block]
      else eachClient clients group block fun _ => [.method (.writeDatas (.leave group))]
  | .writeDatas block =>
      if clients.isEmpty then [.call block]
      else eachClient clients group block fun wsi => lockClients (.enqueue (.data group) wsi)
  | .cancelAllWrites => lockClients .cancelAll
  | .onClientAdded wsi => [.addClient wsi]
  | .onConnectionClose wsi => lockClients (.close wsi)
  | .onClientWritable wsi => lockClients (.writable wsi)

/-- The blocks that an operation calls, before the rest of its thread. -/
def calls (invoked : List (Invocation Wsi WritableCallback)) : List (Instruction Wsi) :=
  invoked.map fun invocation => .call (invocation.1.settle invocation.2)

def operate (state : State Wsi) (thread : Nat) (rest : List (Instruction Wsi))
    (outcome : Option (Outcome Wsi WritableCallback)) : Option (State Wsi) :=
  outcome.map fun outcome =>
    { state with
      queue := outcome.1
      threads := state.threads.set thread (calls outcome.2 ++ rest) }

variable [DecidableEq Wsi]

/-- A thread executes an instruction; the rest of its instructions are given. -/
def execute (state : State Wsi) (thread : Nat) (rest : List (Instruction Wsi))
    (made : List Request) : Instruction Wsi → Option (State Wsi)
  | .method method =>
      some
        { state with
          groups := state.groups ++ [0]
          threads := state.threads.set thread
            (instructions state.queue.clients state.groups.length method ++ rest) }
  | .lock =>
      if state.holder = none then
        some { state with holder := some thread, threads := state.threads.set thread rest }
      else none
  | .unlock => some { state with holder := none, threads := state.threads.set thread rest }
  | .enqueue callback wsi =>
      some
        { state with
          queue := state.queue.waitForWriteable callback wsi
          threads := state.threads.set thread rest }
  | .cancelAll => operate state thread rest state.queue.cancelAllWrites
  | .close wsi => operate state thread rest (state.queue.onConnectionClose wsi)
  | .writable wsi => operate state thread rest (state.queue.onClientWritable wsi)
  | .addClient wsi =>
      some
        { state with
          queue := state.queue.onClientAdded wsi
          threads := state.threads.set thread rest }
  | .call .caller =>
      some
        { state with
          threads := state.threads.set thread
            (made.map (fun request => .method request.method) ++ rest) }
  | .call (.leave group) =>
      some
        { state with
          groups := state.groups.modify group fun count => count - 1
          threads := state.threads.set thread rest }
  | .call .nil => none
  | .enter group =>
      some
        { state with
          groups := state.groups.modify group fun count => count + 1
          threads := state.threads.set thread rest }
  | .dispatchAsync group block =>
      some { state with threads := state.threads.set thread rest ++ [[.wait group, .call block]] }
  | .wait group =>
      if state.groups[group]? = some 0 then
        some { state with threads := state.threads.set thread rest }
      else none

def spawn (state : State Wsi) (method : Method Wsi) : State Wsi :=
  { state with threads := state.threads ++ [[.method method]] }

def step (state : State Wsi) : Label Wsi → Option (State Wsi)
  | .request request => some (spawn state request.method)
  | .established wsi => some (spawn state (.onClientAdded wsi))
  | .closed wsi => some (spawn state (.onConnectionClose wsi))
  | .writable wsi => some (spawn state (.onClientWritable wsi))
  | .advance thread made =>
      match state.threads[thread]? with
      | some (instruction :: rest) => execute state thread rest made instruction
      | _ => none

def initial : State Wsi :=
  { queue := .init, groups := [], holder := none, threads := [] }

def machine : Machine (State Wsi) (Label Wsi) :=
  { initial := fun state => state = initial
    step := step }

/-! ### The property and the condition -/

/-- No thread that holds the mutex is about to lock it, or to call a caller's block. -/
def NoSelfDeadlock (state : State Wsi) : Prop :=
  ∀ (thread : Nat) (instruction : Instruction Wsi) (rest : List (Instruction Wsi)),
    state.threads[thread]? = some (instruction :: rest) → state.holder = some thread →
      instruction ≠ .lock ∧ instruction ≠ .call .caller

/-- The block of `writeString:` for a caller's completion block. -/
def WritableCallback.isCallers : WritableCallback → Bool
  | .string .caller _ => true
  | _ => false

/-- The entries that an instruction is about to settle with nil. -/
def cancelled (state : State Wsi) : Instruction Wsi → List (WritableCallback × Wsi)
  | .cancelAll => state.queue.entries
  | .close wsi => if wsi ∈ state.queue.clients then ofKey wsi state.queue.entries else []
  | _ => []

/-- No write of a string that has a completion block is cancelled, by `cancelAllWrites` or by
the close of its client. -/
def Spared (state : State Wsi) : Label Wsi → Prop
  | .advance thread _ => ∀ instruction ∈ (state.threads[thread]?).bind List.head?,
      ∀ entry ∈ cancelled state instruction, entry.1.isCallers = false
  | _ => True

instance (state : State Wsi) : (label : Label Wsi) → Decidable (Spared state label)
  | .advance thread _ =>
      inferInstanceAs (Decidable (∀ instruction ∈ (state.threads[thread]?).bind List.head?,
        ∀ entry ∈ cancelled state instruction, entry.1.isCallers = false))
  | .request _ | .established _ | .closed _ | .writable _ => inferInstanceAs (Decidable True)

/-! ### The instructions inside the mutex -/

/-- The instructions of a thread that holds the mutex, or does not. -/
def Balanced : Bool → List (Instruction Wsi) → Prop
  | locked, [] => locked = false
  | locked, .lock :: rest => locked = false ∧ Balanced true rest
  | locked, .unlock :: rest => locked = true ∧ Balanced false rest
  | locked, .enqueue _ _ :: rest | locked, .cancelAll :: rest | locked, .close _ :: rest
  | locked, .writable _ :: rest => locked = true ∧ Balanced locked rest
  | locked, .method _ :: rest | locked, .addClient _ :: rest | locked, .enter _ :: rest
  | locked, .dispatchAsync _ _ :: rest | locked, .wait _ :: rest
  | locked, .call .caller :: rest => locked = false ∧ Balanced locked rest
  | locked, .call (.leave _) :: rest | locked, .call .nil :: rest => Balanced locked rest

omit [DecidableEq Wsi] in
private theorem balanced_calls {locked : Bool} {blocks : List Callback}
    {rest : List (Instruction Wsi)}
    (harmless : ∀ block ∈ blocks, block ≠ .caller) (balanced : Balanced locked rest) :
    Balanced locked (blocks.map Instruction.call ++ rest) := by
  induction blocks with
  | nil => exact balanced
  | cons block blocks ih =>
      have later := ih fun other member => harmless other (List.mem_cons_of_mem block member)
      cases block with
      | caller => exact absurd rfl (harmless .caller List.mem_cons_self)
      | leave group => exact later
      | nil => exact later

omit [DecidableEq Wsi] in
private theorem call_balanced (block : Callback) {rest : List (Instruction Wsi)}
    (balanced : Balanced false rest) : Balanced false (.call block :: rest) := by
  cases block with
  | caller => exact ⟨rfl, balanced⟩
  | leave group => exact balanced
  | nil => exact balanced

omit [DecidableEq Wsi] in
private theorem eachClient_balanced (clients : List Wsi) (group : Nat) (block : Callback)
    {round : Wsi → List (Instruction Wsi)}
    (rounds : ∀ wsi rest, Balanced false rest → Balanced false (round wsi ++ rest))
    {rest : List (Instruction Wsi)} (balanced : Balanced false rest) :
    Balanced false (eachClient clients group block round ++ rest) := by
  unfold eachClient
  induction clients with
  | nil => exact ⟨rfl, balanced⟩
  | cons wsi clients ih =>
      rw [List.flatMap_cons, List.cons_append, List.cons_append, List.cons_append,
        List.append_assoc, List.append_assoc]
      rw [List.append_assoc] at ih
      exact ⟨rfl, rounds wsi _ ih⟩

omit [DecidableEq Wsi] in
private theorem broadcast_balanced (clients : List Wsi) (group : Nat) (block : Callback)
    {round : Wsi → List (Instruction Wsi)}
    (rounds : ∀ wsi rest, Balanced false rest → Balanced false (round wsi ++ rest))
    {rest : List (Instruction Wsi)} (balanced : Balanced false rest) :
    Balanced false
      ((if clients.isEmpty then [.call block] else eachClient clients group block round) ++
        rest) := by
  split
  · exact call_balanced block balanced
  · exact eachClient_balanced clients group block rounds balanced

omit [DecidableEq Wsi] in
private theorem instructions_balanced (clients : List Wsi) (group : Nat) (method : Method Wsi)
    {rest : List (Instruction Wsi)} (balanced : Balanced false rest) :
    Balanced false (instructions clients group method ++ rest) := by
  cases method with
  | writeString block =>
      apply broadcast_balanced clients group block _ balanced
      intro wsi later closed
      exact ⟨rfl, rfl, rfl, closed⟩
  | writeJSON block => exact ⟨rfl, balanced⟩
  | writeData block =>
      apply broadcast_balanced clients group block _ balanced
      intro wsi later closed
      exact ⟨rfl, closed⟩
  | writeDatas block =>
      apply broadcast_balanced clients group block _ balanced
      intro wsi later closed
      exact ⟨rfl, rfl, rfl, closed⟩
  | cancelAllWrites => exact ⟨rfl, rfl, rfl, balanced⟩
  | onClientAdded wsi => exact ⟨rfl, balanced⟩
  | onConnectionClose wsi => exact ⟨rfl, rfl, rfl, balanced⟩
  | onClientWritable wsi => exact ⟨rfl, rfl, rfl, balanced⟩

omit [DecidableEq Wsi] in
private theorem requests_balanced (made : List Request) {rest : List (Instruction Wsi)}
    (balanced : Balanced false rest) :
    Balanced false (made.map (fun request => .method request.method) ++ rest) := by
  induction made with
  | nil => exact balanced
  | cons request made ih => exact ⟨rfl, ih⟩

/-! ### Every thread -/

structure Orderly (state : State Wsi) : Prop where
  paired : state.queue.Paired
  held : ∀ thread, state.holder = some thread → thread < state.threads.length
  balanced : ∀ (thread : Nat) (stack : List (Instruction Wsi)),
    state.threads[thread]? = some stack → Balanced (decide (state.holder = some thread)) stack

omit [DecidableEq Wsi] in
theorem Orderly.goOn {state next : State Wsi} (orderly : Orderly state) {thread : Nat}
    {stack : List (Instruction Wsi)} (paired : next.queue.Paired)
    (holder : next.holder = state.holder) (threads : next.threads = state.threads.set thread stack)
    (balanced : Balanced (decide (state.holder = some thread)) stack) : Orderly next := by
  constructor
  · exact paired
  · intro other holds
    rw [threads, List.length_set]
    exact orderly.held other (holder.symm.trans holds)
  · intro other later found
    rw [threads] at found
    rw [holder]
    rcases ListEdit.set_cases found with ⟨rfl, rfl⟩ | ⟨_, kept⟩
    · exact balanced
    · exact orderly.balanced other later kept

omit [DecidableEq Wsi] in
theorem Orderly.spawn {state : State Wsi} (orderly : Orderly state)
    {stack : List (Instruction Wsi)} (balanced : Balanced false stack) :
    Orderly { state with threads := state.threads ++ [stack] } := by
  constructor
  · exact orderly.paired
  · intro thread holds
    rw [List.length_append]
    exact Nat.lt_add_right _ (orderly.held thread holds)
  · intro thread later found
    rcases ListEdit.concat_cases found with old | ⟨rfl, rfl⟩
    · exact orderly.balanced thread later old
    · have free : state.holder ≠ some state.threads.length := by
        intro holds
        exact absurd (orderly.held _ holds) (Nat.lt_irrefl _)
      rw [decide_eq_false free]
      exact balanced

omit [DecidableEq Wsi] in
theorem Orderly.lock {state : State Wsi} (orderly : Orderly state) {thread : Nat}
    {rest : List (Instruction Wsi)} (found : state.threads[thread]? = some (.lock :: rest))
    (free : state.holder = none) :
    Orderly { state with holder := some thread, threads := state.threads.set thread rest } := by
  have before := orderly.balanced thread _ found
  constructor
  · exact orderly.paired
  · intro other holds
    cases holds
    obtain ⟨inRange, _⟩ := List.getElem?_eq_some_iff.mp found
    dsimp only
    rw [List.length_set]
    exact inRange
  · intro other later atOther
    rcases ListEdit.set_cases atOther with ⟨rfl, rfl⟩ | ⟨different, kept⟩
    · rw [decide_eq_true rfl]
      exact before.2
    · have outside := orderly.balanced other later kept
      rw [free] at outside
      rw [decide_eq_false (by intro same; exact different (Option.some.inj same).symm)]
      exact outside

omit [DecidableEq Wsi] in
theorem Orderly.unlock {state : State Wsi} (orderly : Orderly state) {thread : Nat}
    {rest : List (Instruction Wsi)} (found : state.threads[thread]? = some (.unlock :: rest)) :
    Orderly { state with holder := none, threads := state.threads.set thread rest } := by
  have before := orderly.balanced thread _ found
  have holds : state.holder = some thread := of_decide_eq_true before.1
  constructor
  · exact orderly.paired
  · intro other none
    cases none
  · intro other later atOther
    rcases ListEdit.set_cases atOther with ⟨rfl, rfl⟩ | ⟨different, kept⟩
    · exact before.2
    · have outside := orderly.balanced other later kept
      rw [holds, decide_eq_false (by intro same; exact different (Option.some.inj same).symm)]
        at outside
      exact outside

omit [DecidableEq Wsi] in
/-- An operation on the queue under the mutex, none of whose pending blocks is a caller's. -/
theorem Orderly.operate {state next : State Wsi} (orderly : Orderly state) {thread : Nat}
    {rest : List (Instruction Wsi)} {outcome : Option (Outcome Wsi WritableCallback)}
    (inside : Balanced (decide (state.holder = some thread)) rest)
    (paired : ∀ left ∈ outcome, left.1.Paired)
    (harmless : ∀ left ∈ outcome, ∀ invocation ∈ left.2,
      invocation.1.settle invocation.2 ≠ .caller)
    (taken : ClientMutex.operate state thread rest outcome = some next) : Orderly next := by
  obtain ⟨left, same, rfl⟩ := Option.map_eq_some_iff.mp taken
  refine orderly.goOn (paired left same) rfl rfl ?_
  have blocks : ClientMutex.calls left.2 =
      (left.2.map fun invocation => invocation.1.settle invocation.2).map Instruction.call := by
    rw [ClientMutex.calls, List.map_map]
    rfl
  rw [blocks]
  apply balanced_calls _ inside
  intro block member
  obtain ⟨invocation, invoked, rfl⟩ := List.mem_map.mp member
  exact harmless left same invocation invoked

omit [DecidableEq Wsi] in
private theorem settle_nil {callback : WritableCallback} (spared : callback.isCallers = false) :
    callback.settle (none : Option Wsi) ≠ .caller := by
  intro called
  cases callback with
  | string block group =>
      cases called
      cases spared
  | data group => cases called

omit [DecidableEq Wsi] in
private theorem settle_socket (callback : WritableCallback) (wsi : Wsi) :
    callback.settle (some wsi) ≠ .caller := by
  cases callback with
  | string block group =>
      intro same
      cases same
  | data group =>
      intro same
      cases same

private theorem execute_orderly {state next : State Wsi} {thread : Nat} {made : List Request}
    {instruction : Instruction Wsi} {rest : List (Instruction Wsi)} (orderly : Orderly state)
    (found : state.threads[thread]? = some (instruction :: rest))
    (spared : Spared state (.advance thread made))
    (taken : execute state thread rest made instruction = some next) : Orderly next := by
  have before := orderly.balanced thread _ found
  have paired := orderly.paired
  have unharmed := spared instruction (by rw [found]; rfl)
  cases instruction with
  | method method =>
      cases taken
      refine orderly.goOn paired rfl rfl ?_
      rw [before.1]
      exact instructions_balanced _ _ method (before.1 ▸ before.2)
  | lock =>
      simp only [execute, Option.ite_none_right_eq_some, Option.some.injEq] at taken
      rw [← taken.2]
      exact orderly.lock found taken.1
  | unlock =>
      cases taken
      exact orderly.unlock found
  | enqueue callback wsi =>
      cases taken
      refine orderly.goOn ?_ rfl rfl before.2
      dsimp only
      rw [paired.waitForWriteable]
      exact WriteQueue.paired_ofEntries _ _
  | cancelAll =>
      rw [execute, paired.cancelAllWrites] at taken
      refine orderly.operate before.2 ?_ ?_ taken
      · intro left same
        cases same
        exact WriteQueue.paired_ofEntries _ _
      · intro left same invocation invoked
        cases same
        obtain ⟨entry, member, rfl⟩ := List.mem_map.mp invoked
        exact settle_nil (unharmed entry member)
  | close wsi =>
      rw [execute, paired.eq_ofEntries, WriteQueue.onConnectionClose_ofEntries] at taken
      refine orderly.operate before.2 ?_ ?_ taken
      · intro left same
        cases same
        exact WriteQueue.paired_ofEntries _ _
      · intro left same invocation invoked
        cases same
        dsimp only at invoked
        split at invoked
        · rename_i known
          obtain ⟨entry, member, rfl⟩ := List.mem_map.mp invoked
          apply settle_nil
          apply unharmed entry
          rw [cancelled, if_pos known]
          exact member
        · cases invoked
  | writable wsi =>
      rw [execute, paired.onClientWritable] at taken
      refine orderly.operate before.2 ?_ ?_ taken
      · intro left same
        cases same
        exact WriteQueue.paired_ofEntries _ _
      · intro left same invocation invoked
        cases same
        obtain ⟨entry, _, rfl⟩ := Option.map_eq_some_iff.mp (Option.mem_toList.mp invoked)
        exact settle_socket entry.1 wsi
  | addClient wsi =>
      cases taken
      refine orderly.goOn ?_ rfl rfl before.2
      dsimp only
      rw [paired.onClientAdded]
      exact WriteQueue.paired_ofEntries _ _
  | call block =>
      cases block with
      | caller =>
          cases taken
          refine orderly.goOn paired rfl rfl ?_
          rw [before.1]
          exact requests_balanced made (before.1 ▸ before.2)
      | leave group =>
          cases taken
          exact orderly.goOn paired rfl rfl before
      | nil => cases taken
  | enter group =>
      cases taken
      exact orderly.goOn paired rfl rfl before.2
  | dispatchAsync group block =>
      cases taken
      have moved : Orderly { state with threads := state.threads.set thread rest } :=
        orderly.goOn paired rfl rfl before.2
      exact moved.spawn ⟨rfl, call_balanced block rfl⟩
  | wait group =>
      simp only [execute, Option.ite_none_right_eq_some, Option.some.injEq] at taken
      rw [← taken.2]
      exact orderly.goOn paired rfl rfl before.2

/-! ### Every run -/

private theorem step_orderly {state next : State Wsi} {label : Label Wsi} (orderly : Orderly state)
    (spared : Spared state label) (taken : step state label = some next) : Orderly next := by
  cases label with
  | request request =>
      cases taken
      exact orderly.spawn ⟨rfl, rfl⟩
  | established wsi =>
      cases taken
      exact orderly.spawn ⟨rfl, rfl⟩
  | closed wsi =>
      cases taken
      exact orderly.spawn ⟨rfl, rfl⟩
  | writable wsi =>
      cases taken
      exact orderly.spawn ⟨rfl, rfl⟩
  | advance thread made =>
      unfold step at taken
      dsimp only at taken
      split at taken
      · rename_i instruction rest found
        exact execute_orderly orderly found spared taken
      · cases taken

omit [DecidableEq Wsi] in
private theorem initial_orderly : Orderly (initial : State Wsi) := by
  constructor
  · rfl
  · intro thread holds
    cases holds
  · intro thread stack found
    cases found

private theorem reachable_orderly {state : State Wsi}
    (reached : machine.ReachableWhen Spared state) :
    Orderly state := by
  refine reached.invariant Orderly ?_ ?_
  · intro state starts
    rw [starts]
    exact initial_orderly
  · intro state label next _ orderly spared taken
    exact step_orderly orderly spared taken

omit [DecidableEq Wsi] in
theorem Orderly.noSelfDeadlock {state : State Wsi} (orderly : Orderly state) :
    NoSelfDeadlock state := by
  intro thread instruction rest found holds
  have inside := orderly.balanced thread _ found
  rw [decide_eq_true holds] at inside
  constructor
  · intro same
    subst same
    exact absurd inside.1 (by decide)
  · intro same
    subst same
    exact absurd inside.1 (by decide)

/-- In every run that cancels no write of a string with a completion block, no thread locks
the mutex twice or calls a caller's block inside it. -/
theorem noSelfDeadlock_of_spared {state : State Wsi}
    (reached : machine.ReachableWhen Spared state) : NoSelfDeadlock state :=
  (reachable_orderly reached).noSelfDeadlock

/-! ### A cancelled string -/

private theorem run_leaves (thread : Nat) (rest : List (Instruction Wsi)) (groups : List Nat)
    {state : State Wsi}
    (found : state.threads[thread]? =
      some (groups.map (fun group => .call (.leave group)) ++ rest)) :
    ∃ final, machine.run state (List.replicate groups.length (.advance thread [])) = some final ∧
      final.threads[thread]? = some rest ∧ final.holder = state.holder := by
  induction groups generalizing state with
  | nil => exact ⟨state, rfl, found, rfl⟩
  | cons group groups ih =>
      obtain ⟨inRange, _⟩ := List.getElem?_eq_some_iff.mp found
      obtain ⟨final, replayed, left, holder⟩ := ih
        (show ({ state with
            groups := state.groups.modify group fun count => count - 1
            threads := state.threads.set thread
              (groups.map (fun group => .call (.leave group)) ++ rest) } :
          State Wsi).threads[thread]? = _ from List.getElem?_set_self inRange)
      refine ⟨final, ?_, left, holder⟩
      have moved : machine.step state (.advance thread []) = some
          { state with
            groups := state.groups.modify group fun count => count - 1
            threads := state.threads.set thread
              (groups.map (fun group => .call (.leave group)) ++ rest) } := by
        simp only [machine, step, found, List.map_cons, List.cons_append]
        rfl
      rw [List.length_cons, List.replicate_succ, Machine.run, moved]
      exact replayed

/-- What a thread calls to settle entries with nil. -/
def settleNil (entries : List (WritableCallback × Wsi)) : List (Instruction Wsi) :=
  calls (entries.map fun entry => (entry.1, none))

omit [DecidableEq Wsi] in
private theorem settleNil_planes (planes : List (Nat × Wsi)) (group : Nat) (wsi : Wsi)
    (after : List (WritableCallback × Wsi)) :
    settleNil (planes.map (fun plane => (.data plane.1, plane.2)) ++
        (.string .caller group, wsi) :: after) =
      (planes.map Prod.fst).map (fun group => .call (.leave group)) ++
        .call .caller :: settleNil after := by
  simp [settleNil, calls, WritableCallback.settle, Function.comp_def]

/-- The write of a string that `cancelAllWrites` finds behind the planes of frames has its
completion block called inside the mutex. -/
theorem not_noSelfDeadlock_of_cancelled {state : State Wsi} (paired : state.queue.Paired)
    {thread group : Nat} {rest : List (Instruction Wsi)} {wsi : Wsi} {planes : List (Nat × Wsi)}
    {after : List (WritableCallback × Wsi)} (holds : state.holder = some thread)
    (found : state.threads[thread]? = some (.cancelAll :: rest))
    (entries : state.queue.entries =
      planes.map (fun plane => (.data plane.1, plane.2)) ++ (.string .caller group, wsi) :: after) :
    ∃ final, machine.run state (List.replicate (planes.length + 1) (.advance thread [])) =
      some final ∧ ¬NoSelfDeadlock final := by
  obtain ⟨inRange, _⟩ := List.getElem?_eq_some_iff.mp found
  have moved : machine.step state (.advance thread []) = some
      { state with
        queue := .ofEntries state.queue.clients []
        threads := state.threads.set thread (settleNil state.queue.entries ++ rest) } := by
    simp only [machine, step, found, execute, paired.cancelAllWrites]
    rfl
  rw [entries, settleNil_planes, List.append_assoc] at moved
  obtain ⟨final, replayed, left, holder⟩ := run_leaves thread
    (.call .caller :: settleNil after ++ rest) (planes.map Prod.fst)
    (show ({ state with
        queue := .ofEntries state.queue.clients []
        threads := state.threads.set thread _ } : State Wsi).threads[thread]? = _ from
      List.getElem?_set_self inRange)
  refine ⟨final, ?_, ?_⟩
  · rw [List.length_map] at replayed
    rw [List.replicate_succ, Machine.run, moved]
    exact replayed
  · intro none
    exact (none thread (.call .caller) _ left (holder.trans holds)).2 rfl

/-! ### Two runs -/

/-- A client connects and a string is enqueued for it. -/
def enqueued : List (Label Nat) :=
  [.established 0, .advance 0 [], .advance 0 [], .request (.writeString true)] ++
    List.replicate 6 (.advance 1 [])

/-- The string is sent, and its completion block cancels what is left. -/
def sentThenCancelled : List (Label Nat) :=
  enqueued ++ .writable 0 :: List.replicate 5 (.advance 3 []) ++
    [.advance 2 [], .advance 2 [.cancelAllWrites], .advance 2 [], .advance 2 []]

theorem noSelfDeadlock_of_sentThenCancelled :
    ∃ state : State Nat, machine.runWhen Spared initial sentThenCancelled = some state ∧
      state.holder = some 2 ∧ NoSelfDeadlock state := by
  obtain ⟨state, replayed, passed⟩ := (Option.any_eq_true _ _).mp
    (show (machine.runWhen Spared initial sentThenCancelled).any (fun state : State Nat =>
        decide (state.holder = some 2)) = true by decide)
  exact ⟨state, replayed, of_decide_eq_true passed,
    noSelfDeadlock_of_spared (.runWhen sentThenCancelled (.initial rfl) replayed)⟩

/-- The string is cancelled, and its completion block cancels once more: the thread waits
for the mutex that it holds. -/
def cancelledTwice : List (Label Nat) :=
  enqueued ++ .request .cancelAllWrites :: List.replicate 3 (.advance 3 []) ++
    [.advance 3 [.cancelAllWrites], .advance 3 []]

/-- The next thing that the thread does is to lock the mutex. -/
def State.locking (state : State Nat) (thread : Nat) : Bool :=
  (state.threads[thread]?.bind List.head?).any fun
    | .lock => true
    | _ => false

theorem State.locking_split {state : State Nat} {thread : Nat}
    (locking : state.locking thread = true) :
    ∃ rest, state.threads[thread]? = some (.lock :: rest) := by
  obtain ⟨instruction, next, isLock⟩ := (Option.any_eq_true _ _).mp locking
  obtain ⟨instructions, found, first⟩ := Option.bind_eq_some_iff.mp next
  obtain ⟨rest, shape⟩ := List.head?_eq_some_iff.mp first
  rw [found, shape]
  cases instruction with
  | lock => exact ⟨rest, rfl⟩
  | _ => cases isLock

theorem not_noSelfDeadlock_of_cancelledTwice :
    ¬∀ state : State Nat, machine.Reachable state → NoSelfDeadlock state := by
  intro always
  obtain ⟨state, reached, passed⟩ := Machine.exists_reachable_of_run cancelledTwice
    (fun state : State Nat => decide (state.holder = some 3) && state.locking 3)
    (show machine.initial (initial : State Nat) from rfl) (by decide)
  rw [Bool.and_eq_true, decide_eq_true_eq] at passed
  obtain ⟨rest, waits⟩ := State.locking_split passed.2
  exact (always state reached 3 .lock rest waits passed.1).1 rfl

end ClientMutex
end WebSocketServer
end JSCameraKit
