import JSCameraKit.WebSocketServer.WriteQueue

set_option autoImplicit false

/-! The service loop of `start` beside any number of threads in
`waitForWriteable:onClient:`. The loop waits in `poll` with a snapshot of the
armed events; a writer that arms `POLLOUT` behind its back wakes it with a byte
of the cancel pipe, once for each time the loop has set `canCancel`.

The callbacks of the server answer `LWS_CALLBACK_GET_THREAD_ID` with 0, so
`service_tid` stays 0 and arming `POLLOUT` never writes to the pipe by itself. -/

namespace JSCameraKit
namespace WebSocketServer
namespace ServiceLoop

/-- The next statement of the thread that holds `clientWriteableMutex` in
`waitForWriteable:onClient:`. -/
inductive WriterStage (Wsi Block : Type)
  | adding (block : Block) (wsi : Wsi)
  | arming
  | testing
  | clearing
  | canceling
  | unlocking

/-- The next step of the service thread. `revents` are the sockets whose
`POLLOUT` the last `poll` may have reported. -/
inductive ServiceStage (Wsi : Type)
  | entering
  | polling (snapshot : Wsi → Bool)
  | reading (revents : Wsi → Bool)
  | serving (revents : Wsi → Bool)
  | writable (wsi : Wsi) (revents : Wsi → Bool)
  | counting
  | arming
  | allowing

structure State (Wsi Block Thread : Type) where
  queue : WriteQueue Wsi Block
  /-- The connections of the protocol in the context. -/
  connected : List Wsi
  /-- The sockets whose `POLLOUT` is armed. -/
  armed : Wsi → Bool
  canCancel : Bool
  /-- The unread bytes of `dummy_pipe_fds`. -/
  pipe : Nat
  mutex : Option (Thread × WriterStage Wsi Block)
  service : ServiceStage Wsi

inductive Label (Wsi Block Thread : Type)
  | lock (thread : Thread) (block : Block) (wsi : Wsi)
  | advance
  | cancelAllWrites
  | enterPoll
  | pollReturns
  | readPipe
  | established (wsi : Wsi)
  | closed (wsi : Wsi)
  | disarm (wsi : Wsi)
  | onClientWritable
  | serviceReturns
  | testCount
  | armAll
  | allowCancel

section Definitions

variable {Wsi Block Thread : Type} [DecidableEq Wsi]

/-- The loop right after the `cancelAllWrites` of `start`: no connection, no
pending write, and whatever value an earlier loop left in `canCancel`. -/
def initial (canCancel : Bool) : State Wsi Block Thread :=
  { queue := WriteQueue.init
    connected := []
    armed := fun _ => false
    canCancel := canCancel
    pipe := 0
    mutex := none
    service := .entering }

/-- `lws_callback_on_writable_all_protocol`. -/
def armAllProtocol (state : State Wsi Block Thread) : State Wsi Block Thread :=
  { state with armed := fun wsi => state.armed wsi || decide (wsi ∈ state.connected) }

/-- One statement of the thread in the critical section. -/
def writerStep (state : State Wsi Block Thread) (thread : Thread) :
    WriterStage Wsi Block → State Wsi Block Thread
  | .adding block wsi =>
      { state with
        queue := state.queue.waitForWriteable block wsi
        mutex := some (thread, .arming) }
  | .arming => { armAllProtocol state with mutex := some (thread, .testing) }
  | .testing =>
      { state with
        mutex := some (thread, if state.canCancel then .clearing else .unlocking) }
  | .clearing => { state with canCancel := false, mutex := some (thread, .canceling) }
  | .canceling => { state with pipe := state.pipe + 1, mutex := some (thread, .unlocking) }
  | .unlocking => { state with mutex := none }

def step (state : State Wsi Block Thread) :
    Label Wsi Block Thread → Option (State Wsi Block Thread)
  | .lock thread block wsi =>
      match state.mutex with
      | none => some { state with mutex := some (thread, .adding block wsi) }
      | some _ => none
  | .advance =>
      match state.mutex with
      | none => none
      | some (thread, stage) => some (writerStep state thread stage)
  | .cancelAllWrites =>
      match state.mutex with
      | none => state.queue.cancelAllWrites.map fun outcome => { state with queue := outcome.1 }
      | some _ => none
  | .enterPoll =>
      match state.service with
      | .entering => some { state with service := .polling state.armed }
      | _ => none
  -- the pipe is the first descriptor of the table, so it is read first
  | .pollReturns =>
      match state.service with
      | .polling snapshot =>
          some
            { state with
              service := if 0 < state.pipe then .reading snapshot else .serving snapshot }
      | _ => none
  | .readPipe =>
      match state.service with
      | .reading revents => some { state with pipe := state.pipe - 1, service := .serving revents }
      | _ => none
  -- a new connection starts with `POLLIN` only
  | .established wsi =>
      match state.service with
      | .serving _ =>
          if wsi ∈ state.connected then none
          else
            some
              { state with
                queue := state.queue.onClientAdded wsi
                connected := wsi :: state.connected
                armed := fun other => if other = wsi then false else state.armed other }
      | _ => none
  | .closed wsi =>
      match state.service, state.mutex with
      | .serving _, none =>
          if wsi ∈ state.connected then
            (state.queue.onConnectionClose wsi).map fun outcome =>
              { state with
                queue := outcome.1
                connected := state.connected.erase wsi }
          else none
      | _, _ => none
  -- `POLLOUT` is one-shot: it is disarmed before the callback
  | .disarm wsi =>
      match state.service with
      | .serving revents =>
          if revents wsi = true ∧ wsi ∈ state.connected then
            some
              { state with
                armed := fun other => if other = wsi then false else state.armed other
                service :=
                  .writable wsi fun other => if other = wsi then false else revents other }
          else none
      | _ => none
  | .onClientWritable =>
      match state.service, state.mutex with
      | .writable wsi revents, none =>
          (state.queue.onClientWritable wsi).map fun outcome =>
            { state with queue := outcome.1, service := .serving revents }
      | _, _ => none
  | .serviceReturns =>
      match state.service with
      | .serving _ => some { state with service := .counting }
      | _ => none
  | .testCount =>
      match state.service with
      | .counting =>
          some
            { state with
              service :=
                if 0 < state.queue.clientWriteableCallbacks.length then .arming else .allowing }
      | _ => none
  | .armAll =>
      match state.service with
      | .arming => some { armAllProtocol state with service := .allowing }
      | _ => none
  | .allowCancel =>
      match state.service with
      | .allowing => some { state with canCancel := true, service := .entering }
      | _ => none

variable (Wsi Block Thread) in
def machine : Machine (State Wsi Block Thread) (Label Wsi Block Thread) :=
  { initial := fun state => ∃ canCancel, state = initial canCancel
    step := step }

end Definitions

/-! ### The promises that wake the loop -/

section Promises

variable {Wsi Block Thread : Type}

/-- The thread in the critical section has added its entry and not yet armed `POLLOUT`. -/
def Added : Option (Thread × WriterStage Wsi Block) → Prop
  | some (_, .arming) => True
  | _ => False

/-- The thread in the critical section is still going to test `canCancel`. -/
def WillTest : Option (Thread × WriterStage Wsi Block) → Prop
  | some (_, .adding _ _) | some (_, .arming) | some (_, .testing) => True
  | _ => False

/-- The thread in the critical section has decided to write a byte to the pipe. -/
def WillCancel : Option (Thread × WriterStage Wsi Block) → Prop
  | some (_, .clearing) | some (_, .canceling) => True
  | _ => False

def NoPending (state : State Wsi Block Thread) : Prop :=
  state.queue.clientWriteableCallbacks = []

def AllArmed (state : State Wsi Block Thread) : Prop :=
  ∀ wsi ∈ state.connected, state.armed wsi = true

/-- Pending writes find every client armed, or a writer about to arm them. -/
def Covered (state : State Wsi Block Thread) : Prop :=
  NoPending state ∨ AllArmed state ∨ Added state.mutex

/-- The next writer to test `canCancel` finds it set, or a byte is there or promised. -/
def Signalled (state : State Wsi Block Thread) : Prop :=
  state.connected = [] ∨ state.canCancel = true ∨ 0 < state.pipe ∨ WillCancel state.mutex

/-- A `poll` that would sleep over a pending write is going to be woken. -/
def Woken (state : State Wsi Block Thread) (snapshot : Wsi → Bool) : Prop :=
  (∀ wsi ∈ state.connected, snapshot wsi = true) ∨ 0 < state.pipe ∨ WillCancel state.mutex ∨
    (state.canCancel = true ∧ (NoPending state ∨ WillTest state.mutex))

/-- What each step of the loop relies on. -/
def Awake (state : State Wsi Block Thread) : Prop :=
  match state.service with
  | .entering => Covered state ∧ Signalled state
  | .polling snapshot => Woken state snapshot
  | .allowing => Covered state
  | _ => True

/-- The bytes in the pipe and those that the flag or a thread still stands for. A
thread about to clear the flag stands for it. -/
def promised (state : State Wsi Block Thread) : Nat :=
  state.pipe +
    match state.mutex with
    | some (_, .clearing) => 1
    | some (_, .canceling) => 1 + state.canCancel.toNat
    | _ => state.canCancel.toNat

/-- The loop sets the flag once for each `poll`, and every `poll` that finds a byte reads one. -/
def Bounded (state : State Wsi Block Thread) : Prop :=
  match state.service with
  | .entering | .polling _ => promised state ≤ 3
  | .reading _ => promised state ≤ 3 ∧ 0 < state.pipe
  | _ => promised state ≤ 2

/-! ### One step -/

variable [DecidableEq Wsi]

private theorem allArmed_armAllProtocol (state : State Wsi Block Thread) :
    AllArmed (armAllProtocol state) := by
  intro wsi member
  simp [armAllProtocol, show wsi ∈ state.connected from member]

private theorem writerStep_covered {state : State Wsi Block Thread} {thread : Thread}
    {stage : WriterStage Wsi Block} (held : state.mutex = some (thread, stage))
    (covered : Covered state) : Covered (writerStep state thread stage) := by
  cases stage with
  | adding block wsi => exact .inr (.inr trivial)
  | arming => exact .inr (.inl (allArmed_armAllProtocol state))
  | testing | clearing | canceling | unlocking =>
      rcases covered with none_pending | armed | added
      · exact .inl none_pending
      · exact .inr (.inl armed)
      · rw [held] at added
        exact added.elim

private theorem writerStep_signalled {state : State Wsi Block Thread} {thread : Thread}
    {stage : WriterStage Wsi Block} (held : state.mutex = some (thread, stage))
    (signalled : Signalled state) : Signalled (writerStep state thread stage) := by
  rcases signalled with empty | allowed | byte | promise
  · cases stage <;> exact .inl empty
  · cases stage with
    | clearing => exact .inr (.inr (.inr trivial))
    | adding block wsi | arming | testing | unlocking => exact .inr (.inl allowed)
    | canceling => exact .inr (.inr (.inl (Nat.succ_pos _)))
  · cases stage with
    | canceling => exact .inr (.inr (.inl (Nat.succ_pos _)))
    | adding block wsi | arming | testing | clearing | unlocking => exact .inr (.inr (.inl byte))
  · rw [held] at promise
    cases stage with
    | clearing => exact .inr (.inr (.inr trivial))
    | canceling => exact .inr (.inr (.inl (Nat.succ_pos _)))
    | adding block wsi | arming | testing | unlocking => exact promise.elim

/-- A writer keeps the promise to a sleeping loop: it tests the flag after it adds
its entry, and clears it only to write a byte. -/
theorem writerStep_woken {state : State Wsi Block Thread} {thread : Thread}
    {stage : WriterStage Wsi Block} {snapshot : Wsi → Bool}
    (held : state.mutex = some (thread, stage)) (woken : Woken state snapshot) :
    Woken (writerStep state thread stage) snapshot := by
  rcases woken with seen | byte | promise | ⟨allowed, idle⟩
  · cases stage <;> exact .inl seen
  · cases stage with
    | canceling => exact .inr (.inl (Nat.succ_pos _))
    | adding block wsi | arming | testing | clearing | unlocking => exact .inr (.inl byte)
  · rw [held] at promise
    cases stage with
    | clearing => exact .inr (.inr (.inl trivial))
    | canceling => exact .inr (.inl (Nat.succ_pos _))
    | adding block wsi | arming | testing | unlocking => exact promise.elim
  · cases stage with
    | adding block wsi | arming => exact .inr (.inr (.inr ⟨allowed, .inr trivial⟩))
    | testing =>
        refine .inr (.inr (.inl ?_))
        simp [writerStep, allowed, WillCancel]
    | clearing => exact .inr (.inr (.inl trivial))
    | canceling => exact .inr (.inl (Nat.succ_pos _))
    | unlocking =>
        rcases idle with none_pending | willTest
        · exact .inr (.inr (.inr ⟨allowed, .inl none_pending⟩))
        · rw [held] at willTest
          exact willTest.elim

private theorem writerStep_awake {state : State Wsi Block Thread} {thread : Thread}
    {stage : WriterStage Wsi Block} (held : state.mutex = some (thread, stage))
    (awake : Awake state) : Awake (writerStep state thread stage) := by
  have same : (writerStep state thread stage).service = state.service := by
    cases stage <;> rfl
  unfold Awake at awake ⊢
  rw [same]
  cases service : state.service <;> rw [service] at awake
  case entering =>
      exact ⟨writerStep_covered held awake.1, writerStep_signalled held awake.2⟩
  case polling => exact writerStep_woken held awake
  case allowing => exact writerStep_covered held awake
  all_goals trivial

private theorem writerStep_promised {state : State Wsi Block Thread} {thread : Thread}
    {stage : WriterStage Wsi Block} (held : state.mutex = some (thread, stage)) :
    promised (writerStep state thread stage) = promised state := by
  unfold promised
  rw [held]
  cases stage with
  | adding block wsi | arming | clearing | unlocking => rfl
  | testing =>
      cases allowed : state.canCancel <;> simp [writerStep, allowed]
  | canceling =>
      simp only [writerStep]
      omega

private theorem writerStep_bounded {state : State Wsi Block Thread} {thread : Thread}
    {stage : WriterStage Wsi Block} (held : state.mutex = some (thread, stage))
    (bounded : Bounded state) : Bounded (writerStep state thread stage) := by
  have same : (writerStep state thread stage).service = state.service := by
    cases stage <;> rfl
  have more : state.pipe ≤ (writerStep state thread stage).pipe := by
    cases stage with
    | canceling => exact Nat.le_succ _
    | adding block wsi | arming | testing | clearing | unlocking => exact Nat.le_refl _
  unfold Bounded at bounded ⊢
  rw [same, writerStep_promised held]
  cases service : state.service <;> rw [service] at bounded
  case reading => exact ⟨bounded.1, Nat.lt_of_lt_of_le bounded.2 more⟩
  all_goals exact bounded

omit [DecidableEq Wsi] in
private theorem promised_of_empty_pipe {state : State Wsi Block Thread} (empty : ¬0 < state.pipe) :
    promised state ≤ 2 := by
  have flag := state.canCancel.toNat_le
  unfold promised
  split <;> omega

omit [DecidableEq Wsi] in
private theorem lock_keeps {state : State Wsi Block Thread} (free : state.mutex = none)
    (thread : Thread) (block : Block) (wsi : Wsi) (awake : Awake state)
    (bounded : Bounded state) :
    Awake { state with mutex := some (thread, .adding block wsi) } ∧
      Bounded { state with mutex := some (thread, .adding block wsi) } := by
  have covered : Covered state → Covered { state with mutex := some (thread, .adding block wsi) } := by
    rintro (none_pending | armed | added)
    · exact .inl none_pending
    · exact .inr (.inl armed)
    · rw [free] at added
      exact added.elim
  constructor
  · unfold Awake at awake ⊢
    cases service : state.service <;> rw [service] at awake
    case entering =>
        refine ⟨covered awake.1, ?_⟩
        rcases awake.2 with empty | allowed | byte | promise
        · exact .inl empty
        · exact .inr (.inl allowed)
        · exact .inr (.inr (.inl byte))
        · rw [free] at promise
          exact promise.elim
    case polling =>
        rcases awake with seen | byte | promise | ⟨allowed, _⟩
        · exact .inl seen
        · exact .inr (.inl byte)
        · rw [free] at promise
          exact promise.elim
        · exact .inr (.inr (.inr ⟨allowed, .inr trivial⟩))
    case allowing => exact covered awake
    all_goals trivial
  · unfold Bounded promised at bounded ⊢
    rw [free] at bounded
    exact bounded

omit [DecidableEq Wsi] in
private theorem cancelAllWrites_callbacks {queue : WriteQueue Wsi Block}
    {outcome : Outcome Wsi Block} (canceled : queue.cancelAllWrites = some outcome) :
    outcome.1.clientWriteableCallbacks = [] := by
  unfold WriteQueue.cancelAllWrites at canceled
  obtain ⟨_, _, same⟩ := Option.bind_eq_some_iff.mp canceled
  cases same
  rfl

omit [DecidableEq Wsi] in
private theorem empty_keeps {state : State Wsi Block Thread} {queue : WriteQueue Wsi Block}
    (empty : queue.clientWriteableCallbacks = []) (awake : Awake state)
    (bounded : Bounded state) :
    Awake { state with queue := queue } ∧ Bounded { state with queue := queue } := by
  refine ⟨?_, bounded⟩
  unfold Awake at awake ⊢
  cases service : state.service <;> rw [service] at awake
  case entering => exact ⟨.inl empty, awake.2⟩
  case polling =>
      rcases awake with seen | byte | promise | ⟨allowed, _⟩
      · exact .inl seen
      · exact .inr (.inl byte)
      · exact .inr (.inr (.inl promise))
      · exact .inr (.inr (.inr ⟨allowed, .inl empty⟩))
  case allowing => exact .inl empty
  all_goals trivial

omit [DecidableEq Wsi] in
private theorem woken_of_entering {state : State Wsi Block Thread} (covered : Covered state)
    (signalled : Signalled state) : Woken state state.armed := by
  rcases covered with none_pending | armed | added
  · rcases signalled with empty | allowed | byte | promise
    · exact .inl (by simp [empty])
    · exact .inr (.inr (.inr ⟨allowed, .inl none_pending⟩))
    · exact .inr (.inl byte)
    · exact .inr (.inr (.inl promise))
  · exact .inl armed
  · have willTest : WillTest state.mutex := by
      unfold Added at added
      split at added
      · rename_i held
        rw [held]
        trivial
      · exact added.elim
    rcases signalled with empty | allowed | byte | promise
    · exact .inl (by simp [empty])
    · exact .inr (.inr (.inr ⟨allowed, .inr willTest⟩))
    · exact .inr (.inl byte)
    · exact .inr (.inr (.inl promise))

private theorem enterPoll_keeps {state next : State Wsi Block Thread}
    (awake : Awake state) (bounded : Bounded state)
    (taken : step state .enterPoll = some next) : Awake next ∧ Bounded next := by
  simp only [step] at taken
  split at taken
  · rename_i service
    cases taken
    rw [Awake, service] at awake
    rw [Bounded, service] at bounded
    exact ⟨woken_of_entering awake.1 awake.2, bounded⟩
  · cases taken

private theorem pollReturns_keeps {state next : State Wsi Block Thread}
    (bounded : Bounded state)
    (taken : step state .pollReturns = some next) : Awake next ∧ Bounded next := by
  simp only [step] at taken
  split at taken
  · rename_i snapshot service
    cases taken
    rw [Bounded, service] at bounded
    by_cases byte : 0 < state.pipe
    · rw [if_pos byte]
      exact ⟨trivial, bounded, byte⟩
    · rw [if_neg byte]
      exact ⟨trivial, promised_of_empty_pipe byte⟩
  · cases taken

private theorem readPipe_keeps {state next : State Wsi Block Thread}
    (bounded : Bounded state)
    (taken : step state .readPipe = some next) : Awake next ∧ Bounded next := by
  simp only [step] at taken
  split at taken
  · rename_i revents service
    cases taken
    rw [Bounded, service] at bounded
    refine ⟨trivial, ?_⟩
    have before := bounded.1
    have byte := bounded.2
    simp only [Bounded, promised] at before ⊢
    omega
  · cases taken

private theorem established_keeps {state next : State Wsi Block Thread} {wsi : Wsi}
    (bounded : Bounded state)
    (taken : step state (.established wsi) = some next) : Awake next ∧ Bounded next := by
  simp only [step] at taken
  split at taken
  · rename_i revents service
    split at taken
    · cases taken
    · cases taken
      rw [Bounded, service] at bounded
      simp only [Awake, Bounded, service]
      exact ⟨trivial, bounded⟩
  · cases taken

private theorem closed_keeps {state next : State Wsi Block Thread} {wsi : Wsi}
    (bounded : Bounded state)
    (taken : step state (.closed wsi) = some next) : Awake next ∧ Bounded next := by
  simp only [step] at taken
  split at taken
  · rename_i revents service free
    split at taken
    · obtain ⟨outcome, _, same⟩ := Option.map_eq_some_iff.mp taken
      subst same
      rw [Bounded, service] at bounded
      simp only [Awake, Bounded, service]
      exact ⟨trivial, bounded⟩
    · cases taken
  · cases taken

private theorem disarm_keeps {state next : State Wsi Block Thread} {wsi : Wsi}
    (bounded : Bounded state)
    (taken : step state (.disarm wsi) = some next) : Awake next ∧ Bounded next := by
  simp only [step] at taken
  split at taken
  · rename_i revents service
    split at taken
    · cases taken
      rw [Bounded, service] at bounded
      exact ⟨trivial, bounded⟩
    · cases taken
  · cases taken

private theorem onClientWritable_keeps {state next : State Wsi Block Thread}
    (bounded : Bounded state)
    (taken : step state .onClientWritable = some next) : Awake next ∧ Bounded next := by
  simp only [step] at taken
  split at taken
  · rename_i wsi revents service free
    obtain ⟨outcome, _, same⟩ := Option.map_eq_some_iff.mp taken
    subst same
    rw [Bounded, service] at bounded
    exact ⟨trivial, bounded⟩
  · cases taken

private theorem serviceReturns_keeps {state next : State Wsi Block Thread}
    (bounded : Bounded state)
    (taken : step state .serviceReturns = some next) : Awake next ∧ Bounded next := by
  simp only [step] at taken
  split at taken
  · rename_i revents service
    cases taken
    rw [Bounded, service] at bounded
    exact ⟨trivial, bounded⟩
  · cases taken

private theorem testCount_keeps {state next : State Wsi Block Thread}
    (bounded : Bounded state)
    (taken : step state .testCount = some next) : Awake next ∧ Bounded next := by
  simp only [step] at taken
  split at taken
  · rename_i service
    cases taken
    rw [Bounded, service] at bounded
    by_cases waiting : 0 < state.queue.clientWriteableCallbacks.length
    · rw [if_pos waiting]
      exact ⟨trivial, bounded⟩
    · rw [if_neg waiting]
      have none_pending : state.queue.clientWriteableCallbacks = [] := by
        simpa using waiting
      exact ⟨.inl none_pending, bounded⟩
  · cases taken

private theorem armAll_keeps {state next : State Wsi Block Thread}
    (bounded : Bounded state)
    (taken : step state .armAll = some next) : Awake next ∧ Bounded next := by
  simp only [step] at taken
  split at taken
  · rename_i service
    cases taken
    rw [Bounded, service] at bounded
    exact ⟨.inr (.inl (allArmed_armAllProtocol state)), bounded⟩
  · cases taken

private theorem allowCancel_keeps {state next : State Wsi Block Thread}
    (awake : Awake state) (bounded : Bounded state)
    (taken : step state .allowCancel = some next) : Awake next ∧ Bounded next := by
  simp only [step] at taken
  split at taken
  · rename_i service
    cases taken
    rw [Awake, service] at awake
    rw [Bounded, service] at bounded
    refine ⟨⟨awake, .inr (.inl rfl)⟩, ?_⟩
    have flag := state.canCancel.toNat_le
    simp only [Bounded, promised, Bool.toNat_true] at bounded ⊢
    split <;> simp_all <;> omega
  · cases taken

/-- Every step keeps the promises, and sets or uses up at most one byte's worth. -/
theorem step_keeps {state next : State Wsi Block Thread} {label : Label Wsi Block Thread}
    (awake : Awake state) (bounded : Bounded state) (taken : step state label = some next) :
    Awake next ∧ Bounded next := by
  cases label with
  | lock thread block wsi =>
      cases free : state.mutex with
      | some holder => simp [step, free] at taken
      | none =>
          simp only [step, free, Option.some.injEq] at taken
          subst taken
          exact lock_keeps free thread block wsi awake bounded
  | advance =>
      cases held : state.mutex with
      | none => simp [step, held] at taken
      | some holder =>
          obtain ⟨thread, stage⟩ := holder
          simp only [step, held, Option.some.injEq] at taken
          subst taken
          exact ⟨writerStep_awake held awake, writerStep_bounded held bounded⟩
  | cancelAllWrites =>
      simp only [step] at taken
      split at taken
      · obtain ⟨outcome, canceled, same⟩ := Option.map_eq_some_iff.mp taken
        subst same
        exact empty_keeps (cancelAllWrites_callbacks canceled) awake bounded
      · cases taken
  | enterPoll => exact enterPoll_keeps awake bounded taken
  | pollReturns => exact pollReturns_keeps bounded taken
  | readPipe => exact readPipe_keeps bounded taken
  | established wsi => exact established_keeps bounded taken
  | closed wsi => exact closed_keeps bounded taken
  | disarm wsi => exact disarm_keeps bounded taken
  | onClientWritable => exact onClientWritable_keeps bounded taken
  | serviceReturns => exact serviceReturns_keeps bounded taken
  | testCount => exact testCount_keeps bounded taken
  | armAll => exact armAll_keeps bounded taken
  | allowCancel => exact allowCancel_keeps awake bounded taken

/-! ### Every run -/

private theorem reachable_keeps {state : State Wsi Block Thread}
    (reached : (machine Wsi Block Thread).Reachable state) : Awake state ∧ Bounded state := by
  refine reached.invariant (fun state => Awake state ∧ Bounded state) ?_ ?_
  · rintro state ⟨canCancel, rfl⟩
    refine ⟨⟨.inl rfl, .inl rfl⟩, ?_⟩
    have flag := canCancel.toNat_le
    simp only [Bounded, promised, initial]
    omega
  · intro before label next _ keeps taken
    exact step_keeps keeps.1 keeps.2 taken

/-- The service thread sleeps over a pending write only while something is about to
wake it: a snapshot with every client, a byte in the pipe, or a thread in the
critical section that will find the flag set, or has, and write the byte. -/
def NoLostWakeUp (state : State Wsi Block Thread) : Prop :=
  ∀ snapshot, state.service = .polling snapshot →
    state.queue.clientWriteableCallbacks ≠ [] →
      (∀ wsi ∈ state.connected, snapshot wsi = true) ∨ 0 < state.pipe ∨
        (WillTest state.mutex ∧ state.canCancel = true) ∨ WillCancel state.mutex

/-- No wake-up is lost, and the pipe never holds more than three unread bytes. -/
theorem noLostWakeUp_and_pipe_le_three {state : State Wsi Block Thread}
    (reached : (machine Wsi Block Thread).Reachable state) :
    NoLostWakeUp state ∧ state.pipe ≤ 3 := by
  obtain ⟨awake, bounded⟩ := reachable_keeps reached
  constructor
  · intro snapshot service pending
    rw [Awake, service] at awake
    rcases awake with seen | byte | promise | ⟨allowed, none_pending | willTest⟩
    · exact .inl seen
    · exact .inr (.inl byte)
    · exact .inr (.inr (.inr promise))
    · exact absurd none_pending pending
    · exact .inr (.inr (.inl ⟨willTest, allowed⟩))
  · have byte : state.pipe ≤ promised state := Nat.le_add_right _ _
    unfold Bounded at bounded
    split at bounded <;> omega

end Promises

/-! ### Three unread bytes -/

/-- One client connects. A writer clears `canCancel` and is held up before it
writes its byte, over a whole round of the loop; two more writers follow it
before the loop reads the pipe. -/
def lateByte : List (Label Nat Unit Nat) :=
  [.enterPoll, .pollReturns, .established 7, .serviceReturns, .testCount, .allowCancel,
    .enterPoll, .lock 1 () 7, .advance, .advance, .advance, .advance,
    .pollReturns, .serviceReturns, .testCount, .armAll, .allowCancel,
    .enterPoll, .pollReturns, .disarm 7, .advance, .advance,
    .lock 2 () 7, .advance, .advance, .advance, .advance, .advance, .advance,
    .onClientWritable, .serviceReturns, .testCount, .armAll, .allowCancel,
    .lock 3 () 7, .advance, .advance, .advance, .advance, .advance]

theorem exists_three_unread_bytes :
    ∃ state : State Nat Unit Nat, (machine Nat Unit Nat).Reachable state ∧ state.pipe = 3 := by
  have started : (machine Nat Unit Nat).initial (initial false) := ⟨false, rfl⟩
  obtain ⟨state, reached, bytes⟩ := Machine.exists_reachable_of_run lateByte
    (fun state : State Nat Unit Nat => decide (state.pipe = 3)) started (by decide)
  exact ⟨state, reached, of_decide_eq_true bytes⟩

/-- The loop polls again while two entries are pending. -/
theorem noLostWakeUp_of_lateByte :
    ∃ state, (machine Nat Unit Nat).run (initial false) (lateByte ++ [.enterPoll]) = some state ∧
      state.queue.clientWriteableCallbacks.length = 2 ∧ NoLostWakeUp state ∧ state.pipe ≤ 3 := by
  have started : (machine Nat Unit Nat).initial (initial false) := ⟨false, rfl⟩
  exact ⟨_, rfl, rfl, noLostWakeUp_and_pipe_le_three
    (Machine.Reachable.run (lateByte ++ [.enterPoll]) (.initial started) rfl)⟩

end ServiceLoop
end WebSocketServer
end JSCameraKit
