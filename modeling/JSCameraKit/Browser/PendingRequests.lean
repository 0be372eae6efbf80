import JSCameraKit.Browser.Waits

set_option autoImplicit false

/-! The listeners of the requests that have no response yet. A listener is removed by the
response to its request and by nothing else: `request` drops the promise of `send`, and
the constructor's listener for `close` tells no request of it. -/

namespace JSCameraKit
namespace Browser
namespace WebSocketController
namespace PendingRequests

variable {Data : Type}

/-- A call of `send` waits for a socket, or goes on in a microtask. -/
def WaitsToSend (controller : WebSocketController Data) (number : Nat) : Prop :=
  number ∈ controller.waitTimers ∨ ∃ job ∈ controller.microtasks, job.send.number = number

/-- A call of `send` has passed its message to a socket. -/
def SentOn (controller : WebSocketController Data) (number socket : Nat) : Prop :=
  ∃ sent ∈ controller.sent, sent.send.number = number ∧ sent.socket = socket

/-- The current socket is the one that is open, up to its `close`. -/
def SentOnCurrent (controller : WebSocketController Data) (number : Nat) : Prop :=
  ∃ socket, controller.connection.webSocket = some socket ∧ SentOn controller number socket

/-- Each request that listens for its response is still to be sent, or was sent on the
socket that is open. -/
def NoneHangs (controller : WebSocketController Data) : Prop :=
  ∀ listener ∈ controller.jsonListeners,
    WaitsToSend controller listener.send ∨ SentOnCurrent controller listener.send

/-- No wait expires for a request, and no socket closes that a request without a response
was sent on. -/
def Spared (controller : WebSocketController Data) : Label Data → Prop
  | .waitTimeout number => ∀ listener ∈ controller.jsonListeners, listener.send ≠ number
  | .close socket => controller.connection.webSocket = some socket →
      ∀ listener ∈ controller.jsonListeners, ¬SentOn controller listener.send socket
  | _ => True

instance (controller : WebSocketController Data) (number socket : Nat) :
    Decidable (SentOn controller number socket) :=
  inferInstanceAs (Decidable (∃ sent ∈ controller.sent, _ ∧ _))

instance (controller : WebSocketController Data) :
    (label : Label Data) → Decidable (Spared controller label)
  | .waitTimeout _ => inferInstanceAs (Decidable (∀ listener ∈ controller.jsonListeners, _))
  | .close _ => inferInstanceAs (Decidable (_ → ∀ listener ∈ controller.jsonListeners, ¬_))
  | .send _ | .request _ _ | .microtask | .opened _ | .message _ _ | .error _ | .closing _
  | .connectTimeout _ => inferInstanceAs (Decidable True)

/-! ### One call of `send` -/

/-- A call in one of its places before a step is in one after it. -/
def Keeps (controller next : WebSocketController Data) : Prop :=
  ∀ number, WaitsToSend controller number ∨ SentOnCurrent controller number →
    WaitsToSend next number ∨ SentOnCurrent next number

theorem NoneHangs.keeps {controller next : WebSocketController Data}
    (none : NoneHangs controller) (keeps : Keeps controller next)
    (fewer : ∀ listener ∈ next.jsonListeners, listener ∈ controller.jsonListeners) :
    NoneHangs next := by
  intro listener member
  exact keeps listener.send (none listener (fewer listener member))

private theorem send_keeps (controller : WebSocketController Data) (data : Outgoing Data) :
    Keeps controller (controller.send data) := by
  intro number place
  unfold send
  split
  · rcases place with (armed | ⟨job, member, same⟩) | sent
    · exact .inl (.inl armed)
    · exact .inl (.inr ⟨job, List.mem_append_left _ member, same⟩)
    · exact .inr sent
  · rcases place with (armed | job) | sent
    · exact .inl (.inl (List.mem_append_left _ armed))
    · exact .inl (.inr job)
    · exact .inr sent

private theorem send_waits (controller : WebSocketController Data) (data : Outgoing Data) :
    WaitsToSend (controller.send data) controller.sends := by
  unfold send
  split
  · exact .inr ⟨_, List.mem_append_right _ List.mem_cons_self, rfl⟩
  · exact .inl (List.mem_append_right _ List.mem_cons_self)

private theorem microtask_keeps {controller next : WebSocketController Data}
    (waits : controller.Waits)
    (taken : controller.microtask = some next) : Keeps controller next := by
  intro number place
  unfold microtask at taken
  split at taken
  · cases taken
  · rename_i job rest queue
    have isOpen := waits.opened (by rw [queue]; exact List.cons_ne_nil job rest)
    split at taken
    · cases taken
      unfold continuation
      split
      · rename_i nothing
        dsimp only at nothing
        rw [Connection.isOpen, nothing] at isOpen
        cases isOpen
      · rename_i socket current
        rcases place with (armed | ⟨other, member, same⟩) | ⟨on, atCurrent, sent, member, same⟩
        · exact .inl (.inl armed)
        · rw [queue] at member
          rcases List.mem_cons.mp member with rfl | later
          · exact .inr ⟨socket, current, _, List.mem_append_right _ List.mem_cons_self, same, rfl⟩
          · exact .inl (.inr ⟨other, later, same⟩)
        · exact .inr ⟨on, atCurrent, sent, List.mem_append_left _ member, same⟩
    · cases taken
      rcases place with (armed | ⟨other, member, same⟩) | sent
      · exact .inl (.inl armed)
      · rw [queue] at member
        rcases List.mem_cons.mp member with rfl | later
        · exact .inl (.inr ⟨_, List.mem_append_right _ List.mem_cons_self, same⟩)
        · exact .inl (.inr ⟨other, List.mem_append_left _ later, same⟩)
      · exact .inr sent

private theorem emitOpen_keeps {controller : WebSocketController Data} (waits : controller.Waits) :
    Keeps controller controller.emitOpen := by
  intro number place
  rw [emitOpen_eq waits.distinct]
  rcases place with (armed | ⟨job, member, same⟩) | sent
  · by_cases taken : number ∈ controller.called.map Send.number
    · obtain ⟨send, isCalled, rfl⟩ := List.mem_map.mp taken
      refine .inl (.inr ⟨{ send := send, ticks := 2 }, List.mem_append_right _ ?_, rfl⟩)
      exact List.mem_map_of_mem (List.mem_filter.mpr ⟨isCalled, decide_eq_true armed⟩)
    · exact .inl (.inl ((List.Nodup.mem_sdiff_iff waits.armed).mpr ⟨armed, taken⟩))
  · exact .inl (.inr ⟨job, List.mem_append_left _ member, same⟩)
  · exact .inr sent

private theorem keeps_of_webSocket (controller : WebSocketController Data) {connection : Connection}
    (same : connection.webSocket = controller.connection.webSocket)
    (listeners : List RequestListener) :
    Keeps controller
      { controller with connection := connection, jsonListeners := listeners } := by
  intro number place
  rcases place with waiting | ⟨socket, current, sent⟩
  · exact .inl waiting
  · exact .inr ⟨socket, same.trans current, sent⟩

private theorem noneHangs_of_waits {controller : WebSocketController Data}
    (none : NoneHangs controller)
    (unsent : ∀ listener ∈ controller.jsonListeners, ¬SentOnCurrent controller listener.send)
    (connection : Connection) : NoneHangs { controller with connection := connection } := by
  intro listener member
  exact .inl ((none listener member).resolve_right (unsent listener member))

/-! ### One step -/

private theorem linked_close {controller : WebSocketController Data}
    (coherent : controller.connection.Coherent) (socket : Nat) :
    (controller.connection.webSocket = some socket ∧
        (linked controller.connection (.close socket : Label Data)).webSocket = none) ∨
      (controller.connection.webSocket ≠ some socket ∧
        (linked controller.connection (.close socket : Label Data)).webSocket =
          controller.connection.webSocket) := by
  simp only [linked]
  split
  · rename_i handled
    refine .inl ⟨handled_current coherent (fun _ set => .inl set) handled, ?_⟩
    unfold Connection.onClose
    rw [Connection.clear_eq]
    split
    · rfl
    · rfl
  · rename_i silent
    refine .inr ⟨?_, rfl⟩
    intro current
    obtain ⟨found, atSocket, attached⟩ := coherent.attached socket current
    apply silent
    rw [Connection.handles, atSocket]
    exact attached.1

private theorem send_jsonListeners (controller : WebSocketController Data) (data : Outgoing Data) :
    (controller.send data).jsonListeners = controller.jsonListeners := by
  unfold send
  split
  · rfl
  · rfl

private theorem microtask_jsonListeners {controller next : WebSocketController Data}
    (taken : controller.microtask = some next) :
    next.jsonListeners = controller.jsonListeners := by
  unfold microtask at taken
  split at taken
  · cases taken
  · split at taken
    · cases taken
      unfold continuation
      split
      · rfl
      · rfl
    · cases taken
      rfl

private theorem request_noneHangs {controller : WebSocketController Data}
    (none : NoneHangs controller)
    (request : String) (data : Option Data) : NoneHangs (controller.request request data) := by
  intro listener member
  unfold WebSocketController.request at member ⊢
  rw [send_jsonListeners] at member
  rcases List.mem_append.mp member with old | new
  · exact send_keeps _ _ listener.send (none listener old)
  · rw [List.mem_singleton.mp new]
    exact .inl (send_waits _ _)

private theorem opened_noneHangs {controller : WebSocketController Data} (waits : controller.Waits)
    (nothing : controller.microtasks = []) (none : NoneHangs controller) (connection : Connection)
    (same : connection.webSocket = controller.connection.webSocket) :
    NoneHangs { controller with connection := connection }.emitOpen := by
  have idle := waits.idle nothing connection controller.jsonListeners
  have moved : NoneHangs { controller with connection := connection } :=
    none.keeps (keeps_of_webSocket controller same controller.jsonListeners) fun _ member => member
  apply moved.keeps (emitOpen_keeps idle)
  intro listener member
  rw [emitOpen_eq idle.distinct] at member
  exact member

private theorem message_noneHangs {controller : WebSocketController Data}
    (none : NoneHangs controller)
    {connection : Connection} (same : connection.webSocket = controller.connection.webSocket)
    (incoming : Incoming) :
    NoneHangs ({ controller with connection := connection }.onMessage incoming) := by
  obtain ⟨listeners, fewer, all⟩ := onMessage_eq { controller with connection := connection } incoming
  rw [all]
  exact none.keeps (keeps_of_webSocket controller same listeners) fun _ member =>
    fewer.subset member

private theorem opened_step_noneHangs {controller next : WebSocketController Data} {socket : Nat}
    (waits : controller.Waits) (none : NoneHangs controller)
    (taken : step controller (.opened socket) = some next) : NoneHangs next := by
  simp only [step, Option.ite_none_right_eq_some, Option.some.injEq, List.isEmpty_iff] at taken
  rw [← taken.2]
  have same := emit_webSocket (controller.connection.setReadyState socket .OPEN) .opened
    WebSocket.onopen socket
  split
  · exact opened_noneHangs waits taken.1 none _ same
  · exact none.keeps (keeps_of_webSocket controller same controller.jsonListeners)
      fun _ member => member

private theorem close_noneHangs_iff {controller next : WebSocketController Data} {socket : Nat}
    (coherent : controller.connection.Coherent)
    (waits : controller.Waits) (none : NoneHangs controller)
    (taken : step controller (.close socket) = some next) : 
    NoneHangs next ↔ Spared controller (.close socket) := by
  simp only [step, Option.ite_none_right_eq_some, Option.some.injEq, List.isEmpty_iff] at taken
  rw [← taken.2]
  rcases linked_close coherent socket with ⟨current, cleared⟩ | ⟨other, same⟩
  · constructor
    · intro still _ listener member sent
      obtain ⟨passed, isSent, rightNumber, _⟩ := sent
      have free := (waits.passed passed isSent).2
      rw [rightNumber] at free
      rcases still listener member with (armed | ⟨job, isJob, _⟩) | ⟨on, atCurrent, _⟩
      · exact free armed
      · dsimp only at isJob
        rw [taken.1] at isJob
        cases isJob
      · dsimp only at atCurrent
        rw [cleared] at atCurrent
        cases atCurrent
    · intro spared
      apply noneHangs_of_waits none
      intro listener member sent
      obtain ⟨on, atCurrent, isSent⟩ := sent
      rw [current] at atCurrent
      cases atCurrent
      exact spared current listener member isSent
  · refine iff_of_true ?_ fun current => absurd current other
    exact none.keeps (keeps_of_webSocket controller same controller.jsonListeners)
      fun _ member => member

private theorem connectTimeout_noneHangs {controller next : WebSocketController Data} {handle : Nat}
    (coherent : controller.connection.Coherent) (none : NoneHangs controller)
    (taken : step controller (.connectTimeout handle) = some next) : NoneHangs next := by
  have armed := connectTimeout_armed taken
  simp only [step, Option.ite_none_right_eq_some, Option.some.injEq, List.isEmpty_iff] at taken
  rw [← taken.2]
  apply noneHangs_of_waits none
  intro listener member sent
  obtain ⟨socket, current, _⟩ := sent
  have idle := coherent.connected (by rw [current]; exact Option.some_ne_none socket)
  rw [idle.2] at armed
  cases armed

private theorem waitTimeout_noneHangs_iff {controller next : WebSocketController Data}
    {number : Nat}
    (waits : controller.Waits) (none : NoneHangs controller)
    (taken : step controller (.waitTimeout number) = some next) : 
    NoneHangs next ↔ Spared controller (.waitTimeout number) := by
  simp only [step, Option.ite_none_right_eq_some, Option.some.injEq, List.isEmpty_iff] at taken
  rw [← taken.2]
  constructor
  · intro still listener member same
    rcases still listener member with
      (armed | ⟨job, isJob, _⟩) | ⟨on, _, sent, isSent, rightNumber, _⟩
    · rw [same] at armed
      exact waits.armed.not_mem_erase armed
    · dsimp only at isJob
      rw [taken.1.1] at isJob
      cases isJob
    · have free := (waits.passed sent isSent).2
      rw [rightNumber, same] at free
      exact free taken.1.2
  · intro spared listener member
    rcases none listener member with (armed | job) | sent
    · exact .inl (.inl ((List.mem_erase_of_ne (spared listener member)).mpr armed))
    · exact .inl (.inr job)
    · exact .inr sent

private theorem step_noneHangs_iff {controller next : WebSocketController Data} {label : Label Data}
    (coherent : controller.connection.Coherent) (waits : controller.Waits)
    (none : NoneHangs controller) (taken : step controller label = some next) :
    NoneHangs next ↔ Spared controller label := by
  cases label with
  | send data =>
      cases taken
      refine iff_of_true ?_ trivial
      apply none.keeps (send_keeps controller (.data data))
      intro listener member
      rw [send_jsonListeners] at member
      exact member
  | request request data =>
      cases taken
      exact iff_of_true (request_noneHangs none request data) trivial
  | microtask =>
      refine iff_of_true ?_ trivial
      apply none.keeps (microtask_keeps waits taken)
      intro listener member
      rw [microtask_jsonListeners taken] at member
      exact member
  | opened socket => exact iff_of_true (opened_step_noneHangs waits none taken) trivial
  | message socket incoming =>
      simp only [step, Option.ite_none_right_eq_some, Option.some.injEq, List.isEmpty_iff] at taken
      rw [← taken.2]
      refine iff_of_true ?_ trivial
      split
      · exact message_noneHangs none
          (emit_webSocket controller.connection .message WebSocket.onmessage socket) incoming
      · exact none
  | error socket =>
      simp only [step, Option.ite_none_right_eq_some, Option.some.injEq, List.isEmpty_iff] at taken
      rw [← taken.2]
      have same := emit_webSocket controller.connection .error WebSocket.onerror socket
      exact iff_of_true
        (none.keeps (keeps_of_webSocket controller same controller.jsonListeners)
          fun _ member => member) trivial
  | closing socket =>
      simp only [step, Option.ite_none_right_eq_some, Option.some.injEq, List.isEmpty_iff] at taken
      rw [← taken.2]
      exact iff_of_true
        (none.keeps (keeps_of_webSocket controller rfl controller.jsonListeners)
          fun _ member => member) trivial
  | close socket => exact close_noneHangs_iff coherent waits none taken
  | connectTimeout handle => exact iff_of_true (connectTimeout_noneHangs coherent none taken) trivial
  | waitTimeout number => exact waitTimeout_noneHangs_iff waits none taken

/-! ### Every run -/

/-- In every run whose steps spare the requests, none of them hangs. -/
theorem noneHangs_of_spared {controller : WebSocketController Data}
    (reached : machine.ReachableWhen Spared controller) : NoneHangs controller := by
  refine reached.invariant NoneHangs ?_ ?_
  · intro controller starts
    rw [starts]
    intro listener member
    cases member
  · intro controller label next before none spared taken
    have coherent := reachable_coherent before.reachable
    have waits := reachable_waits before.reachable
    exact (step_noneHangs_iff coherent waits none taken).mpr spared

/-- A request waits for the first socket and is answered on it; a second one is sent. -/
def answered : List (Label Nat) :=
  [.request "get-configuration" none, .opened 0, .microtask, .microtask,
    .request "need-frame" none, .microtask, .microtask, .microtask, .message 0 (.json (some 0))]

theorem noneHangs_of_answered :
    ∃ controller : WebSocketController Nat,
      machine.runWhen Spared init answered = some controller ∧
        controller.jsonListeners.length = 1 ∧ NoneHangs controller := by
  obtain ⟨controller, replayed, passed⟩ := (Option.any_eq_true _ _).mp
    (show (machine.runWhen Spared init answered).any (fun controller : WebSocketController Nat =>
        decide (controller.jsonListeners.length = 1)) = true by decide)
  exact ⟨controller, replayed, of_decide_eq_true passed,
    noneHangs_of_spared (.runWhen answered (.initial rfl) replayed)⟩

/-- The wait of a request expires, and nobody tells the request. -/
theorem not_noneHangs_of_expiredWait :
    ¬∀ controller : WebSocketController Nat, machine.Reachable controller →
      NoneHangs controller := by
  intro always
  obtain ⟨controller, reached, passed⟩ := Machine.exists_reachable_of_run
    [.request "need-frame" none, .waitTimeout 0]
    (fun controller : WebSocketController Nat =>
      controller.waitTimers.isEmpty && controller.microtasks.isEmpty &&
        controller.sent.isEmpty && !controller.jsonListeners.isEmpty)
    (show machine.initial (init : WebSocketController Nat) from rfl) (by decide)
  simp only [Bool.and_eq_true, Bool.not_eq_true', List.isEmpty_iff] at passed
  obtain ⟨⟨⟨noTimer, noJob⟩, noSent⟩, listens⟩ := passed
  obtain ⟨listener, member⟩ := List.exists_mem_of_ne_nil controller.jsonListeners (by
    intro nothing
    rw [nothing] at listens
    cases listens)
  rcases always controller reached listener member with
    (armed | ⟨job, isJob, _⟩) | ⟨socket, _, sent, isSent, _⟩
  · rw [noTimer] at armed
    cases armed
  · rw [noJob] at isJob
    cases isJob
  · rw [noSent] at isSent
    cases isSent

end PendingRequests
end WebSocketController
end Browser
end JSCameraKit
