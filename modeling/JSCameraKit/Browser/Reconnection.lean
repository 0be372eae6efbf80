import Mathlib.Logic.Basic
import JSCameraKit.Browser.WebSocketController
import JSCameraKit.Library.ListEdit

set_option autoImplicit false

/-! The reconnection of the controller. The events of a socket, current or replaced, may
come in any order and at any time; the handlers decide which of them count. -/

namespace JSCameraKit
namespace Browser

def WebSocket.Attached (socket : WebSocket) : Prop :=
  socket.onclose = true ∧ socket.onopen = true ∧ socket.onmessage = true ∧ socket.onerror = true

def WebSocket.HasHandler (socket : WebSocket) : Prop :=
  socket.onclose = true ∨ socket.onopen = true ∨ socket.onmessage = true ∨ socket.onerror = true

namespace Connection

/-- Two sockets never have handlers at once. -/
def Single (connection : Connection) : Prop :=
  ∀ (first second : Nat) (socket other : WebSocket), connection.sockets[first]? = some socket →
    connection.sockets[second]? = some other → socket.HasHandler → other.HasHandler →
      first = second

/-- Only the current socket has handlers. -/
def Guarded (connection : Connection) : Prop :=
  ∀ (number : Nat) (socket : WebSocket), connection.sockets[number]? = some socket →
    socket.HasHandler → connection.webSocket = some number

/-- A property holds before the statements, between any two, and after them. -/
def Throughout (good : Connection → Prop) : List (Connection → Connection) → Connection → Prop
  | [], connection => good connection
  | statement :: rest, connection =>
      good connection ∧ Throughout good rest (statement connection)

theorem Guarded.single {connection : Connection} (guarded : connection.Guarded) :
    connection.Single := by
  intro first second socket other atFirst atSecond handler otherHandler
  have current := guarded first socket atFirst handler
  rw [guarded second other atSecond otherHandler] at current
  exact (Option.some.inj current).symm

/-! ### Statement by statement -/

private theorem throughout_append {good : Connection → Prop}
    (first rest : List (Connection → Connection))
    {connection : Connection} (before : Throughout good first connection)
    (after : Throughout good rest (run first connection)) :
    Throughout good (first ++ rest) connection := by
  induction first generalizing connection with
  | nil => exact after
  | cons statement first ih => exact ⟨before.1, ih before.2 after⟩

theorem Throughout.mono {good weaker : Connection → Prop}
    (implies : ∀ connection, good connection → weaker connection)
    {statements : List (Connection → Connection)} {connection : Connection}
    (holds : Throughout good statements connection) :
    Throughout weaker statements connection := by
  induction statements generalizing connection with
  | nil => exact implies connection holds
  | cons statement rest ih => exact ⟨implies connection holds.1, ih holds.2⟩

theorem Throughout.last {good : Connection → Prop} {statements : List (Connection → Connection)}
    {connection : Connection} (holds : Throughout good statements connection) :
    good (run statements connection) := by
  induction statements generalizing connection with
  | nil => exact holds
  | cons statement rest ih => exact ih holds.2

private theorem assign_guarded {connection : Connection} (set : WebSocket → WebSocket)
    (guarded : connection.Guarded) : (assign set connection).Guarded := by
  intro number socket found handler
  unfold assign at found ⊢
  split at found
  · rename_i nothing
    rw [nothing]
    have current := guarded number socket found handler
    rw [nothing] at current
    exact current
  · rename_i current atCurrent
    rw [atCurrent]
    rcases ListEdit.modify_cases found with ⟨same, _⟩ | ⟨_, kept⟩
    · rw [same]
    · have only := guarded number socket kept handler
      rw [atCurrent] at only
      exact only

private theorem assigns_guarded (sets : List (WebSocket → WebSocket)) {connection : Connection}
    (guarded : connection.Guarded) : Throughout Guarded (sets.map assign) connection := by
  induction sets generalizing connection with
  | nil => exact guarded
  | cons set sets ih => exact ⟨guarded, ih (assign_guarded set guarded)⟩

private theorem run_assigns (sets : List (WebSocket → WebSocket)) (connection : Connection) :
    run (sets.map assign) connection =
      assign (fun socket => sets.foldl (fun socket set => set socket) socket) connection := by
  induction sets generalizing connection with
  | nil =>
      unfold assign
      split
      · rfl
      · simp only [run, List.map_nil, List.foldl_nil]
        rw [show (fun socket : WebSocket => socket) = id from rfl, List.modify_id]
  | cons set sets ih =>
      simp only [run, List.map_cons, List.foldl_cons] at ih ⊢
      rw [ih]
      cases current : connection.webSocket with
      | none => simp [assign, current]
      | some number => simp [assign, current, List.modify_modify_eq, Function.comp_def]

theorem run_append (first rest : List (Connection → Connection)) (connection : Connection) :
    run (first ++ rest) connection = run rest (run first connection) :=
  List.foldl_append

/-- The sockets once `clear` has taken the handlers off the current one. -/
def detached (connection : Connection) : List WebSocket :=
  match connection.webSocket with
  | none => connection.sockets
  | some number =>
      connection.sockets.modify number fun socket =>
        { socket with onclose := false, onopen := false, onmessage := false, onerror := false }

theorem clear_eq (connection : Connection) :
    connection.clear =
      { connection with sockets := connection.detached, webSocket := none } := by
  rw [clear, clearStatements, run_append, run_assigns]
  unfold assign detached
  cases connection.webSocket with
  | none => rfl
  | some number => rfl

theorem Guarded.detached {connection : Connection} (guarded : connection.Guarded) :
    ∀ (number : Nat) (socket : WebSocket), connection.detached[number]? = some socket →
      ¬socket.HasHandler := by
  intro number socket found handler
  unfold Connection.detached at found
  split at found
  · rename_i nothing
    have current := guarded number socket found handler
    rw [nothing] at current
    cases current
  · rename_i current atCurrent
    rcases ListEdit.modify_cases found with ⟨_, before, _, rfl⟩ | ⟨different, kept⟩
    · simp [WebSocket.HasHandler] at handler
    · have only := guarded number socket kept handler
      rw [atCurrent] at only
      exact different (Option.some.inj only).symm

theorem Guarded.clear {connection : Connection} (guarded : connection.Guarded) :
    connection.clear.Guarded := by
  intro number socket found handler
  rw [clear_eq] at found
  exact absurd handler (guarded.detached number socket found)

theorem Guarded.construct {connection : Connection} (guarded : connection.Guarded)
    (nothing : connection.webSocket = none) : connection.construct.Guarded := by
  intro number socket found handler
  rcases ListEdit.concat_cases found with old | ⟨rfl, rfl⟩
  · have current := guarded number socket old handler
    rw [nothing] at current
    cases current
  · simp [WebSocket.HasHandler] at handler

theorem Guarded.throughout {connection : Connection} (guarded : connection.Guarded) :
    Throughout Guarded connectStatements connection := by
  have cleared := guarded.clear
  have nothing : connection.clear.webSocket = none := by rw [clear_eq]
  apply throughout_append
  · apply throughout_append
    · exact assigns_guarded detaching guarded
    · rw [Connection.clear, clearStatements, run_append] at cleared
      exact ⟨(assigns_guarded detaching guarded).last, cleared⟩
  · exact ⟨cleared, assigns_guarded attaching (cleared.construct nothing)⟩

/-! ### From event to event -/

theorem connect_eq (connection : Connection) :
    connection.connect =
      { connection with
        sockets := connection.detached ++
          [{ readyState := .CONNECTING
             onclose := true
             onopen := true
             onmessage := true
             onerror := true }]
        webSocket := some connection.detached.length } := by
  have cleared : run clearStatements connection = connection.clear := rfl
  rw [connect, connectStatements, run_append, cleared, clear_eq]
  simp only [run, List.foldl_cons]
  have joined := run_assigns attaching
    (construct { connection with sockets := connection.detached, webSocket := none })
  rw [run] at joined
  rw [joined]
  simp only [assign, construct, ListEdit.modify_concat, attaching, List.foldl_cons,
    List.foldl_nil]

/-- The socket and the timer between two events. -/
structure Coherent (connection : Connection) : Prop where
  guarded : connection.Guarded
  attached : ∀ number, connection.webSocket = some number →
    ∃ socket, connection.sockets[number]? = some socket ∧ socket.Attached
  connected : connection.webSocket ≠ none →
    connection.connectTimer = none ∧ connection.armed = []
  waiting : connection.webSocket = none →
    ∃ handle, connection.connectTimer = some handle ∧ connection.armed = [handle]
  genuine : ∀ emission ∈ connection.emitted, emission.current = some emission.source

theorem handles_hasHandler {connection : Connection} {number : Nat} {handler : WebSocket → Bool}
    (has : ∀ socket, handler socket = true → socket.HasHandler)
    (set : connection.handles handler number = true) :
    ∃ socket, connection.sockets[number]? = some socket ∧ socket.HasHandler := by
  obtain ⟨socket, found, handled⟩ := (Option.any_eq_true handler _).mp set
  exact ⟨socket, found, has socket handled⟩

theorem Coherent.setReadyState {connection : Connection} (coherent : connection.Coherent)
    (number : Nat) (readyState : ReadyState) :
    (connection.setReadyState number readyState).Coherent := by
  refine { coherent with guarded := ?_, attached := ?_ }
  · intro index socket found handler
    rcases ListEdit.modify_cases found with ⟨same, before, atNumber, rfl⟩ | ⟨_, kept⟩
    · rw [same]
      exact coherent.guarded number before atNumber handler
    · exact coherent.guarded index socket kept handler
  · intro index current
    obtain ⟨socket, found, attached⟩ := coherent.attached index current
    by_cases same : index = number
    · subst same
      refine ⟨{ socket with readyState := readyState }, ?_, attached⟩
      rw [Connection.setReadyState, List.getElem?_modify_eq, found]
      rfl
    · refine ⟨socket, ?_, attached⟩
      rw [Connection.setReadyState, List.getElem?_modify_ne _ _ (Ne.symm same)]
      exact found

theorem Coherent.emit {connection : Connection} (coherent : connection.Coherent) (event : Event)
    {handler : WebSocket → Bool} (has : ∀ socket, handler socket = true → socket.HasHandler)
    (number : Nat) : (connection.emit event handler number).Coherent := by
  unfold Connection.emit
  split
  · rename_i set
    refine { coherent with genuine := ?_ }
    intro emission member
    rcases List.mem_append.mp member with old | new
    · exact coherent.genuine emission old
    · obtain ⟨socket, found, handled⟩ := handles_hasHandler has set
      rw [List.mem_singleton.mp new]
      exact coherent.guarded number socket found handled
  · exact coherent

theorem Coherent.onClose {connection : Connection} (coherent : connection.Coherent)
    (current : connection.webSocket ≠ none) : connection.onClose.Coherent := by
  have idle := coherent.connected current
  have noTimer : connection.clear.connectTimer = none := by
    rw [clear_eq]
    exact idle.1
  rw [Connection.onClose, if_pos noTimer, clear_eq]
  constructor
  · intro number socket found handler
    exact absurd handler (coherent.guarded.detached number socket found)
  · intro number same
    cases same
  · intro something
    exact absurd rfl something
  · intro _
    refine ⟨connection.timeouts, rfl, ?_⟩
    dsimp only
    rw [idle.2, List.nil_append]
  · exact coherent.genuine

theorem Coherent.reconnect {connection : Connection} (coherent : connection.Coherent)
    {handle : Nat} (armed : handle ∈ connection.armed) : (connection.reconnect handle).Coherent := by
  have noSocket : connection.webSocket = none := by
    by_contra something
    rw [(coherent.connected something).2] at armed
    cases armed
  obtain ⟨timer, _, only⟩ := coherent.waiting noSocket
  have noOther : connection.armed.erase handle = [] := by
    rw [only, List.mem_singleton] at armed
    rw [only, armed, List.erase_cons_head]
  rw [Connection.reconnect, connect_eq, noOther]
  constructor
  · intro number socket found handler
    rcases ListEdit.concat_cases found with old | ⟨rfl, _⟩
    · exact absurd handler (Guarded.detached coherent.guarded number socket old)
    · rfl
  · intro number same
    cases same
    exact ⟨_, List.getElem?_concat_length, rfl, rfl, rfl, rfl⟩
  · intro _
    exact ⟨rfl, rfl⟩
  · intro nothing
    cases nothing
  · exact coherent.genuine

end Connection

namespace WebSocketController

open Connection (Coherent)

variable {Data : Type}

private theorem linked_coherent {connection : Connection} (coherent : connection.Coherent)
    (label : Label Data)
    (expires : ∀ handle, label = .connectTimeout handle → handle ∈ connection.armed) :
    (linked connection label).Coherent := by
  cases label with
  | send data => exact coherent
  | request request data => exact coherent
  | microtask => exact coherent
  | waitTimeout send => exact coherent
  | opened socket =>
      apply (coherent.setReadyState socket .OPEN).emit
      intro socket set
      exact .inr (.inl set)
  | message socket incoming =>
      apply coherent.emit
      intro socket set
      exact .inr (.inr (.inl set))
  | error socket =>
      apply coherent.emit
      intro socket set
      exact .inr (.inr (.inr set))
  | closing socket => exact coherent.setReadyState socket .CLOSING
  | close socket =>
      have closed := coherent.setReadyState socket .CLOSED
      simp only [linked]
      split
      · rename_i set
        have has : ∀ socket : WebSocket, socket.onclose = true → socket.HasHandler :=
          fun socket set => .inl set
        apply (closed.emit .close has socket).onClose
        obtain ⟨found, atSocket, handled⟩ := Connection.handles_hasHandler has set
        have current := coherent.guarded socket found atSocket handled
        unfold Connection.emit
        split
        · exact Option.ne_none_iff_exists'.mpr ⟨socket, current⟩
        · exact Option.ne_none_iff_exists'.mpr ⟨socket, current⟩
      · exact closed
  | connectTimeout handle => exact coherent.reconnect (expires handle rfl)

private theorem init_coherent : (init : WebSocketController Data).connection.Coherent := by
  rw [init, Connection.connect_eq]
  constructor
  · intro number socket found handler
    rcases ListEdit.concat_cases found with old | ⟨rfl, _⟩
    · cases old
    · rfl
  · intro number same
    cases same
    exact ⟨_, rfl, rfl, rfl, rfl, rfl⟩
  · intro _
    exact ⟨rfl, rfl⟩
  · intro nothing
    cases nothing
  · intro emission member
    cases member

theorem reachable_coherent {controller : WebSocketController Data}
    (reached : machine.Reachable controller) : controller.connection.Coherent := by
  refine reached.invariant (fun controller => controller.connection.Coherent) ?_ ?_
  · intro controller starts
    rw [starts]
    exact init_coherent
  · intro controller label next _ coherent taken
    rw [step_connection taken]
    apply linked_coherent coherent label
    intro handle same
    subst same
    exact connectTimeout_armed taken

/-! ### The state machine -/

/-- There is a current socket, with its four handlers, and no timer. -/
def Connected (connection : Connection) : Prop :=
  ∃ number socket, connection.webSocket = some number ∧
    connection.sockets[number]? = some socket ∧ socket.Attached ∧ connection.armed = []

/-- There is no current socket, and one timer. -/
def Reconnecting (connection : Connection) : Prop :=
  connection.webSocket = none ∧ ∃ handle, connection.armed = [handle]

/-- Between two events the controller is connected or reconnecting. From there on, two sockets
do not even have handlers during a call of `clear` or `connect`. What was emitted is of the
socket that was the current one. -/
structure Reconnects (connection : Connection) : Prop where
  oneOf : Xor (Connected connection) (Reconnecting connection)
  single : Connection.Throughout Connection.Single Connection.connectStatements connection
  genuine : ∀ emission ∈ connection.emitted, emission.current = some emission.source

theorem reachable_reconnects {controller : WebSocketController Data}
    (reached : machine.Reachable controller) : Reconnects controller.connection := by
  have coherent := reachable_coherent reached
  constructor
  · cases current : controller.connection.webSocket with
    | none =>
        refine .inr ⟨⟨current, ?_⟩, ?_⟩
        · obtain ⟨handle, _, only⟩ := coherent.waiting current
          exact ⟨handle, only⟩
        · intro connected
          obtain ⟨number, socket, same, _⟩ := connected
          rw [current] at same
          cases same
    | some number =>
        refine .inl ⟨?_, ?_⟩
        · obtain ⟨socket, found, attached⟩ := coherent.attached number current
          have idle := coherent.connected (by rw [current]; exact Option.some_ne_none number)
          exact ⟨number, socket, current, found, attached, idle.2⟩
        · intro waiting
          rw [waiting.1] at current
          cases current
  · exact coherent.guarded.throughout.mono fun _ guarded => guarded.single
  · exact coherent.genuine

/-- The first socket fails, and its events come again once it has been replaced. -/
def failedOnce : List (Label Nat) :=
  [.error 0, .close 0, .close 0, .connectTimeout 0, .message 0 .text, .close 0, .opened 1]

theorem reconnects_of_failedOnce :
    ∃ controller : WebSocketController Nat, machine.run init failedOnce = some controller ∧
      controller.connection.webSocket = some 1 ∧ controller.connection.emitted.length = 3 ∧
      Reconnects controller.connection := by
  obtain ⟨controller, replayed, passed⟩ := (Option.any_eq_true _ _).mp
    (show (machine.run init failedOnce).any (fun controller : WebSocketController Nat =>
        decide (controller.connection.webSocket = some 1 ∧
          controller.connection.emitted.length = 3)) = true by decide)
  obtain ⟨second, three⟩ := of_decide_eq_true passed
  exact ⟨controller, replayed, second, three,
    reachable_reconnects (.run failedOnce (.initial rfl) replayed)⟩

end WebSocketController
end Browser
end JSCameraKit
