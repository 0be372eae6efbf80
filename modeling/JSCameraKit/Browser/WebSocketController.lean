import Mathlib.Data.List.Basic
import JSCameraKit.Library.ForEach
import JSCameraKit.Library.Machine

set_option autoImplicit false

/-! The `WebSocketController` of the client library: its socket and the timer that
reconnects it, the calls of `send` that wait for an open socket, and the listeners for the
responses to its requests. The sockets, the timers and the microtasks are the browser's. -/

namespace JSCameraKit
namespace Browser

/-! ### The socket -/

/-- The `readyState` of a socket. -/
inductive ReadyState
  | CONNECTING
  | OPEN
  | CLOSING
  | CLOSED
  deriving DecidableEq

/-- A `WebSocket`, with the handlers that are set. -/
structure WebSocket where
  readyState : ReadyState
  onclose : Bool
  onopen : Bool
  onmessage : Bool
  onerror : Bool

inductive Event
  | opened
  | message
  | error
  | close

/-- An event emitted on the controller, the socket it is of, and the current socket. -/
structure Emission where
  event : Event
  source : Nat
  current : Option Nat

structure Connection where
  /-- The sockets constructed, by number. -/
  sockets : List WebSocket
  webSocket : Option Nat
  connectTimer : Option Nat
  /-- The timers set for a reconnection, each with its number as its handle. -/
  timeouts : Nat
  /-- Those that have not expired. -/
  armed : List Nat
  emitted : List Emission

namespace Connection

def empty : Connection :=
  { sockets := []
    webSocket := none
    connectTimer := none
    timeouts := 0
    armed := []
    emitted := [] }

/-- An assignment to a property of `this.webSocket`. -/
def assign (set : WebSocket → WebSocket) (connection : Connection) : Connection :=
  match connection.webSocket with
  | none => connection
  | some number => { connection with sockets := connection.sockets.modify number set }

def forget (connection : Connection) : Connection :=
  { connection with webSocket := none }

def construct (connection : Connection) : Connection :=
  { connection with
    sockets := connection.sockets ++
      [{ readyState := .CONNECTING
         onclose := false
         onopen := false
         onmessage := false
         onerror := false }]
    webSocket := some connection.sockets.length }

/-- The assignments of `clear` to the handlers, which do nothing without a socket. -/
def detaching : List (WebSocket → WebSocket) :=
  [fun socket => { socket with onclose := false },
    fun socket => { socket with onopen := false },
    fun socket => { socket with onmessage := false },
    fun socket => { socket with onerror := false }]

def attaching : List (WebSocket → WebSocket) :=
  [fun socket => { socket with onclose := true },
    fun socket => { socket with onopen := true },
    fun socket => { socket with onmessage := true },
    fun socket => { socket with onerror := true }]

def clearStatements : List (Connection → Connection) :=
  detaching.map assign ++ [forget]

/-- The statements of `connect`, those of the `clear` that it calls first. -/
def connectStatements : List (Connection → Connection) :=
  clearStatements ++ construct :: attaching.map assign

def run (statements : List (Connection → Connection)) (connection : Connection) : Connection :=
  statements.foldl (fun connection statement => statement connection) connection

def clear (connection : Connection) : Connection :=
  run clearStatements connection

def connect (connection : Connection) : Connection :=
  run connectStatements connection

def setReadyState (connection : Connection) (number : Nat) (readyState : ReadyState) :
    Connection :=
  { connection with
    sockets := connection.sockets.modify number fun socket =>
      { socket with readyState := readyState } }

/-- The socket has the handler set. -/
def handles (connection : Connection) (handler : WebSocket → Bool) (number : Nat) : Bool :=
  (connection.sockets[number]?).any handler

/-- The handler of a socket, if it is set, emits its event. -/
def emit (connection : Connection) (event : Event) (handler : WebSocket → Bool) (number : Nat) :
    Connection :=
  if connection.handles handler number then
    { connection with
      emitted := connection.emitted ++
        [{ event := event, source := number, current := connection.webSocket }] }
  else connection

/-- The constructor's listener for `close`. -/
def onClose (connection : Connection) : Connection :=
  if connection.clear.connectTimer = none then
    { connection.clear with
      connectTimer := some connection.clear.timeouts
      timeouts := connection.clear.timeouts + 1
      armed := connection.clear.armed ++ [connection.clear.timeouts] }
  else connection.clear

/-- The callback of the timer with a handle. -/
def reconnect (connection : Connection) (handle : Nat) : Connection :=
  { { connection with armed := connection.armed.erase handle }.connect with connectTimer := none }

/-- `this.webSocket && this.webSocket.readyState == WebSocket.OPEN`. -/
def isOpen (connection : Connection) : Bool :=
  match connection.webSocket with
  | none => false
  | some number => (connection.sockets[number]?).any fun socket => socket.readyState = .OPEN

end Connection

/-! ### The controller -/

/-- What is passed to `send`; a request is a text that `JSON.stringify` makes. -/
inductive Outgoing (Data : Type)
  | data (data : Data)
  | request (request : String) (id : Nat) (data : Option Data)
  deriving DecidableEq

/-- A call of `send`, numbered in the order of the calls. -/
structure Send (Data : Type) where
  number : Nat
  data : Outgoing Data
  deriving DecidableEq

/-- A `send` whose `waitForSocket` is resolved, and the microtask in which it goes on. -/
structure Job (Data : Type) where
  send : Send Data
  ticks : Nat

/-- A `send` that has called `this.webSocket.send`. -/
structure Sent (Data : Type) where
  send : Send Data
  socket : Nat

structure RequestListener where
  id : Nat
  send : Nat

/-- The data of a message. Of JSON it keeps `parseInt(json.id)`, where that is a number. -/
inductive Incoming
  | binary
  | text
  | json (id : Option Int)

structure WebSocketController (Data : Type) where
  connection : Connection
  requestID : Nat
  /-- The listeners for `open`, each of a `waitForSocket`. -/
  openListeners : List (Send Data)
  /-- The waits whose timer has neither expired nor been cleared. -/
  waitTimers : List Nat
  jsonListeners : List RequestListener
  microtasks : List (Job Data)
  /-- The number of calls of `send`. -/
  sends : Nat
  sent : List (Sent Data)
  /-- The calls made without an open socket since `open` was last emitted. -/
  queued : List (Send Data)

namespace WebSocketController

variable {Data : Type}

def init : WebSocketController Data :=
  { connection := Connection.empty.connect
    requestID := 0
    openListeners := []
    waitTimers := []
    jsonListeners := []
    microtasks := []
    sends := 0
    sent := []
    queued := [] }

/-- The listener that `once` registers for `open`. A wait that has expired is settled. -/
def onceListener (send : Send Data) (controller : WebSocketController Data) :
    WebSocketController Data :=
  { controller with
    openListeners := controller.openListeners.eraseP fun other => other.number = send.number
    waitTimers := controller.waitTimers.erase send.number
    microtasks :=
      if send.number ∈ controller.waitTimers then
        controller.microtasks ++ [{ send := send, ticks := 2 }]
      else controller.microtasks }

def emitOpen (controller : WebSocketController Data) : WebSocketController Data :=
  ForEach.forEach openListeners onceListener { controller with queued := [] }

/-- The listener that `request` registers for `json-message`. -/
def requestListener (id : Option Int) (listener : RequestListener)
    (controller : WebSocketController Data) : WebSocketController Data :=
  if id = some (listener.id : Int) then
    { controller with
      jsonListeners := controller.jsonListeners.eraseP fun other => other.id = listener.id }
  else controller

/-- The constructor's listener for `message`. -/
def onMessage (controller : WebSocketController Data) :
    Incoming → WebSocketController Data
  | .binary | .text => controller
  | .json id => ForEach.forEach jsonListeners (requestListener id) controller

/-- `send` up to its `await`. The promise of an open socket is resolved, and the generator
goes on in the third microtask; that of a wait is adopted already when it is resolved. -/
def send (controller : WebSocketController Data) (data : Outgoing Data) :
    WebSocketController Data :=
  if controller.connection.isOpen then
    { controller with
      sends := controller.sends + 1
      microtasks := controller.microtasks ++
        [{ send := { number := controller.sends, data := data }, ticks := 3 }] }
  else
    { controller with
      sends := controller.sends + 1
      openListeners := controller.openListeners ++
        [{ number := controller.sends, data := data }]
      waitTimers := controller.waitTimers ++ [controller.sends]
      queued := controller.queued ++ [{ number := controller.sends, data := data }] }

def request (controller : WebSocketController Data) (request : String) (data : Option Data) :
    WebSocketController Data :=
  send
    { controller with
      requestID := controller.requestID + 1
      jsonListeners := controller.jsonListeners ++
        [{ id := controller.requestID, send := controller.sends }] }
    (.request request controller.requestID data)

/-- `send` from its `await` on. Without a socket its promise is rejected. -/
def continuation (controller : WebSocketController Data) (send : Send Data) :
    WebSocketController Data :=
  match controller.connection.webSocket with
  | none => controller
  | some number =>
      { controller with sent := controller.sent ++ [{ send := send, socket := number }] }

def microtask (controller : WebSocketController Data) : Option (WebSocketController Data) :=
  match controller.microtasks with
  | [] => none
  | job :: rest =>
      if job.ticks ≤ 1 then some ({ controller with microtasks := rest }.continuation job.send)
      else
        some
          { controller with
            microtasks := rest ++ [{ send := job.send, ticks := job.ticks - 1 }] }

/-! ### The steps -/

inductive Label (Data : Type)
  | send (data : Data)
  | request (request : String) (data : Option Data)
  | microtask
  | opened (socket : Nat)
  | message (socket : Nat) (incoming : Incoming)
  | error (socket : Nat)
  /-- The closing handshake starts, which emits nothing. -/
  | closing (socket : Nat)
  | close (socket : Nat)
  | connectTimeout (handle : Nat)
  | waitTimeout (send : Nat)

/-- What a step does to the socket and its timer. -/
def linked (connection : Connection) : Label Data → Connection
  | .send _ | .request _ _ | .microtask | .waitTimeout _ => connection
  | .opened socket =>
      (connection.setReadyState socket .OPEN).emit .opened WebSocket.onopen socket
  | .message socket _ => connection.emit .message WebSocket.onmessage socket
  | .error socket => connection.emit .error WebSocket.onerror socket
  | .closing socket => connection.setReadyState socket .CLOSING
  | .close socket =>
      if connection.handles WebSocket.onclose socket then
        ((connection.setReadyState socket .CLOSED).emit .close WebSocket.onclose socket).onClose
      else connection.setReadyState socket .CLOSED
  | .connectTimeout handle => connection.reconnect handle

/-- Tasks wait until no microtask is left; the code that calls the library may run in
either. -/
def step (controller : WebSocketController Data) :
    Label Data → Option (WebSocketController Data)
  | .send data => some (controller.send (.data data))
  | .request request data => some (controller.request request data)
  | .microtask => controller.microtask
  | .opened socket =>
      if controller.microtasks.isEmpty then
        some
          (if controller.connection.handles WebSocket.onopen socket then
            { controller with
              connection := linked controller.connection (.opened socket : Label Data) }.emitOpen
          else
            { controller with
              connection := linked controller.connection (.opened socket : Label Data) })
      else none
  | .message socket incoming =>
      if controller.microtasks.isEmpty then
        some
          (if controller.connection.handles WebSocket.onmessage socket then
            { controller with
              connection := linked controller.connection
                (.message socket incoming : Label Data) }.onMessage incoming
          else controller)
      else none
  | .error socket =>
      if controller.microtasks.isEmpty then
        some
          { controller with
            connection := linked controller.connection (.error socket : Label Data) }
      else none
  | .closing socket =>
      if controller.microtasks.isEmpty then
        some
          { controller with
            connection := linked controller.connection (.closing socket : Label Data) }
      else none
  | .close socket =>
      if controller.microtasks.isEmpty then
        some
          { controller with
            connection := linked controller.connection (.close socket : Label Data) }
      else none
  | .connectTimeout handle =>
      if controller.microtasks.isEmpty ∧ handle ∈ controller.connection.armed then
        some
          { controller with
            connection := linked controller.connection (.connectTimeout handle : Label Data) }
      else none
  | .waitTimeout send =>
      if controller.microtasks.isEmpty ∧ send ∈ controller.waitTimers then
        some { controller with waitTimers := controller.waitTimers.erase send }
      else none

def machine : Machine (WebSocketController Data) (Label Data) :=
  { initial := fun controller => controller = init
    step := step }

/-! ### What each step does -/

private theorem emitOpen_connection (controller : WebSocketController Data) :
    controller.emitOpen.connection = controller.connection := by
  apply ForEach.forEach_preserves
    (fun state : WebSocketController Data => state.connection = controller.connection)
  · intro send state same
    exact same
  · rfl

private theorem onMessage_connection (controller : WebSocketController Data) (incoming : Incoming) :
    (controller.onMessage incoming).connection = controller.connection := by
  cases incoming with
  | binary => rfl
  | text => rfl
  | json id =>
      apply ForEach.forEach_preserves
        (fun state : WebSocketController Data => state.connection = controller.connection)
      · intro listener state same
        unfold requestListener
        split
        · exact same
        · exact same
      · rfl

private theorem send_connection (controller : WebSocketController Data) (data : Outgoing Data) :
    (controller.send data).connection = controller.connection := by
  unfold send
  split
  · rfl
  · rfl

private theorem microtask_connection {controller next : WebSocketController Data}
    (taken : controller.microtask = some next) : next.connection = controller.connection := by
  unfold microtask at taken
  split at taken
  · cases taken
  · split at taken
    · cases taken
      unfold continuation
      split
      · rfl
      · rfl
    · cases taken
      rfl

private theorem emit_of_not_handles {connection : Connection} {handler : WebSocket → Bool}
    {number : Nat}
    (event : Event) (silent : ¬connection.handles handler number = true) :
    connection.emit event handler number = connection := by
  unfold Connection.emit
  rw [if_neg silent]

theorem step_connection {controller next : WebSocketController Data} {label : Label Data}
    (taken : step controller label = some next) :
    next.connection = linked controller.connection label := by
  cases label with
  | send data =>
      cases taken
      exact send_connection controller (.data data)
  | request request data =>
      cases taken
      exact send_connection _ _
  | microtask => exact microtask_connection taken
  | opened socket =>
      simp only [step, Option.ite_none_right_eq_some, Option.some.injEq] at taken
      rw [← taken.2]
      split
      · exact emitOpen_connection _
      · rfl
  | message socket incoming =>
      simp only [step, Option.ite_none_right_eq_some, Option.some.injEq] at taken
      rw [← taken.2]
      split
      · exact onMessage_connection _ incoming
      · rename_i silent
        exact (emit_of_not_handles .message silent).symm
  | error socket | closing socket | close socket | connectTimeout handle =>
      simp only [step, Option.ite_none_right_eq_some, Option.some.injEq] at taken
      rw [← taken.2]
  | waitTimeout send =>
      simp only [step, Option.ite_none_right_eq_some, Option.some.injEq] at taken
      rw [← taken.2]
      rfl

theorem connectTimeout_armed {controller next : WebSocketController Data} {handle : Nat}
    (taken : step controller (.connectTimeout handle) = some next) :
    handle ∈ controller.connection.armed := by
  simp only [step, Option.ite_none_right_eq_some] at taken
  exact taken.1.2

end WebSocketController
end Browser
end JSCameraKit
