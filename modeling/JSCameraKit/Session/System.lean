import Mathlib.Logic.Function.Basic
import JSCameraKit.Browser.Camera
import JSCameraKit.WebSocketServer.Streams

set_option autoImplicit false

/-! The camera, its web socket and the browsers together. Requests reach the service
thread in any order, frames come from the capture queue, and every connection
delivers its messages in order. Each write of a thread is a call of the server that
the thread waits for, and that can be interrupted between any two of its statements. -/

namespace JSCameraKit
namespace Session

open WebSocketController (processMessage writeStatements safe)
open WebSocketServer.Broadcast (Socket delivered)

/-- The statements left of a thread, and the write call that it is in. -/
structure Thread (Client : Type) where
  statements : List (Statement Client)
  call : Option Nat

structure State (Client Wsi Device : Type) where
  server : WebSocketServer.Broadcast.State Wsi (Message Client)
  camera : WebSocketCamera Device Frame
  now : ℚ
  /-- How many frames the session has captured. -/
  frames : Nat
  /-- The frames captured that `onBuffer` has not been called with. -/
  captured : List Frame
  /-- The frames that `writeFrame` has started to write, by number of the call. -/
  written : List Frame
  threads : List (Thread Client)
  /-- The thread of the request that was received last. -/
  service : Nat
  /-- The tasks on the serial queue of the camera, each of which waits for `sendGroup`. -/
  tasks : Nat
  waited : Bool
  /-- The calls that write planes, whose completion blocks leave `sendGroup`. -/
  leaving : List Nat
  photos : List (Origin Client)
  requests : List (Origin Client × Request)
  produced : List (Origin Client × Reply)
  cameras : Client → Browser.Camera
  sockets : Client → Option (Socket Wsi)

inductive Label (Client Wsi : Type)
  | tick (elapsed : ℚ)
  | connect (client : Client) (wsi : Wsi)
  | disconnect (client : Client)
  | closed (wsi : Wsi)
  | writable (wsi : Wsi)
  | advance (call : Nat)
  | request (client : Client) (request : Request)
  | setCanvas (client : Client) (gl builds : Bool)
  | receive (index : Nat)
  | run (thread : Nat)
  | capture
  | onBuffer (index : Nat)
  | photoTaken (index : Nat)
  | activityTimeout
  | leaveSendGroup (index : Nat)
  | waitReturns
  | clearFrameData
  | deliver (client : Client)

variable {Client Wsi Device : Type}

/-! ### Threads -/

/-- The write call of the thread, if it is in one, has returned. -/
def Thread.returned (thread : Thread Client)
    (server : WebSocketServer.Broadcast.State Wsi (Message Client)) : Bool :=
  match thread.call with
  | none => true
  | some call => ((server.calls[call]?).map fun call => call.stage.returned) = some true

/-- The service thread is done with the last request, and serves the sockets. -/
def State.idle (state : State Client Wsi Device) : Bool :=
  match state.threads[state.service]? with
  | none => true
  | some thread => thread.statements.isEmpty && thread.returned state.server

/-- A thread is started where a handler or `onBuffer` goes on with writing. -/
def State.spawn (state : State Client Wsi Device) (camera : WebSocketCamera Device Frame)
    (started : Option (Frame × Frame)) (rest : List (Statement Client)) :
    State Client Wsi Device :=
  { state with
    camera := camera
    written := state.written ++ (started.map Prod.fst).toList
    threads := state.threads ++
      [{ statements := writeStatements state.written.length started ++ rest, call := none }] }

section Spawn

variable (state : State Client Wsi Device) (camera : WebSocketCamera Device Frame)
  (started : Option (Frame × Frame)) (rest : List (Statement Client))

@[simp] theorem spawn_requests : (state.spawn camera started rest).requests = state.requests := rfl

@[simp] theorem spawn_photos : (state.spawn camera started rest).photos = state.photos := rfl

@[simp] theorem spawn_produced : (state.spawn camera started rest).produced = state.produced := rfl

end Spawn

variable [DecidableEq Wsi]

/-- One statement; a write is numbered by the call that it makes. -/
def execute (platform : Platform Device) (state : State Client Wsi Device) :
    Statement Client → Option (State Client Wsi Device)
  | .cancelAllWrites =>
      (WebSocketServer.Broadcast.step state.server .cancelAllWrites).map fun server =>
        { state with server := server }
  | .clear => some { state with camera := state.camera.clear }
  | .changePosition position =>
      (state.camera.changePosition platform position).map fun camera =>
        { state with camera := camera }
  | .changeResolution resolution =>
      (state.camera.changeResolution platform resolution).map fun camera =>
        { state with camera := camera }
  | .write head plane =>
      (WebSocketServer.Broadcast.step state.server
        (.writeDatas (.binary head plane) true)).map fun server =>
          { state with
            server := server
            leaving := state.leaving ++ [state.server.calls.length] }
  | .queueTask => some { state with tasks := state.tasks + 1 }
  | .respond origin answer =>
      let data := safe platform state.camera answer
      (WebSocketServer.Broadcast.step state.server
        (.writeString (.json origin data) true)).map fun server =>
          { state with server := server, produced := state.produced ++ [(origin, data)] }

/-- The write call that a statement makes. -/
def callOf (state : State Client Wsi Device) : Statement Client → Option Nat
  | .write _ _ | .respond _ _ => some state.server.calls.length
  | _ => none

def runThread (platform : Platform Device) (state : State Client Wsi Device) (number : Nat)
    (thread : Thread Client) : Option (State Client Wsi Device) :=
  match thread.statements with
  | [] => none
  | statement :: rest =>
      if thread.returned state.server then
        (execute platform state statement).map fun next =>
          { next with
            threads := state.threads.set number
              { statements := rest, call := callOf state statement } }
      else none

/-- The planes of a frame have the size that the session has when it captures it. -/
def captureFrame (state : State Client Wsi Device) : Option (State Client Wsi Device) :=
  let session := state.camera.capture.captureSession
  if session.running ∧ session.inputs ≠ [] then
    (ConstraintsManager.presets session.sessionPreset).map fun size =>
      { state with
        frames := state.frames + 1
        captured := state.captured ++
          [{ number := state.frames, width := size.width, height := size.height }] }
  else none

variable [DecidableEq Client]

def receive (platform : Platform Device) (state : State Client Wsi Device) (index : Nat)
    (received : Origin Client × Request) : Option (State Client Wsi Device) :=
  (processMessage platform state.now state.camera received.1 received.2).map fun handled =>
    { state.spawn handled.camera handled.started handled.rest with
      service := state.threads.length
      requests := state.requests.eraseIdx index
      photos := if handled.takesPhoto then state.photos ++ [received.1] else state.photos }

/-- The service thread serves the sockets and receives requests between two requests. -/
def step (platform : Platform Device) (state : State Client Wsi Device) :
    Label Client Wsi → Option (State Client Wsi Device)
  | .tick elapsed => if 0 ≤ elapsed then some { state with now := state.now + elapsed } else none
  | .connect client wsi =>
      if state.idle ∧ (state.sockets client).isNone then
        (WebSocketServer.Broadcast.step state.server (.established wsi)).map fun server =>
          { state with
            server := server
            sockets := Function.update state.sockets client
              (some { wsi := wsi, connection := state.server.established, consumed := 0 }) }
      else none
  | .disconnect client =>
      some { state with sockets := Function.update state.sockets client none }
  | .closed wsi =>
      if state.idle then
        (WebSocketServer.Broadcast.step state.server (.closed wsi)).map fun server =>
          { state with server := server }
      else none
  | .writable wsi =>
      if state.idle then
        (WebSocketServer.Broadcast.step state.server (.writable wsi)).map fun server =>
          { state with server := server }
      else none
  | .advance call =>
      (WebSocketServer.Broadcast.step state.server (.advance call)).map fun server =>
        { state with server := server }
  | .request client request =>
      some
        { state with
          requests := state.requests ++
            [({ client := client, id := (state.cameras client).requestID }, request)]
          cameras := Function.update state.cameras client
            ((state.cameras client).request request) }
  | .setCanvas client gl builds =>
      some
        { state with
          cameras := Function.update state.cameras client
            ((state.cameras client).setCanvas gl builds) }
  | .receive index =>
      if state.idle then (state.requests[index]?).bind (receive platform state index) else none
  | .run number => (state.threads[number]?).bind (runThread platform state number)
  | .capture => captureFrame state
  | .onBuffer index =>
      (state.captured[index]?).map fun frame =>
        let outcome := state.camera.onBuffer state.now frame frame
        { state.spawn outcome.1 outcome.2 [] with captured := state.captured.eraseIdx index }
  | .photoTaken index =>
      (state.photos[index]?).map fun origin =>
        { state with
          photos := state.photos.eraseIdx index
          threads := state.threads ++
            [{ statements := [.respond origin .nil], call := none }] }
  | .activityTimeout => some { state with camera := state.camera.stop }
  | .leaveSendGroup index =>
      (state.leaving[index]?).bind fun number =>
        if ((state.server.calls[number]?).map fun call => call.ran) = some 1 then
          some
            { state with
              camera := state.camera.leaveSendGroup
              leaving := state.leaving.eraseIdx index }
        else none
  | .waitReturns =>
      if state.tasks ≠ 0 ∧ state.waited = false ∧ state.camera.sendGroup = 0 then
        some { state with waited := true }
      else none
  | .clearFrameData =>
      if state.waited then
        some
          { state with
            camera := state.camera.clearFrameData
            tasks := state.tasks - 1
            waited := false }
      else none
  | .deliver client =>
      (state.sockets client).bind fun socket =>
        ((delivered state.server socket.connection)[socket.consumed]?).map fun message =>
          { state with
            cameras := Function.update state.cameras client
              ((state.cameras client).onMessage message)
            sockets := Function.update state.sockets client
              (some { socket with consumed := socket.consumed + 1 }) }

/-- The message that a delivery to the client brings. -/
def arriving (state : State Client Wsi Device) (client : Client) : Option (Message Client) :=
  (state.sockets client).bind fun socket =>
    (delivered state.server socket.connection)[socket.consumed]?

def initial (now : ℚ) : State Client Wsi Device :=
  { server := WebSocketServer.Broadcast.initial
    camera := WebSocketCamera.init now
    now := now
    frames := 0
    captured := []
    written := []
    threads := []
    service := 0
    tasks := 0
    waited := false
    leaving := []
    photos := []
    requests := []
    produced := []
    cameras := fun _ => .init
    sockets := fun _ => none }

variable (Client Wsi) in
def machine (platform : Platform Device) :
    Machine (State Client Wsi Device) (Label Client Wsi) :=
  { initial := fun state => ∃ now, state = initial now
    step := step platform }

/-- The statements of a write call, up to the end of its walk over the clients. -/
def walk (call steps : Nat) : List (Label Client Wsi) :=
  List.replicate steps (.advance call)

/-! ### What a step can do -/

omit [DecidableEq Client] in
/-- What one statement can do. -/
inductive Executes (platform : Platform Device) (state : State Client Wsi Device) :
    Statement Client → State Client Wsi Device → Prop
  | cancelAllWrites (server : WebSocketServer.Broadcast.State Wsi (Message Client))
      (moved : WebSocketServer.Broadcast.step state.server .cancelAllWrites = some server) :
      Executes platform state .cancelAllWrites { state with server := server }
  | clear : Executes platform state .clear { state with camera := state.camera.clear }
  | changePosition (position : String) (capture : AVRecorder Device)
      (changed : state.camera.capture.changePosition platform position = some capture) :
      Executes platform state (.changePosition position)
        { state with camera := { state.camera with capture := capture } }
  | changeResolution (resolution : String) (capture : AVRecorder Device)
      (changed : state.camera.capture.setResolution platform resolution = some capture) :
      Executes platform state (.changeResolution resolution)
        { state with camera := { state.camera with capture := capture } }
  | write (head : Nat) (plane : Plane)
      (server : WebSocketServer.Broadcast.State Wsi (Message Client))
      (moved : WebSocketServer.Broadcast.step state.server
        (.writeDatas (.binary head plane) true) = some server) :
      Executes platform state (.write head plane)
        { state with server := server, leaving := state.leaving ++ [state.server.calls.length] }
  | queueTask : Executes platform state .queueTask { state with tasks := state.tasks + 1 }
  | respond (origin : Origin Client) (answer : Answer)
      (server : WebSocketServer.Broadcast.State Wsi (Message Client))
      (moved : WebSocketServer.Broadcast.step state.server
        (.writeString (.json origin (safe platform state.camera answer)) true) = some server) :
      Executes platform state (.respond origin answer)
        { state with
          server := server
          produced := state.produced ++ [(origin, safe platform state.camera answer)] }

omit [DecidableEq Client] in
private theorem execute_cases {platform : Platform Device} {state next : State Client Wsi Device}
    {statement : Statement Client} (taken : execute platform state statement = some next) :
    Executes platform state statement next := by
  cases statement with
  | cancelAllWrites =>
      obtain ⟨server, moved, rfl⟩ := Option.map_eq_some_iff.mp taken
      exact .cancelAllWrites server moved
  | clear =>
      cases taken
      exact .clear
  | changePosition position =>
      obtain ⟨camera, changed, rfl⟩ := Option.map_eq_some_iff.mp taken
      obtain ⟨capture, found, same⟩ := Option.bind_eq_some_iff.mp changed
      cases same
      exact .changePosition position capture found
  | changeResolution resolution =>
      obtain ⟨camera, changed, rfl⟩ := Option.map_eq_some_iff.mp taken
      obtain ⟨capture, found, same⟩ := Option.bind_eq_some_iff.mp changed
      cases same
      exact .changeResolution resolution capture found
  | write head plane =>
      simp only [execute, Option.map_eq_some_iff] at taken
      obtain ⟨server, moved, rfl⟩ := taken
      exact .write head plane server moved
  | queueTask =>
      cases taken
      exact .queueTask
  | respond origin answer =>
      simp only [execute, Option.map_eq_some_iff] at taken
      obtain ⟨server, moved, rfl⟩ := taken
      exact .respond origin answer server moved

omit [DecidableEq Client] in
theorem Executes.threads {platform : Platform Device} {state next : State Client Wsi Device}
    {statement : Statement Client} (executes : Executes platform state statement next) :
    next.threads = state.threads := by
  cases executes <;> rfl

/-- What one step can do, with the guards that it passes. -/
inductive Steps (platform : Platform Device) (state : State Client Wsi Device) :
    Label Client Wsi → State Client Wsi Device → Prop
  | tick (elapsed : ℚ) (forward : 0 ≤ elapsed) :
      Steps platform state (.tick elapsed) { state with now := state.now + elapsed }
  | connect (client : Client) (wsi : Wsi)
      (server : WebSocketServer.Broadcast.State Wsi (Message Client))
      (guards : state.idle = true ∧ (state.sockets client).isNone = true)
      (moved : WebSocketServer.Broadcast.step state.server (.established wsi) = some server) :
      Steps platform state (.connect client wsi)
        { state with
          server := server
          sockets := Function.update state.sockets client
            (some { wsi := wsi, connection := state.server.established, consumed := 0 }) }
  | disconnect (client : Client) :
      Steps platform state (.disconnect client)
        { state with sockets := Function.update state.sockets client none }
  | closed (wsi : Wsi) (server : WebSocketServer.Broadcast.State Wsi (Message Client))
      (idle : state.idle = true)
      (moved : WebSocketServer.Broadcast.step state.server (.closed wsi) = some server) :
      Steps platform state (.closed wsi) { state with server := server }
  | writable (wsi : Wsi) (server : WebSocketServer.Broadcast.State Wsi (Message Client))
      (idle : state.idle = true)
      (moved : WebSocketServer.Broadcast.step state.server (.writable wsi) = some server) :
      Steps platform state (.writable wsi) { state with server := server }
  | advance (call : Nat) (server : WebSocketServer.Broadcast.State Wsi (Message Client))
      (moved : WebSocketServer.Broadcast.step state.server (.advance call) = some server) :
      Steps platform state (.advance call) { state with server := server }
  | request (client : Client) (request : Request) :
      Steps platform state (.request client request)
        { state with
          requests := state.requests ++
            [({ client := client, id := (state.cameras client).requestID }, request)]
          cameras := Function.update state.cameras client
            ((state.cameras client).request request) }
  | setCanvas (client : Client) (gl builds : Bool) :
      Steps platform state (.setCanvas client gl builds)
        { state with
          cameras := Function.update state.cameras client
            ((state.cameras client).setCanvas gl builds) }
  | receive (index : Nat) (received : Origin Client × Request)
      (handled : WebSocketController.Handled Client Device) (idle : state.idle = true)
      (found : state.requests[index]? = some received)
      (processed : processMessage platform state.now state.camera received.1 received.2 =
        some handled) :
      Steps platform state (.receive index)
        { state.spawn handled.camera handled.started handled.rest with
          service := state.threads.length
          requests := state.requests.eraseIdx index
          photos := if handled.takesPhoto then state.photos ++ [received.1] else state.photos }
  | run (number : Nat) (thread : Thread Client) (statement : Statement Client)
      (rest : List (Statement Client)) (after : State Client Wsi Device)
      (found : state.threads[number]? = some thread)
      (statements : thread.statements = statement :: rest)
      (returned : thread.returned state.server = true)
      (executed : Executes platform state statement after) :
      Steps platform state (.run number)
        { after with
          threads := state.threads.set number
            { statements := rest, call := callOf state statement } }
  | capture (size : Resolution)
      (running : state.camera.capture.captureSession.running = true ∧
        state.camera.capture.captureSession.inputs ≠ [])
      (listed : ConstraintsManager.presets state.camera.capture.captureSession.sessionPreset =
        some size) :
      Steps platform state .capture
        { state with
          frames := state.frames + 1
          captured := state.captured ++
            [{ number := state.frames, width := size.width, height := size.height }] }
  | onBuffer (index : Nat) (frame : Frame) (found : state.captured[index]? = some frame) :
      Steps platform state (.onBuffer index)
        { state.spawn (state.camera.onBuffer state.now frame frame).1
            (state.camera.onBuffer state.now frame frame).2 [] with
          captured := state.captured.eraseIdx index }
  | photoTaken (index : Nat) (origin : Origin Client)
      (found : state.photos[index]? = some origin) :
      Steps platform state (.photoTaken index)
        { state with
          photos := state.photos.eraseIdx index
          threads := state.threads ++
            [{ statements := [.respond origin .nil], call := none }] }
  | activityTimeout :
      Steps platform state .activityTimeout { state with camera := state.camera.stop }
  | leaveSendGroup (index number : Nat) (found : state.leaving[index]? = some number)
      (ran : ((state.server.calls[number]?).map fun call => call.ran) = some 1) :
      Steps platform state (.leaveSendGroup index)
        { state with
          camera := state.camera.leaveSendGroup
          leaving := state.leaving.eraseIdx index }
  | waitReturns (guards : state.tasks ≠ 0 ∧ state.waited = false ∧ state.camera.sendGroup = 0) :
      Steps platform state .waitReturns { state with waited := true }
  | clearFrameData (waited : state.waited = true) :
      Steps platform state .clearFrameData
        { state with
          camera := state.camera.clearFrameData
          tasks := state.tasks - 1
          waited := false }
  | deliver (client : Client) (socket : Socket Wsi) (message : Message Client)
      (present : state.sockets client = some socket)
      (arrived : (delivered state.server socket.connection)[socket.consumed]? = some message) :
      Steps platform state (.deliver client)
        { state with
          cameras := Function.update state.cameras client
            ((state.cameras client).onMessage message)
          sockets := Function.update state.sockets client
            (some { socket with consumed := socket.consumed + 1 }) }

theorem step_cases {platform : Platform Device} {state next : State Client Wsi Device}
    {label : Label Client Wsi} (taken : step platform state label = some next) :
    Steps platform state label next := by
  cases label with
  | tick elapsed =>
      obtain ⟨forward, taken⟩ := Option.ite_none_right_eq_some.mp taken
      cases taken
      exact .tick elapsed forward
  | connect client wsi =>
      obtain ⟨guards, taken⟩ := Option.ite_none_right_eq_some.mp taken
      obtain ⟨server, moved, rfl⟩ := Option.map_eq_some_iff.mp taken
      exact .connect client wsi server guards moved
  | disconnect client =>
      cases taken
      exact .disconnect client
  | closed wsi =>
      obtain ⟨idle, taken⟩ := Option.ite_none_right_eq_some.mp taken
      obtain ⟨server, moved, rfl⟩ := Option.map_eq_some_iff.mp taken
      exact .closed wsi server idle moved
  | writable wsi =>
      obtain ⟨idle, taken⟩ := Option.ite_none_right_eq_some.mp taken
      obtain ⟨server, moved, rfl⟩ := Option.map_eq_some_iff.mp taken
      exact .writable wsi server idle moved
  | advance call =>
      obtain ⟨server, moved, rfl⟩ := Option.map_eq_some_iff.mp taken
      exact .advance call server moved
  | request client request =>
      cases taken
      exact .request client request
  | setCanvas client gl builds =>
      cases taken
      exact .setCanvas client gl builds
  | receive index =>
      obtain ⟨idle, taken⟩ := Option.ite_none_right_eq_some.mp taken
      obtain ⟨received, found, taken⟩ := Option.bind_eq_some_iff.mp taken
      obtain ⟨handled, processed, rfl⟩ := Option.map_eq_some_iff.mp taken
      exact .receive index received handled idle found processed
  | run number =>
      obtain ⟨thread, found, taken⟩ := Option.bind_eq_some_iff.mp taken
      unfold runThread at taken
      split at taken
      · cases taken
      · rename_i statement rest statements
        obtain ⟨returned, taken⟩ := Option.ite_none_right_eq_some.mp taken
        obtain ⟨after, executed, rfl⟩ := Option.map_eq_some_iff.mp taken
        exact .run number thread statement rest after found statements returned
          (execute_cases executed)
  | capture =>
      obtain ⟨running, taken⟩ := Option.ite_none_right_eq_some.mp taken
      obtain ⟨size, listed, rfl⟩ := Option.map_eq_some_iff.mp taken
      exact .capture size running listed
  | onBuffer index =>
      obtain ⟨frame, found, rfl⟩ := Option.map_eq_some_iff.mp taken
      exact .onBuffer index frame found
  | photoTaken index =>
      obtain ⟨origin, found, rfl⟩ := Option.map_eq_some_iff.mp taken
      exact .photoTaken index origin found
  | activityTimeout =>
      cases taken
      exact .activityTimeout
  | leaveSendGroup index =>
      obtain ⟨number, found, taken⟩ := Option.bind_eq_some_iff.mp taken
      obtain ⟨ran, taken⟩ := Option.ite_none_right_eq_some.mp taken
      cases taken
      exact .leaveSendGroup index number found ran
  | waitReturns =>
      obtain ⟨guards, taken⟩ := Option.ite_none_right_eq_some.mp taken
      cases taken
      exact .waitReturns guards
  | clearFrameData =>
      obtain ⟨waited, taken⟩ := Option.ite_none_right_eq_some.mp taken
      cases taken
      exact .clearFrameData waited
  | deliver client =>
      obtain ⟨socket, present, taken⟩ := Option.bind_eq_some_iff.mp taken
      obtain ⟨message, arrived, rfl⟩ := Option.map_eq_some_iff.mp taken
      exact .deliver client socket message present arrived

/-! ### What a step moves -/

/-- The entry that a step enqueues, and the client of the server it is for. -/
def enqueued (state : State Client Wsi Device) :
    Label Client Wsi → Option (Wsi × Message Client)
  | .advance call => WebSocketServer.Broadcast.enqueued state.server (.advance call)
  | _ => none

/-- What a step does to the server, to the cameras of the browsers and to their sockets. -/
inductive Moves (state next : State Client Wsi Device) : Label Client Wsi → Prop
  | server (label : Label Client Wsi)
      (serverLabel : WebSocketServer.Broadcast.Label Wsi (Message Client))
      (taken : WebSocketServer.Broadcast.step state.server serverLabel = some next.server)
      (enqueues : WebSocketServer.Broadcast.enqueued state.server serverLabel =
        enqueued state label)
      (cameras : next.cameras = state.cameras) (sockets : next.sockets = state.sockets) :
      Moves state next label
  | connect (client : Client) (wsi : Wsi)
      (taken : WebSocketServer.Broadcast.step state.server (.established wsi) =
        some next.server)
      (cameras : next.cameras = state.cameras)
      (sockets : next.sockets = Function.update state.sockets client
        (some { wsi := wsi, connection := state.server.established, consumed := 0 })) :
      Moves state next (.connect client wsi)
  | disconnect (client : Client) (server : next.server = state.server)
      (cameras : next.cameras = state.cameras)
      (sockets : next.sockets = Function.update state.sockets client none) :
      Moves state next (.disconnect client)
  | request (client : Client) (request : Request) (server : next.server = state.server)
      (cameras : next.cameras = Function.update state.cameras client
        ((state.cameras client).request request))
      (sockets : next.sockets = state.sockets) :
      Moves state next (.request client request)
  | setCanvas (client : Client) (gl builds : Bool) (server : next.server = state.server)
      (cameras : next.cameras = Function.update state.cameras client
        ((state.cameras client).setCanvas gl builds))
      (sockets : next.sockets = state.sockets) :
      Moves state next (.setCanvas client gl builds)
  | deliver (client : Client) (socket : Socket Wsi) (message : Message Client)
      (connected : state.sockets client = some socket)
      (arrived : (delivered state.server socket.connection)[socket.consumed]? = some message)
      (server : next.server = state.server)
      (cameras : next.cameras = Function.update state.cameras client
        ((state.cameras client).onMessage message))
      (sockets : next.sockets = Function.update state.sockets client
        (some { socket with consumed := socket.consumed + 1 })) :
      Moves state next (.deliver client)
  | still (label : Label Client Wsi) (server : next.server = state.server)
      (cameras : next.cameras = state.cameras) (sockets : next.sockets = state.sockets) :
      Moves state next label

omit [DecidableEq Client] in
/-- A statement leaves the browsers alone, and takes a step of the server that enqueues
nothing, or none. -/
theorem Executes.moves {platform : Platform Device} {state next : State Client Wsi Device}
    {statement : Statement Client} (executes : Executes platform state statement next) :
    next.cameras = state.cameras ∧ next.sockets = state.sockets ∧
      (next.server = state.server ∨
        ∃ label, WebSocketServer.Broadcast.step state.server label = some next.server ∧
          WebSocketServer.Broadcast.enqueued state.server label = none) := by
  cases executes with
  | cancelAllWrites server moved => exact ⟨rfl, rfl, .inr ⟨_, moved, rfl⟩⟩
  | write head plane server moved => exact ⟨rfl, rfl, .inr ⟨_, moved, rfl⟩⟩
  | respond origin answer server moved => exact ⟨rfl, rfl, .inr ⟨_, moved, rfl⟩⟩
  | _ => exact ⟨rfl, rfl, .inl rfl⟩

theorem step_moves {platform : Platform Device} {state next : State Client Wsi Device}
    {label : Label Client Wsi} (taken : step platform state label = some next) :
    Moves state next label := by
  cases step_cases taken with
  | connect client wsi server _ moved => exact .connect client wsi moved rfl rfl
  | disconnect client => exact .disconnect client rfl rfl rfl
  | closed wsi server _ moved => exact .server _ _ moved rfl rfl rfl
  | writable wsi server _ moved => exact .server _ _ moved rfl rfl rfl
  | advance call server moved => exact .server _ _ moved rfl rfl rfl
  | request client request => exact .request client request rfl rfl rfl
  | setCanvas client gl builds => exact .setCanvas client gl builds rfl rfl rfl
  | run number thread statement rest after _ _ _ executed =>
      obtain ⟨cameras, sockets, same | ⟨serverLabel, moved, nothing⟩⟩ := executed.moves
      · exact .still _ same cameras sockets
      · exact .server _ serverLabel moved nothing cameras sockets
  | deliver client socket message present arrived =>
      exact .deliver client socket message present arrived rfl rfl rfl
  | _ => exact .still _ rfl rfl rfl

end Session
end JSCameraKit
