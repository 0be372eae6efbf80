import JSCameraKit.WebSocketCamera.Handlers

set_option autoImplicit false

/-! The requests of a browser, `processMessage` with the handlers that
`WebSocketCamera` registers, and the messages the server answers and broadcasts.
A handler acts on the camera at once and leaves the statements that other threads
can come between, in order. -/

namespace JSCameraKit

/-- A captured frame, by number, with the size the session had. -/
structure Frame where
  number : Nat
  width : Nat
  height : Nat
  deriving DecidableEq

/-- A plane as `writeFrame` broadcasts it: `call` numbers the call of `writeFrame`, and
`length` counts the bytes behind the head. Only the bytes are sent. -/
structure Plane where
  frame : Frame
  call : Nat
  length : Nat
  deriving DecidableEq

def Frame.yPlane (frame : Frame) (call : Nat) : Plane :=
  { frame := frame, call := call, length := frame.width * frame.height }

def Frame.uvPlane (frame : Frame) (call : Nat) : Plane :=
  { frame := frame, call := call, length := frame.width * frame.height / 2 }

/-- The values of the field `data` of a response. -/
inductive Reply
  | string (value : String)
  | infos (infos : CaptureInfos)
  deriving DecidableEq

/-- A request of a client; it numbers them by itself. -/
structure Origin (Client : Type) where
  client : Client
  id : Nat
  deriving DecidableEq

/-- A response says which number it answers, and not which client. -/
inductive Message (Client : Type)
  | json (origin : Origin Client) (data : Reply)
  | binary (head : Nat) (plane : Plane)
  deriving DecidableEq

/-- `Requests` of the client, with the fields the handlers look for in their data. -/
inductive Request
  | ping
  | stop
  | getConfiguration
  | capturePhoto
  | needFrame
  | configure (resolution position : Option String)
  | changePosition (position : Option String)
  | changeResolution (resolution : Option String)
  deriving DecidableEq

/-- What a handler calls its completion block with. -/
inductive Answer
  | string (value : String)
  | nil
  | getCaptureInfos
  deriving DecidableEq

inductive Statement (Client : Type)
  | cancelAllWrites
  | clear
  | changePosition (position : String)
  | changeResolution (resolution : String)
  | write (head : Nat) (plane : Plane)
  | queueTask
  | respond (origin : Origin Client) (answer : Answer)

namespace WebSocketController

variable {Client Device Data : Type}

/-- The completion block replaces nil by an empty string. -/
def safe (platform : Platform Device) (camera : WebSocketCamera Device Data) : Answer → Reply
  | .string value => .string value
  | .nil => .string ""
  | .getCaptureInfos => .infos (camera.getCaptureInfos platform)

/-- The statements of `writeFrame` once it has taken the lock for the planes of a frame. -/
def writeStatements (call : Nat) : Option (Frame × Frame) → List (Statement Client)
  | none => []
  | some (y, uv) => [.write 0 (y.yPlane call), .write 1 (uv.uvPlane call), .queueTask]

/-- What a handler leaves: the camera, the frame it started to write, the statements
behind those of `writeFrame`, and whether it takes a photo. -/
structure Handled (Client Device : Type) where
  camera : WebSocketCamera Device Frame
  started : Option (Frame × Frame)
  rest : List (Statement Client)
  takesPhoto : Bool

/-- The asynchronous handler is looked up first; `stop` has no handler. -/
def processMessage (platform : Platform Device) (now : ℚ) (camera : WebSocketCamera Device Frame)
    (origin : Origin Client) : Request → Option (Handled Client Device)
  | .capturePhoto =>
      some { camera := camera, started := none, rest := [], takesPhoto := true }
  | .stop => some { camera := camera, started := none, rest := [], takesPhoto := false }
  | .ping =>
      some
        { camera := camera
          started := none
          rest := [.respond origin (.string "pong")]
          takesPhoto := false }
  | .getConfiguration =>
      some
        { camera := camera
          started := none
          rest := [.respond origin .getCaptureInfos]
          takesPhoto := false }
  | .needFrame =>
      (camera.onNeedFrame platform now).map fun outcome =>
        { camera := outcome.1
          started := outcome.2
          rest := [.respond origin .getCaptureInfos]
          takesPhoto := false }
  | .configure resolution position =>
      let configured :=
        match resolution, position with
        | some resolution, some position => camera.start platform resolution position
        | _, _ => some camera
      configured.map fun camera =>
        { camera := camera
          started := none
          rest := [.respond origin .getCaptureInfos]
          takesPhoto := false }
  | .changePosition position =>
      some
        { camera := camera
          started := none
          rest :=
            match position with
            | some position =>
                [.cancelAllWrites, .clear, .changePosition position,
                  .respond origin .getCaptureInfos]
            | none => [.respond origin .getCaptureInfos]
          takesPhoto := false }
  | .changeResolution resolution =>
      some
        { camera := camera
          started := none
          rest :=
            match resolution with
            | some resolution =>
                [.cancelAllWrites, .clear, .changeResolution resolution,
                  .respond origin .getCaptureInfos]
            | none => [.respond origin .getCaptureInfos]
          takesPhoto := false }

end WebSocketController

end JSCameraKit
