import JSCameraKit.WebSocketController.Handlers

set_option autoImplicit false

/-! The text messages of the clients: what `onMessageStringBlock` accepts and the
handler that `processMessage` finds for it in the tables that `WebSocketCamera`
fills. A handler runs here without interruption; its statements under other threads
are those of `WebSocketController.processMessage`. -/

namespace JSCameraKit

/-- What `JSONSerialization` makes of a text. -/
inductive Json
  | null
  | bool (value : Bool)
  | number (value : ℚ)
  | string (value : String)
  | array (elements : List Json)
  | object (fields : List (String × Json))

namespace Json

/-- The cast `as? String`. -/
def asString : Json → Option String
  | string value => some value
  | _ => none

/-- A field after the cast `as? [String: Any]`. -/
def field (json : Json) (name : String) : Option Json :=
  match json with
  | object fields => fields.lookup name
  | _ => none

end Json

namespace WebSockerController

variable {Device Data : Type}

/-- The camera and what the completion block is called with; `none` where an
unwrapping fails. -/
abbrev SyncMessageHandler (Device Data : Type) :=
  WebSocketCamera Device Data → Option Json →
    Option (WebSocketCamera Device Data × Option Reply)

/-- The one asynchronous handler hands its completion block on to `takePhoto`. -/
inductive AsyncMessageHandler
  | takePhoto

structure Handlers (Device Data : Type) where
  syncHandlers : List (String × SyncMessageHandler Device Data)
  asyncHandlers : List (String × AsyncMessageHandler)

def Handlers.init : Handlers Device Data :=
  { syncHandlers := [], asyncHandlers := [] }

/-- The first handler of a name stays. -/
def Handlers.addSyncHandler (handlers : Handlers Device Data) (message : String)
    (handler : SyncMessageHandler Device Data) : Handlers Device Data :=
  if (handlers.syncHandlers.lookup message).isNone then
    { handlers with syncHandlers := handlers.syncHandlers ++ [(message, handler)] }
  else handlers

def Handlers.addAsyncHandler (handlers : Handlers Device Data) (message : String)
    (handler : AsyncMessageHandler) : Handlers Device Data :=
  if (handlers.asyncHandlers.lookup message).isNone then
    { handlers with asyncHandlers := handlers.asyncHandlers ++ [(message, handler)] }
  else handlers

/-! ### The handlers of `WebSocketCamera` -/

def ping : SyncMessageHandler Device Data := fun camera _ => some (camera, some (.string "pong"))

/-- The response that all other handlers give. -/
def answerInfos (platform : Platform Device) (camera : WebSocketCamera Device Data) :
    WebSocketCamera Device Data × Option Reply :=
  (camera, some (.infos (camera.getCaptureInfos platform)))

def needFrame (platform : Platform Device) (now : ℚ) : SyncMessageHandler Device Data :=
  fun camera _ =>
    (camera.onNeedFrame platform now).map fun outcome => answerInfos platform outcome.1

def configure (platform : Platform Device) : SyncMessageHandler Device Data :=
  fun camera data =>
    match (data.bind fun json => json.field "resolution").bind Json.asString,
      (data.bind fun json => json.field "position").bind Json.asString with
    | some resolution, some position =>
        (camera.start platform resolution position).map (answerInfos platform)
    | _, _ => some (answerInfos platform camera)

def getConfiguration (platform : Platform Device) : SyncMessageHandler Device Data :=
  fun camera _ => some (answerInfos platform camera)

def changePosition (platform : Platform Device) : SyncMessageHandler Device Data :=
  fun camera data =>
    match data.bind Json.asString with
    | some position =>
        (camera.clear.changePosition platform position).map (answerInfos platform)
    | none => some (answerInfos platform camera)

def changeResolution (platform : Platform Device) : SyncMessageHandler Device Data :=
  fun camera data =>
    match data.bind Json.asString with
    | some resolution =>
        (camera.clear.changeResolution platform resolution).map (answerInfos platform)
    | none => some (answerInfos platform camera)

/-- The tables once the camera is initialized. -/
def registered (platform : Platform Device) (now : ℚ) : Handlers Device Data :=
  Handlers.init
    |>.addSyncHandler "ping" ping
    |>.addSyncHandler "need-frame" (needFrame platform now)
    |>.addSyncHandler "configure" (configure platform)
    |>.addSyncHandler "get-configuration" (getConfiguration platform)
    |>.addSyncHandler "change-position" (changePosition platform)
    |>.addSyncHandler "change-resolution" (changeResolution platform)
    |>.addAsyncHandler "capture-photo" .takePhoto

/-! ### Messages -/

/-- What becomes of a message and of its completion block. -/
inductive Processed (Device Data : Type)
  | completed (camera : WebSocketCamera Device Data) (data : Option Reply)
  | takePhoto
  | ignored

/-- The asynchronous handlers are looked up first. -/
def processMessage (handlers : Handlers Device Data) (camera : WebSocketCamera Device Data)
    (message : String) (data : Option Json) : Option (Processed Device Data) :=
  match handlers.asyncHandlers.lookup message with
  | some .takePhoto => some .takePhoto
  | none =>
      match handlers.syncHandlers.lookup message with
      | some handler =>
          (handler camera data).map fun outcome => .completed outcome.1 outcome.2
      | none => some .ignored

/-- A message with a name and a number is a request; the rest is dropped. -/
structure Accepted where
  request : String
  id : Json
  data : Option Json

def accept (json : Json) : Option Accepted := do
  let request ← (json.field "request").bind Json.asString
  let id ← json.field "id"
  some { request := request, id := id, data := json.field "data" }

/-! ### Requests by name -/

/-- The request that a name and its data stand for; `stop` is sent by the client
and has no handler. -/
def readRequest (message : String) (data : Option Json) : Option Request :=
  let string := data.bind Json.asString
  let field := fun name => (data.bind fun json => json.field name).bind Json.asString
  match message with
  | "ping" => some .ping
  | "need-frame" => some .needFrame
  | "configure" => some (.configure (field "resolution") (field "position"))
  | "get-configuration" => some .getConfiguration
  | "change-position" => some (.changePosition string)
  | "change-resolution" => some (.changeResolution string)
  | "capture-photo" => some .capturePhoto
  | _ => none

/-- A request served in one go. -/
def serve (platform : Platform Device) (now : ℚ) (camera : WebSocketCamera Device Data) :
    Request → Option (Processed Device Data)
  | .ping => some (.completed camera (some (.string "pong")))
  | .stop => some .ignored
  | .capturePhoto => some .takePhoto
  | .getConfiguration =>
      some (.completed camera (some (.infos (camera.getCaptureInfos platform))))
  | .needFrame =>
      (camera.onNeedFrame platform now).map fun outcome =>
        .completed outcome.1 (some (.infos (outcome.1.getCaptureInfos platform)))
  | .configure (some resolution) (some position) =>
      (camera.start platform resolution position).map fun camera =>
        .completed camera (some (.infos (camera.getCaptureInfos platform)))
  | .changePosition (some position) =>
      (camera.clear.changePosition platform position).map fun camera =>
        .completed camera (some (.infos (camera.getCaptureInfos platform)))
  | .changeResolution (some resolution) =>
      (camera.clear.changeResolution platform resolution).map fun camera =>
        .completed camera (some (.infos (camera.getCaptureInfos platform)))
  | .configure _ _ | .changePosition _ | .changeResolution _ =>
      some (.completed camera (some (.infos (camera.getCaptureInfos platform))))

private theorem syncHandlers_registered (platform : Platform Device) (now : ℚ) :
    (registered platform now : Handlers Device Data).syncHandlers =
      [("ping", ping), ("need-frame", needFrame platform now),
        ("configure", configure platform), ("get-configuration", getConfiguration platform),
        ("change-position", changePosition platform),
        ("change-resolution", changeResolution platform)] := rfl

private theorem asyncHandlers_registered (platform : Platform Device) (now : ℚ) :
    (registered platform now : Handlers Device Data).asyncHandlers =
      [("capture-photo", .takePhoto)] := rfl

theorem processMessage_registered (platform : Platform Device) (now : ℚ)
    (camera : WebSocketCamera Device Data) (message : String) (data : Option Json) :
    processMessage (registered platform now) camera message data =
      match readRequest message data with
      | some request => serve platform now camera request
      | none => some .ignored := by
  rw [processMessage, asyncHandlers_registered, syncHandlers_registered]
  by_cases isPing : message = "ping"
  · subst isPing
    rfl
  by_cases isNeedFrame : message = "need-frame"
  · subst isNeedFrame
    simp [List.lookup_cons, needFrame, answerInfos, readRequest, serve, Option.map_map,
      Function.comp_def]
  by_cases isConfigure : message = "configure"
  · subst isConfigure
    simp only [List.lookup_cons, List.lookup_nil, configure, readRequest, String.reduceBEq]
    cases (data.bind fun json => json.field "resolution").bind Json.asString with
    | none => rfl
    | some resolution =>
        cases (data.bind fun json => json.field "position").bind Json.asString with
        | none => rfl
        | some position =>
            rw [Option.map_map]
            rfl
  by_cases isGetConfiguration : message = "get-configuration"
  · subst isGetConfiguration
    rfl
  by_cases isChangePosition : message = "change-position"
  · subst isChangePosition
    simp only [List.lookup_cons, List.lookup_nil, changePosition, readRequest, String.reduceBEq]
    cases data.bind Json.asString with
    | none => rfl
    | some position =>
        rw [Option.map_map]
        rfl
  by_cases isChangeResolution : message = "change-resolution"
  · subst isChangeResolution
    simp only [List.lookup_cons, List.lookup_nil, changeResolution, readRequest, String.reduceBEq]
    cases data.bind Json.asString with
    | none => rfl
    | some resolution =>
        rw [Option.map_map]
        rfl
  by_cases isCapturePhoto : message = "capture-photo"
  · subst isCapturePhoto
    rfl
  have unknown : readRequest message data = none := by
    unfold readRequest
    split <;> first | contradiction | rfl
  rw [unknown]
  simp only [List.lookup_cons, List.lookup_nil, beq_false_of_ne isPing, beq_false_of_ne isNeedFrame,
    beq_false_of_ne isConfigure, beq_false_of_ne isGetConfiguration,
    beq_false_of_ne isChangePosition, beq_false_of_ne isChangeResolution,
    beq_false_of_ne isCapturePhoto]

/-! ### The handlers under other threads -/

open WebSocketController (safe)

variable {Client : Type}

/-- The statements of a handler without interruption: the camera they leave and the
responses that they hand to `writeJSON`. -/
def runStatements (platform : Platform Device) :
    WebSocketCamera Device Data → List (Statement Client) →
      Option (WebSocketCamera Device Data × List (Origin Client × Reply))
  | camera, [] => some (camera, [])
  | camera, .clear :: rest => runStatements platform camera.clear rest
  | camera, .changePosition position :: rest =>
      (camera.changePosition platform position).bind fun camera =>
        runStatements platform camera rest
  | camera, .changeResolution resolution :: rest =>
      (camera.changeResolution platform resolution).bind fun camera =>
        runStatements platform camera rest
  | camera, .respond origin answer :: rest =>
      (runStatements platform camera rest).map fun outcome =>
        (outcome.1, (origin, safe platform camera answer) :: outcome.2)
  | camera, .cancelAllWrites :: rest => runStatements platform camera rest
  | camera, .write _ _ :: rest => runStatements platform camera rest
  | camera, .queueTask :: rest => runStatements platform camera rest

def Processed.camera (camera : WebSocketCamera Device Data) :
    Processed Device Data → WebSocketCamera Device Data
  | .completed next _ => next
  | .takePhoto | .ignored => camera

/-- The response to a message whose completion block is called at once. -/
def Processed.responses (origin : Origin Client) :
    Processed Device Data → List (Origin Client × Reply)
  | .completed _ data => [(origin, data.getD (.string ""))]
  | .takePhoto | .ignored => []

/-- The handlers that other threads interrupt do what the registered ones do, when
none does. -/
theorem runStatements_processMessage (platform : Platform Device) (now : ℚ)
    (camera : WebSocketCamera Device Frame) (origin : Origin Client) (request : Request) :
    ((WebSocketController.processMessage platform now camera origin request).bind fun handled =>
        runStatements platform handled.camera handled.rest) =
      (serve platform now camera request).map fun processed =>
        (processed.camera camera, processed.responses origin) := by
  cases request with
  | ping => rfl
  | stop => rfl
  | getConfiguration => rfl
  | capturePhoto => rfl
  | needFrame =>
      simp only [WebSocketController.processMessage, serve]
      cases camera.onNeedFrame platform now <;> rfl
  | configure resolution position =>
      cases resolution with
      | none => rfl
      | some resolution =>
          cases position with
          | none => rfl
          | some position =>
              simp only [WebSocketController.processMessage, serve]
              cases camera.start platform resolution position <;> rfl
  | changePosition position =>
      cases position with
      | none => rfl
      | some position =>
          simp only [WebSocketController.processMessage, serve, Option.bind_some, runStatements]
          cases camera.clear.changePosition platform position <;> rfl
  | changeResolution resolution =>
      cases resolution with
      | none => rfl
      | some resolution =>
          simp only [WebSocketController.processMessage, serve, Option.bind_some, runStatements]
          cases camera.clear.changeResolution platform resolution <;> rfl

end WebSockerController

end JSCameraKit
