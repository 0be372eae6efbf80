import JSCameraKit.Session.Delivery

set_option autoImplicit false

/-! Where the messages of a run come from: every plane is one of a frame that a call
of `writeFrame` has started to write, and every response was produced for a request. -/

namespace JSCameraKit

/-- The planes of the frame divide into whole chroma samples. -/
def Frame.Halves (frame : Frame) : Prop :=
  2 ∣ frame.width ∧ 2 ∣ frame.height

namespace WebSocketCamera

variable {Device : Type}

/-- The camera holds both planes of one frame, or none. -/
structure Whole (camera : WebSocketCamera Device Frame) : Prop where
  same : camera.uvBuffer = camera.yBuffer
  halves : ∀ frame ∈ camera.yBuffer, frame.Halves

/-- The planes that `writeFrame` is started with are those of one frame. -/
def WholeFrame (started : Option (Frame × Frame)) : Prop :=
  ∀ planes ∈ started, planes.2 = planes.1 ∧ planes.1.Halves

theorem Whole.congr {camera next : WebSocketCamera Device Frame} (whole : camera.Whole)
    (y : next.yBuffer = camera.yBuffer) (uv : next.uvBuffer = camera.uvBuffer) : next.Whole := by
  constructor
  · rw [y, uv]
    exact whole.same
  · rw [y]
    exact whole.halves

theorem Whole.empty {camera : WebSocketCamera Device Frame} (y : camera.yBuffer = none)
    (uv : camera.uvBuffer = none) : camera.Whole := by
  constructor
  · rw [y, uv]
  · intro frame held
    rw [y] at held
    cases held

theorem Whole.writeFrame {camera : WebSocketCamera Device Frame} (whole : camera.Whole)
    (now : ℚ) : (camera.writeFrame now).1.Whole ∧ WholeFrame (camera.writeFrame now).2 := by
  rcases camera.writeFrame_cases now with
    ⟨_, y, uv, atY, atUv, outcome⟩ | ⟨_, outcome | ⟨_, outcome⟩⟩
  · rw [outcome]
    refine ⟨whole.congr rfl rfl, ?_⟩
    intro planes held
    cases held
    have same := whole.same
    rw [atY, atUv] at same
    exact ⟨Option.some.inj same, whole.halves y atY⟩
  · rw [outcome]
    exact ⟨whole, nofun⟩
  · rw [outcome]
    exact ⟨whole.congr rfl rfl, nofun⟩

theorem Whole.onBuffer (camera : WebSocketCamera Device Frame) {frame : Frame}
    (halves : frame.Halves) (now : ℚ) :
    (camera.onBuffer now frame frame).1.Whole ∧
      WholeFrame (camera.onBuffer now frame frame).2 := by
  have whole : (camera.setBuffers frame frame).Whole := by
    constructor
    · rfl
    · intro other held
      cases held
      exact halves
  unfold WebSocketCamera.onBuffer
  split
  · exact whole.writeFrame now
  · exact ⟨whole, nofun⟩

theorem Whole.start {platform : Platform Device} {camera next : WebSocketCamera Device Frame}
    {resolution position : String} (whole : camera.Whole)
    (taken : camera.start platform resolution position = some next) : next.Whole := by
  rcases start_spec taken with ⟨_, rfl⟩ | ⟨_, capture, _, rfl⟩
  · exact whole
  · exact whole.congr rfl rfl

theorem Whole.onNeedFrame {platform : Platform Device} {camera : WebSocketCamera Device Frame}
    {now : ℚ} {outcome : WebSocketCamera Device Frame × Option (Frame × Frame)}
    (whole : camera.Whole) (taken : camera.onNeedFrame platform now = some outcome) :
    outcome.1.Whole ∧ WholeFrame outcome.2 := by
  obtain ⟨next, started⟩ := outcome
  rcases onNeedFrame_cases taken with
    ⟨resolution, position, _, _, _, begun, rfl⟩ | ⟨_, _, same⟩ | ⟨_, _, rfl, rfl⟩
  · exact ⟨whole.start begun, nofun⟩
  · rw [same]
    exact whole.writeFrame now
  · exact ⟨whole.congr rfl rfl, nofun⟩

end WebSocketCamera

namespace Session

open WebSocketCamera (Whole WholeFrame)
open WebSocketController (processMessage writeStatements)
open WebSocketServer.Broadcast (Carries step_carries not_carries_initial)

private theorem processMessage_spec {Client Device : Type} {platform : Platform Device} {now : ℚ}
    {camera : WebSocketCamera Device Frame} {origin : Origin Client} {request : Request}
    {handled : WebSocketController.Handled Client Device} (whole : camera.Whole)
    (taken : processMessage platform now camera origin request = some handled) :
    handled.camera.Whole ∧ WholeFrame handled.started ∧
      ∀ head plane, Statement.write head plane ∉ handled.rest := by
  cases request with
  | needFrame =>
      obtain ⟨outcome, begun, rfl⟩ := Option.map_eq_some_iff.mp taken
      obtain ⟨wholeNext, wholeFrame⟩ := whole.onNeedFrame begun
      exact ⟨wholeNext, wholeFrame, by simp⟩
  | configure resolution position =>
      obtain ⟨next, configured, rfl⟩ := Option.map_eq_some_iff.mp taken
      refine ⟨?_, nofun, by simp⟩
      split at configured
      · exact whole.start configured
      · cases configured
        exact whole
  | changePosition value | changeResolution value =>
      cases taken
      cases value <;> exact ⟨whole, nofun, by simp⟩
  | _ =>
      cases taken
      exact ⟨whole, nofun, by simp⟩

variable {Client Wsi Device : Type}

/-- A plane of a call of `writeFrame`, or the response produced for a request. -/
def Genuine (written : List Frame) (produced : List (Origin Client × Reply)) :
    Message Client → Prop
  | .json origin data => (origin, data) ∈ produced
  | .binary head plane => ∃ frame, written[plane.call]? = some frame ∧ frame.Halves ∧
      (head = 0 ∧ plane = frame.yPlane plane.call ∨ head = 1 ∧ plane = frame.uvPlane plane.call)

theorem Genuine.later {written : List Frame} {produced : List (Origin Client × Reply)}
    {message : Message Client} (genuine : Genuine written produced message)
    (frames : List Frame) (replies : List (Origin Client × Reply)) :
    Genuine (written ++ frames) (produced ++ replies) message := by
  cases message with
  | json origin data => exact List.mem_append_left replies genuine
  | binary head plane =>
      obtain ⟨frame, found, rest⟩ := genuine
      refine ⟨frame, ?_, rest⟩
      obtain ⟨inRange, _⟩ := List.getElem?_eq_some_iff.mp found
      rwa [List.getElem?_append_left inRange]

/-- The planes that a browser holds, and those that it has uploaded. -/
structure GenuinePlanes (genuine : Message Client → Prop) (camera : Browser.Camera) : Prop where
  y : ∀ plane ∈ camera.yBuffer, genuine (.binary 0 plane)
  uv : ∀ plane ∈ camera.uvBuffer, genuine (.binary 1 plane)
  uploads : ∀ upload ∈ camera.uploads,
    genuine (.binary 0 upload.y) ∧ genuine (.binary 1 upload.uv)

theorem GenuinePlanes.mono {genuine wider : Message Client → Prop} {camera : Browser.Camera}
    (planes : GenuinePlanes genuine camera)
    (widen : ∀ message, genuine message → wider message) : GenuinePlanes wider camera :=
  { y := fun plane held => widen _ (planes.y plane held)
    uv := fun plane held => widen _ (planes.uv plane held)
    uploads := fun upload member => (planes.uploads upload member).imp (widen _) (widen _) }

theorem GenuinePlanes.onMessage {genuine : Message Client → Prop} {camera : Browser.Camera}
    (planes : GenuinePlanes genuine camera) {message : Message Client}
    (arrived : genuine message) : GenuinePlanes genuine (camera.onMessage message) := by
  cases message with
  | json origin data =>
      rw [Browser.Camera.onMessage, Browser.Camera.onJsonMessage, Browser.foldl_resolve]
      exact ⟨planes.y, planes.uv, planes.uploads⟩
  | binary head plane =>
      rw [Browser.Camera.onMessage]
      rcases Browser.onBinaryMessage_cases camera head plane with
        ⟨rfl, _, outcome⟩ | ⟨rfl, _, outcome⟩ | ⟨y, uv, held, outcome⟩ | ⟨_, outcome⟩
      · rw [outcome]
        refine ⟨?_, planes.uv, planes.uploads⟩
        intro other same
        cases same
        exact arrived
      · rw [outcome]
        refine ⟨planes.y, ?_, planes.uploads⟩
        intro other same
        cases same
        exact arrived
      · have pair : genuine (.binary 0 y) ∧ genuine (.binary 1 uv) := by
          rcases held with ⟨rfl, rfl, held⟩ | ⟨rfl, rfl, held⟩
          · exact ⟨arrived, planes.uv uv held⟩
          · exact ⟨planes.y y held, arrived⟩
        rw [outcome]
        constructor
        · intro other kept
          obtain ⟨_, same⟩ := Option.ite_none_left_eq_some.mp kept
          cases same
          exact pair.1
        · intro other kept
          obtain ⟨_, same⟩ := Option.ite_none_left_eq_some.mp kept
          cases same
          exact pair.2
        · intro upload member
          rcases List.mem_append.mp member with earlier | added
          · exact planes.uploads upload earlier
          · cases List.mem_singleton.mp added
            exact pair
      · rw [outcome]
        exact planes

structure Sourced (state : State Client Wsi Device) : Prop where
  carried : ∀ message, Carries state.server message →
    Genuine state.written state.produced message
  threads : ∀ thread ∈ state.threads, ∀ head plane,
    Statement.write head plane ∈ thread.statements →
      Genuine state.written state.produced (.binary head plane : Message Client)
  planes : ∀ client, GenuinePlanes (Genuine state.written state.produced : Message Client → Prop)
    (state.cameras client)
  whole : state.camera.Whole
  captured : ∀ frame ∈ state.captured, frame.Halves

theorem sourced_initial (now : ℚ) : Sourced (initial now : State Client Wsi Device) :=
  { carried := fun message carries => absurd carries (not_carries_initial message)
    threads := nofun
    planes := fun _ => ⟨nofun, nofun, nofun⟩
    whole := .empty rfl rfl
    captured := nofun }

theorem Sourced.extend {state : State Client Wsi Device} (sourced : Sourced state)
    (next : State Client Wsi Device) (frames : List Frame)
    (replies : List (Origin Client × Reply)) (written : next.written = state.written ++ frames)
    (produced : next.produced = state.produced ++ replies) :
    (∀ message, Carries state.server message → Genuine next.written next.produced message) ∧
      (∀ thread ∈ state.threads, ∀ head plane,
        Statement.write head plane ∈ thread.statements →
          Genuine next.written next.produced (.binary head plane : Message Client)) ∧
      ∀ client, GenuinePlanes (Genuine next.written next.produced : Message Client → Prop)
        (state.cameras client) := by
  rw [written, produced]
  refine ⟨?_, ?_, ?_⟩
  · exact fun message carries => (sourced.carried message carries).later frames replies
  · exact fun thread member head plane writes =>
      (sourced.threads thread member head plane writes).later frames replies
  · exact fun client =>
      (sourced.planes client).mono fun message genuine => genuine.later frames replies

private theorem writeStatements_genuine {written : List Frame}
    {produced : List (Origin Client × Reply)}
    {started : Option (Frame × Frame)} (whole : WholeFrame started) {head : Nat} {plane : Plane}
    (member : Statement.write head plane ∈
      (writeStatements written.length started : List (Statement Client))) :
    Genuine (written ++ (started.map Prod.fst).toList) produced
      (.binary head plane : Message Client) := by
  cases started with
  | none => cases member
  | some planes =>
      obtain ⟨y, uv⟩ := planes
      obtain ⟨same, halves⟩ := whole (y, uv) rfl
      dsimp only at same halves
      subst same
      simp only [writeStatements, List.mem_cons, Statement.write.injEq, reduceCtorEq,
        List.not_mem_nil, or_false] at member
      refine ⟨uv, ?_, halves, ?_⟩
      · rcases member with ⟨_, rfl⟩ | ⟨_, rfl⟩ <;> simp [Frame.yPlane, Frame.uvPlane]
      · rcases member with ⟨rfl, rfl⟩ | ⟨rfl, rfl⟩
        · exact .inl ⟨rfl, rfl⟩
        · exact .inr ⟨rfl, rfl⟩

/-- A thread that is started writes the planes of the frame that its call starts. -/
theorem Sourced.spawn {state : State Client Wsi Device} (sourced : Sourced state)
    {camera : WebSocketCamera Device Frame} {started : Option (Frame × Frame)}
    {rest : List (Statement Client)} (whole : camera.Whole) (wholeFrame : WholeFrame started)
    (writesNone : ∀ head plane, Statement.write head plane ∉ rest) :
    Sourced (state.spawn camera started rest) := by
  obtain ⟨carried, threads, planes⟩ := sourced.extend (state.spawn camera started rest) _ []
    rfl (List.append_nil _).symm
  refine ⟨carried, ?_, planes, whole, sourced.captured⟩
  intro thread member head plane writes
  rcases List.mem_append.mp member with earlier | added
  · exact threads thread earlier head plane writes
  · cases List.mem_singleton.mp added
    rcases List.mem_append.mp writes with ofFrame | ofRest
    · exact writeStatements_genuine wholeFrame ofFrame
    · exact absurd ofRest (writesNone head plane)

variable [DecidableEq Wsi]

theorem Sourced.serve {state : State Client Wsi Device} (sourced : Sourced state)
    (tracked : Tracked state)
    {label : WebSocketServer.Broadcast.Label Wsi (Message Client)}
    {server : WebSocketServer.Broadcast.State Wsi (Message Client)}
    (moved : WebSocketServer.Broadcast.step state.server label = some server)
    (nothing : label.payload = none) : Sourced { state with server := server } := by
  refine { sourced with carried := ?_ }
  intro message carries
  rcases step_carries tracked.registered moved carries with earlier | handed
  · exact sourced.carried message earlier
  · rw [nothing] at handed
    cases handed

theorem Sourced.executes {platform : Platform Device} {state next : State Client Wsi Device}
    {statement : Statement Client} (sourced : Sourced state) (tracked : Tracked state)
    (writes : ∀ head plane, statement = .write head plane →
      Genuine state.written state.produced (.binary head plane : Message Client))
    (executes : Executes platform state statement next) : Sourced next := by
  cases executes with
  | cancelAllWrites server moved => exact sourced.serve tracked moved rfl
  | clear => exact { sourced with whole := .empty rfl rfl }
  | changePosition _ capture _ | changeResolution _ capture _ =>
      exact { sourced with whole := sourced.whole.congr rfl rfl }
  | write head plane server moved =>
      refine { sourced with carried := ?_ }
      intro message carries
      rcases step_carries tracked.registered moved carries with earlier | handed
      · exact sourced.carried message earlier
      · cases handed
        exact writes head plane rfl
  | queueTask => exact { sourced with }
  | respond origin answer server moved =>
      obtain ⟨carried, threads, planes⟩ := sourced.extend
        { state with
          server := server
          produced := state.produced ++
            [(origin, WebSocketController.safe platform state.camera answer)] }
        [] _ (List.append_nil _).symm rfl
      refine ⟨?_, threads, planes, sourced.whole, sourced.captured⟩
      intro message carries
      rcases step_carries tracked.registered moved carries with earlier | handed
      · exact carried message earlier
      · cases handed
        exact List.mem_append_right _ (List.mem_singleton_self _)

private theorem halves_of_presets {preset : AVCaptureSessionPreset} {size : Resolution}
    (number : Nat)
    (listed : ConstraintsManager.presets preset = some size) :
    Frame.Halves { number := number, width := size.width, height := size.height } :=
  ConstraintsManager.presets_even listed

variable [DecidableEq Client]

theorem step_sourced {platform : Platform Device} {state next : State Client Wsi Device}
    {label : Label Client Wsi} (sourced : Sourced state) (tracked : Tracked state)
    (taken : step platform state label = some next) : Sourced next := by
  cases step_cases taken with
  | connect client wsi server _ moved => exact { sourced.serve tracked moved rfl with }
  | closed wsi server _ moved | writable wsi server _ moved | advance call server moved =>
      exact sourced.serve tracked moved rfl
  | request client request =>
      refine { sourced with planes := ?_ }
      intro other
      dsimp only
      rw [Function.update_apply]
      split
      · exact { sourced.planes client with }
      · exact sourced.planes other
  | setCanvas client gl builds =>
      refine { sourced with planes := ?_ }
      intro other
      dsimp only
      rw [Function.update_apply]
      split
      · exact { sourced.planes client with }
      · exact sourced.planes other
  | receive index received handled _ _ processed =>
      have ⟨whole, wholeFrame, writesNone⟩ := processMessage_spec sourced.whole processed
      exact { sourced.spawn whole wholeFrame writesNone with }
  | run number thread statement rest after found statements _ executed =>
      have inThreads := List.mem_of_getElem? found
      have moved := sourced.executes tracked
        (fun head plane same => sourced.threads thread inThreads head plane
          (by rw [statements, same]; exact List.mem_cons_self)) executed
      have all := moved.threads
      rw [executed.threads] at all
      refine { moved with threads := ?_ }
      intro other member head plane writes
      rcases List.mem_or_eq_of_mem_set member with before | rfl
      · exact all other before head plane writes
      · apply all thread inThreads head plane
        rw [statements]
        exact List.mem_cons_of_mem _ writes
  | capture size _ listed =>
      refine { sourced with captured := ?_ }
      intro frame member
      rcases List.mem_append.mp member with earlier | added
      · exact sourced.captured frame earlier
      · cases List.mem_singleton.mp added
        exact halves_of_presets state.frames listed
  | onBuffer index frame found =>
      have halves := sourced.captured frame (List.mem_of_getElem? found)
      have ⟨whole, wholeFrame⟩ :=
        WebSocketCamera.Whole.onBuffer state.camera halves state.now
      refine { sourced.spawn whole wholeFrame (by simp) with captured := ?_ }
      intro other member
      exact sourced.captured other (List.mem_of_mem_eraseIdx member)
  | photoTaken index origin _ =>
      refine { sourced with threads := ?_ }
      intro thread member head plane writes
      rcases List.mem_append.mp member with earlier | added
      · exact sourced.threads thread earlier head plane writes
      · cases List.mem_singleton.mp added
        simp at writes
  | activityTimeout | leaveSendGroup _ _ _ _ =>
      exact { sourced with whole := sourced.whole.congr rfl rfl }
  | clearFrameData _ => exact { sourced with whole := .empty rfl rfl }
  | deliver client socket message _ arrived =>
      have genuine := sourced.carried message
        (.of_delivered (List.mem_of_getElem? arrived))
      refine { sourced with planes := ?_ }
      intro other
      dsimp only
      rw [Function.update_apply]
      split
      · exact (sourced.planes client).onMessage genuine
      · exact sourced.planes other
  | tick _ _ | disconnect _ | waitReturns _ => exact { sourced with }

end Session
end JSCameraKit
