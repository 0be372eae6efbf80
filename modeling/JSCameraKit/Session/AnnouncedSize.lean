import JSCameraKit.Session.Correlation

set_option autoImplicit false

/-! The size of the planes that a browser uploads and the size its scene was last set
to. Sizes are announced in the responses to the client that asked, frames carry none
and go to every client. A scene takes no size before its program is built. -/

namespace JSCameraKit

def Frame.size (frame : Frame) : Nat × Nat :=
  (frame.width, frame.height)

theorem Frame.uvPlane_length {frame : Frame} (halves : frame.Halves) (call : Nat) :
    (frame.uvPlane call).length = 2 * (frame.width / 2) * (frame.height / 2) := by
  obtain ⟨⟨columns, columnsEq⟩, ⟨rows, rowsEq⟩⟩ := halves
  have product : frame.width * frame.height = 2 * (2 * columns * rows) := by
    rw [columnsEq, rowsEq]
    exact Nat.mul_left_comm (2 * columns) 2 rows
  simp only [Frame.uvPlane, product]
  rw [columnsEq, rowsEq]
  simp

namespace Session

open Browser (OwnNumbers)

/-- What a browser is told of sizes: the numbers it waits for, and whether the response
is applied, the size last applied, and the sizes of the planes that it holds. -/
structure Display where
  awaited : List Browser.Listener
  applied : Option (Nat × Nat)
  y : Option (Nat × Nat)
  uv : Option (Nat × Nat)
  deriving DecidableEq

/-- The size that a response announces. -/
def announced : Reply → Option (Nat × Nat)
  | .infos infos => some (infos.width, infos.height)
  | .string _ => none

/-- A response that is awaited for it is applied; a plane waits for the other one. -/
def Display.read {Client : Type} (display : Display) : Message Client → Display
  | .json origin data =>
      { display with
        awaited := display.awaited.filter fun listener => listener.id ≠ origin.id
        applied :=
          if { id := origin.id, configures := true } ∈ display.awaited then announced data
          else display.applied }
  | .binary 0 plane =>
      if display.uv.isSome then { display with y := none, uv := none }
      else { display with y := some plane.frame.size }
  | .binary 1 plane =>
      if display.y.isSome then { display with y := none, uv := none }
      else { display with uv := some plane.frame.size }
  | .binary _ _ => display

/-- A plane that completes a pair has to be captured at the size last applied, as the
plane that waits for it. -/
def Display.Fits {Client : Type} (display : Display) : Message Client → Prop
  | .json _ _ => True
  | .binary 0 plane =>
      ∀ other ∈ display.uv, other = plane.frame.size ∧ display.applied = some plane.frame.size
  | .binary 1 plane =>
      ∀ other ∈ display.y, other = plane.frame.size ∧ display.applied = some plane.frame.size
  | .binary _ _ => True

def displaying {Client : Type} : Reader Display (Message Client) :=
  { read := Display.read, Fits := Display.Fits }

instance {Client : Type} (display : Display) :
    ∀ message : Message Client, Decidable (displaying.Fits display message)
  | .json _ _ => inferInstanceAs (Decidable True)
  | .binary 0 plane => inferInstanceAs (Decidable (∀ other ∈ display.uv,
      other = plane.frame.size ∧ display.applied = some plane.frame.size))
  | .binary 1 plane => inferInstanceAs (Decidable (∀ other ∈ display.y,
      other = plane.frame.size ∧ display.applied = some plane.frame.size))
  | .binary (_ + 2) _ => inferInstanceAs (Decidable True)

def display {Client : Type} (_client : Client) (camera : Browser.Camera) : Display :=
  { awaited := camera.listeners
    applied := camera.scene.map Browser.WebGLYUVScene.textureSize
    y := camera.yBuffer.map fun plane => plane.frame.size
    uv := camera.uvBuffer.map fun plane => plane.frame.size }

/-- Both planes were captured at the size that the scene was last set to. -/
def SizedUpload (upload : Browser.Upload) : Prop :=
  upload.scene.map Browser.WebGLYUVScene.textureSize = some upload.y.frame.size ∧
    upload.uv.frame.size = upload.y.frame.size

private theorem textureSize_configureGL (data : Reply) :
    (Browser.configureGL data).map Browser.WebGLYUVScene.textureSize = announced data := by
  cases data with
  | string value => rfl
  | infos infos => simp [Browser.configureGL, announced]

private theorem any_configures {listeners : List Browser.Listener} (id : Nat) :
    (listeners.filter fun listener => listener.id = id).any Browser.Listener.configures = true ↔
      { id := id, configures := true } ∈ listeners := by
  rw [List.any_eq_true]
  constructor
  · rintro ⟨⟨number, configures⟩, member, applies⟩
    obtain ⟨inListeners, same⟩ := List.mem_filter.mp member
    have sameId := of_decide_eq_true same
    dsimp only at sameId applies
    subst sameId applies
    exact inListeners
  · intro member
    exact ⟨_, List.mem_filter.mpr ⟨member, decide_eq_true rfl⟩, rfl⟩

private theorem onMessage_display {Client : Type} (client : Client) {camera : Browser.Camera}
    (own : OwnNumbers camera) {message : Message Client} (sizes : camera.CanSize message)
    (uploads : camera.CanUpload message)
    (fits : displaying.Fits (display client camera) message) :
    display client (camera.onMessage message) =
        displaying.read (display client camera) message ∧
      ∀ upload ∈ (camera.onMessage message).uploads,
        upload ∈ camera.uploads ∨ SizedUpload upload := by
  cases message with
  | json origin data =>
      rw [Browser.Camera.onMessage, Browser.onJsonMessage_spec own.distinct]
      refine ⟨?_, fun upload member => .inl member⟩
      simp only [display, displaying, Display.read, Bool.and_eq_true, any_configures]
      by_cases awaited : { id := origin.id, configures := true } ∈ camera.listeners
      · rw [if_pos ⟨awaited, sizes awaited⟩, if_pos awaited, textureSize_configureGL]
      · rw [if_neg fun both => awaited both.1, if_neg awaited]
  | binary head plane =>
      rw [Browser.Camera.onMessage]
      rcases Browser.onBinaryMessage_cases camera head plane with
        ⟨rfl, alone, outcome⟩ | ⟨rfl, alone, outcome⟩ | ⟨y, uv, held, outcome⟩ |
          ⟨other, outcome⟩
      · rw [outcome]
        refine ⟨?_, fun upload member => .inl member⟩
        simp [display, displaying, Display.read, alone]
      · rw [outcome]
        refine ⟨?_, fun upload member => .inl member⟩
        simp [display, displaying, Display.read, alone]
      · rw [outcome]
        rcases held with ⟨rfl, rfl, held⟩ | ⟨rfl, rfl, held⟩
        · obtain ⟨same, applied⟩ := fits uv.frame.size (by simp [display, held])
          have draws : camera.gl = true := uploads (.inl ⟨rfl, by rw [held]; rfl⟩)
          refine ⟨by simp [display, displaying, Display.read, held, draws], ?_⟩
          intro upload member
          rcases List.mem_append.mp member with earlier | added
          · exact .inl earlier
          · cases List.mem_singleton.mp added
            exact .inr ⟨applied, same⟩
        · obtain ⟨same, applied⟩ := fits y.frame.size (by simp [display, held])
          have draws : camera.gl = true := uploads (.inr ⟨rfl, by rw [held]; rfl⟩)
          refine ⟨by simp [display, displaying, Display.read, held, draws], ?_⟩
          intro upload member
          rcases List.mem_append.mp member with earlier | added
          · exact .inl earlier
          · cases List.mem_singleton.mp added
            exact .inr ⟨same ▸ applied, same.symm⟩
      · rw [outcome]
        refine ⟨?_, fun upload member => .inl member⟩
        obtain ⟨larger, rfl⟩ : ∃ larger, head = larger + 2 := ⟨head - 2, by omega⟩
        rfl

variable {Client Wsi Device : Type} [DecidableEq Wsi] [DecidableEq Client]

/-- The scene of every upload was sized, and the planes have the bytes that textures of
this size take. -/
def Announced (state : State Client Wsi Device) : Prop :=
  ∀ client, ∀ upload ∈ (state.cameras client).uploads, ∃ width height rotated,
    upload.scene = some (.setSize width height rotated) ∧
      upload.y.length = width * height ∧
      upload.uv.length = 2 * (width / 2) * (height / 2)

/-- No plane that will complete a pair is put on the way to a client unless the client
will have applied the size at which both planes were captured. Sizes are read with a program
and planes with a canvas. -/
abbrev Told (state : State Client Wsi Device) (label : Label Client Wsi) : Prop :=
  Admits displaying display state label ∧ Handles Browser.Camera.CanSize state label ∧
    Handles Browser.Camera.CanUpload state label

structure Displays (state : State Client Wsi Device) : Prop where
  tracked : Tracked state
  sourced : Sourced state
  deliverable : Deliverable displaying display state
  own : ∀ client, OwnNumbers (state.cameras client)
  sized : ∀ client, ∀ upload ∈ (state.cameras client).uploads, SizedUpload upload

omit [DecidableEq Client] in
private theorem displays_initial (now : ℚ) : Displays (initial now : State Client Wsi Device) :=
  { tracked := tracked_initial now
    sourced := sourced_initial now
    deliverable := deliverable_initial now
    own := fun _ => ⟨List.nodup_nil, nofun⟩
    sized := nofun }

private theorem step_displays {platform : Platform Device} {state next : State Client Wsi Device}
    {label : Label Client Wsi} (displays : Displays state) (told : Told state label)
    (taken : step platform state label = some next) : Displays next := by
  obtain ⟨tracked, sourced, deliverable, own, sized⟩ := displays
  obtain ⟨admits, sizes, uploads⟩ := told
  -- what a delivery brings can be handled
  have shown : ∀ client, label = .deliver client → ∀ message ∈ arriving state client,
      displaying.Fits (display client (state.cameras client)) message → _ :=
    fun client delivers message arrives fits =>
      onMessage_display client (own client)
        (by rw [delivers] at sizes; exact sizes message arrives)
        (by rw [delivers] at uploads; exact uploads message arrives) fits
  constructor
  · exact step_tracked tracked taken
  · exact step_sourced sourced tracked taken
  · refine deliverable.step tracked admits (fun _ _ _ => rfl) ?_ taken
    intro client delivers message arrives fits
    exact (shown client delivers message arrives fits).1
  · refine step_cameras (fun _ camera => OwnNumbers camera) own ?_ ?_ ?_ taken
    · exact fun client request => (own client).request request
    · exact fun client gl builds => (own client).setCanvas gl builds
    · exact fun client _ _ message _ _ => (onMessage_awaits client (own client) message).1
  · refine step_cameras (fun _ camera => ∀ upload ∈ camera.uploads, SizedUpload upload)
      sized ?_ ?_ ?_ taken
    · exact fun client _ => sized client
    · exact fun client _ _ => sized client
    · intro client delivers socket message present arrived upload member
      have fits := deliverable.fits present arrived
      have arrives : arriving state client = some message := by
        rw [arriving, present]
        exact arrived
      rcases (shown client delivers message arrives fits).2 upload member with earlier | new
      · exact sized client upload earlier
      · exact new

omit [DecidableEq Wsi] [DecidableEq Client] in
private theorem announced_of_sized {state : State Client Wsi Device} (sourced : Sourced state)
    (sized : ∀ client, ∀ upload ∈ (state.cameras client).uploads, SizedUpload upload) :
    Announced state := by
  intro client upload member
  obtain ⟨yGenuine, uvGenuine⟩ := (sourced.planes client).uploads upload member
  obtain ⟨frame, _, _, yPlane⟩ := yGenuine
  obtain ⟨other, _, halves, uvPlane⟩ := uvGenuine
  have yPlane : upload.y = frame.yPlane upload.y.call := by simpa using yPlane
  have uvPlane : upload.uv = other.uvPlane upload.uv.call := by simpa using uvPlane
  obtain ⟨applied, same⟩ := sized client upload member
  obtain ⟨scene, present, textures⟩ := Option.map_eq_some_iff.mp applied
  have yFrame : upload.y.frame = frame := by rw [yPlane]; rfl
  have uvFrame : upload.uv.frame = other := by rw [uvPlane]; rfl
  rw [uvFrame, yFrame] at same
  obtain ⟨width, height⟩ := Prod.mk.inj same
  refine ⟨other.width, other.height, scene.rotated, ?_, ?_, ?_⟩
  · have sizes : scene.textureSize = (other.width, other.height) := by
      rw [textures, yFrame, ← same]
      rfl
    have resized := Browser.setSize_textureSize scene
    rw [sizes] at resized
    rw [present, resized]
  · rw [yPlane, width, height]
    rfl
  · rw [uvPlane]
    exact Frame.uvPlane_length halves _

theorem announced_of_told {platform : Platform Device} {state : State Client Wsi Device}
    (reached : (machine Client Wsi platform).ReachableWhen Told state) : Announced state := by
  have displays : Displays state := by
    refine reached.invariant Displays ?_ ?_
    · rintro _ ⟨now, rfl⟩
      exact displays_initial now
    · intro before label next _ displays told taken
      exact step_displays displays told taken
  exact announced_of_sized displays.sourced displays.sized

/-! ### The size announced and the size captured -/

omit [DecidableEq Wsi] [DecidableEq Client] in
theorem start_sized {platform : Platform Device} {camera next : WebSocketCamera Device Frame}
    {resolution position : String} (sized : camera.capture.Sized)
    (taken : camera.start platform resolution position = some next) : next.capture.Sized := by
  rcases WebSocketCamera.start_spec taken with ⟨_, rfl⟩ | ⟨_, capture, begun, rfl⟩
  · exact sized
  · exact AVRecorder.start_sized sized begun

omit [DecidableEq Wsi] [DecidableEq Client] in
private theorem processMessage_sized {platform : Platform Device} {now : ℚ}
    {camera : WebSocketCamera Device Frame} {origin : Origin Client} {request : Request}
    {handled : WebSocketController.Handled Client Device} (sized : camera.capture.Sized)
    (taken : WebSocketController.processMessage platform now camera origin request =
      some handled) : handled.camera.capture.Sized := by
  cases request with
  | needFrame =>
      obtain ⟨⟨next, started⟩, begun, rfl⟩ := Option.map_eq_some_iff.mp taken
      rcases WebSocketCamera.onNeedFrame_cases begun with
        ⟨resolution, position, _, _, _, restarted, _⟩ | ⟨_, _, same⟩ | ⟨_, _, same, _⟩
      · exact start_sized sized restarted
      · have same := congrArg (fun outcome => outcome.1.capture) same
        dsimp only at same ⊢
        rw [same, (camera.writeFrame_capture now).1]
        exact sized
      · dsimp only
        rw [same]
        exact sized
  | configure resolution position =>
      obtain ⟨next, configured, rfl⟩ := Option.map_eq_some_iff.mp taken
      split at configured
      · exact start_sized sized configured
      · cases configured
        exact sized
  | _ =>
      cases taken
      exact sized

omit [DecidableEq Client] in
theorem Executes.sized {platform : Platform Device} {state next : State Client Wsi Device}
    {statement : Statement Client} (sized : state.camera.capture.Sized)
    (executes : Executes platform state statement next) : next.camera.capture.Sized := by
  cases executes with
  | changePosition position capture changed =>
      exact AVRecorder.changePosition_sized sized changed
  | changeResolution resolution capture changed =>
      exact (AVRecorder.setResolution_spec changed).2.2.2.2.2
  | _ => exact sized

private theorem step_sized {platform : Platform Device} {state next : State Client Wsi Device}
    {label : Label Client Wsi} (sized : state.camera.capture.Sized)
    (taken : step platform state label = some next) : next.camera.capture.Sized := by
  cases step_cases taken with
  | receive index received handled _ _ processed => exact processMessage_sized sized processed
  | run number thread statement rest after _ _ _ executed =>
      have kept := executed.sized sized
      exact kept
  | onBuffer index frame _ =>
      have same : (state.camera.onBuffer state.now frame frame).1.capture =
          state.camera.capture := by
        unfold WebSocketCamera.onBuffer
        split
        · exact (WebSocketCamera.writeFrame_capture _ _).1
        · rfl
      simp only [State.spawn, same]
      exact sized
  | _ => exact sized

theorem captured_as_announced {platform : Platform Device}
    {state next : State Client Wsi Device}
    (reached : (machine Client Wsi platform).Reachable state)
    (taken : step platform state .capture = some next) :
    ∃ frame, next.captured = state.captured ++ [frame] ∧
      announced (.infos (state.camera.getCaptureInfos platform)) = some frame.size := by
  have sized : state.camera.capture.Sized := by
    refine reached.invariant (fun state => state.camera.capture.Sized) ?_ ?_
    · rintro _ ⟨now, rfl⟩
      exact .inl ⟨rfl, rfl, rfl⟩
    · intro before label after _ sized stepped
      exact step_sized sized stepped
  cases step_cases taken with
  | capture size _ listed =>
      refine ⟨_, rfl, ?_⟩
      rcases sized with ⟨unlisted, _⟩ | matched
      · rw [unlisted] at listed
        cases listed
      · rw [matched] at listed
        cases listed
        rfl

omit [DecidableEq Client] in
/-- The condition is needed for each plane: one that completes a pair and does not fit
is uploaded to a scene of another size, or with a plane of another size. -/
theorem unsized_of_not_fits {client : Client} {camera : Browser.Camera} {head : Nat}
    {plane : Plane} (unfit : ¬displaying.Fits (display client camera)
      (.binary head plane : Message Client)) :
    ∃ upload ∈ (camera.onMessage (.binary head plane : Message Client)).uploads,
      ¬SizedUpload upload := by
  rw [Browser.Camera.onMessage]
  rcases Browser.onBinaryMessage_cases camera head plane with
    ⟨rfl, alone, _⟩ | ⟨rfl, alone, _⟩ | ⟨y, uv, held, outcome⟩ | ⟨other, _⟩
  · simp [displaying, Display.Fits, display, alone] at unfit
  · simp [displaying, Display.Fits, display, alone] at unfit
  · rw [outcome]
    refine ⟨{ scene := camera.scene, y := y, uv := uv },
      List.mem_append_right _ (List.mem_singleton_self _), ?_⟩
    rintro ⟨applied, same⟩
    apply unfit
    rcases held with ⟨rfl, rfl, held⟩ | ⟨rfl, rfl, held⟩
    · intro size other
      simp only [display, held, Option.map_some, Option.mem_some_iff] at other
      subst other
      exact ⟨same, applied⟩
    · intro size other
      simp only [display, held, Option.map_some, Option.mem_some_iff] at other
      subst other
      exact ⟨same.symm, applied.trans (congrArg some same.symm)⟩
  · obtain ⟨larger, rfl⟩ : ∃ larger, head = larger + 2 := ⟨head - 2, by omega⟩
    exact absurd trivial unfit

omit [DecidableEq Client] in
/-- A response that is read before the program is built leaves the scene as it was. -/
theorem scene_of_not_canSize {camera : Browser.Camera} (own : OwnNumbers camera)
    {message : Message Client} (fails : ¬camera.CanSize message) :
    (camera.onMessage message).scene = camera.scene := by
  cases message with
  | binary head plane => exact absurd trivial fails
  | json origin data =>
      have noProgram : camera.prog = false := by
        by_contra built
        exact fails fun _ => Bool.not_eq_false _ ▸ built
      rw [Browser.Camera.onMessage, Browser.onJsonMessage_spec own.distinct]
      simp [noProgram]

/-! ### Runs -/

/-- Two clients connect, one of them configures the camera, and then the other one is
told the configuration. -/
def bothConfigured : List (Label Bool Bool) :=
  [.connect false false, .connect true true, .setCanvas false true true,
    .setCanvas true true true, .request false (.configure (some "640x480") (some "back")),
    .receive 0, .run 0] ++
    walk 0 7 ++
    [.request true (.configure (some "640x480") (some "back")), .receive 0, .run 1] ++
    walk 1 7 ++ [.writable true, .writable true, .deliver true, .deliver true]

/-- A frame is captured, written to both clients and read by one of them. -/
def frameRead (thread call : Nat) : List (Label Bool Bool) :=
  [.capture, .onBuffer 0, .request false .needFrame, .receive 0, .run thread] ++ walk call 7 ++
    [.run thread] ++ walk (call + 1) 7 ++ [.run thread, .run thread] ++ walk (call + 2) 7 ++
    [.writable true, .writable true, .deliver true, .deliver true]

theorem announced_of_bothConfigured :
    ∃ state, (machine Bool Bool Platform.twoSided).runWhen Told (initial 0)
        (bothConfigured ++ frameRead 3 2) = some state ∧
      (state.cameras true).uploads.length = 1 ∧ Announced state := by
  obtain ⟨state, replayed, uploads⟩ := (Option.any_eq_true _ _).mp
    (show ((machine Bool Bool Platform.twoSided).runWhen Told (initial 0)
        (bothConfigured ++ frameRead 3 2)).any
        (fun state => decide ((state.cameras true).uploads.length = 1)) = true by
      decide +kernel)
  exact ⟨state, replayed, of_decide_eq_true uploads,
    announced_of_told (.runWhen _ (.initial ⟨0, rfl⟩) replayed)⟩

/-- One client changes the resolution, and the response is not for the other one. -/
def changedByOne : List (Label Bool Bool) :=
  bothConfigured ++
    [.request false (.changeResolution (some "1280x720")), .receive 0, .run 2, .run 2, .run 2,
      .run 2] ++ walk 2 7 ++ [.writable true, .deliver true] ++ frameRead 4 3

theorem not_announced_of_changedByOne :
    ¬∀ state, (machine Bool Bool Platform.twoSided).Reachable state → Announced state := by
  intro always
  have started : (machine Bool Bool Platform.twoSided).initial (initial 0) := ⟨0, rfl⟩
  obtain ⟨state, reached, small⟩ := Machine.exists_reachable_of_run changedByOne
    (fun state : State Bool Bool AVCaptureDevicePosition =>
      (state.cameras true).uploads.any fun upload =>
        decide (upload.y.length ≠ 640 * 480 ∧
          upload.scene = some (.setSize 640 480 true))) started (by decide +kernel)
  obtain ⟨upload, member, wrong⟩ := List.any_eq_true.mp small
  obtain ⟨different, present⟩ := of_decide_eq_true wrong
  obtain ⟨width, height, rotated, scene, length, _⟩ := always state reached true upload member
  rw [present] at scene
  have textures := congrArg Browser.WebGLYUVScene.textureSize (Option.some.inj scene)
  rw [Browser.textureSize_setSize, Browser.textureSize_setSize] at textures
  cases textures
  exact different length

end Session
end JSCameraKit
