import JSCameraKit.Library.Machine
import JSCameraKit.WebSocketCamera.Handlers

set_option autoImplicit false

/-! Which configuration the capture session runs with. The values requested live in
two places: the camera keeps those it was started with, the recorder those it was
last given. `configure` is ignored while the camera runs; a `need-frame` that
restarts a stopped camera reads the first place only. -/

namespace JSCameraKit
namespace WebSocketCamera
namespace Configuration

inductive Label (Data : Type)
  | configure (resolution position : String)
  | changeResolution (resolution : String)
  | changePosition (position : String)
  | needFrame (now : ℚ)
  | onBuffer (now : ℚ) (yData uvData : Data)
  | activityTimeout

/-- The value that the most recent request in effect named. -/
structure Named where
  value : Option String
  /-- The request was a `change-position` or a `change-resolution`. -/
  changed : Bool
  /-- A `need-frame` has restarted the camera since such a request. -/
  reverted : Bool
  deriving DecidableEq

def Named.configure (value : String) : Named :=
  { value := some value, changed := false, reverted := false }

def Named.change (value : String) : Named :=
  { value := some value, changed := true, reverted := false }

def Named.restart (asked : Named) : Named :=
  { asked with reverted := asked.changed }

structure State (Device Data : Type) where
  camera : WebSocketCamera Device Data
  resolution : Named
  position : Named

variable {Device Data : Type}

def named (state : State Device Data) : Label Data → Named × Named
  | .configure resolution position =>
      if state.camera.initied then (state.resolution, state.position)
      else (.configure resolution, .configure position)
  | .changeResolution resolution => (.change resolution, state.position)
  | .changePosition position => (state.resolution, .change position)
  | .needFrame _ =>
      if state.camera.Restarts then (state.resolution.restart, state.position.restart)
      else (state.resolution, state.position)
  | .onBuffer _ _ _ => (state.resolution, state.position)
  | .activityTimeout => (state.resolution, state.position)

def handle (platform : Platform Device) (camera : WebSocketCamera Device Data) :
    Label Data → Option (WebSocketCamera Device Data)
  | .configure resolution position => camera.start platform resolution position
  | .changeResolution resolution => camera.clear.changeResolution platform resolution
  | .changePosition position => camera.clear.changePosition platform position
  | .needFrame now => (camera.onNeedFrame platform now).map Prod.fst
  | .onBuffer now yData uvData => some (camera.onBuffer now yData uvData).1
  | .activityTimeout => some camera.stop

def step (platform : Platform Device) (state : State Device Data) (label : Label Data) :
    Option (State Device Data) :=
  (handle platform state.camera label).map fun camera =>
    { camera := camera, resolution := (named state label).1, position := (named state label).2 }

def initial (now : ℚ) : State Device Data :=
  { camera := WebSocketCamera.init now
    resolution := { value := none, changed := false, reverted := false }
    position := { value := none, changed := false, reverted := false } }

variable (Data) in
def machine (platform : Platform Device) : Machine (State Device Data) (Label Data) :=
  { initial := fun state => ∃ now, state = initial now
    step := step platform }

/-- There is a camera that can be opened on each side. -/
def Available (platform : Platform Device) : Prop :=
  ∀ side, ∃ device, AVRecorder.findDevice platform side = some device ∧
    platform.opens device = true

/-- The session uses a device of the side that a request names. -/
def UsesSide (platform : Platform Device) (recorder : AVRecorder Device) (position : String) :
    Prop :=
  ∃ device, recorder.Uses device ∧
    platform.position device = AVRecorder.getDevicePosition position

/-! ### What the recorder is left with -/

private theorem setDevice_usesSide {platform : Platform Device} (available : Available platform)
    {recorder next : AVRecorder Device} {position : String}
    (taken : AVRecorder.setDevice platform recorder (AVRecorder.getDevicePosition position) =
      some next) :
    next.resolution = recorder.resolution ∧ UsesSide platform next position ∧
      next.captureSession.running = recorder.captureSession.running := by
  obtain ⟨device, found, opens⟩ := available (AVRecorder.getDevicePosition position)
  obtain ⟨uses, _, same, running⟩ := AVRecorder.setDevice_spec found opens taken
  exact ⟨same, ⟨device, uses, AVRecorder.findDevice_position found⟩, running⟩

private theorem start_configured {platform : Platform Device} (available : Available platform)
    {recorder next : AVRecorder Device} {resolution position : String}
    (taken : recorder.start platform resolution position = some next) :
    next.resolution = some resolution ∧ UsesSide platform next position := by
  obtain ⟨configured, begun, same⟩ := Option.bind_eq_some_iff.mp taken
  cases same
  obtain ⟨kept, ⟨device, uses, side⟩, _⟩ := setDevice_usesSide available begun
  exact ⟨kept, device, uses, side⟩

private theorem changePosition_configured {platform : Platform Device}
    (available : Available platform)
    {recorder next : AVRecorder Device} {position : String}
    (taken : recorder.changePosition platform position = some next) :
    next.resolution = recorder.resolution ∧ UsesSide platform next position ∧
      next.captureSession.running = recorder.captureSession.running := by
  obtain ⟨_, _, taken⟩ := Option.bind_eq_some_iff.mp taken
  exact setDevice_usesSide available taken

private theorem setResolution_configured {platform : Platform Device}
    {recorder next : AVRecorder Device} {resolution : String}
    (taken : recorder.setResolution platform resolution = some next) :
    next.resolution = some resolution ∧
      (∀ position, UsesSide platform recorder position → UsesSide platform next position) ∧
      next.captureSession.running = recorder.captureSession.running := by
  obtain ⟨configured, device, input, inputs, running, _⟩ := AVRecorder.setResolution_spec taken
  refine ⟨configured, ?_, running⟩
  rintro position ⟨used, ⟨atDevice, atInput, atInputs⟩, side⟩
  exact ⟨used, ⟨device.trans atDevice, input.trans atInput, inputs.trans atInputs⟩, side⟩

/-! ### Every run -/

structure Effective (platform : Platform Device) (state : State Device Data) : Prop where
  resolution : state.resolution.reverted = false →
    state.camera.capture.resolution = state.resolution.value
  position : state.position.reverted = false → ∀ position,
    state.position.value = some position → UsesSide platform state.camera.capture position
  storedResolution : state.resolution.changed = false →
    state.camera.resolution = state.resolution.value
  storedPosition : state.position.changed = false →
    state.camera.position = state.position.value
  asked : state.camera.resolution.isSome = true →
    state.resolution.value.isSome = true ∧ state.position.value.isSome = true
  started : state.camera.capture.captureSession.running = true →
    state.camera.resolution.isSome = true

theorem Effective.of_same {platform : Platform Device} {state : State Device Data}
    {camera : WebSocketCamera Device Data} (effective : Effective platform state)
    (capture : camera.capture = state.camera.capture)
    (resolution : camera.resolution = state.camera.resolution)
    (position : camera.position = state.camera.position) :
    Effective platform { state with camera := camera } := by
  constructor
  · intro current
    exact (congrArg AVRecorder.resolution capture).trans (effective.resolution current)
  · intro current position asked
    dsimp only
    rw [capture]
    exact effective.position current position asked
  · exact fun configured => resolution.trans (effective.storedResolution configured)
  · exact fun configured => position.trans (effective.storedPosition configured)
  · dsimp only
    rw [resolution]
    exact effective.asked
  · dsimp only
    rw [capture, resolution]
    exact effective.started

theorem Effective.of_start {platform : Platform Device} (available : Available platform)
    {camera next : WebSocketCamera Device Data} {resolution position : String}
    (stopped : camera.initied = false)
    (taken : camera.start platform resolution position = some next)
    {forResolution forPosition : Named}
    (asksResolution : forResolution.reverted = false → forResolution.value = some resolution)
    (asksPosition : forPosition.reverted = false → forPosition.value = some position)
    (storesResolution : forResolution.changed = false → forResolution.value = some resolution)
    (storesPosition : forPosition.changed = false → forPosition.value = some position)
    (named : forResolution.value.isSome = true ∧ forPosition.value.isSome = true) :
    Effective platform
      { camera := next, resolution := forResolution, position := forPosition } := by
  rcases start_spec taken with ⟨running, _⟩ | ⟨_, capture, begun, rfl⟩
  · rw [stopped] at running
    cases running
  · obtain ⟨atResolution, atPosition⟩ := start_configured available begun
    constructor
    · intro kept
      exact atResolution.trans (asksResolution kept).symm
    · intro kept other same
      cases (asksPosition kept).symm.trans same
      exact atPosition
    · exact fun configured => (storesResolution configured).symm
    · exact fun configured => (storesPosition configured).symm
    · exact fun _ => named
    · exact fun _ => rfl

private theorem step_effective {platform : Platform Device} (available : Available platform)
    {state next : State Device Data} {label : Label Data} (effective : Effective platform state)
    (taken : step platform state label = some next) : Effective platform next := by
  obtain ⟨camera, handled, rfl⟩ := Option.map_eq_some_iff.mp taken
  cases label with
  | configure resolution position =>
      cases running : state.camera.initied with
      | true =>
          rcases start_spec handled with ⟨_, rfl⟩ | ⟨stopped, _⟩
          · simpa only [named, running, if_true] using effective
          · rw [running] at stopped
            cases stopped
      | false =>
          simp only [named, running, Bool.false_eq_true, if_false]
          exact .of_start available running handled (fun _ => rfl) (fun _ => rfl)
            (fun _ => rfl) (fun _ => rfl) ⟨rfl, rfl⟩
  | changeResolution resolution =>
      obtain ⟨capture, changed, same⟩ := Option.bind_eq_some_iff.mp handled
      cases same
      obtain ⟨configured, sides, running⟩ := setResolution_configured changed
      constructor
      · exact fun _ => configured
      · intro kept position asked
        exact sides position (effective.position kept position asked)
      · exact nofun
      · exact effective.storedPosition
      · intro stored
        exact ⟨rfl, (effective.asked stored).2⟩
      · intro runs
        exact effective.started (running.symm.trans runs)
  | changePosition position =>
      obtain ⟨capture, changed, same⟩ := Option.bind_eq_some_iff.mp handled
      cases same
      obtain ⟨kept, side, running⟩ := changePosition_configured available changed
      constructor
      · intro current
        exact kept.trans (effective.resolution current)
      · rintro _ other same
        cases same
        exact side
      · exact effective.storedResolution
      · exact nofun
      · intro stored
        exact ⟨(effective.asked stored).1, rfl⟩
      · intro runs
        exact effective.started (running.symm.trans runs)
  | needFrame now =>
      obtain ⟨⟨after, written⟩, asked, rfl⟩ := Option.map_eq_some_iff.mp handled
      rcases onNeedFrame_cases asked with
        ⟨resolution, position, stopped, atResolution, atPosition, started, _⟩ |
          ⟨running, _, wrote⟩ | ⟨running, _, rfl, _⟩
      · have restarts : state.camera.Restarts :=
          ⟨stopped, by simp [atResolution], by simp [atPosition]⟩
        simp only [named, if_pos restarts]
        -- what a configuration named is what the camera stores
        have resolutionStored : state.resolution.changed = false →
            state.resolution.value = some resolution :=
          fun configured => (effective.storedResolution configured).symm.trans atResolution
        have positionStored : state.position.changed = false →
            state.position.value = some position :=
          fun configured => (effective.storedPosition configured).symm.trans atPosition
        exact .of_start available stopped started resolutionStored positionStored
          resolutionStored positionStored (effective.asked restarts.2.1)
      · have same := writeFrame_capture state.camera now
        rw [← wrote] at same
        simp only [named, if_neg running]
        exact effective.of_same same.1 same.2.1 same.2.2
      · simp only [named, if_neg running]
        exact effective.of_same rfl rfl rfl
  | onBuffer now yData uvData =>
      cases handled
      simp only [named, onBuffer]
      split
      · have same := writeFrame_capture (state.camera.setBuffers yData uvData) now
        exact effective.of_same same.1 same.2.1 same.2.2
      · exact effective.of_same rfl rfl rfl
  | activityTimeout =>
      cases handled
      exact ⟨effective.resolution, effective.position, effective.storedResolution,
        effective.storedPosition, effective.asked, nofun⟩

/-- Whenever the session runs, requests in effect have named a resolution and a
position, and it runs with the ones last named; except for a value that a change request
named and no request since a restart. -/
theorem configured_of_running {platform : Platform Device} (available : Available platform)
    {state : State Device Data} (reached : (machine Data platform).Reachable state)
    (running : state.camera.capture.captureSession.running = true) :
    ∃ resolution position, state.resolution.value = some resolution ∧
      state.position.value = some position ∧
      (state.resolution.reverted = false →
        state.camera.capture.resolution = some resolution) ∧
      (state.position.reverted = false →
        UsesSide platform state.camera.capture position) := by
  have effective : Effective platform state := by
    refine reached.invariant (Effective platform) ?_ ?_
    · rintro state ⟨now, rfl⟩
      exact ⟨fun _ => rfl, fun _ => nofun, fun _ => rfl, fun _ => rfl, nofun, nofun⟩
    · intro before label next _ effective taken
      exact step_effective available effective taken
  obtain ⟨hasResolution, hasPosition⟩ := effective.asked (effective.started running)
  obtain ⟨resolution, atResolution⟩ := Option.isSome_iff_exists.mp hasResolution
  obtain ⟨position, atPosition⟩ := Option.isSome_iff_exists.mp hasPosition
  refine ⟨resolution, position, atResolution, atPosition, ?_, ?_⟩
  · intro current
    exact (effective.resolution current).trans atResolution
  · intro current
    exact effective.position current position atPosition

/-- A second configuration of a running camera. -/
def configuredTwice : List (Label Nat) :=
  [.configure "640x480" "back", .configure "1280x720" "front"]

/-- The value that a request names, whether or not it takes effect. -/
def Label.asksResolution : Label Nat → Option String
  | .configure resolution _ | .changeResolution resolution => some resolution
  | _ => none

theorem resolution_not_last_asked :
    ¬∀ (labels : List (Label Nat)) (final : State AVCaptureDevicePosition Nat),
      (machine Nat Platform.twoSided).run (initial 0) labels = some final →
        final.camera.capture.captureSession.running = true →
          final.camera.capture.resolution = labels.reverse.findSome? Label.asksResolution := by
  intro always
  have kept := always configuredTwice _ rfl rfl
  revert kept
  decide

/-- A configured camera that stops and is restarted, and changes its position then. -/
def restarted : List (Label Nat) :=
  [.configure "640x480" "back", .activityTimeout, .needFrame 6, .changePosition "front"]

theorem configured_of_restarted :
    ∃ final : State AVCaptureDevicePosition Nat,
      (machine Nat Platform.twoSided).run (initial 0) restarted = some final ∧
        final.camera.capture.resolution = some "640x480" ∧
        UsesSide Platform.twoSided final.camera.capture "front" := by
  have available : Available Platform.twoSided := fun side => ⟨side, rfl, rfl⟩
  obtain ⟨final, replayed, passed⟩ := (Option.any_eq_true _ _).mp
    (show ((machine Nat Platform.twoSided).run (initial 0) restarted).any (fun final =>
        final.camera.capture.captureSession.running &&
          decide (final.resolution = .configure "640x480" ∧ final.position = .change "front")) =
      true by decide)
  simp only [Bool.and_eq_true, decide_eq_true_eq] at passed
  obtain ⟨running, forResolution, forPosition⟩ := passed
  obtain ⟨resolution, position, atResolution, atPosition, configured, side⟩ :=
    configured_of_running available (.run restarted (.initial ⟨0, rfl⟩) replayed) running
  rw [forResolution] at atResolution configured
  rw [forPosition] at atPosition side
  cases atResolution
  cases atPosition
  exact ⟨final, replayed, configured rfl, side rfl⟩

end Configuration
end WebSocketCamera
end JSCameraKit
