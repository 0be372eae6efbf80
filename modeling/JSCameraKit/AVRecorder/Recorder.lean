import JSCameraKit.AVRecorder.ConstraintsManager

set_option autoImplicit false

/-! `AVRecorder` under iOS: the capture session, the device it uses and the size
its frames have. A forced unwrapping that fails ends the program, here `none`. -/

namespace JSCameraKit

structure AVCaptureSession (Device : Type) where
  sessionPreset : AVCaptureSessionPreset
  inputs : List Device
  running : Bool
  /-- The `beginConfiguration` calls not yet committed. -/
  configuring : Nat

structure AVRecorder (Device : Type) where
  captureSession : AVCaptureSession Device
  captureDevice : Option Device
  captureInput : Option Device
  width : Nat
  height : Nat
  resolution : Option String

namespace AVRecorder

variable {Device : Type}

def init : AVRecorder Device :=
  { captureSession :=
      { sessionPreset := .presetHigh, inputs := [], running := false, configuring := 0 }
    captureDevice := none
    captureInput := none
    width := 0
    height := 0
    resolution := none }

/-- A lookup in the dictionary `presetsMap`. -/
def presetsMap (resolution : String) : Option AVCaptureSessionPreset :=
  [("640x480", AVCaptureSessionPreset.preset640x480), ("1280x720", .preset1280x720),
    ("1920x1080", .preset1920x1080), ("3840x2160", .preset3840x2160)].lookup resolution

/-- A side that is not supported is logged and taken for the back. -/
def getDevicePosition (position : String) : AVCaptureDevicePosition :=
  if position = "front" then .front else .back

def isRotated (_recorder : AVRecorder Device) : Bool := true

def isMirrored (platform : Platform Device) (recorder : AVRecorder Device) : Bool :=
  match recorder.captureDevice with
  | none => false
  | some device => decide (platform.position device = .front)

def beginConfiguration (recorder : AVRecorder Device) : AVRecorder Device :=
  { recorder with
    captureSession :=
      { recorder.captureSession with configuring := recorder.captureSession.configuring + 1 } }

def commitConfiguration (recorder : AVRecorder Device) : AVRecorder Device :=
  { recorder with
    captureSession :=
      { recorder.captureSession with configuring := recorder.captureSession.configuring - 1 } }

def setOptimalPreset (platform : Platform Device) (recorder : AVRecorder Device)
    (device : Device) : Option (AVRecorder Device) := do
  let requested ← recorder.resolution
  let preset ← presetsMap requested
  let perfect ← ConstraintsManager.getPerfectPreset platform .preset640x480 .preset1280x720
    preset device
  let resolution ← ConstraintsManager.presets perfect
  some
    { recorder with
      captureSession := { recorder.captureSession with sessionPreset := perfect }
      width := resolution.width
      height := resolution.height }

def setResolution (platform : Platform Device) (recorder : AVRecorder Device)
    (resolution : String) : Option (AVRecorder Device) := do
  let device ← recorder.captureDevice
  let configured ← setOptimalPreset platform
    (beginConfiguration { recorder with resolution := some resolution }) device
  some (commitConfiguration configured)

/-- The device that `setDevice` finds: the one of iOS 10, or the first listed at the position. -/
def findDevice (platform : Platform Device) (position : AVCaptureDevicePosition) :
    Option Device :=
  match platform.defaultDevice with
  | some defaultDevice => defaultDevice position
  | none => platform.devices.bind fun devices =>
      devices.find? fun device => decide (platform.position device = position)

def removeInputs (recorder : AVRecorder Device) : AVRecorder Device :=
  { recorder with captureSession := { recorder.captureSession with inputs := [] } }

def addInput (recorder : AVRecorder Device) (input : Device) : AVRecorder Device :=
  { recorder with
    captureSession :=
      { recorder.captureSession with inputs := recorder.captureSession.inputs ++ [input] } }

/-- A device that cannot be opened leaves the session without input and uncommitted. -/
def setDevice (platform : Platform Device) (recorder : AVRecorder Device)
    (position : AVCaptureDevicePosition) : Option (AVRecorder Device) :=
  match findDevice platform position with
  | none => some recorder
  | some device =>
      if platform.opens device then do
        let configured ← setOptimalPreset platform (removeInputs (beginConfiguration recorder))
          device
        some
          { commitConfiguration (addInput configured device) with
            captureInput := some device
            captureDevice := some device }
      else some (removeInputs (beginConfiguration recorder))

def configure (platform : Platform Device) (recorder : AVRecorder Device)
    (resolution position : String) : Option (AVRecorder Device) :=
  setDevice platform { recorder with resolution := some resolution } (getDevicePosition position)

def start (platform : Platform Device) (recorder : AVRecorder Device)
    (resolution position : String) : Option (AVRecorder Device) := do
  let configured ← configure platform recorder resolution position
  some { configured with captureSession := { configured.captureSession with running := true } }

/-- The resolution is unwrapped to be passed on, and not used. -/
def changePosition (platform : Platform Device) (recorder : AVRecorder Device)
    (position : String) : Option (AVRecorder Device) := do
  let _ ← recorder.resolution
  setDevice platform recorder (getDevicePosition position)

def stop (recorder : AVRecorder Device) : AVRecorder Device :=
  { recorder with captureSession := { recorder.captureSession with running := false } }

/-! ### What each operation leaves -/

/-- The announced size is that of the preset of the session; a session that is not
yet configured announces no size. -/
def Sized (recorder : AVRecorder Device) : Prop :=
  (ConstraintsManager.presets recorder.captureSession.sessionPreset = none ∧
      recorder.width = 0 ∧ recorder.height = 0) ∨
    ConstraintsManager.presets recorder.captureSession.sessionPreset =
      some { width := recorder.width, height := recorder.height }

theorem Sized.even {recorder : AVRecorder Device} (sized : recorder.Sized) :
    2 ∣ recorder.width ∧ 2 ∣ recorder.height := by
  rcases sized with ⟨_, noWidth, noHeight⟩ | listed
  · simp [noWidth, noHeight]
  · exact ConstraintsManager.presets_even listed

/-- The session uses the device that the recorder remembers. -/
def Uses (recorder : AVRecorder Device) (device : Device) : Prop :=
  recorder.captureDevice = some device ∧ recorder.captureInput = some device ∧
    recorder.captureSession.inputs = [device]

theorem setOptimalPreset_spec {platform : Platform Device} {recorder next : AVRecorder Device}
    {device : Device} (taken : setOptimalPreset platform recorder device = some next) :
    ∃ preset resolution, ConstraintsManager.presets preset = some resolution ∧
      next =
        { recorder with
          captureSession := { recorder.captureSession with sessionPreset := preset }
          width := resolution.width
          height := resolution.height } := by
  unfold setOptimalPreset at taken
  obtain ⟨requested, _, taken⟩ := Option.bind_eq_some_iff.mp taken
  obtain ⟨optimal, _, taken⟩ := Option.bind_eq_some_iff.mp taken
  obtain ⟨perfect, _, taken⟩ := Option.bind_eq_some_iff.mp taken
  obtain ⟨resolution, listed, taken⟩ := Option.bind_eq_some_iff.mp taken
  cases taken
  exact ⟨perfect, resolution, listed, rfl⟩

theorem setResolution_spec {platform : Platform Device} {recorder next : AVRecorder Device}
    {resolution : String} (taken : setResolution platform recorder resolution = some next) :
    next.resolution = some resolution ∧ next.captureDevice = recorder.captureDevice ∧
      next.captureInput = recorder.captureInput ∧
      next.captureSession.inputs = recorder.captureSession.inputs ∧
      next.captureSession.running = recorder.captureSession.running ∧ next.Sized := by
  unfold setResolution at taken
  obtain ⟨device, _, taken⟩ := Option.bind_eq_some_iff.mp taken
  obtain ⟨configured, optimal, taken⟩ := Option.bind_eq_some_iff.mp taken
  obtain ⟨preset, size, listed, rfl⟩ := setOptimalPreset_spec optimal
  cases taken
  exact ⟨rfl, rfl, rfl, rfl, rfl, .inr listed⟩

theorem findDevice_position {platform : Platform Device} {position : AVCaptureDevicePosition}
    {device : Device} (found : findDevice platform position = some device) :
    platform.position device = position := by
  unfold findDevice at found
  split at found
  · rename_i choose modern
    exact platform.defaultDevice_position choose modern position device found
  · obtain ⟨devices, _, found⟩ := Option.bind_eq_some_iff.mp found
    simpa using List.find?_some found

theorem setDevice_spec {platform : Platform Device} {recorder next : AVRecorder Device}
    {position : AVCaptureDevicePosition} {device : Device}
    (found : findDevice platform position = some device) (opens : platform.opens device = true)
    (taken : setDevice platform recorder position = some next) :
    next.Uses device ∧ next.Sized ∧ next.resolution = recorder.resolution ∧
      next.captureSession.running = recorder.captureSession.running := by
  unfold setDevice at taken
  rw [found] at taken
  simp only [opens, if_true] at taken
  obtain ⟨configured, optimal, taken⟩ := Option.bind_eq_some_iff.mp taken
  obtain ⟨preset, size, listed, rfl⟩ := setOptimalPreset_spec optimal
  cases taken
  exact ⟨⟨rfl, rfl, rfl⟩, .inr listed, rfl, rfl⟩

private theorem setDevice_sized {platform : Platform Device} {recorder next : AVRecorder Device}
    {position : AVCaptureDevicePosition} (sized : recorder.Sized)
    (taken : setDevice platform recorder position = some next) : next.Sized := by
  cases found : findDevice platform position with
  | none =>
      simp only [setDevice, found, Option.some.injEq] at taken
      rwa [← taken]
  | some device =>
      cases opens : platform.opens device with
      | true => exact (setDevice_spec found opens taken).2.1
      | false =>
          simp only [setDevice, found, opens, Bool.false_eq_true, if_false,
            Option.some.injEq] at taken
          rw [← taken]
          exact sized

theorem start_sized {platform : Platform Device} {recorder next : AVRecorder Device}
    {resolution position : String} (sized : recorder.Sized)
    (taken : start platform recorder resolution position = some next) : next.Sized := by
  obtain ⟨configured, found, same⟩ := Option.bind_eq_some_iff.mp taken
  cases same
  have kept : Sized { recorder with resolution := some resolution } := sized
  have resized : configured.Sized := setDevice_sized kept found
  exact resized

theorem changePosition_sized {platform : Platform Device} {recorder next : AVRecorder Device}
    {position : String} (sized : recorder.Sized)
    (taken : changePosition platform recorder position = some next) : next.Sized := by
  obtain ⟨_, _, found⟩ := Option.bind_eq_some_iff.mp taken
  exact setDevice_sized sized found

end AVRecorder

end JSCameraKit
