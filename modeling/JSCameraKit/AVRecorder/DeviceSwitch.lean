import JSCameraKit.AVRecorder.Unwraps

set_option autoImplicit false

/-! `setDevice` as a transaction on the session: begun, and committed or not. -/

namespace JSCameraKit
namespace AVRecorder

variable {Device : Type}

/-- The session and what the recorder says of it are as they were. -/
structure Unchanged (before after : AVRecorder Device) : Prop where
  inputs : after.captureSession.inputs = before.captureSession.inputs
  sessionPreset : after.captureSession.sessionPreset = before.captureSession.sessionPreset
  captureDevice : after.captureDevice = before.captureDevice
  captureInput : after.captureInput = before.captureInput
  width : after.width = before.width
  height : after.height = before.height

/-- `setDevice` returns with its configuration committed, and it has installed the device
that it found or changed nothing. -/
def SwitchesAtomically (platform : Platform Device) (recorder : AVRecorder Device)
    (position : AVCaptureDevicePosition) : Prop :=
  ∃ next, setDevice platform recorder position = some next ∧
    next.captureSession.configuring = recorder.captureSession.configuring ∧
    ((∃ device, findDevice platform position = some device ∧ next.Uses device) ∨
      Unchanged recorder next)

/-- No device is found, or one that opens and that the resolution of the recorder fits. -/
def Switchable (platform : Platform Device) (recorder : AVRecorder Device)
    (position : AVCaptureDevicePosition) : Prop :=
  ∀ device ∈ findDevice platform position, platform.opens device = true ∧
    ∃ resolution ∈ recorder.resolution, Fits platform device resolution

private theorem setDevice_notFound {platform : Platform Device} {position : AVCaptureDevicePosition}
    (missing : findDevice platform position = none) (recorder : AVRecorder Device) :
    setDevice platform recorder position = some recorder := by
  rw [setDevice, missing]

private theorem setDevice_notOpened {platform : Platform Device}
    {position : AVCaptureDevicePosition}
    {device : Device} (found : findDevice platform position = some device)
    (closed : platform.opens device = false) (recorder : AVRecorder Device) :
    setDevice platform recorder position = some (removeInputs (beginConfiguration recorder)) := by
  rw [setDevice, found]
  dsimp only
  rw [closed, if_neg Bool.false_ne_true]

private theorem setDevice_committed {platform : Platform Device} {recorder next : AVRecorder Device}
    {position : AVCaptureDevicePosition} {device : Device}
    (found : findDevice platform position = some device) (opens : platform.opens device = true)
    (taken : setDevice platform recorder position = some next) :
    next.captureSession.configuring = recorder.captureSession.configuring := by
  rw [setDevice, found] at taken
  simp only [opens, if_true] at taken
  obtain ⟨configured, optimal, taken⟩ := Option.bind_eq_some_iff.mp taken
  obtain ⟨preset, size, _, rfl⟩ := setOptimalPreset_spec optimal
  cases taken
  rfl

/-- A device that is found and does not open is the one outcome that is not undone; the
others are atomic where `setOptimalPreset` does not end the program. -/
theorem switchesAtomically_iff (platform : Platform Device) (recorder : AVRecorder Device)
    (position : AVCaptureDevicePosition) :
    SwitchesAtomically platform recorder position ↔ Switchable platform recorder position := by
  have unwraps := setDevice_isSome_iff platform recorder position
  cases found : findDevice platform position with
  | none =>
      apply iff_of_true
      · exact ⟨recorder, setDevice_notFound found recorder, rfl,
          .inr ⟨rfl, rfl, rfl, rfl, rfl, rfl⟩⟩
      · intro device member
        rw [found] at member
        cases member
  | some device =>
      cases opens : platform.opens device with
      | false =>
          apply iff_of_false
          · rintro ⟨next, taken, balanced, _⟩
            rw [setDevice_notOpened found opens] at taken
            cases taken
            exact Nat.succ_ne_self _ balanced
          · intro switchable
            have opened := (switchable device found).1
            rw [opens] at opened
            cases opened
      | true =>
          constructor
          · rintro ⟨next, taken, _⟩ other member
            rw [taken] at unwraps
            have fits := unwraps.mp rfl other member
            rw [found] at member
            cases member
            exact ⟨opens, fits opens⟩
          · intro switchable
            have fits := unwraps.mpr fun other member _ => (switchable other member).2
            obtain ⟨next, taken⟩ := Option.isSome_iff_exists.mp fits
            refine ⟨next, taken, setDevice_committed found opens taken, ?_⟩
            exact .inl ⟨device, found, (setDevice_spec found opens taken).1⟩

/-- A device whose camera on the back cannot be opened. -/
def frontOnly : Platform AVCaptureDevicePosition :=
  { position := Platform.twoSided.position
    supportsAVCaptureSessionPreset := Platform.twoSided.supportsAVCaptureSessionPreset
    opens := fun device => decide (device = .front)
    defaultDevice := Platform.twoSided.defaultDevice
    devices := none
    defaultDevice_position := Platform.twoSided.defaultDevice_position
    presetOrder := Platform.twoSided.presetOrder
    presetOrder_perm := Platform.twoSided.presetOrder_perm }

/-- The front is in use and the back does not open: the session is left without input and
its configuration open. -/
theorem not_switchesAtomically_of_notOpened :
    ¬SwitchesAtomically frontOnly
      { captureSession :=
          { sessionPreset := .preset640x480, inputs := [.front], running := true, configuring := 0 }
        captureDevice := some .front
        captureInput := some .front
        width := 640
        height := 480
        resolution := some "640x480" }
      .back := by
  rintro ⟨next, taken, balanced, _⟩
  rw [setDevice_notOpened rfl rfl] at taken
  cases taken
  exact absurd balanced (by decide)

end AVRecorder
end JSCameraKit
