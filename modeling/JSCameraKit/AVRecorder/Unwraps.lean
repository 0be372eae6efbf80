import JSCameraKit.AVRecorder.Recorder

set_option autoImplicit false

/-! What each function of the recorder unwraps: `presetsMap[resolution]!`,
`ConstraintsManager.presets[sessionPreset]!`, `captureDevice!` and `resolution!`. -/

namespace JSCameraKit

namespace AVRecorder

variable {Device : Type}

/-- The resolution is in the table of presets, and the preset that the device is
given for it in the table of sizes. -/
def Fits (platform : Platform Device) (device : Device) (resolution : String) : Prop :=
  resolution ∈ ["640x480", "1280x720", "1920x1080"] ∨
    resolution = "3840x2160" ∧
      platform.supportsAVCaptureSessionPreset device .preset3840x2160 = false

instance (platform : Platform Device) (device : Device) (resolution : String) :
    Decidable (Fits platform device resolution) :=
  inferInstanceAs (Decidable (_ ∨ _ ∧ _))

/-- The device that `setDevice` opens at a position, if it opens one, fits. -/
def Configurable (platform : Platform Device) (position : AVCaptureDevicePosition)
    (resolution : String) : Prop :=
  ∀ device ∈ findDevice platform position,
    platform.opens device = true → Fits platform device resolution

instance (platform : Platform Device) (position : AVCaptureDevicePosition)
    (resolution : String) : Decidable (Configurable platform position resolution) :=
  inferInstanceAs (Decidable (∀ device ∈ findDevice platform position, _ → _))

private theorem fits_iff (platform : Platform Device) (device : Device) (resolution : String) :
    Fits platform device resolution ↔
      ∃ preset, presetsMap resolution = some preset ∧
        ((ConstraintsManager.presets preset).isSome = true ∨
          platform.supportsAVCaptureSessionPreset device preset = false) := by
  constructor
  · intro fits
    rcases fits with known | ⟨rfl, unsupported⟩
    · simp only [List.mem_cons, List.not_mem_nil, or_false] at known
      rcases known with rfl | rfl | rfl
      · exact ⟨.preset640x480, rfl, .inl rfl⟩
      · exact ⟨.preset1280x720, rfl, .inl rfl⟩
      · exact ⟨.preset1920x1080, rfl, .inl rfl⟩
    · exact ⟨.preset3840x2160, rfl, .inr unsupported⟩
  · intro ⟨preset, found, sized⟩
    obtain ⟨before, after, split, _⟩ := List.lookup_eq_some_iff.mp found
    have listed : (resolution, preset) ∈ [("640x480", AVCaptureSessionPreset.preset640x480),
        ("1280x720", .preset1280x720), ("1920x1080", .preset1920x1080),
        ("3840x2160", .preset3840x2160)] := by
      rw [split]
      exact List.mem_append_right before List.mem_cons_self
    simp only [List.mem_cons, Prod.mk.injEq, List.not_mem_nil, or_false] at listed
    rcases listed with ⟨rfl, rfl⟩ | ⟨rfl, rfl⟩ | ⟨rfl, rfl⟩ | ⟨rfl, rfl⟩
    · exact .inl (by simp)
    · exact .inl (by simp)
    · exact .inl (by simp)
    · rcases sized with sized | unsupported
      · cases sized
      · exact .inr ⟨rfl, unsupported⟩

private theorem setOptimalPreset_isSome_iff (platform : Platform Device)
    (recorder : AVRecorder Device)
    (device : Device) :
    (setOptimalPreset platform recorder device).isSome = true ↔
      ∃ resolution ∈ recorder.resolution, Fits platform device resolution := by
  have minKnown : ConstraintsManager.presets .preset640x480 =
      some { width := 640, height := 480 } := rfl
  have maxKnown : ConstraintsManager.presets .preset1280x720 =
      some { width := 1280, height := 720 } := rfl
  cases requested : recorder.resolution with
  | none => simp [setOptimalPreset, requested]
  | some resolution =>
      simp only [Option.mem_def, Option.some.injEq, exists_eq_left', fits_iff]
      cases found : presetsMap resolution with
      | none => simp [setOptimalPreset, requested, found]
      | some optimal =>
          simp only [Option.some.injEq, exists_eq_left']
          cases supported : platform.supportsAVCaptureSessionPreset device optimal with
          | true =>
              have perfect := ConstraintsManager.getPerfectPreset_supported minKnown maxKnown
                supported
              cases listed : ConstraintsManager.presets optimal <;>
                simp [setOptimalPreset, requested, found, perfect, listed]
          | false =>
              obtain ⟨preset, size, perfect, listed⟩ :=
                ConstraintsManager.getPerfectPreset_unsupported minKnown maxKnown supported
              simp [setOptimalPreset, requested, found, perfect, listed]

theorem setResolution_isSome_iff (platform : Platform Device) (recorder : AVRecorder Device)
    (resolution : String) :
    (setResolution platform recorder resolution).isSome = true ↔
      ∃ device ∈ recorder.captureDevice, Fits platform device resolution := by
  cases used : recorder.captureDevice with
  | none => simp [setResolution, used]
  | some device =>
      have optimal := setOptimalPreset_isSome_iff platform
        (beginConfiguration { recorder with resolution := some resolution }) device
      simp only [beginConfiguration, Option.mem_def, Option.some.injEq,
        exists_eq_left'] at optimal
      simp only [Option.mem_def, Option.some.injEq, exists_eq_left']
      rw [← optimal]
      simp only [setResolution, used, Option.bind_eq_bind, Option.bind_some, beginConfiguration]
      cases setOptimalPreset platform _ device <;> rfl

theorem setDevice_isSome_iff (platform : Platform Device) (recorder : AVRecorder Device)
    (position : AVCaptureDevicePosition) :
    (setDevice platform recorder position).isSome = true ↔
      ∀ device ∈ findDevice platform position, platform.opens device = true →
        ∃ resolution ∈ recorder.resolution, Fits platform device resolution := by
  cases found : findDevice platform position with
  | none => simp [setDevice, found]
  | some device =>
      cases opens : platform.opens device with
      | false => simp [setDevice, found, opens]
      | true =>
          have optimal := setOptimalPreset_isSome_iff platform
            (removeInputs (beginConfiguration recorder)) device
          have same : (setDevice platform recorder position).isSome =
              (setOptimalPreset platform (removeInputs (beginConfiguration recorder))
                device).isSome := by
            simp only [setDevice, found, opens, if_true]
            cases setOptimalPreset platform (removeInputs (beginConfiguration recorder)) device <;>
              rfl
          simp only [same, optimal, Option.mem_def, Option.some.injEq, forall_eq', opens,
            forall_const]
          rfl

theorem start_isSome_iff (platform : Platform Device) (recorder : AVRecorder Device)
    (resolution position : String) :
    (start platform recorder resolution position).isSome = true ↔
      Configurable platform (getDevicePosition position) resolution := by
  have configured := setDevice_isSome_iff platform { recorder with resolution := some resolution }
    (getDevicePosition position)
  simp only [Option.mem_def, Option.some.injEq, exists_eq_left'] at configured
  have same : (start platform recorder resolution position).isSome =
      (configure platform recorder resolution position).isSome := by
    unfold start
    cases configure platform recorder resolution position <;> rfl
  rw [same, configure, configured]
  rfl

theorem changePosition_isSome_iff (platform : Platform Device) (recorder : AVRecorder Device)
    (position : String) :
    (changePosition platform recorder position).isSome = true ↔
      ∃ resolution ∈ recorder.resolution,
        Configurable platform (getDevicePosition position) resolution := by
  cases requested : recorder.resolution with
  | none => simp [changePosition, requested]
  | some resolution =>
      have configured := setDevice_isSome_iff platform recorder (getDevicePosition position)
      simp only [requested, Option.mem_def, Option.some.injEq, exists_eq_left'] at configured
      simp only [Option.mem_def, Option.some.injEq, exists_eq_left', Configurable]
      rw [← configured, changePosition, requested]
      rfl

end AVRecorder

end JSCameraKit
