import Mathlib.Data.List.Perm.Basic

set_option autoImplicit false

/-! The session presets of `ConstraintsManager` under iOS, and the choice of one
that a device supports. What AVFoundation answers is a parameter, `Platform`. -/

namespace JSCameraKit

inductive AVCaptureDevicePosition
  | back
  | front
  deriving DecidableEq

/-- The presets the source names; `presetHigh` is the one a new session has. -/
inductive AVCaptureSessionPreset
  | presetHigh
  | preset352x288
  | preset640x480
  | preset1280x720
  | preset1920x1080
  | preset3840x2160
  deriving DecidableEq

structure Resolution where
  width : Nat
  height : Nat
  deriving DecidableEq

namespace ConstraintsManager

def getPresets : List (AVCaptureSessionPreset × Resolution) :=
  [(.preset352x288, { width := 352, height := 288 }),
    (.preset640x480, { width := 640, height := 480 }),
    (.preset1280x720, { width := 1280, height := 720 }),
    (.preset1920x1080, { width := 1920, height := 1080 })]

/-- A lookup in the dictionary `presets`. -/
def presets (preset : AVCaptureSessionPreset) : Option Resolution :=
  getPresets.lookup preset

theorem mem_of_presets {preset : AVCaptureSessionPreset} {resolution : Resolution}
    (found : presets preset = some resolution) : (preset, resolution) ∈ getPresets := by
  obtain ⟨before, after, split, _⟩ := List.lookup_eq_some_iff.mp found
  rw [split]
  exact List.mem_append_right before List.mem_cons_self

theorem presets_even {preset : AVCaptureSessionPreset} {resolution : Resolution}
    (found : presets preset = some resolution) :
    2 ∣ resolution.width ∧ 2 ∣ resolution.height := by
  have listed := mem_of_presets found
  simp only [getPresets, List.mem_cons, Prod.mk.injEq, List.not_mem_nil, or_false] at listed
  rcases listed with ⟨_, rfl⟩ | ⟨_, rfl⟩ | ⟨_, rfl⟩ | ⟨_, rfl⟩ <;> decide

end ConstraintsManager

/-- What the device and the system answer. -/
structure Platform (Device : Type) where
  position : Device → AVCaptureDevicePosition
  supportsAVCaptureSessionPreset : Device → AVCaptureSessionPreset → Bool
  /-- Whether `AVCaptureDeviceInput(device:)` succeeds. -/
  opens : Device → Bool
  /-- The wide angle camera that iOS 10 has at a position; `none` before iOS 10. -/
  defaultDevice : Option (AVCaptureDevicePosition → Option Device)
  /-- The video devices listed before iOS 10. -/
  devices : Option (List Device)
  defaultDevice_position : ∀ choose, defaultDevice = some choose →
    ∀ side device, choose side = some device → position device = side
  /-- The order in which a walk over the dictionary `presets` meets its entries. -/
  presetOrder : List (AVCaptureSessionPreset × Resolution)
  presetOrder_perm : presetOrder.Perm ConstraintsManager.getPresets

/-- An iOS 10 device with a camera on each side, neither of which records 2160 lines. -/
def Platform.twoSided : Platform AVCaptureDevicePosition :=
  { position := id
    supportsAVCaptureSessionPreset := fun _ preset => preset ≠ .preset3840x2160
    opens := fun _ => true
    defaultDevice := some some
    devices := none
    defaultDevice_position := by
      intro choose chosen side device found
      cases chosen
      exact (Option.some.inj found).symm
    presetOrder := ConstraintsManager.getPresets
    presetOrder_perm := List.Perm.refl _ }

namespace ConstraintsManager

variable {Device : Type}

/-- `none` where a preset is missing from the dictionary and the unwrapping fails. -/
def getPerfectPreset (platform : Platform Device)
    (minPreset maxPreset optimal : AVCaptureSessionPreset) (device : Device) :
    Option AVCaptureSessionPreset := do
  let min ← presets minPreset
  let max ← presets maxPreset
  let minSize := min.width * min.height
  let maxSize := max.width * max.height
  if platform.supportsAVCaptureSessionPreset device optimal then some optimal
  else
    let fits := fun (entry : AVCaptureSessionPreset × Resolution) =>
      decide (entry.2.width * entry.2.height ≤ maxSize) &&
        decide (minSize ≤ entry.2.width * entry.2.height) &&
        platform.supportsAVCaptureSessionPreset device entry.1
    match platform.presetOrder.find? fits with
    | some entry => some entry.1
    | none => some .preset640x480

theorem getPerfectPreset_supported {platform : Platform Device}
    {minPreset maxPreset optimal : AVCaptureSessionPreset} {device : Device}
    {min max : Resolution} (minKnown : presets minPreset = some min)
    (maxKnown : presets maxPreset = some max)
    (supported : platform.supportsAVCaptureSessionPreset device optimal = true) :
    getPerfectPreset platform minPreset maxPreset optimal device = some optimal := by
  simp [getPerfectPreset, minKnown, maxKnown, supported]

theorem getPerfectPreset_unsupported {platform : Platform Device}
    {minPreset maxPreset optimal : AVCaptureSessionPreset} {device : Device}
    {min max : Resolution} (minKnown : presets minPreset = some min)
    (maxKnown : presets maxPreset = some max)
    (unsupported : platform.supportsAVCaptureSessionPreset device optimal = false) :
    ∃ preset resolution,
      getPerfectPreset platform minPreset maxPreset optimal device = some preset ∧
        presets preset = some resolution := by
  simp only [getPerfectPreset, minKnown, maxKnown, unsupported, Option.bind_eq_bind,
    Option.bind_some, Bool.false_eq_true, if_false]
  split
  · rename_i entry found
    have listed := platform.presetOrder_perm.subset (List.mem_of_find?_eq_some found)
    refine ⟨entry.1, entry.2, rfl, ?_⟩
    simp only [getPresets, List.mem_cons, List.not_mem_nil, or_false] at listed
    rcases listed with rfl | rfl | rfl | rfl <;> rfl
  · exact ⟨_, _, rfl, rfl⟩

end ConstraintsManager

end JSCameraKit
