import Mathlib.Algebra.Order.Floor.Semifield
import Mathlib.Data.Rat.Floor
import JSCameraKit.Library.Machine

set_option autoImplicit false

/-! `onCapture` and the buffers that it keeps from one sample to the next. A `Double` is the
rational that it stands for. The calls of `vImageScale_Planar8` and `vImageScale_CbCr8` for
pixels and the planes passed to `onBuffer` are logged; the size of a temporary buffer, which
vImage chooses, is a parameter. -/

namespace JSCameraKit
namespace Capture

structure PixelPlane where
  base : Nat
  width : Nat
  height : Nat
  row : Nat
  deriving DecidableEq

/-- A captured pixel buffer; it has pixels. -/
structure Sample where
  y : PixelPlane
  uv : PixelPlane
  width_pos : 0 < y.width
  height_pos : 0 < y.height
  deriving DecidableEq

/-- A block of `malloc`, by number. -/
structure Allocation where
  number : Nat
  size : Nat
  deriving DecidableEq

inductive Address
  | plane (base : Nat)
  | allocated (allocation : Allocation)
  deriving DecidableEq

structure VImageBuffer where
  data : Option Address
  height : Nat
  width : Nat
  rowBytes : Nat
  deriving DecidableEq

structure YUVPlane where
  width : Nat
  height : Nat
  data : Option Allocation
  temp : Option Allocation
  source : Option VImageBuffer
  dest : Option VImageBuffer
  deriving DecidableEq

structure YUVBuffer where
  y : YUVPlane
  uv : YUVPlane
  deriving DecidableEq

inductive Scale
  | planar8
  | cbCr8
  deriving DecidableEq

/-- A call that scales pixels, with the plane of the sample it is made for, the size
wanted for that plane and the plane of `buffer` that is to take it. -/
structure Scaling where
  function : Scale
  source : VImageBuffer
  dest : VImageBuffer
  temp : Option Allocation
  current : PixelPlane
  width : Nat
  height : Nat
  target : YUVPlane
  deriving DecidableEq

/-- `Data(bytesNoCopy:count:)`. -/
structure Bytes where
  bytes : Address
  count : Nat
  deriving DecidableEq

structure Recorder where
  width : Nat
  height : Nat
  buffer : YUVBuffer
  mallocs : Nat
  scalings : List Scaling
  passed : List (Bytes × Bytes)
  deriving DecidableEq

def YUVPlane.init : YUVPlane :=
  { width := 0, height := 0, data := none, temp := none, source := none, dest := none }

def Recorder.init : Recorder :=
  { width := 0
    height := 0
    buffer := { y := .init, uv := .init }
    mallocs := 0
    scalings := []
    passed := [] }

/-- A length under the factor that takes `extent` to `target`, as `Int` truncates it. -/
def scaled (length target extent : Nat) : Nat :=
  ⌊(length : ℚ) * ((target : ℚ) / (extent : ℚ))⌋₊

/-- What is freed is not named again. -/
def freeYUVBuffer (recorder : Recorder) : Recorder :=
  { recorder with buffer := { y := .init, uv := .init } }

/-- The statements of `allocYUVBuffer` behind `freeYUVBuffer()`. -/
def fillYUVBuffer (tempSize : VImageBuffer → VImageBuffer → Nat) (sample : Sample)
    (recorder : Recorder) : Recorder :=
  let yData : Allocation :=
    { number := recorder.mallocs, size := recorder.width * recorder.height }
  let uvData : Allocation :=
    { number := recorder.mallocs + 1, size := recorder.width * (recorder.height / 2) }
  let ySource : VImageBuffer :=
    { data := none
      height := sample.y.height
      width := sample.y.width
      rowBytes := sample.y.row }
  let yDest : VImageBuffer :=
    { data := some (.allocated yData)
      height := scaled sample.y.height recorder.height sample.y.height
      width := scaled sample.y.width recorder.width sample.y.width
      rowBytes := scaled sample.y.row recorder.width sample.y.width }
  let uvSource : VImageBuffer :=
    { data := none
      height := sample.uv.height
      width := sample.uv.width
      rowBytes := sample.uv.row }
  let uvDest : VImageBuffer :=
    { data := some (.allocated uvData)
      height := scaled sample.uv.height recorder.height sample.y.height
      width := scaled sample.uv.width recorder.width sample.y.width
      rowBytes := scaled sample.uv.row recorder.width sample.y.width }
  { recorder with
    buffer :=
      { y :=
          { width := recorder.width
            height := recorder.height
            data := some yData
            temp := some { number := recorder.mallocs + 2, size := tempSize ySource yDest }
            source := some ySource
            dest := some yDest }
        uv :=
          { width := recorder.width
            height := recorder.height / 2
            data := some uvData
            temp := some { number := recorder.mallocs + 3, size := tempSize uvSource uvDest }
            source := some uvSource
            dest := some uvDest } }
    mallocs := recorder.mallocs + 4 }

/-- The buffers are built again for another target and kept for another geometry. -/
def allocYUVBuffer (tempSize : VImageBuffer → VImageBuffer → Nat) (recorder : Recorder)
    (sample : Sample) : Recorder :=
  if recorder.width ≠ recorder.buffer.y.width ∨ recorder.height ≠ recorder.buffer.y.height ∨
      recorder.width ≠ recorder.buffer.uv.width ∨
      recorder.height ≠ recorder.buffer.uv.height * 2 ∨
      recorder.buffer.y.data = none ∨ recorder.buffer.uv.data = none then
    fillYUVBuffer tempSize sample (freeYUVBuffer recorder)
  else recorder

/-- The condition of the branch that scales; `available` is that of iOS 10. -/
def scales (available : Bool) (recorder : Recorder) (sample : Sample) : Bool :=
  available && decide (sample.y.width ≠ recorder.width ∧ sample.y.height ≠ recorder.height)

/-- The rest of that branch. `vImageScale_CbCr8` is given its source as the destination. -/
def scale (recorder : Recorder) (sample : Sample) : Option Recorder := do
  let ySource ← recorder.buffer.y.source
  let yDest ← recorder.buffer.y.dest
  let uvSource ← recorder.buffer.uv.source
  let yData ← recorder.buffer.y.data
  let uvData ← recorder.buffer.uv.data
  let destYRow := scaled sample.y.row recorder.width sample.y.width
  let destUVRow := scaled sample.uv.row recorder.width sample.y.width
  let destYH := scaled sample.y.height recorder.height sample.y.height
  let destUVH := scaled sample.uv.height recorder.height sample.y.height
  some
    { recorder with
      scalings := recorder.scalings ++
        [{ function := .planar8
           source := ySource
           dest := yDest
           temp := recorder.buffer.y.temp
           current := sample.y
           width := recorder.width
           height := recorder.height
           target := recorder.buffer.y },
          { function := .cbCr8
            source := uvSource
            dest := uvSource
            temp := recorder.buffer.uv.temp
            current := sample.uv
            width := recorder.width
            height := recorder.height / 2
            target := recorder.buffer.uv }]
      passed := recorder.passed ++
        [({ bytes := .allocated yData, count := destYRow * destYH },
          { bytes := .allocated uvData, count := destUVRow * destUVH })] }

/-- The other branch passes the planes as they are. -/
def pass (recorder : Recorder) (sample : Sample) : Recorder :=
  { recorder with
    passed := recorder.passed ++
      [({ bytes := .plane sample.y.base, count := sample.y.row * sample.y.height },
        { bytes := .plane sample.uv.base, count := sample.uv.row * sample.uv.height })] }

def onCapture (available : Bool) (tempSize : VImageBuffer → VImageBuffer → Nat)
    (recorder : Recorder) (sample : Sample) : Option Recorder :=
  if scales available recorder sample then
    scale (allocYUVBuffer tempSize recorder sample) sample
  else some (pass recorder sample)

/-- `setOptimalPreset` sets the size, the capture queue brings samples. -/
inductive Label
  | resize (width height : Nat)
  | sample (sample : Sample)
  deriving DecidableEq

def step (available : Bool) (tempSize : VImageBuffer → VImageBuffer → Nat)
    (recorder : Recorder) : Label → Option Recorder
  | .resize width height => some { recorder with width := width, height := height }
  | .sample sample => onCapture available tempSize recorder sample

def machine (available : Bool) (tempSize : VImageBuffer → VImageBuffer → Nat) :
    Machine Recorder Label :=
  { initial := fun recorder => recorder = .init
    step := step available tempSize }

/-! ### Lengths under a factor -/

private theorem scaled_eq (length target extent : Nat) :
    scaled length target extent = length * target / extent := by
  have product : (length : ℚ) * ((target : ℚ) / (extent : ℚ)) =
      ((length * target : ℕ) : ℚ) / (extent : ℚ) := by
    rw [Nat.cast_mul, mul_div_assoc]
  rw [scaled, product, Nat.floor_div_eq_div]

theorem scaled_self {extent : Nat} (positive : 0 < extent) (target : Nat) :
    scaled extent target extent = target := by
  rw [scaled_eq, Nat.mul_div_cancel_left target positive]

theorem scaled_half {extent : Nat} (positive : 0 < extent) (even : 2 ∣ extent) (target : Nat) :
    scaled (extent / 2) target extent = target / 2 := by
  obtain ⟨half, rfl⟩ := even
  have pos : 0 < half := by omega
  rw [scaled_eq, Nat.mul_div_cancel_left half (by decide), Nat.mul_comm 2 half,
    Nat.mul_div_mul_left _ _ pos]

/-- A row is scaled to at least the target, and to no more where its padding is small. -/
theorem scaled_row_eq_iff {row extent : Nat} (target : Nat) (positive : 0 < extent)
    (covers : extent ≤ row) :
    scaled row target extent = target ↔ (row - extent) * target < extent := by
  obtain ⟨padding, rfl⟩ := Nat.exists_eq_add_of_le covers
  rw [scaled_eq, Nat.add_sub_cancel_left, Nat.add_mul, Nat.mul_comm extent target,
    Nat.mul_comm target extent, Nat.mul_add_div positive]
  rw [Nat.add_eq_left, Nat.div_eq_zero_iff]
  omega

end Capture
end JSCameraKit
