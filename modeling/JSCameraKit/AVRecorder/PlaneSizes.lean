import JSCameraKit.AVRecorder.Capture

set_option autoImplicit false

/-! The sizes of the planes passed to `onBuffer`, for pixel buffers in the biplanar format
that `videoSettings` asks for. -/

namespace JSCameraKit
namespace Capture

/-- A 4:2:0 buffer: the second plane has half the columns and rows, two bytes each, and the
rows of both may be padded. -/
structure Sample.Biplanar (sample : Sample) : Prop where
  evenWidth : 2 ∣ sample.y.width
  evenHeight : 2 ∣ sample.y.height
  uvWidth : sample.uv.width = sample.y.width / 2
  uvHeight : sample.uv.height = sample.y.height / 2
  yRow : sample.y.width ≤ sample.y.row
  uvRow : 2 * sample.uv.width ≤ sample.uv.row

/-- Bytes in an allocated block do not exceed it. -/
def Bytes.Fits (bytes : Bytes) : Prop :=
  ∀ allocation, bytes.bytes = .allocated allocation → bytes.count ≤ allocation.size

/-- What `onBuffer` is passed for a sample has the size that is announced and uploaded, it
was scaled if the sample had another, and it lies in the blocks allocated for it. -/
structure ExactPlanes (before after : Recorder) (sample : Sample) : Prop where
  passes : ∃ y uv, after.passed = before.passed ++ [(y, uv)] ∧
    y.count = before.width * before.height ∧
    uv.count = before.width * (before.height / 2) ∧ y.Fits ∧ uv.Fits
  scaled : (sample.y.width, sample.y.height) ≠ (before.width, before.height) →
    before.scalings.length < after.scalings.length

/-- The sample has the target size and no padding, or it has another width and another
height and padding that the truncation loses. -/
def Unpadded (available : Bool) (recorder : Recorder) (sample : Sample) : Prop :=
  (sample.y.width = recorder.width ∧ sample.y.height = recorder.height ∧
      sample.y.row = recorder.width ∧ sample.uv.row = recorder.width) ∨
    (available = true ∧ sample.y.width ≠ recorder.width ∧ sample.y.height ≠ recorder.height ∧
      (recorder.height = 0 ∨
        (sample.y.row - sample.y.width) * recorder.width < sample.y.width) ∧
      (recorder.height < 2 ∨
        (sample.uv.row - sample.y.width) * recorder.width < sample.y.width))

/-! ### The buffers -/

/-- A plane of `buffer` has a block of its size, and a destination that lies in it; its
source has no address. -/
def Ready (plane : YUVPlane) (width height : Nat) : Prop :=
  ∃ data source dest, plane.data = some data ∧ data.size = width * height ∧
    plane.source = some source ∧ source.data = none ∧
    plane.dest = some dest ∧ dest.data = some (.allocated data)

def Backed (plane : YUVPlane) : Prop :=
  plane.data = none ∨ Ready plane plane.width plane.height

structure Kept (recorder : Recorder) : Prop where
  y : Backed recorder.buffer.y
  uv : Backed recorder.buffer.uv

private theorem fillYUVBuffer_ready (tempSize : VImageBuffer → VImageBuffer → Nat) (sample : Sample)
    (recorder : Recorder) :
    Ready (fillYUVBuffer tempSize sample recorder).buffer.y recorder.width recorder.height ∧
      Ready (fillYUVBuffer tempSize sample recorder).buffer.uv recorder.width
        (recorder.height / 2) :=
  ⟨⟨_, _, _, rfl, rfl, rfl, rfl, rfl, rfl⟩, ⟨_, _, _, rfl, rfl, rfl, rfl, rfl, rfl⟩⟩

private theorem allocYUVBuffer_ready {tempSize : VImageBuffer → VImageBuffer → Nat}
    {recorder : Recorder} (kept : Kept recorder) (sample : Sample) :
    Ready (allocYUVBuffer tempSize recorder sample).buffer.y recorder.width recorder.height ∧
      Ready (allocYUVBuffer tempSize recorder sample).buffer.uv recorder.width
        (recorder.height / 2) := by
  unfold allocYUVBuffer
  split
  · exact fillYUVBuffer_ready tempSize sample (freeYUVBuffer recorder)
  · rename_i current
    simp only [not_or, not_not] at current
    obtain ⟨yWidth, yHeight, uvWidth, uvHeight, yData, uvData⟩ := current
    constructor
    · rw [yWidth, yHeight]
      exact kept.y.resolve_left yData
    · have half : recorder.height / 2 = recorder.buffer.uv.height := by omega
      rw [half, uvWidth]
      exact kept.uv.resolve_left uvData

private theorem allocYUVBuffer_kept {tempSize : VImageBuffer → VImageBuffer → Nat}
    {recorder : Recorder} (kept : Kept recorder) (sample : Sample) :
    Kept (allocYUVBuffer tempSize recorder sample) := by
  unfold allocYUVBuffer
  split
  · obtain ⟨y, uv⟩ := fillYUVBuffer_ready tempSize sample (freeYUVBuffer recorder)
    exact ⟨.inr y, .inr uv⟩
  · exact kept

private theorem allocYUVBuffer_frame (tempSize : VImageBuffer → VImageBuffer → Nat)
    (recorder : Recorder) (sample : Sample) :
    (allocYUVBuffer tempSize recorder sample).width = recorder.width ∧
      (allocYUVBuffer tempSize recorder sample).height = recorder.height ∧
      (allocYUVBuffer tempSize recorder sample).scalings = recorder.scalings ∧
      (allocYUVBuffer tempSize recorder sample).passed = recorder.passed := by
  unfold allocYUVBuffer
  split
  · exact ⟨rfl, rfl, rfl, rfl⟩
  · exact ⟨rfl, rfl, rfl, rfl⟩

/-- The destination of a call is that of its plane of `buffer`, in a block of the size
wanted for the plane. -/
def Scaling.Targets (scaling : Scaling) : Prop :=
  scaling.target.dest = some scaling.dest ∧
    ∃ data, scaling.target.data = some data ∧ data.size = scaling.width * scaling.height ∧
      scaling.dest.data = some (.allocated data)

/-- What the branch that scales leaves. -/
structure ScalesWith (recorder next : Recorder) (sample : Sample) : Prop where
  width : next.width = recorder.width
  height : next.height = recorder.height
  scalings : ∃ y uv, next.scalings = recorder.scalings ++ [y, uv] ∧
    (y.function = .planar8 ∧ y.source.data = none ∧ y.Targets) ∧
    (uv.function = .cbCr8 ∧ uv.source.data = none ∧ uv.dest = uv.source)
  passed : ∃ yData uvData,
    yData.size = recorder.width * recorder.height ∧
    uvData.size = recorder.width * (recorder.height / 2) ∧
    next.passed = recorder.passed ++
      [({ bytes := .allocated yData
          count := Capture.scaled sample.y.row recorder.width sample.y.width *
            Capture.scaled sample.y.height recorder.height sample.y.height },
        { bytes := .allocated uvData
          count := Capture.scaled sample.uv.row recorder.width sample.y.width *
            Capture.scaled sample.uv.height recorder.height sample.y.height })]

private theorem scale_spec {recorder : Recorder} (sample : Sample)
    (y : Ready recorder.buffer.y recorder.width recorder.height)
    (uv : Ready recorder.buffer.uv recorder.width (recorder.height / 2)) :
    ∃ next, scale recorder sample = some next ∧ next.buffer = recorder.buffer ∧
      ScalesWith recorder next sample := by
  obtain ⟨yData, ySource, yDest, yHeld, ySize, yFrom, noAddress, yTo, yInside⟩ := y
  obtain ⟨uvData, uvSource, uvDest, uvHeld, uvSize, uvFrom, uvNoAddress, _, _⟩ := uv
  unfold scale
  rw [yHeld, yFrom, yTo, uvHeld, uvFrom]
  refine ⟨_, rfl, rfl, ⟨rfl, rfl, ?_, ?_⟩⟩
  · exact ⟨_, _, rfl, ⟨rfl, noAddress, yTo, yData, yHeld, ySize, yInside⟩,
      ⟨rfl, uvNoAddress, rfl⟩⟩
  · exact ⟨yData, uvData, ySize, uvSize, rfl⟩

theorem onCapture_cases (available : Bool) (tempSize : VImageBuffer → VImageBuffer → Nat)
    {recorder : Recorder} (kept : Kept recorder) (sample : Sample) :
    (scales available recorder sample = true ∧
      ∃ next, onCapture available tempSize recorder sample = some next ∧ Kept next ∧
        ScalesWith recorder next sample) ∨
    (scales available recorder sample = false ∧
      onCapture available tempSize recorder sample = some (pass recorder sample)) := by
  cases branch : scales available recorder sample with
  | false =>
      refine .inr ⟨rfl, ?_⟩
      rw [onCapture, branch, if_neg Bool.false_ne_true]
  | true =>
      refine .inl ⟨rfl, ?_⟩
      rw [onCapture, if_pos branch]
      obtain ⟨width, height, scalings, passed⟩ := allocYUVBuffer_frame tempSize recorder sample
      have allocated : Kept (allocYUVBuffer tempSize recorder sample) :=
        allocYUVBuffer_kept kept sample
      have ready : Ready (allocYUVBuffer tempSize recorder sample).buffer.y recorder.width
          recorder.height ∧ _ := allocYUVBuffer_ready kept sample
      rw [← width, ← height] at ready
      obtain ⟨next, taken, buffer, scaled⟩ := scale_spec sample ready.1 ready.2
      refine ⟨next, taken, ?_, ?_, ?_, ?_, ?_⟩
      · exact ⟨buffer ▸ allocated.y, buffer ▸ allocated.uv⟩
      · exact scaled.width.trans width
      · exact scaled.height.trans height
      · rw [← scalings]
        exact scaled.scalings
      · rw [← width, ← height, ← passed]
        exact scaled.passed

theorem step_kept {available : Bool} {tempSize : VImageBuffer → VImageBuffer → Nat}
    {recorder next : Recorder} {label : Label} (kept : Kept recorder)
    (taken : step available tempSize recorder label = some next) : Kept next := by
  cases label with
  | resize width height =>
      cases taken
      exact ⟨kept.y, kept.uv⟩
  | sample sample =>
      rcases onCapture_cases available tempSize kept sample with
        ⟨_, after, captured, keptAfter, _⟩ | ⟨_, captured⟩
      · rw [step, captured] at taken
        cases taken
        exact keptAfter
      · rw [step, captured] at taken
        cases taken
        exact ⟨kept.y, kept.uv⟩

theorem reachable_kept {available : Bool} {tempSize : VImageBuffer → VImageBuffer → Nat}
    {recorder : Recorder} (reached : (machine available tempSize).Reachable recorder) :
    Kept recorder := by
  apply reached.invariant Kept
  · intro start starts
    cases starts
    exact ⟨.inl rfl, .inl rfl⟩
  · intro before label next _ kept taken
    exact step_kept kept taken

/-! ### The sizes -/

/-- A plane of the target's rows has the target's columns where a row of it has. -/
theorem mul_eq_mul_iff {columns width rows : Nat} :
    columns * rows = width * rows ↔ rows = 0 ∨ columns = width := by
  rw [mul_eq_mul_right_iff]
  exact Or.comm

/-- The unscaled branch passes the planes as they are: they must have the size already. -/
theorem pass_iff {recorder : Recorder} {sample : Sample} (geometry : sample.Biplanar) :
    ExactPlanes recorder (pass recorder sample) sample ↔
      sample.y.width = recorder.width ∧ sample.y.height = recorder.height ∧
        sample.y.row = recorder.width ∧ sample.uv.row = recorder.width := by
  have evenHeight := geometry.evenHeight
  have uvHeight := geometry.uvHeight
  have positive := sample.height_pos
  constructor
  · intro exact
    have same : (sample.y.width, sample.y.height) = (recorder.width, recorder.height) := by
      apply Classical.byContradiction
      intro differs
      exact Nat.lt_irrefl _ (exact.scaled differs)
    obtain ⟨width, height⟩ := Prod.mk.inj same
    obtain ⟨y, uv, planes, ySize, uvSize, _⟩ := exact.passes
    have last := List.append_cancel_left planes
    cases last
    refine ⟨width, height, ?_, ?_⟩
    · rw [height] at ySize
      exact (mul_eq_mul_iff.mp ySize).resolve_left (by omega)
    · rw [uvHeight, height] at uvSize
      exact (mul_eq_mul_iff.mp uvSize).resolve_left (by omega)
  · rintro ⟨width, height, yRow, uvRow⟩
    refine ⟨⟨_, _, rfl, ?_, ?_, ?_, ?_⟩, ?_⟩
    · rw [yRow, height]
    · rw [uvRow, uvHeight, height]
    · intro allocation other
      cases other
    · intro allocation other
      cases other
    · intro differs
      exact absurd (Prod.ext width height) differs

private theorem scaled_iff {recorder : Recorder} {sample : Sample} (geometry : sample.Biplanar)
    {next : Recorder} (scaled : ScalesWith recorder next sample) :
    ExactPlanes recorder next sample ↔
      (recorder.height = 0 ∨
          (sample.y.row - sample.y.width) * recorder.width < sample.y.width) ∧
        (recorder.height < 2 ∨
          (sample.uv.row - sample.y.width) * recorder.width < sample.y.width) := by
  have evenWidth := geometry.evenWidth
  have uvCovers : sample.y.width ≤ sample.uv.row := by
    have half := geometry.uvWidth
    have covers := geometry.uvRow
    omega
  obtain ⟨yData, uvData, yBlock, uvBlock, passed⟩ := scaled.passed
  rw [scaled_self sample.height_pos, geometry.uvHeight,
    scaled_half sample.height_pos geometry.evenHeight] at passed
  have yExact : _ ↔ _ :=
    scaled_row_eq_iff recorder.width sample.width_pos geometry.yRow
  have uvExact : _ ↔ _ :=
    scaled_row_eq_iff recorder.width sample.width_pos uvCovers
  constructor
  · intro exact
    obtain ⟨y, uv, planes, ySize, uvSize, _⟩ := exact.passes
    rw [passed] at planes
    have last := List.append_cancel_left planes
    cases last
    constructor
    · rw [← yExact]
      exact mul_eq_mul_iff.mp ySize
    · rw [← uvExact]
      exact (mul_eq_mul_iff.mp uvSize).imp_left (fun none => by omega)
  · rintro ⟨yFits, uvFits⟩
    have ySize := mul_eq_mul_iff.mpr (yFits.imp_right yExact.mpr)
    have uvSize := mul_eq_mul_iff.mpr
      ((uvFits.imp_left fun small => (by omega : recorder.height / 2 = 0)).imp_right uvExact.mpr)
    refine ⟨⟨_, _, passed, ySize, uvSize, ?_, ?_⟩, ?_⟩
    · intro allocation held
      cases held
      exact Nat.le_of_eq (ySize.trans yBlock.symm)
    · intro allocation held
      cases held
      exact Nat.le_of_eq (uvSize.trans uvBlock.symm)
    · intro _
      obtain ⟨y, uv, logged, _⟩ := scaled.scalings
      rw [logged, List.length_append]
      exact Nat.lt_add_of_pos_right (Nat.succ_pos 1)

/-- Whatever was captured before, a sample is passed on, and it is passed on with the exact
sizes for just the samples without padding that would show. -/
theorem exactPlanes_iff_unpadded (available : Bool)
    (tempSize : VImageBuffer → VImageBuffer → Nat) {recorder : Recorder}
    (reached : (machine available tempSize).Reachable recorder) {sample : Sample}
    (geometry : sample.Biplanar) :
    ∃ next, onCapture available tempSize recorder sample = some next ∧
      (ExactPlanes recorder next sample ↔ Unpadded available recorder sample) := by
  rcases onCapture_cases available tempSize (reachable_kept reached) sample with
    ⟨branch, next, captured, _, scaled⟩ | ⟨branch, captured⟩
  · refine ⟨next, captured, (scaled_iff geometry scaled).trans ?_⟩
    simp only [scales, Bool.and_eq_true, decide_eq_true_eq] at branch
    obtain ⟨enabled, width, height⟩ := branch
    constructor
    · intro small
      exact .inr ⟨enabled, width, height, small⟩
    · rintro (⟨same, _⟩ | ⟨_, _, _, small⟩)
      · exact absurd same width
      · exact small
  · refine ⟨_, captured, (pass_iff geometry).trans ?_⟩
    simp only [scales, Bool.and_eq_false_iff, decide_eq_false_iff_not] at branch
    constructor
    · intro same
      exact .inl same
    · rintro (same | ⟨enabled, width, height, _⟩)
      · exact same
      · rcases branch with disabled | equal
        · rw [enabled] at disabled
          cases disabled
        · exact absurd ⟨width, height⟩ equal

def recorder640x480 : Recorder := { Recorder.init with width := 640, height := 480 }

private theorem reachable_recorder640x480 (tempSize : VImageBuffer → VImageBuffer → Nat) :
    (machine true tempSize).Reachable recorder640x480 :=
  Machine.Reachable.run [.resize 640 480] (.initial rfl) rfl

/-- 1920 by 1080 pixels, with `row` bytes in each row of both planes. -/
def sample1920x1080 (row : Nat) : Sample :=
  { y := { base := 0, width := 1920, height := 1080, row := row }
    uv := { base := 1, width := 960, height := 540, row := row }
    width_pos := Nat.succ_pos 1919
    height_pos := Nat.succ_pos 1079 }

private theorem sample1920x1080_biplanar {row : Nat} (covers : 1920 ≤ row) :
    (sample1920x1080 row).Biplanar :=
  { evenWidth := ⟨960, rfl⟩
    evenHeight := ⟨540, rfl⟩
    uvWidth := by simp [sample1920x1080]
    uvHeight := by simp [sample1920x1080]
    yRow := covers
    uvRow := covers }

/-- Without padding a sample is scaled to the exact sizes. -/
theorem exactPlanes_of_noPadding :
    ∃ next, onCapture true (fun _ _ => 0) recorder640x480 (sample1920x1080 1920) = some next ∧
      ExactPlanes recorder640x480 next (sample1920x1080 1920) := by
  obtain ⟨next, captured, iff⟩ := exactPlanes_iff_unpadded true (fun _ _ => 0)
    (reachable_recorder640x480 _) (sample1920x1080_biplanar (Nat.le_refl 1920))
  exact ⟨next, captured, iff.mpr (.inr ⟨rfl, by decide, by decide, by decide, by decide⟩)⟩

/-- With 64 bytes of padding, rows of 661 bytes are passed, past the end of the block. -/
theorem not_exactPlanes_of_padding :
    ∃ next, onCapture true (fun _ _ => 0) recorder640x480 (sample1920x1080 1984) = some next ∧
      ¬ExactPlanes recorder640x480 next (sample1920x1080 1984) := by
  have kept := reachable_kept (reachable_recorder640x480 fun _ _ => 0)
  rcases onCapture_cases true (fun _ _ => 0) kept (sample1920x1080 1984) with
    ⟨_, next, captured, _, scaled⟩ | ⟨branch, _⟩
  · refine ⟨next, captured, ?_⟩
    intro exact
    have small := (scaled_iff (sample1920x1080_biplanar (by decide)) scaled).mp exact
    exact absurd small.1 (by decide)
  · exact absurd branch (by decide)

end Capture
end JSCameraKit
