import JSCameraKit.AVRecorder.PlaneSizes

set_option autoImplicit false

/-! What vImage is given to scale, over every run of samples and changes of size. -/

namespace JSCameraKit
namespace Capture

def PixelPlane.descriptor (plane : PixelPlane) : VImageBuffer :=
  { data := some (.plane plane.base)
    height := plane.height
    width := plane.width
    rowBytes := plane.row }

/-- A call reads the plane of the current sample and writes the plane of `buffer` that was
allocated for the current size. -/
def Scaling.Current (scaling : Scaling) : Prop :=
  scaling.source = scaling.current.descriptor ∧ scaling.Targets

def ScalesCurrent (recorder : Recorder) : Prop :=
  ∀ scaling ∈ recorder.scalings, scaling.Current

/-- A sample does not take the branch that scales. -/
def Unscaled (available : Bool) (recorder : Recorder) : Label → Prop
  | .resize _ _ => True
  | .sample sample => scales available recorder sample = false

/-- What the calls are given instead: no address to read from, and for the second plane
none to write to. -/
def Scaling.Unaddressed (scaling : Scaling) : Prop :=
  scaling.source.data = none ∧
    match scaling.function with
    | .planar8 => scaling.Targets
    | .cbCr8 => scaling.dest = scaling.source

theorem Scaling.Unaddressed.not_current {scaling : Scaling} (unaddressed : scaling.Unaddressed) :
    ¬scaling.Current := by
  intro current
  have source := unaddressed.1
  rw [current.1] at source
  cases source

private theorem step_scalings {available : Bool} {tempSize : VImageBuffer → VImageBuffer → Nat}
    {recorder next : Recorder} {label : Label} (kept : Kept recorder)
    (taken : step available tempSize recorder label = some next) :
    (Unscaled available recorder label ∧ next.scalings = recorder.scalings) ∨
      (¬Unscaled available recorder label ∧ ∃ y uv,
        next.scalings = recorder.scalings ++ [y, uv] ∧ y.Unaddressed ∧ uv.Unaddressed) := by
  cases label with
  | resize width height =>
      cases taken
      exact .inl ⟨trivial, rfl⟩
  | sample sample =>
      rcases onCapture_cases available tempSize kept sample with
        ⟨branch, after, captured, _, scaled⟩ | ⟨branch, captured⟩
      · rw [step, captured] at taken
        cases taken
        obtain ⟨y, uv, logged, ⟨yScale, yRead, yWrite⟩, ⟨uvScale, uvRead, uvWrite⟩⟩ :=
          scaled.scalings
        refine .inr ⟨?_, y, uv, logged, ⟨yRead, ?_⟩, ⟨uvRead, ?_⟩⟩
        · intro unscaled
          rw [Unscaled, branch] at unscaled
          cases unscaled
        · rw [yScale]
          exact yWrite
        · rw [uvScale]
          exact uvWrite
      · rw [step, captured] at taken
        cases taken
        exact .inl ⟨branch, rfl⟩

/-- In every run every call for pixels is made without an address to read from. -/
theorem reachable_unaddressed {available : Bool}
    {tempSize : VImageBuffer → VImageBuffer → Nat} {recorder : Recorder}
    (reached : (machine available tempSize).Reachable recorder) :
    ∀ scaling ∈ recorder.scalings, scaling.Unaddressed := by
  apply reached.invariant fun recorder => ∀ scaling ∈ recorder.scalings, scaling.Unaddressed
  · intro start starts scaling member
    cases starts
    cases member
  · intro before label next reachedBefore unaddressed taken
    rcases step_scalings (reachable_kept reachedBefore) taken with
      ⟨_, same⟩ | ⟨_, y, uv, logged, yUnaddressed, uvUnaddressed⟩
    · rw [same]
      exact unaddressed
    · intro scaling member
      rw [logged] at member
      rcases List.mem_append.mp member with earlier | last
      · exact unaddressed scaling earlier
      · simp only [List.mem_cons, List.not_mem_nil, or_false] at last
        rcases last with rfl | rfl
        · exact yUnaddressed
        · exact uvUnaddressed

/-- A run scales only current samples to current buffers where it scales none. -/
theorem scalesCurrent_iff_unscaled (available : Bool)
    (tempSize : VImageBuffer → VImageBuffer → Nat) (labels : List Label) :
    (machine available tempSize).Always ScalesCurrent .init labels ↔
      (machine available tempSize).Permits (Unscaled available) .init labels := by
  apply Machine.always_iff_permits fun recorder => Kept recorder ∧ recorder.scalings = []
  · intro recorder ⟨_, empty⟩ scaling member
    rw [empty] at member
    cases member
  · intro recorder label next ⟨kept, empty⟩ taken unscaled
    refine ⟨step_kept kept taken, ?_⟩
    rcases step_scalings kept taken with ⟨_, same⟩ | ⟨scaled, _⟩
    · exact same.trans empty
    · exact absurd unscaled scaled
  · intro recorder label next ⟨kept, _⟩ taken current
    rcases step_scalings kept taken with ⟨unscaled, _⟩ | ⟨_, y, uv, logged, unaddressed, _⟩
    · exact unscaled
    · have member : y ∈ next.scalings := by
        rw [logged]
        exact List.mem_append_right _ List.mem_cons_self
      exact absurd (current y member) unaddressed.not_current
  · exact ⟨⟨.inl rfl, .inl rfl⟩, rfl⟩

/-- The first sample that is scaled is read from no address. -/
theorem not_scalesCurrent_of_scaled :
    ¬(machine true fun _ _ => 0).Always ScalesCurrent .init
      [.resize 640 480, .sample (sample1920x1080 1920)] := by
  intro always
  have last := (always.2 _ rfl).2 _ rfl
  have read := congrArg VImageBuffer.data (last _ List.mem_cons_self).1
  cases read

end Capture
end JSCameraKit
