import JSCameraKit.AVRecorder.ConstraintsManager
import Mathlib.Data.List.AList

set_option autoImplicit false

/-! `getPerfectPreset` under iOS over any dictionary of presets: the loop takes the first entry
that the device supports and that is in range, in whatever order the dictionary has. -/

namespace JSCameraKit
namespace PresetChoice

/-- A dictionary, its entries in the order in which a loop meets them. -/
abbrev Presets (Preset : Type) : Type :=
  AList fun _ : Preset => Resolution

abbrev Entry (Preset : Type) : Type :=
  (_ : Preset) × Resolution

def pixels (res : Resolution) : Nat :=
  res.width * res.height

def Fits (res : Resolution) : Prop :=
  pixels res < 0x8000000000000000

instance : DecidablePred Fits :=
  fun res => inferInstanceAs (Decidable (pixels res < 0x8000000000000000))

/-- `res.width * res.height`, a trap where an `Int` does not hold the product. -/
def size (res : Resolution) : Option Nat :=
  if Fits res then some (pixels res) else none

variable {Preset : Type}

def loop (supportsAVCaptureSessionPreset : Preset → Bool) (minSize maxSize : Nat)
    (preset640x480 : Preset) : List (Entry Preset) → Option Preset
  | [] => some preset640x480
  | ⟨preset, res⟩ :: rest =>
      match size res with
      | none => none
      | some size =>
          if (size ≤ maxSize ∧ minSize ≤ size) ∧ supportsAVCaptureSessionPreset preset = true then
            some preset
          else loop supportsAVCaptureSessionPreset minSize maxSize preset640x480 rest

/-- `none` is a trap. -/
def getPerfectPreset [DecidableEq Preset] (presets : Presets Preset) (preset640x480 : Preset)
    (supportsAVCaptureSessionPreset : Preset → Bool) (minPreset maxPreset optimal : Preset) :
    Option Preset := do
  let min ← presets.lookup minPreset
  let max ← presets.lookup maxPreset
  let minSize ← size min
  let maxSize ← size max
  if supportsAVCaptureSessionPreset optimal then some optimal
  else loop supportsAVCaptureSessionPreset minSize maxSize preset640x480 presets.entries

def Candidate (supports : Preset → Bool) (min max : Resolution) (entry : Entry Preset) : Prop :=
  (pixels entry.2 ≤ pixels max ∧ pixels min ≤ pixels entry.2) ∧ supports entry.1 = true

instance (supports : Preset → Bool) (min max : Resolution) :
    DecidablePred (Candidate supports min max) :=
  fun entry => inferInstanceAs (Decidable
    ((pixels entry.2 ≤ pixels max ∧ pixels min ≤ pixels entry.2) ∧ supports entry.1 = true))

/-- The optimal preset where the device supports it, else a largest candidate. -/
def Best (presets : Presets Preset) (supports : Preset → Bool) (min max : Resolution)
    (optimal : Preset) (result : Option Preset) : Prop :=
  ∃ preset, result = some preset ∧
    if supports optimal then preset = optimal
    else ∃ res, ⟨preset, res⟩ ∈ presets.entries ∧ Candidate supports min max ⟨preset, res⟩ ∧
      ∀ other ∈ presets.entries, Candidate supports min max other → pixels other.2 ≤ pixels res

/-- In this order no candidate is larger than the one that comes first. -/
def LargestFirst (presets : Presets Preset) (supports : Preset → Bool) (min max : Resolution)
    (optimal : Preset) : Prop :=
  Fits min ∧ Fits max ∧ (supports optimal = true ∨ ∃ before entry after,
    presets.entries = before ++ entry :: after ∧
      (∀ other ∈ before, Fits other.2 ∧ ¬Candidate supports min max other) ∧
      Candidate supports min max entry ∧
      ∀ other ∈ after, Candidate supports min max other → pixels other.2 ≤ pixels entry.2)

def OneSize (presets : Presets Preset) (supports : Preset → Bool) (min max : Resolution)
    (optimal : Preset) : Prop :=
  Fits min ∧ Fits max ∧ (supports optimal = true ∨ (∀ entry ∈ presets.entries, Fits entry.2) ∧
    ∃ entry ∈ presets.entries, Candidate supports min max entry ∧
      ∀ other ∈ presets.entries, Candidate supports min max other →
        pixels other.2 = pixels entry.2)

/-! ### The loop -/

variable {supports : Preset → Bool} {min max : Resolution} {preset640x480 optimal : Preset}

private theorem size_of_fits {res : Resolution} (fits : Fits res) : size res = some (pixels res) :=
  if_pos fits

private theorem size_of_not_fits {res : Resolution} (large : ¬Fits res) : size res = none :=
  if_neg large

theorem Candidate.fits {entry : Entry Preset} (candidate : Candidate supports min max entry)
    (maxFits : Fits max) : Fits entry.2 :=
  Nat.lt_of_le_of_lt candidate.1.1 maxFits

private theorem loop_append {before : List (Entry Preset)}
    (past : ∀ other ∈ before, Fits other.2 ∧ ¬Candidate supports min max other)
    (rest : List (Entry Preset)) :
    loop supports (pixels min) (pixels max) preset640x480 (before ++ rest) =
      loop supports (pixels min) (pixels max) preset640x480 rest := by
  induction before with
  | nil => rfl
  | cons entry before ih =>
      obtain ⟨here, later⟩ := List.forall_mem_cons.mp past
      rw [List.cons_append, loop, size_of_fits here.1]
      exact (if_neg here.2).trans (ih later)

private theorem loop_of_candidate {entry : Entry Preset}
    (candidate : Candidate supports min max entry)
    (maxFits : Fits max) (rest : List (Entry Preset)) :
    loop supports (pixels min) (pixels max) preset640x480 (entry :: rest) = some entry.1 := by
  rw [loop, size_of_fits (candidate.fits maxFits)]
  exact if_pos candidate

private theorem loop_of_large {entry : Entry Preset} (large : ¬Fits entry.2)
    (rest : List (Entry Preset)) :
    loop supports (pixels min) (pixels max) preset640x480 (entry :: rest) = none := by
  rw [loop, size_of_not_fits large]

/-- The loop goes past all entries, or ends at the first that is a candidate or traps. -/
theorem entries_cases (supports : Preset → Bool) (min max : Resolution)
    (entries : List (Entry Preset)) :
    (∀ entry ∈ entries, Fits entry.2 ∧ ¬Candidate supports min max entry) ∨
      ∃ before entry after, entries = before ++ entry :: after ∧
        (∀ other ∈ before, Fits other.2 ∧ ¬Candidate supports min max other) ∧
        (Fits entry.2 → Candidate supports min max entry) := by
  induction entries with
  | nil => exact .inl (List.forall_mem_nil _)
  | cons entry rest ih =>
      by_cases ends : Fits entry.2 → Candidate supports min max entry
      · exact .inr ⟨[], entry, rest, rfl, List.forall_mem_nil _, ends⟩
      · obtain ⟨fits, not⟩ := Classical.not_imp.mp ends
        rcases ih with all | ⟨before, later, after, rfl, past, ends⟩
        · exact .inl (List.forall_mem_cons.mpr ⟨⟨fits, not⟩, all⟩)
        · exact .inr ⟨entry :: before, later, after, rfl,
            List.forall_mem_cons.mpr ⟨⟨fits, not⟩, past⟩, ends⟩

/-! ### The table of the source -/

/-- The dictionary of the source, in the order in which a loop meets its entries. -/
def sourcePresets (order : List (AVCaptureSessionPreset × Resolution))
    (perm : order.Perm ConstraintsManager.getPresets) : Presets AVCaptureSessionPreset where
  entries := order.map Prod.toSigma
  nodupKeys := by
    have keys : ((order.map Prod.toSigma).map Sigma.fst).Perm
        (ConstraintsManager.getPresets.map Prod.fst) := by
      rw [List.map_map, Prod.fst_comp_toSigma]
      exact perm.map Prod.fst
    exact keys.nodup_iff.mpr (by decide)

private theorem sourcePresets_lookup {order : List (AVCaptureSessionPreset × Resolution)}
    (perm : order.Perm ConstraintsManager.getPresets) (preset : AVCaptureSessionPreset) :
    (sourcePresets order perm).lookup preset = ConstraintsManager.presets preset := by
  have same : (sourcePresets order perm).lookup preset =
      (sourcePresets ConstraintsManager.getPresets (.refl _)).lookup preset :=
    AList.perm_lookup (perm.map Prod.toSigma)
  rw [same]
  cases preset <;> rfl

private theorem getPresets_fits : ∀ entry ∈ ConstraintsManager.getPresets, Fits entry.2 := by
  decide

private theorem presets_fits {preset : AVCaptureSessionPreset} {res : Resolution}
    (found : ConstraintsManager.presets preset = some res) : Fits res :=
  getPresets_fits (preset, res) (ConstraintsManager.mem_of_presets found)

private theorem loop_eq_find (supports : AVCaptureSessionPreset → Bool) (minSize maxSize : Nat)
    (otherwise : AVCaptureSessionPreset) {order : List (AVCaptureSessionPreset × Resolution)}
    (fit : ∀ entry ∈ order, Fits entry.2) :
    loop supports minSize maxSize otherwise (order.map Prod.toSigma) =
      match order.find? fun entry => decide (entry.2.width * entry.2.height ≤ maxSize) &&
        decide (minSize ≤ entry.2.width * entry.2.height) && supports entry.1 with
      | some entry => some entry.1
      | none => some otherwise := by
  induction order with
  | nil => rfl
  | cons entry rest ih =>
      obtain ⟨preset, res⟩ := entry
      obtain ⟨here, later⟩ := List.forall_mem_cons.mp fit
      rw [List.map_cons, Prod.toSigma_mk, loop, size_of_fits here, List.find?_cons]
      dsimp only [pixels]
      by_cases taken : (res.width * res.height ≤ maxSize ∧ minSize ≤ res.width * res.height) ∧
          supports preset = true
      · simp [taken]
      · rw [if_neg taken, ih later]
        have not : (decide (res.width * res.height ≤ maxSize) &&
            decide (minSize ≤ res.width * res.height) && supports preset) = false := by
          simpa only [Bool.eq_false_iff, ne_eq, Bool.and_eq_true, decide_eq_true_eq] using taken
        rw [not]

theorem getPerfectPreset_source {Device : Type} (platform : Platform Device)
    (minPreset maxPreset optimal : AVCaptureSessionPreset) (device : Device) :
    ConstraintsManager.getPerfectPreset platform minPreset maxPreset optimal device =
      getPerfectPreset (sourcePresets platform.presetOrder platform.presetOrder_perm)
        .preset640x480 (platform.supportsAVCaptureSessionPreset device) minPreset maxPreset
        optimal := by
  unfold ConstraintsManager.getPerfectPreset getPerfectPreset
  rw [sourcePresets_lookup, sourcePresets_lookup]
  cases minKnown : ConstraintsManager.presets minPreset with
  | none => rfl
  | some min =>
      cases maxKnown : ConstraintsManager.presets maxPreset with
      | none => rfl
      | some max =>
          have fit : ∀ entry ∈ platform.presetOrder, Fits entry.2 := fun entry listed =>
            getPresets_fits entry (platform.presetOrder_perm.subset listed)
          simp only [Option.bind_eq_bind, Option.bind_some, size_of_fits (presets_fits minKnown),
            size_of_fits (presets_fits maxKnown), sourcePresets, loop_eq_find _ _ _ _ fit]
          rfl

/-- A front camera that does not record 1080 lines. -/
def frontCamera (preset : AVCaptureSessionPreset) : Bool :=
  preset ≠ .preset1920x1080

def largeFirst : Presets AVCaptureSessionPreset :=
  sourcePresets ConstraintsManager.getPresets.reverse (List.reverse_perm _)

def smallFirst : Presets AVCaptureSessionPreset :=
  sourcePresets Platform.twoSided.presetOrder Platform.twoSided.presetOrder_perm

/-! ### The choice -/

variable {presets : Presets Preset} {minPreset maxPreset : Preset}

private theorem getPerfectPreset_eq [DecidableEq Preset]
    (minKnown : presets.lookup minPreset = some min)
    (maxKnown : presets.lookup maxPreset = some max) :
    getPerfectPreset presets preset640x480 supports minPreset maxPreset optimal =
      if Fits min ∧ Fits max then
        if supports optimal then some optimal
        else loop supports (pixels min) (pixels max) preset640x480 presets.entries
      else none := by
  rw [getPerfectPreset, minKnown, maxKnown]
  by_cases minFits : Fits min
  · by_cases maxFits : Fits max
    · simp [size_of_fits, minFits, maxFits]
    · simp [size_of_not_fits, minFits, maxFits]
  · simp [size_of_not_fits, minFits]

private theorem mem_of_split {before after : List (Entry Preset)} {entry : Entry Preset}
    (same : presets.entries = before ++ entry :: after) : entry ∈ presets.entries := by
  rw [same]
  exact List.mem_append_right before List.mem_cons_self

private theorem mem_of_behind {before after : List (Entry Preset)} {entry other : Entry Preset}
    (same : presets.entries = before ++ entry :: after) (later : other ∈ after) :
    other ∈ presets.entries := by
  rw [same]
  exact List.mem_append_right before (List.mem_cons_of_mem entry later)

private theorem best_loop_iff (maxFits : Fits max) (unsupported : supports optimal = false) :
    Best presets supports min max optimal
        (loop supports (pixels min) (pixels max) preset640x480 presets.entries) ↔
      ∃ before entry after, presets.entries = before ++ entry :: after ∧
        (∀ other ∈ before, Fits other.2 ∧ ¬Candidate supports min max other) ∧
        Candidate supports min max entry ∧
        ∀ other ∈ after, Candidate supports min max other →
          pixels other.2 ≤ pixels entry.2 := by
  simp only [Best, unsupported, Bool.false_eq_true, if_false]
  constructor
  · intro ⟨preset, chosen, res, listed, candidate, largest⟩
    rcases entries_cases supports min max presets.entries with
      all | ⟨before, entry, after, same, past, ends⟩
    · exact absurd candidate (all _ listed).2
    · rw [same, loop_append past] at chosen
      by_cases fits : Fits entry.2
      · have first := ends fits
        rw [loop_of_candidate first maxFits] at chosen
        have this : entry = ⟨preset, res⟩ :=
          presets.nodupKeys.eq_of_fst_eq (mem_of_split same) listed (Option.some.inj chosen)
        refine ⟨before, entry, after, same, past, first, ?_⟩
        intro other later
        rw [this]
        exact largest other (mem_of_behind same later)
      · rw [loop_of_large fits] at chosen
        contradiction
  · intro ⟨before, entry, after, same, past, first, largest⟩
    refine ⟨entry.1, ?_, entry.2, mem_of_split same, first, ?_⟩
    · rw [same, loop_append past]
      exact loop_of_candidate first maxFits after
    · intro other listed candidate
      rw [same] at listed
      rcases List.mem_append.mp listed with early | late
      · exact absurd candidate (past other early).2
      · rcases List.mem_cons.mp late with rfl | later
        · exact Nat.le_refl _
        · exact largest other later candidate

private theorem best_iff_largestFirst [DecidableEq Preset]
    (minKnown : presets.lookup minPreset = some min)
    (maxKnown : presets.lookup maxPreset = some max) :
    Best presets supports min max optimal
        (getPerfectPreset presets preset640x480 supports minPreset maxPreset optimal) ↔
      LargestFirst presets supports min max optimal := by
  rw [getPerfectPreset_eq minKnown maxKnown, LargestFirst]
  by_cases fit : Fits min ∧ Fits max
  · rw [if_pos fit]
    cases supported : supports optimal with
    | false =>
        rw [if_neg Bool.false_ne_true, best_loop_iff fit.2 supported]
        exact ⟨fun first => ⟨fit.1, fit.2, .inr first⟩, fun ⟨_, _, first⟩ =>
          first.resolve_left Bool.false_ne_true⟩
    | true =>
        rw [if_pos rfl]
        exact ⟨fun _ => ⟨fit.1, fit.2, .inl rfl⟩, fun _ =>
          ⟨optimal, rfl, by rw [if_pos supported]⟩⟩
  · rw [if_neg fit]
    constructor
    · intro ⟨_, chosen, _⟩
      contradiction
    · intro ⟨minFits, maxFits, _⟩
      exact absurd ⟨minFits, maxFits⟩ fit

private theorem exists_first {entry : Entry Preset} (listed : entry ∈ presets.entries) :
    ∃ order : Presets Preset, order.entries.Perm presets.entries ∧
      ∃ rest, order.entries = entry :: rest := by
  obtain ⟨before, after, same⟩ := List.append_of_mem listed
  have perm : (entry :: (before ++ after)).Perm presets.entries := by
    rw [same]
    exact List.perm_middle.symm
  exact ⟨⟨entry :: (before ++ after), (List.perm_nodupKeys perm).mpr presets.nodupKeys⟩, perm,
    before ++ after, rfl⟩

/-- An order may have any entry first, so that each must fit, and no candidate may be larger
than another. -/
theorem largest_of_everyOrder
    (every : ∀ order : Presets Preset, order.entries.Perm presets.entries →
      LargestFirst order supports min max optimal)
    (unsupported : supports optimal = false) {entry : Entry Preset}
    (listed : entry ∈ presets.entries) :
    Fits entry.2 ∧ (Candidate supports min max entry → ∀ other ∈ presets.entries,
      Candidate supports min max other → pixels other.2 ≤ pixels entry.2) := by
  obtain ⟨order, perm, rest, same⟩ := exists_first listed
  obtain ⟨_, maxFits, reached⟩ := every order perm
  rw [unsupported] at reached
  obtain ⟨before, found, after, split, past, candidate, largest⟩ :=
    reached.resolve_left Bool.false_ne_true
  rw [same] at split
  cases before with
  | nil =>
      cases split
      refine ⟨candidate.fits maxFits, ?_⟩
      intro _ other there another
      rw [← perm.mem_iff, same, List.mem_cons] at there
      rcases there with rfl | later
      · exact Nat.le_refl _
      · exact largest other later another
  | cons head before =>
      cases split
      have headPast := past entry List.mem_cons_self
      exact ⟨headPast.1, fun candidate => absurd candidate headPast.2⟩

private theorem oneSize_of_everyOrder
    (every : ∀ order : Presets Preset, order.entries.Perm presets.entries →
      LargestFirst order supports min max optimal) :
    OneSize presets supports min max optimal := by
  obtain ⟨minFits, maxFits, here⟩ := every presets (.refl _)
  refine ⟨minFits, maxFits, ?_⟩
  cases supported : supports optimal with
  | true => exact .inl rfl
  | false =>
      rw [supported] at here
      obtain ⟨before, entry, after, same, _, candidate, _⟩ :=
        here.resolve_left Bool.false_ne_true
      have listed := mem_of_split same
      refine .inr ⟨fun other there => (largest_of_everyOrder every supported there).1, entry,
        listed, candidate, ?_⟩
      intro other there another
      apply Nat.le_antisymm
      · exact (largest_of_everyOrder every supported listed).2 candidate other there another
      · exact (largest_of_everyOrder every supported there).2 another entry listed candidate

private theorem largestFirst_of_oneSize (one : OneSize presets supports min max optimal)
    {order : Presets Preset} (perm : order.entries.Perm presets.entries) :
    LargestFirst order supports min max optimal := by
  obtain ⟨minFits, maxFits, supported | ⟨fit, entry, listed, candidate, same⟩⟩ := one
  · exact ⟨minFits, maxFits, .inl supported⟩
  · rcases entries_cases supports min max order.entries with
      all | ⟨before, first, after, split, past, ends⟩
    · exact absurd candidate (all entry (perm.mem_iff.mpr listed)).2
    · have there := perm.mem_iff.mp (mem_of_split split)
      have isCandidate := ends (fit first there)
      refine ⟨minFits, maxFits, .inr ⟨before, first, after, split, past, isCandidate, ?_⟩⟩
      intro other later another
      have known := perm.mem_iff.mp (mem_of_behind split later)
      rw [same other known another, same first there isCandidate]

/-- In one order the choice is right when the first candidate is a largest one, in every order
when all candidates have one size. -/
theorem best_iff [DecidableEq Preset] (preset640x480 : Preset) (supports : Preset → Bool)
    (optimal : Preset) (minKnown : presets.lookup minPreset = some min)
    (maxKnown : presets.lookup maxPreset = some max) :
    (Best presets supports min max optimal
        (getPerfectPreset presets preset640x480 supports minPreset maxPreset optimal) ↔
      LargestFirst presets supports min max optimal) ∧
    ((∀ order : Presets Preset, order.entries.Perm presets.entries →
        Best order supports min max optimal
          (getPerfectPreset order preset640x480 supports minPreset maxPreset optimal)) ↔
      OneSize presets supports min max optimal) := by
  have best : ∀ order : Presets Preset, order.entries.Perm presets.entries →
      (Best order supports min max optimal
          (getPerfectPreset order preset640x480 supports minPreset maxPreset optimal) ↔
        LargestFirst order supports min max optimal) := by
    intro order perm
    exact best_iff_largestFirst ((AList.perm_lookup perm).trans minKnown)
      ((AList.perm_lookup perm).trans maxKnown)
  refine ⟨best_iff_largestFirst minKnown maxKnown, ?_⟩
  constructor
  · intro every
    exact oneSize_of_everyOrder fun order perm => (best order perm).mp (every order perm)
  · intro one order perm
    exact (best order perm).mpr (largestFirst_of_oneSize one perm)

theorem best_of_largeFirst :
    Best largeFirst frontCamera ⟨640, 480⟩ ⟨1280, 720⟩ .preset1920x1080
      (getPerfectPreset largeFirst .preset640x480 frontCamera .preset640x480 .preset1280x720
        .preset1920x1080) :=
  (best_iff _ _ _ rfl rfl).1.mpr
    ⟨by decide, by decide, .inr ⟨[⟨.preset1920x1080, 1920, 1080⟩], _, _, rfl, by decide, by decide,
      by decide⟩⟩

theorem not_best_of_smallFirst :
    ¬Best smallFirst frontCamera ⟨640, 480⟩ ⟨1280, 720⟩ .preset1920x1080
      (getPerfectPreset smallFirst .preset640x480 frontCamera .preset640x480 .preset1280x720
        .preset1920x1080) := by
  intro ⟨preset, chosen, res, listed, _, largest⟩
  have small : getPerfectPreset smallFirst .preset640x480 frontCamera .preset640x480
      .preset1280x720 .preset1920x1080 = some .preset640x480 := by
    decide
  rw [small] at chosen
  cases chosen
  have size : res = ⟨640, 480⟩ := by
    have known := AList.mem_lookup_iff.mpr listed
    exact (Option.some.inj known).symm
  have atMost := largest ⟨.preset1280x720, 1280, 720⟩ (by decide) (by decide)
  rw [size] at atMost
  exact absurd atMost (by decide)

end PresetChoice
end JSCameraKit
