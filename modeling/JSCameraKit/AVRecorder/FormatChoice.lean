import JSCameraKit.Library.ListEdit
import Mathlib.Data.Rat.Floor
import Mathlib.Tactic.Linarith

set_option autoImplicit false

/-! The end of `setDevice` under macOS: the loop over the formats of a device, and the format
and the frame durations that are made active. Rates are exact; what the formats are, and
which ranges each one lists, is a parameter. -/

namespace JSCameraKit
namespace FormatChoice

structure AVFrameRateRange where
  minFrameRate : ℚ
  maxFrameRate : ℚ
  deriving DecidableEq

structure CMTime where
  value : Int
  timescale : Int
  deriving DecidableEq

def cmTimeMake (value timescale : Int) : CMTime :=
  { value := value, timescale := timescale }

/-- `activeFormat` is `none` for an `AVCaptureDeviceFormat()` that `setDevice` has made. -/
structure AVCaptureDevice (Format : Type) where
  formats : List Format
  activeFormat : Option Format
  activeVideoMinFrameDuration : CMTime
  activeVideoMaxFrameDuration : CMTime

/-- Cut towards zero, a trap outside of 32 bits. -/
def int32 (number : ℚ) : Option Int :=
  let cut := if 0 ≤ number then ⌊number⌋ else ⌈number⌉
  if -2 ^ 31 ≤ cut ∧ cut < 2 ^ 31 then some cut else none

def targetFps : ℚ := 60

/-- The variables `format` and `maxFps` of the loop. -/
structure Choice (Format : Type) where
  format : Option Format
  maxFps : ℚ

variable {Format : Type}

/-- One turn of the loop. A format without `[AVFrameRateRange]` is left out, and `ranges[0]` of an
empty list is a trap. -/
def turn (videoSupportedFrameRateRanges : Format → Option (List AVFrameRateRange))
    (choice : Choice Format) (format : Format) : Option (Choice Format) :=
  match videoSupportedFrameRateRanges format with
  | none => some choice
  | some ranges =>
      match ranges[0]? with
      | none => none
      | some frameRates =>
          if choice.maxFps ≤ frameRates.maxFrameRate ∧ frameRates.maxFrameRate ≤ targetFps then
            some { format := some format, maxFps := frameRates.maxFrameRate }
          else some choice

def loop (videoSupportedFrameRateRanges : Format → Option (List AVFrameRateRange)) :
    List Format → Choice Format → Option (Choice Format)
  | [], choice => some choice
  | format :: rest, choice =>
      match turn videoSupportedFrameRateRanges choice format with
      | none => none
      | some next => loop videoSupportedFrameRateRanges rest next

/-- `none` is a trap, also where the lock is not granted. -/
def setDevice (videoSupportedFrameRateRanges : Format → Option (List AVFrameRateRange))
    (lockForConfiguration : Bool) (device : AVCaptureDevice Format) :
    Option (AVCaptureDevice Format) := do
  let choice ← loop videoSupportedFrameRateRanges device.formats { format := none, maxFps := 0 }
  if lockForConfiguration then
    let timescale ← int32 choice.maxFps
    some
      { device with
        activeFormat := choice.format
        activeVideoMinFrameDuration := cmTimeMake 1 timescale
        activeVideoMaxFrameDuration := cmTimeMake 1 timescale }
  else none

/-! ### What is asked of the choice -/

variable (videoSupportedFrameRateRanges : Format → Option (List AVFrameRateRange))

/-- All ranges of a format, none where they are no list of ranges. -/
def ranges (format : Format) : List AVFrameRateRange :=
  (videoSupportedFrameRateRanges format).getD []

def SupportsRate (format : Format) (rate : ℚ) : Prop :=
  ∃ range ∈ ranges videoSupportedFrameRateRanges format,
    range.minFrameRate ≤ rate ∧ rate ≤ range.maxFrameRate

/-- The rate of a duration is its reciprocal. -/
def SupportsDuration (format : Format) (duration : CMTime) : Prop :=
  duration.timescale ≠ 0 ∧
    SupportsRate videoSupportedFrameRateRanges format (duration.timescale / duration.value)

def Maximum (formats : List Format) (rate : ℚ) : Prop :=
  rate ≤ targetFps ∧ ∃ format ∈ formats, ∃ range ∈ ranges videoSupportedFrameRateRanges format,
    range.maxFrameRate = rate

def Greatest (formats : List Format) (rate : ℚ) : Prop :=
  Maximum videoSupportedFrameRateRanges formats rate ∧
    ∀ other, Maximum videoSupportedFrameRateRanges formats other → other ≤ rate

/-- There is no trap; a format of the device that supports the greatest maximum rate becomes
active, with durations that it supports; and where there is no such rate nothing changes. -/
def ChoosesBest (device : AVCaptureDevice Format) (result : Option (AVCaptureDevice Format)) :
    Prop :=
  ∃ next, result = some next ∧
    ((∃ rate, Maximum videoSupportedFrameRateRanges device.formats rate) →
      ∃ format ∈ device.formats, ∃ rate, next.activeFormat = some format ∧
        Greatest videoSupportedFrameRateRanges device.formats rate ∧
        SupportsRate videoSupportedFrameRateRanges format rate ∧
        SupportsDuration videoSupportedFrameRateRanges format next.activeVideoMinFrameDuration ∧
        SupportsDuration videoSupportedFrameRateRanges format next.activeVideoMaxFrameDuration) ∧
    ((∀ rate, ¬Maximum videoSupportedFrameRateRanges device.formats rate) →
      next = device ∧ next.activeFormat ≠ none)

def FirstRate (format : Format) (rate : ℚ) : Prop :=
  ∃ range, (ranges videoSupportedFrameRateRanges format)[0]? = some range ∧
    range.maxFrameRate = rate

/-- The last of the formats whose first ranges have the greatest maximum up to the target. -/
structure LastGreatest (formats : List Format) (index : Nat) (format : Format) (rate : ℚ) :
    Prop where
  listed : formats[index]? = some format
  first : FirstRate videoSupportedFrameRateRanges format rate
  inReach : rate ≤ targetFps
  greatest : ∀ other another lower, formats[other]? = some another →
    FirstRate videoSupportedFrameRateRanges another lower → lower ≤ targetFps →
    lower ≤ rate ∧ (index < other → lower < rate)

/-- No list of ranges is empty, and the format above supports the greatest maximum rate and its
own rate without the fraction. -/
def Suitable (lockForConfiguration : Bool) (device : AVCaptureDevice Format) : Prop :=
  lockForConfiguration = true ∧
    (∀ format ∈ device.formats, videoSupportedFrameRateRanges format ≠ some []) ∧
    ∃ index format rate best,
      LastGreatest videoSupportedFrameRateRanges device.formats index format rate ∧
        Greatest videoSupportedFrameRateRanges device.formats best ∧
        SupportsRate videoSupportedFrameRateRanges format best ∧
        1 ≤ rate ∧ SupportsRate videoSupportedFrameRateRanges format ⌊rate⌋

/-! ### One turn -/

variable {videoSupportedFrameRateRanges : Format → Option (List AVFrameRateRange)}

theorem FirstRate.unique {format : Format} {rate other : ℚ}
    (one : FirstRate videoSupportedFrameRateRanges format rate)
    (two : FirstRate videoSupportedFrameRateRanges format other) : rate = other := by
  obtain ⟨range, first, rfl⟩ := one
  obtain ⟨same, again, rfl⟩ := two
  rw [first] at again
  cases again
  rfl

theorem FirstRate.maximum {format : Format} {formats : List Format} {rate : ℚ}
    (first : FirstRate videoSupportedFrameRateRanges format rate) (listed : format ∈ formats)
    (inReach : rate ≤ targetFps) : Maximum videoSupportedFrameRateRanges formats rate := by
  obtain ⟨range, found, same⟩ := first
  exact ⟨inReach, format, listed, range, List.mem_of_getElem? found, same⟩

private theorem turn_eq_none_iff (choice : Choice Format) (format : Format) :
    turn videoSupportedFrameRateRanges choice format = none ↔
      videoSupportedFrameRateRanges format = some [] := by
  unfold turn
  cases videoSupportedFrameRateRanges format with
  | none => simp
  | some ranges =>
      cases ranges with
      | nil => simp
      | cons range rest =>
          dsimp only [List.getElem?_cons_zero]
          split <;> simp

theorem turn_cases {choice next : Choice Format} {format : Format}
    (taken : turn videoSupportedFrameRateRanges choice format = some next) :
    (next = choice ∧ ∀ rate, FirstRate videoSupportedFrameRateRanges format rate →
        rate ≤ targetFps → rate < choice.maxFps) ∨
      ∃ rate, next = { format := some format, maxFps := rate } ∧
        FirstRate videoSupportedFrameRateRanges format rate ∧ choice.maxFps ≤ rate ∧
        rate ≤ targetFps := by
  unfold turn at taken
  split at taken
  next missing =>
    cases taken
    refine .inl ⟨rfl, ?_⟩
    intro rate ⟨range, first, _⟩
    rw [ranges, missing] at first
    contradiction
  next list listed =>
    split at taken
    next => contradiction
    next frameRates found =>
      have first : FirstRate videoSupportedFrameRateRanges format frameRates.maxFrameRate :=
        ⟨frameRates, by rw [ranges, listed]; exact found, rfl⟩
      split at taken
      next more =>
        cases taken
        exact .inr ⟨_, rfl, first, more.1, more.2⟩
      next not =>
        cases taken
        refine .inl ⟨rfl, ?_⟩
        intro rate known inReach
        cases known.unique first
        by_contra atLeast
        exact not ⟨not_lt.mp atLeast, inReach⟩

/-! ### The loop -/

/-- What the variables hold behind a part of the formats. -/
def Kept (videoSupportedFrameRateRanges : Format → Option (List AVFrameRateRange))
    (past : List Format) (choice : Choice Format) : Prop :=
  0 ≤ choice.maxFps ∧
    ((choice.format = none ∧ choice.maxFps = 0 ∧
        ∀ format ∈ past, ∀ rate, FirstRate videoSupportedFrameRateRanges format rate →
          rate ≤ targetFps → rate < 0) ∨
      ∃ index format, choice.format = some format ∧
        LastGreatest videoSupportedFrameRateRanges past index format choice.maxFps)

theorem Kept.below {past : List Format} {choice : Choice Format}
    (kept : Kept videoSupportedFrameRateRanges past choice) {index : Nat} {format : Format}
    (listed : past[index]? = some format) {rate : ℚ}
    (first : FirstRate videoSupportedFrameRateRanges format rate) (inReach : rate ≤ targetFps) :
    rate ≤ choice.maxFps := by
  rcases kept.2 with ⟨_, zero, negative⟩ | ⟨_, _, _, last⟩
  · have below := negative format (List.mem_of_getElem? listed) rate first inReach
    rw [zero]
    exact le_of_lt below
  · exact (last.greatest _ _ _ listed first inReach).1

theorem Kept.turn {past : List Format} {choice next : Choice Format} {format : Format}
    (kept : Kept videoSupportedFrameRateRanges past choice)
    (taken : FormatChoice.turn videoSupportedFrameRateRanges choice format = some next) :
    Kept videoSupportedFrameRateRanges (past ++ [format]) next := by
  rcases turn_cases taken with ⟨rfl, below⟩ | ⟨rate, rfl, first, atLeast, inReach⟩
  · refine ⟨kept.1, ?_⟩
    rcases kept.2 with ⟨new, zero, negative⟩ | ⟨index, chosen, held, last⟩
    · left
      refine ⟨new, zero, List.forall_mem_append.mpr ⟨negative, ?_⟩⟩
      rw [zero] at below
      exact List.forall_mem_singleton.mpr below
    · right
      refine ⟨index, chosen, held, ?_, last.first, last.inReach, ?_⟩
      · have inside := (List.getElem?_eq_some_iff.mp last.listed).1
        rw [List.getElem?_append_left inside]
        exact last.listed
      · intro other another lower listed lowerFirst lowerInReach
        rcases ListEdit.concat_cases listed with before | ⟨_, rfl⟩
        · exact last.greatest other another lower before lowerFirst lowerInReach
        · have less := below lower lowerFirst lowerInReach
          exact ⟨le_of_lt less, fun _ => less⟩
  · refine ⟨le_trans kept.1 atLeast, .inr ⟨past.length, format, rfl, ?_, first, inReach, ?_⟩⟩
    · exact List.getElem?_concat_length
    · intro other another lower listed lowerFirst lowerInReach
      rcases ListEdit.concat_cases listed with before | ⟨last, rfl⟩
      · have inside := (List.getElem?_eq_some_iff.mp before).1
        have atMost := kept.below before lowerFirst lowerInReach
        exact ⟨le_trans atMost atLeast, fun later => by omega⟩
      · exact ⟨le_of_eq (lowerFirst.unique first), fun later => by omega⟩

private theorem loop_kept {formats past : List Format} {choice last : Choice Format}
    (kept : Kept videoSupportedFrameRateRanges past choice)
    (done : loop videoSupportedFrameRateRanges formats choice = some last) :
    Kept videoSupportedFrameRateRanges (past ++ formats) last := by
  induction formats generalizing past choice with
  | nil =>
      cases done
      rw [List.append_nil]
      exact kept
  | cons format rest ih =>
      unfold loop at done
      split at done
      next => contradiction
      next next taken =>
        have all := ih (kept.turn taken) done
        rwa [List.append_assoc] at all

private theorem loop_eq_none_iff (formats : List Format) (choice : Choice Format) :
    loop videoSupportedFrameRateRanges formats choice = none ↔
      ∃ format ∈ formats, videoSupportedFrameRateRanges format = some [] := by
  induction formats generalizing choice with
  | nil => simp [loop]
  | cons format rest ih =>
      rw [loop, List.exists_mem_cons_iff]
      split
      next trapped =>
        exact ⟨fun _ => .inl ((turn_eq_none_iff choice format).mp trapped), fun _ => rfl⟩
      next next taken =>
        rw [ih]
        constructor
        · exact .inr
        · intro some
          apply some.resolve_left
          intro empty
          rw [(turn_eq_none_iff choice format).mpr empty] at taken
          contradiction

theorem LastGreatest.unique {formats : List Format} {index again : Nat} {format other : Format}
    {rate lower : ℚ} (one : LastGreatest videoSupportedFrameRateRanges formats index format rate)
    (two : LastGreatest videoSupportedFrameRateRanges formats again other lower) :
    format = other ∧ rate = lower := by
  have above := one.greatest again other lower two.listed two.first two.inReach
  have below := two.greatest index format rate one.listed one.first one.inReach
  rcases Nat.lt_trichotomy index again with before | same | behind
  · exact absurd (above.2 before) (not_lt.mpr below.1)
  · have listed := one.listed
    rw [same, two.listed] at listed
    exact ⟨(Option.some.inj listed).symm, le_antisymm below.1 above.1⟩
  · exact absurd (below.2 behind) (not_lt.mpr above.1)

/-! ### The device behind the loop -/

private theorem int32_of_rate {rate : ℚ} (positive : 0 ≤ rate) (inReach : rate ≤ targetFps) :
    int32 rate = some ⌊rate⌋ := by
  have atLeast : 0 ≤ ⌊rate⌋ := Int.floor_nonneg.mpr positive
  have atMost : ⌊rate⌋ ≤ 60 := Int.cast_le.mp ((Int.floor_le rate).trans inReach)
  rw [int32, if_pos positive]
  exact if_pos ⟨by omega, by omega⟩

theorem Kept.inReach {past : List Format} {choice : Choice Format}
    (kept : Kept videoSupportedFrameRateRanges past choice) : choice.maxFps ≤ targetFps := by
  rcases kept.2 with ⟨_, zero, _⟩ | ⟨_, _, _, last⟩
  · rw [zero]
    exact (by decide : (0 : ℚ) ≤ 60)
  · exact last.inReach

variable {device next : AVCaptureDevice Format} {lockForConfiguration : Bool}

/-- With the lock, and a range in every list, `setDevice` makes active what the loop holds. -/
theorem setDevice_eq (locked : lockForConfiguration = true)
    (ranged : ∀ format ∈ device.formats, videoSupportedFrameRateRanges format ≠ some []) :
    ∃ choice, Kept videoSupportedFrameRateRanges device.formats choice ∧
      setDevice videoSupportedFrameRateRanges lockForConfiguration device =
        some
          { device with
            activeFormat := choice.format
            activeVideoMinFrameDuration := cmTimeMake 1 ⌊choice.maxFps⌋
            activeVideoMaxFrameDuration := cmTimeMake 1 ⌊choice.maxFps⌋ } := by
  cases done : loop videoSupportedFrameRateRanges device.formats
      { format := none, maxFps := 0 } with
  | none =>
      obtain ⟨format, listed, empty⟩ := (loop_eq_none_iff _ _).mp done
      exact absurd empty (ranged format listed)
  | some choice =>
      have start : Kept videoSupportedFrameRateRanges [] { format := none, maxFps := 0 } :=
        ⟨le_refl 0, .inl ⟨rfl, rfl, List.forall_mem_nil _⟩⟩
      have kept := loop_kept start done
      refine ⟨choice, kept, ?_⟩
      rw [setDevice, done, locked]
      simp [int32_of_rate kept.1 kept.inReach]

private theorem locked_of_setDevice
    (made : setDevice videoSupportedFrameRateRanges lockForConfiguration device = some next) :
    lockForConfiguration = true ∧
      ∀ format ∈ device.formats, videoSupportedFrameRateRanges format ≠ some [] := by
  obtain ⟨choice, done, made⟩ := Option.bind_eq_some_iff.mp made
  constructor
  · cases lockForConfiguration with
    | false => contradiction
    | true => rfl
  · intro format listed empty
    rw [(loop_eq_none_iff _ _).mpr ⟨format, listed, empty⟩] at done
    contradiction

private theorem supportsDuration_iff (format : Format) {rate : ℚ} (positive : 0 ≤ rate) :
    SupportsDuration videoSupportedFrameRateRanges format (cmTimeMake 1 ⌊rate⌋) ↔
      1 ≤ rate ∧ SupportsRate videoSupportedFrameRateRanges format ⌊rate⌋ := by
  have floor := Int.floor_nonneg.mpr positive
  have whole : ⌊rate⌋ ≠ 0 ↔ 1 ≤ rate := by
    rw [← Int.cast_one, ← Int.le_floor]
    omega
  simp only [SupportsDuration, cmTimeMake, whole, Int.cast_one, div_one]

private theorem suitable_of_choosesBest
    (chooses : ChoosesBest videoSupportedFrameRateRanges device
      (setDevice videoSupportedFrameRateRanges lockForConfiguration device)) :
    Suitable videoSupportedFrameRateRanges lockForConfiguration device := by
  obtain ⟨next, made, best, unchanged⟩ := chooses
  obtain ⟨locked, ranged⟩ := locked_of_setDevice made
  obtain ⟨choice, kept, same⟩ := setDevice_eq locked ranged
  rw [same] at made
  cases made
  refine ⟨locked, ranged, ?_⟩
  rcases kept.2 with ⟨new, _⟩ | ⟨index, format, held, last⟩
  · by_cases some : ∃ rate, Maximum videoSupportedFrameRateRanges device.formats rate
    · obtain ⟨format, _, _, active, _⟩ := best some
      rw [new] at active
      contradiction
    · exact absurd new (unchanged (not_exists.mp some)).2
  · have listed := List.mem_of_getElem? last.listed
    obtain ⟨other, _, rate, active, greatest, supports, duration, _⟩ :=
      best ⟨_, last.first.maximum listed last.inReach⟩
    rw [held] at active
    cases active
    obtain ⟨least, whole⟩ := (supportsDuration_iff format kept.1).mp duration
    exact ⟨index, format, choice.maxFps, rate, last, greatest, supports, least, whole⟩

private theorem choosesBest_of_suitable
    (suitable : Suitable videoSupportedFrameRateRanges lockForConfiguration device) :
    ChoosesBest videoSupportedFrameRateRanges device
      (setDevice videoSupportedFrameRateRanges lockForConfiguration device) := by
  obtain ⟨locked, ranged, index, format, rate, best, last, greatest, supports, least, whole⟩ :=
    suitable
  obtain ⟨choice, kept, same⟩ := setDevice_eq locked ranged
  have listed := List.mem_of_getElem? last.listed
  rcases kept.2 with ⟨_, _, negative⟩ | ⟨_, chosen, held, again⟩
  · have below := negative format listed rate last.first last.inReach
    linarith
  · obtain ⟨rfl, rfl⟩ := last.unique again
    have duration := (supportsDuration_iff format kept.1).mpr ⟨least, whole⟩
    refine ⟨_, same, fun _ => ⟨format, listed, best, held, greatest, supports, duration, duration⟩,
      ?_⟩
    intro never
    exact absurd greatest.1 (never best)

/-- Formats with one range of a whole rate each, one of them in reach: what the loop is for. -/
theorem suitable_of_oneRange (locked : lockForConfiguration = true)
    (oneRange : ∀ format ∈ device.formats, ∃ minFrameRate maxFrameRate : ℕ,
      minFrameRate ≤ maxFrameRate ∧ 0 < maxFrameRate ∧
        videoSupportedFrameRateRanges format = some [⟨minFrameRate, maxFrameRate⟩])
    (inReach : ∃ rate, Maximum videoSupportedFrameRateRanges device.formats rate) :
    Suitable videoSupportedFrameRateRanges lockForConfiguration device := by
  have ranged : ∀ format ∈ device.formats, videoSupportedFrameRateRanges format ≠ some [] := by
    intro format listed
    obtain ⟨_, _, _, _, one⟩ := oneRange format listed
    rw [one]
    simp
  have first : ∀ rate, Maximum videoSupportedFrameRateRanges device.formats rate →
      0 < rate ∧ ∃ format ∈ device.formats,
        FirstRate videoSupportedFrameRateRanges format rate := by
    intro rate ⟨_, format, listed, range, member, same⟩
    obtain ⟨_, most, _, positive, one⟩ := oneRange format listed
    rw [ranges, one, Option.getD_some, List.mem_singleton] at member
    rw [← same, member]
    exact ⟨Nat.cast_pos.mpr positive, format, listed, _, by rw [ranges, one]; rfl, rfl⟩
  obtain ⟨choice, kept, _⟩ := setDevice_eq locked ranged
  rcases kept.2 with ⟨_, _, negative⟩ | ⟨index, format, _, last⟩
  · obtain ⟨rate, maximum⟩ := inReach
    obtain ⟨positive, format, listed, known⟩ := first rate maximum
    have below := negative format listed rate known maximum.1
    linarith
  · have listed := List.mem_of_getElem? last.listed
    obtain ⟨least, most, ordered, positive, one⟩ := oneRange format listed
    have rate : choice.maxFps = most := by
      apply last.first.unique
      exact ⟨_, by rw [ranges, one]; rfl, rfl⟩
    have supports : SupportsRate videoSupportedFrameRateRanges format choice.maxFps := by
      rw [rate]
      exact ⟨_, by rw [ranges, one]; exact List.mem_singleton_self _, Nat.cast_le.mpr ordered,
        le_refl _⟩
    have greatest : Greatest videoSupportedFrameRateRanges device.formats choice.maxFps := by
      refine ⟨last.first.maximum listed last.inReach, ?_⟩
      intro other maximum
      obtain ⟨_, another, there, known⟩ := first other maximum
      obtain ⟨place, found⟩ := List.mem_iff_getElem?.mp there
      exact (last.greatest place another other found known maximum.1).1
    have whole : ((⌊choice.maxFps⌋ : ℤ) : ℚ) = choice.maxFps := by
      rw [rate, Int.floor_natCast, Int.cast_natCast]
    refine ⟨locked, ranged, index, format, choice.maxFps, choice.maxFps, last, greatest, supports,
      ?_, ?_⟩
    · rw [rate]
      exact Nat.one_le_cast.mpr positive
    · rw [whole]
      exact supports

theorem choosesBest_iff_suitable
    (videoSupportedFrameRateRanges : Format → Option (List AVFrameRateRange))
    (lockForConfiguration : Bool) (device : AVCaptureDevice Format) :
    ChoosesBest videoSupportedFrameRateRanges device
        (setDevice videoSupportedFrameRateRanges lockForConfiguration device) ↔
      Suitable videoSupportedFrameRateRanges lockForConfiguration device :=
  ⟨suitable_of_choosesBest, choosesBest_of_suitable⟩

/-- A camera that has one rate, slightly above 30. -/
def fractionalRange : AVFrameRateRange where
  minFrameRate := 3000003 / 100000
  maxFrameRate := 3000003 / 100000

def fractionalDevice : AVCaptureDevice Unit where
  formats := [()]
  activeFormat := some ()
  activeVideoMinFrameDuration := cmTimeMake 100000 3000003
  activeVideoMaxFrameDuration := cmTimeMake 100000 3000003

theorem not_choosesBest_of_fractional :
    ¬ChoosesBest (fun _ => some [fractionalRange]) fractionalDevice
      (setDevice (fun _ => some [fractionalRange]) true fractionalDevice) := by
  intro chooses
  obtain ⟨_, _, _, format, rate, _, last, _, _, _, range, member, atLeast, _⟩ :=
    suitable_of_choosesBest chooses
  have known : FirstRate (fun _ => some [fractionalRange]) format (3000003 / 100000) :=
    ⟨fractionalRange, rfl, rfl⟩
  rw [last.first.unique known, List.mem_singleton.mp member] at atLeast
  exact absurd atLeast (by decide +kernel)

end FormatChoice
end JSCameraKit
