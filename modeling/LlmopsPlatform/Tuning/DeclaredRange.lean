import LlmopsPlatform.Tuning.GridVariants

/-!
# Whether generated values stay in the declared range

Both generators choose a number between the bounds of a continuous parameter and round it
afterwards, to six decimals in a grid and to four decimals in a random variant. A bound with
more decimals than these can be left: the smallest values are rounded below the lower bound,
or the largest ones above the upper bound.

Rounding is monotone, so that only the first and the last value matter. The grid and all
samples stay in the range exactly when these four roundings do (`values_in_range_iff`).
-/

set_option autoImplicit false

namespace LlmopsPlatform.Tuning

open Foundations Python

/-! ## Samples -/

section Samples

variable (choose : List Json → Option Json) (uniform : ℚ → ℚ → ℚ)

/-- A function that returns numbers between two bounds, which can be both of them. -/
def SamplesBetween : Prop :=
  ∀ min_value max_value, min_value ≤ max_value →
    min_value ≤ uniform min_value max_value ∧ uniform min_value max_value ≤ max_value

variable {choose uniform} {param : ParameterRange} {min_value max_value : ℚ}

/-- A continuous parameter with both bounds gets a rounded sample. -/
theorem randomValueFrom_of_bounds
    (bounds : param.continuousBounds = some (min_value, max_value)) :
    randomValueFrom id choose uniform param =
      some (.float (.finite (roundDecimals 4 (uniform min_value max_value)))) := by
  have notCategorical := ne_categorical_of_bounds bounds
  unfold randomValueFrom randomValueFrom.sampleBounds
  rw [bounds]
  cases param.givenValues with
  | none => rfl
  | some values => exact if_neg notCategorical

end Samples

/-! ## The range -/

/-- A number between two bounds. -/
def InRange (min_value max_value : ℚ) (value : Json) : Prop :=
  ∃ number, value = .float (.finite number) ∧ min_value ≤ number ∧ number ≤ max_value

/-- With exact arithmetic, all values of the expansion and all samples are in the range. -/
structure ValuesInRange (param : ParameterRange) (min_value max_value : ℚ) : Prop where
  grid : ∀ rounds values, expandRange id rounds param = some values →
    ∀ value ∈ values, InRange min_value max_value value
  random : ∀ choose uniform, SamplesBetween uniform → ∀ value,
    randomValueFrom id choose uniform param = some value → InRange min_value max_value value

/-- The last value of a grid before it is rounded. -/
def lastPoint (min_value max_value step : ℚ) : ℚ :=
  min_value + ⌊(max_value - min_value) / step⌋₊ * step

/-- The first and the last value of a grid and of the samples are not rounded out of the
range. -/
structure RoundsInside (min_value max_value step : ℚ) : Prop where
  first : RoundsAbove 6 min_value min_value
  last : RoundsBelow 6 max_value (lastPoint min_value max_value step)
  least : RoundsAbove 4 min_value min_value
  greatest : RoundsBelow 4 max_value max_value

section Bounds

variable {param : ParameterRange} {min_value max_value step : ℚ}

theorem inRange_float_iff {number : ℚ} :
    InRange min_value max_value (.float (.finite number)) ↔
      min_value ≤ number ∧ number ≤ max_value := by
  constructor
  · rintro ⟨other, same, inside⟩
    cases same
    exact inside
  · exact fun inside => ⟨number, rfl, inside⟩

/-- **A grid stays in the range** when its first and its last value do. -/
theorem forall_gridPoints_inRange_iff (forward : 0 < step) (count : ℕ) :
    (∀ value ∈ gridPoints min_value step (count + 1), InRange min_value max_value value) ↔
      RoundsAbove 6 min_value min_value ∧ RoundsBelow 6 max_value (min_value + count * step) := by
  rw [← le_roundDecimals_iff, ← roundDecimals_le_iff]
  have point (k : ℕ) (below : k < count + 1) :
      gridPoint (min_value + k * step) ∈ gridPoints min_value step (count + 1) :=
    List.mem_map.mpr ⟨k, List.mem_range.mpr below, rfl⟩
  constructor
  · intro all
    have first := inRange_float_iff.mp (all _ (point 0 count.succ_pos))
    have last := inRange_float_iff.mp (all _ (point count count.lt_succ_self))
    simp only [Nat.cast_zero, zero_mul, add_zero] at first
    exact ⟨first.1, last.2⟩
  · rintro ⟨first, last⟩ value isPoint
    obtain ⟨k, below, rfl⟩ := List.mem_map.mp isPoint
    have upTo : (k : ℚ) ≤ count := by exact_mod_cast Nat.lt_succ_iff.mp (List.mem_range.mp below)
    have fromFirst : min_value ≤ min_value + k * step := by
      linarith [mul_nonneg k.cast_nonneg forward.le]
    have toLast : min_value + k * step ≤ min_value + count * step := by
      linarith [mul_le_mul_of_nonneg_right upTo forward.le]
    exact inRange_float_iff.mpr ⟨first.trans (roundDecimals_mono 6 fromFirst),
      (roundDecimals_mono 6 toLast).trans last⟩

/-- **Samples stay in the range** when both bounds do. -/
theorem forall_samples_inRange_iff (order : min_value ≤ max_value)
    (bounds : param.continuousBounds = some (min_value, max_value)) :
    (∀ choose uniform, SamplesBetween uniform → ∀ value,
        randomValueFrom id choose uniform param = some value → InRange min_value max_value value) ↔
      RoundsAbove 4 min_value min_value ∧ RoundsBelow 4 max_value max_value := by
  rw [← le_roundDecimals_iff, ← roundDecimals_le_iff]
  have sampled (choose : List Json → Option Json) (uniform : ℚ → ℚ → ℚ) :=
    @randomValueFrom_of_bounds choose uniform _ _ _ bounds
  constructor
  · intro all
    have least := inRange_float_iff.mp (all (fun _ => none) (fun lower _ => lower)
      (fun _ _ le => ⟨le_rfl, le⟩) _ (sampled _ _))
    have greatest := inRange_float_iff.mp (all (fun _ => none) (fun _ upper => upper)
      (fun _ _ le => ⟨le, le_rfl⟩) _ (sampled _ _))
    exact ⟨least.1, greatest.2⟩
  · rintro ⟨least, greatest⟩ choose uniform between value isValue
    rw [sampled] at isValue
    cases isValue
    obtain ⟨fromLower, toUpper⟩ := between min_value max_value order
    exact inRange_float_iff.mpr ⟨least.trans (roundDecimals_mono 4 fromLower),
      (roundDecimals_mono 4 toUpper).trans greatest⟩

/-- All expansions that have ended are the same. -/
theorem forall_expansions_iff {points : List Json}
    (expanded : ∃ enough, ∀ rounds ≥ enough, param.exactExpansion rounds = some points)
    (holds : List Json → Prop) :
    (∀ rounds values, expandRange id rounds param = some values → holds values) ↔
      holds points := by
  obtain ⟨enough, ended⟩ := expanded
  constructor
  · exact fun all => all enough points (ended enough le_rfl)
  · intro held rounds values isExpansion
    have later := (expandRange_stable id param).of_le (Nat.le_max_left rounds enough) isExpansion
    have same := (ended _ (Nat.le_max_right rounds enough)).symm.trans later
    exact Option.some.inj same ▸ held

end Bounds

/-- **Where generated values stay in the declared range.** For every continuous parameter
with ordered bounds and a positive step or none: all values of the grid and all samples are
in the range exactly when the first and the last value of the grid are not rounded out of it
to six decimals, and the bounds are not rounded out of it to four decimals. -/
theorem values_in_range_iff (param : ParameterRange) (min_value max_value : ℚ)
    (bounds : param.continuousBounds = some (min_value, max_value))
    (order : min_value < max_value) (forward : ∀ step, param.step = some step → 0 < step) :
    ValuesInRange param min_value max_value ↔
      RoundsInside min_value max_value (param.step.getD ((max_value - min_value) / 5)) := by
  have isStep : stepOf id param.step min_value max_value =
      param.step.getD ((max_value - min_value) / 5) := by
    cases given : param.step with
    | none => exact stepOf_default (.inl rfl) min_value max_value
    | some step => exact stepOf_given (forward step given).ne' min_value max_value
  have positive : 0 < param.step.getD ((max_value - min_value) / 5) := by
    cases given : param.step with
    | none => exact div_pos (sub_pos.mpr order) (by norm_num)
    | some step => exact forward step given
  have expanded := eventually_expanded bounds isStep positive order.le
  have grid := (forall_expansions_iff expanded fun values =>
      ∀ value ∈ values, InRange min_value max_value value).trans
    (forall_gridPoints_inRange_iff positive _)
  have random := forall_samples_inRange_iff order.le bounds
  constructor
  · intro inside
    obtain ⟨first, last⟩ := grid.mp inside.grid
    obtain ⟨least, greatest⟩ := random.mp inside.random
    exact ⟨first, last, least, greatest⟩
  · intro inside
    exact ⟨grid.mpr ⟨inside.first, inside.last⟩, random.mpr ⟨inside.least, inside.greatest⟩⟩

/-- The parameter of the tests, between zero and one. -/
def unitTemperature : ParameterRange := ⟨"temp", "continuous", some 0, some 1, none, none⟩

/-- Its values stay between zero and one. -/
theorem unitTemperature_in_range : ValuesInRange unitTemperature 0 1 := by
  refine (values_in_range_iff unitTemperature 0 1 (by decide) (by norm_num) nofun).mpr ?_
  have isStep : unitTemperature.step.getD ((1 - 0) / 5) = 1 / 5 := by
    norm_num [unitTemperature]
  rw [isStep]
  constructor
  · left
    norm_num
  · left
    norm_num [lastPoint]
  · left
    norm_num
  · left
    norm_num

/-- A learning rate from one hundred-thousandth on. -/
def learningRate : ParameterRange :=
  ⟨"learning_rate", "continuous", some (1 / 100000), some 1, none, none⟩

/-- **A small learning rate is rounded to zero**, below its lower bound. -/
theorem learningRate_leaves_range :
    ¬∀ (param : ParameterRange) (min_value max_value : ℚ),
      param.continuousBounds = some (min_value, max_value) → min_value < max_value →
        (∀ step, param.step = some step → 0 < step) →
          ValuesInRange param min_value max_value := by
  intro always
  have bounds : learningRate.continuousBounds = some (1 / 100000, 1) :=
    continuousBounds_eq_some_iff.mpr ⟨rfl, rfl, rfl⟩
  have inside := always learningRate (1 / 100000) 1 bounds (by norm_num) nofun
  have sampled := inside.random (fun _ => none) (fun lower _ => lower) (fun _ _ le => ⟨le_rfl, le⟩)
    _ (randomValueFrom_of_bounds bounds)
  have zero : roundDecimals 4 (1 / 100000 : ℚ) = 0 := by decide +kernel
  rw [zero, inRange_float_iff] at sampled
  norm_num at sampled

end LlmopsPlatform.Tuning
