import LlmopsPlatform.Foundations.Rounds
import LlmopsPlatform.Tuning.Runner
import Mathlib.Algebra.Order.Archimedean.Basic

/-!
# Whether the expansion of a range ends

`_expand_range` counts from the lower bound of a continuous parameter to the upper one, in
steps of `param.step`, or of a fifth of the difference where the step is missing or zero.
The step is not checked: it can be negative, and a fifth of nothing is zero when both bounds
are equal. The loop then never passes the upper bound.

With exact arithmetic the expansion ends exactly when the bounds are in the wrong order or
the step is positive, and a grid is generated, and an experiment created from it, exactly
when this holds of all parameters (`expansion_terminates_iff`).
-/

set_option autoImplicit false

namespace LlmopsPlatform.Tuning

open Foundations Python

/-! ## Exact arithmetic -/

/-- `_expand_range` with exact arithmetic. -/
def ParameterRange.exactExpansion (param : ParameterRange) (rounds : ℕ) : Option (List Json) :=
  expandRange id rounds param

/-- `generate_grid_variants` with exact arithmetic. -/
def ParameterSpace.exactGrid (space : ParameterSpace) (newPrefix : ℕ → String) (rounds : ℕ) :
    Option (List ParameterSet) :=
  generateGridVariants id rounds newPrefix space

/-- The variants that `ExperimentRunner.create` chooses with exact arithmetic. -/
def ExperimentConfig.exactVariants (config : ExperimentConfig) (outside : Surroundings)
    (rounds : ℕ) : Option (List ParameterSet) :=
  variantsOfNew id config { outside with rounds }

/-- A continuous parameter has bounds in the wrong order, or a positive step, or no step
(or a step of zero) and distinct bounds. -/
def ParameterRange.StepsForward (param : ParameterRange) : Prop :=
  ∀ min_value max_value, param.type = "continuous" → param.min_value = some min_value →
    param.max_value = some max_value →
      max_value < min_value ∨ (∃ step, param.step = some step ∧ 0 < step) ∨
        (param.step = none ∨ param.step = some 0) ∧ min_value < max_value

/-! ## The loop -/

section Loop

variable {max_value step v : ℚ} {rounds : ℕ}

/-- A loop that has ended is not changed by further rounds, whatever the arithmetic. -/
theorem expandLoop_stable (float : ℚ → ℚ) (max_value step v : ℚ) :
    Stable fun rounds => expandLoop float max_value step rounds v := by
  intro rounds
  induction rounds generalizing v with
  | zero =>
      intro values ended
      cases ended
  | succ rounds ih =>
      intro values ended
      dsimp only at ended ⊢
      rw [expandLoop] at ended ⊢
      by_cases inside : v ≤ max_value
      · rw [if_pos inside] at ended ⊢
        obtain ⟨rest, isRest, rfl⟩ := Option.map_eq_some_iff.mp ended
        have more : expandLoop float max_value step (rounds + 1) (float (v + step)) = some rest :=
          ih (float (v + step)) rest isRest
        rw [more, Option.map_some]
      · rw [if_neg inside] at ended ⊢
        exact ended

/-- Each round brings the value closer to the upper bound. -/
theorem isSome_expandLoop (passed : max_value < v + rounds * step) :
    (expandLoop id max_value step (rounds + 1) v).isSome := by
  induction rounds generalizing v with
  | zero =>
      have outside : ¬v ≤ max_value := by simpa using passed
      rw [expandLoop, if_neg outside]
      rfl
  | succ rounds ih =>
      rw [expandLoop]
      by_cases inside : v ≤ max_value
      · have further : max_value < v + step + rounds * step := by
          push_cast at passed
          linarith
        rw [if_pos inside, Option.isSome_map]
        exact ih further
      · rw [if_neg inside]
        rfl

/-- A value that does not grow stays below the upper bound. -/
theorem expandLoop_eq_none (inside : v ≤ max_value) (backward : step ≤ 0) :
    expandLoop id max_value step rounds v = none := by
  induction rounds generalizing v with
  | zero => rfl
  | succ rounds ih =>
      have stays : v + step ≤ max_value := by linarith
      rw [expandLoop, if_pos inside, Option.map_eq_none_iff]
      exact ih stays

/-- **The loop ends** exactly when it does not start or the step is positive. -/
theorem terminates_expandLoop_iff (max_value step v : ℚ) :
    Terminates (fun rounds => expandLoop id max_value step rounds v) ↔
      max_value < v ∨ 0 < step := by
  constructor
  · rintro ⟨rounds, ended⟩
    by_contra neither
    rw [not_or, not_lt, not_lt] at neither
    dsimp only at ended
    rw [expandLoop_eq_none neither.1 neither.2] at ended
    cases ended
  · rintro (outside | forward)
    · exact ⟨0 + 1, isSome_expandLoop (by simpa using outside)⟩
    · obtain ⟨rounds, enough⟩ := exists_nat_gt ((max_value - v) / step)
      rw [div_lt_iff₀ forward] at enough
      exact ⟨rounds + 1, isSome_expandLoop (by linarith)⟩

end Loop

/-! ## The step -/

/-- A given step that is not zero is used as it is. -/
theorem stepOf_given {given : ℚ} (nonzero : given ≠ 0) (min_value max_value : ℚ) :
    stepOf id (some given) min_value max_value = given := by
  have kept : (some given).filter (· ≠ 0) = some given := by simp [nonzero]
  rw [stepOf, kept]

/-- Otherwise it is a fifth of the difference. -/
theorem stepOf_default {step : Option ℚ} (missing : step = none ∨ step = some 0)
    (min_value max_value : ℚ) :
    stepOf id step min_value max_value = (max_value - min_value) / 5 := by
  have nothing : step.filter (· ≠ 0) = none := by
    rcases missing with rfl | rfl
    · rfl
    · simp
  rw [stepOf, nothing]
  rfl

/-- The step is positive when it is given so, or taken from distinct bounds. -/
theorem stepOf_pos_iff (step : Option ℚ) (min_value max_value : ℚ) :
    0 < stepOf id step min_value max_value ↔
      (∃ given, step = some given ∧ 0 < given) ∨
        (step = none ∨ step = some 0) ∧ min_value < max_value := by
  by_cases missing : step = none ∨ step = some 0
  · have fifth : 0 < (max_value - min_value) / 5 ↔ min_value < max_value := by
      rw [div_pos_iff_of_pos_right (by norm_num), sub_pos]
    rw [stepOf_default missing, fifth]
    rcases missing with rfl | rfl <;> simp
  · obtain ⟨notNone, notZero⟩ := not_or.mp missing
    obtain ⟨given, rfl⟩ := Option.ne_none_iff_exists'.mp notNone
    have nonzero : given ≠ 0 := fun isZero => notZero (congrArg some isZero)
    rw [stepOf_given nonzero]
    simp [nonzero]

/-! ## Ranges -/

theorem continuousBounds_eq_some_iff {param : ParameterRange} {min_value max_value : ℚ} :
    param.continuousBounds = some (min_value, max_value) ↔
      param.type = "continuous" ∧ param.min_value = some min_value ∧
        param.max_value = some max_value := by
  unfold ParameterRange.continuousBounds
  by_cases continuous : param.type = "continuous"
  · rw [if_pos continuous]
    cases param.min_value <;> cases param.max_value <;> simp [continuous]
  · rw [if_neg continuous]
    simp [continuous]

theorem ne_categorical_of_bounds {param : ParameterRange} {min_value max_value : ℚ}
    (bounds : param.continuousBounds = some (min_value, max_value)) :
    param.type ≠ "categorical" := by
  rw [(continuousBounds_eq_some_iff.mp bounds).1]
  decide

section Arithmetic

variable (float : ℚ → ℚ) {param : ParameterRange}

/-- A continuous parameter with both bounds is expanded by the loop. -/
theorem expandRange_of_bounds {min_value max_value : ℚ}
    (bounds : param.continuousBounds = some (min_value, max_value)) (rounds : ℕ) :
    expandRange float rounds param =
      (expandLoop float max_value (stepOf float param.step min_value max_value) rounds
        min_value).map (List.map fun value => .float (.finite value)) := by
  have continuous := (continuousBounds_eq_some_iff.mp bounds).1
  have notListed : ¬(param.type = "categorical" ∨ param.type = "discrete") := by
    rw [continuous]
    decide
  unfold expandRange expandRange.expandBounds
  rw [bounds]
  cases param.givenValues with
  | none => rfl
  | some values => exact if_neg notListed

/-- Any other parameter has its own values, if they are used, and does not need the loop. -/
theorem expandRange_of_unbounded (unbounded : param.continuousBounds = none) (rounds : ℕ) :
    expandRange float rounds param =
      some (if param.type = "categorical" ∨ param.type = "discrete" then
        param.givenValues.getD [] else []) := by
  unfold expandRange expandRange.expandBounds
  rw [unbounded]
  cases param.givenValues with
  | none => exact congrArg some (ite_self []).symm
  | some values => exact (apply_ite some _ _ _).symm

theorem expandRange_stable (param : ParameterRange) :
    Stable fun rounds => expandRange float rounds param := by
  cases bounds : param.continuousBounds with
  | none =>
      simp only [expandRange_of_unbounded float bounds]
      exact fun _ _ ended => ended
  | some pair =>
      simp only [expandRange_of_bounds float bounds]
      exact (expandLoop_stable float _ _ _).map _

end Arithmetic

/-- **The expansion of a range ends** exactly when it steps forward. -/
theorem terminates_exactExpansion_iff (param : ParameterRange) :
    Terminates param.exactExpansion ↔ param.StepsForward := by
  cases bounds : param.continuousBounds with
  | none =>
      refine iff_of_true ⟨0, ?_⟩ ?_
      · rw [ParameterRange.exactExpansion, expandRange_of_unbounded id bounds]
        rfl
      intro min_value max_value continuous isMin isMax
      have found := continuousBounds_eq_some_iff.mpr ⟨continuous, isMin, isMax⟩
      rw [bounds] at found
      cases found
  | some pair =>
      obtain ⟨min_value, max_value⟩ := pair
      obtain ⟨continuous, isMin, isMax⟩ := continuousBounds_eq_some_iff.mp bounds
      have looped : param.exactExpansion = _ := funext (expandRange_of_bounds id bounds)
      rw [looped, terminates_map_iff, terminates_expandLoop_iff, stepOf_pos_iff]
      constructor
      · intro forward lower upper _ isLower isUpper
        obtain rfl : min_value = lower := Option.some.inj (isMin.symm.trans isLower)
        obtain rfl : max_value = upper := Option.some.inj (isMax.symm.trans isUpper)
        exact forward
      · intro forward
        exact forward min_value max_value continuous isMin isMax

/-- **A grid is generated** exactly when all of its parameters step forward. -/
theorem terminates_exactGrid_iff (space : ParameterSpace) (newPrefix : ℕ → String) :
    Terminates (space.exactGrid newPrefix) ↔
      ∀ param ∈ space.parameters, param.StepsForward := by
  have all := @terminates_mapM_iff _ _ ParameterRange.exactExpansion (expandRange_stable id)
    space.parameters
  let expansions (rounds : ℕ) : Option (List (List Json)) :=
    space.parameters.mapM fun param => ParameterRange.exactExpansion param rounds
  have combined : space.exactGrid newPrefix = fun rounds =>
      (expansions rounds).map fun param_values =>
        (product param_values).zipIdx.map fun numbered =>
          { variant_id := newVariantId (newPrefix numbered.2)
            values :=
              (dictZip (space.parameters.map ParameterRange.name) numbered.1).entries } := by
    funext rounds
    change (expansions rounds).bind _ = _
    cases expansions rounds <;> rfl
  simp only [terminates_exactExpansion_iff] at all
  rw [combined, terminates_map_iff, all]

/-- **Creating an experiment ends** with a grid whose parameters step forward, with given
variants and with random ones. -/
theorem terminates_exactVariants_iff (config : ExperimentConfig) (outside : Surroundings) :
    Terminates (config.exactVariants outside) ↔
      config.allocation_strategy ≠ .grid ∨ config.variants ≠ [] ∨
        ∀ param ∈ config.parameter_space.parameters, param.StepsForward := by
  unfold ExperimentConfig.exactVariants variantsOfNew
  by_cases noneGiven : config.variants = []
  · by_cases isGrid : config.allocation_strategy = .grid
    · simp only [if_pos noneGiven, if_pos isGrid]
      change Terminates (config.parameter_space.exactGrid outside.newPrefix) ↔ _
      rw [terminates_exactGrid_iff]
      simp [noneGiven, isGrid]
    · simp only [if_pos noneGiven, if_neg isGrid]
      exact iff_of_true (terminates_some _) (.inl isGrid)
  · simp only [if_neg noneGiven]
    exact iff_of_true (terminates_some _) (.inr (.inl noneGiven))

/-- **When expansions end.** For every parameter that is accepted, the expansion of its range
with exact arithmetic ends exactly when it steps forward; a grid is generated exactly when
all parameters of the space step forward; and creating an experiment ends exactly when the
strategy is not the grid, or variants are given, or all parameters step forward. -/
theorem expansion_terminates_iff (param : ParameterRange) (config : ExperimentConfig)
    (outside : Surroundings) :
    (Terminates param.exactExpansion ↔ param.StepsForward) ∧
    (Terminates (config.parameter_space.exactGrid outside.newPrefix) ↔
      ∀ param ∈ config.parameter_space.parameters, param.StepsForward) ∧
    (Terminates (config.exactVariants outside) ↔
      config.allocation_strategy ≠ .grid ∨ config.variants ≠ [] ∨
        ∀ param ∈ config.parameter_space.parameters, param.StepsForward) :=
  ⟨terminates_exactExpansion_iff param, terminates_exactGrid_iff _ _,
    terminates_exactVariants_iff config outside⟩

/-- A continuous parameter whose bounds are equal, without a step. -/
def onePoint : ParameterRange where
  name := "temperature"
  type := "continuous"
  min_value := some 1
  max_value := some 1
  values := none
  step := none

/-- **Equal bounds do not end.** -/
theorem onePoint_does_not_terminate :
    ¬∀ param : ParameterRange, Terminates param.exactExpansion := by
  intro always
  rcases (terminates_exactExpansion_iff onePoint).mp (always onePoint) 1 1 rfl rfl rfl with
    order | ⟨step, isStep, -⟩ | ⟨-, distinct⟩
  · exact lt_irrefl _ order
  · cases isStep
  · exact lt_irrefl _ distinct

end LlmopsPlatform.Tuning
