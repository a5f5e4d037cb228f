import LlmopsPlatform.Python.DoubleSums
import LlmopsPlatform.Scoring.NestedTree

/-!
# Normalized weights in floats

The program computes with floats. Where all weights of a pipeline are finite and not
negative, their total has a small relative error or overflows (`Weighable.total_cases`).
When it does not overflow, every normalized weight has a small relative error too
(`Weighable.value_share`).
-/

set_option autoImplicit false

namespace LlmopsPlatform.Scoring

open Foundations Python ScoringPipeline

/-! ## Roundings -/

section Roundings

variable {weight total exact part : ℚ}

/-- The quotient of a weight by a total with a small relative error. -/
theorem abs_toFloat_div_sub_le (weight_nonneg : 0 ≤ weight) (exact_pos : 0 < exact)
    (close : |total - exact| ≤ part * exact) (atLeast : 8 / 2 ^ 53 ≤ part)
    (atMost : part ≤ 1 / 2 ^ 10) :
    |toFloat (weight / total) - weight / exact| ≤ 5 / 4 * part * (weight / exact) + tiny := by
  have total_pos : 0 < total := by
    have above := neg_abs_le (total - exact)
    have few := mul_le_mul_of_nonneg_right atMost exact_pos.le
    linarith
  have quotient_nonneg : 0 ≤ weight / total := div_nonneg weight_nonneg total_pos.le
  have difference : (weight / total - weight / exact) * exact =
      weight / total * (exact - total) := by
    field_simp
  have relative : |weight / total - weight / exact| ≤ part * (weight / total) := by
    have scaled : |weight / total - weight / exact| * exact ≤ part * (weight / total) * exact := by
      calc
        |weight / total - weight / exact| * exact =
            |(weight / total - weight / exact) * exact| := by rw [abs_mul, abs_of_pos exact_pos]
        _ = weight / total * |total - exact| := by
          rw [difference, abs_mul, abs_of_nonneg quotient_nonneg, abs_sub_comm]
        _ ≤ weight / total * (part * exact) := mul_le_mul_of_nonneg_left close quotient_nonneg
        _ = part * (weight / total) * exact := by ring
    exact le_of_mul_le_mul_right scaled exact_pos
  have rounding := abs_toFloat_sub_le_add_tiny (weight / total)
  rw [abs_of_nonneg quotient_nonneg] at rounding
  have whole := abs_sub_le (toFloat (weight / total)) (weight / total) (weight / exact)
  generalize weight / total = quotient at *
  generalize weight / exact = share at *
  have below := le_abs_self (quotient - share)
  have few := mul_le_mul_of_nonneg_right atMost quotient_nonneg
  have some := mul_le_mul_of_nonneg_right atLeast quotient_nonneg
  have more : part * quotient ≤ part * (1024 / 1023 * share) :=
    mul_le_mul_of_nonneg_left (by linarith) (le_trans (by norm_num) atLeast)
  have share_nonneg : 0 ≤ part * share := by
    apply mul_nonneg (le_trans (by norm_num) atLeast)
    linarith
  linarith

/-- The product of a value and a share with a small relative error. -/
theorem abs_toFloat_mul_sub_le {value share bound : ℚ} (value_le : |value| ≤ bound)
    (exact_nonneg : 0 ≤ exact) (close : |share - exact| ≤ 5 / 4 * part * exact + tiny)
    (atLeast : 8 / 2 ^ 53 ≤ part) (atMost : part ≤ 1 / 2 ^ 10) :
    |toFloat (value * share) - value * exact| ≤
      3 / 2 * part * (bound * exact) + (2 * bound + 1) * tiny := by
  have bound_nonneg : 0 ≤ bound := (abs_nonneg value).trans value_le
  have part_nonneg : 0 ≤ part := le_trans (by norm_num) atLeast
  have error_nonneg : 0 ≤ 5 / 4 * part * exact + tiny := (abs_nonneg _).trans close
  have exactProduct : |value * share - value * exact| ≤
      bound * (5 / 4 * part * exact + tiny) := by
    rw [← mul_sub, abs_mul]
    exact mul_le_mul value_le close (abs_nonneg _) bound_nonneg
  have share_le : |share| ≤ exact + (5 / 4 * part * exact + tiny) := by
    have split := abs_sub_abs_le_abs_sub share exact
    rw [abs_of_nonneg exact_nonneg] at split
    linarith
  have magnitude : |value * share| ≤ bound * (exact + (5 / 4 * part * exact + tiny)) := by
    rw [abs_mul]
    exact mul_le_mul value_le share_le (abs_nonneg _) bound_nonneg
  have rounding := abs_toFloat_sub_le_add_tiny (value * share)
  have whole := abs_sub_le (toFloat (value * share)) (value * share) (value * exact)
  have product_nonneg : 0 ≤ bound * exact := mul_nonneg bound_nonneg exact_nonneg
  have few := mul_le_mul_of_nonneg_right atMost product_nonneg
  have some := mul_le_mul_of_nonneg_right atLeast product_nonneg
  have tinyBound : 0 ≤ bound * tiny := mul_nonneg bound_nonneg tiny_pos.le
  linarith

end Roundings

/-! ## Normalized weights -/

theorem exactValue_of_value {number : Double} {value : ℚ} (isValue : number.value? = some value) :
    exactValue number = value := by
  obtain ⟨_, rfl⟩ := Double.value_eq_some.mp isValue
  rfl

/-- The weights of a pipeline are finite and not negative, and they are not too many. -/
structure Weighable (scorer_configs : List ScorerConfig) : Prop where
  weights : ∀ sc ∈ scorer_configs, ∃ weight, sc.weight.value? = some weight ∧ 0 ≤ weight
  few : scorer_configs.length ≤ 2 ^ 30

/-- The total of the weights, as the program computes it. -/
def floatTotal (scorer_configs : List ScorerConfig) : Double :=
  Double.sum (scorer_configs.map ScorerConfig.weight)

section Shares

variable {scorer_configs : List ScorerConfig} {sc : ScorerConfig}

theorem Weighable.value_weight (weighable : Weighable scorer_configs)
    (member : sc ∈ scorer_configs) : sc.weight.value? = some (exactWeight sc) := by
  obtain ⟨weight, isValue, -⟩ := weighable.weights sc member
  rw [exactWeight, exactValue_of_value isValue]
  exact isValue

theorem Weighable.nonneg (weighable : Weighable scorer_configs) (member : sc ∈ scorer_configs) :
    0 ≤ exactWeight sc := by
  obtain ⟨weight, isValue, nonneg⟩ := weighable.weights sc member
  rw [exactWeight, exactValue_of_value isValue]
  exact nonneg

theorem Weighable.exactShare_nonneg (weighable : Weighable scorer_configs)
    (member : sc ∈ scorer_configs) : 0 ≤ exactShare scorer_configs sc :=
  share_nonneg (fun _ _ inConfigs => weighable.nonneg inConfigs) member

/-- The relative error of the total of so many weights. -/
def totalError (count : ℕ) : ℚ := (count + 1) / 2 ^ 50

theorem totalError_le {count : ℕ} (few : count ≤ 2 ^ 30) : totalError count ≤ 1 / 2 ^ 19 := by
  have cast : (count : ℚ) ≤ 2 ^ 30 := by exact_mod_cast few
  rw [totalError]
  linarith

theorem le_totalError (count : ℕ) : 8 / 2 ^ 53 ≤ totalError count := by
  have nonneg : (0 : ℚ) ≤ count := Nat.cast_nonneg count
  rw [totalError]
  linarith

/-- **The total of the weights** has a small relative error, or it overflows. -/
theorem Weighable.total_cases (weighable : Weighable scorer_configs) :
    floatTotal scorer_configs = .posInf ∧ 2 ^ 1023 < totalWeight exactWeight scorer_configs ∨
      ∃ total, (floatTotal scorer_configs).value? = some total ∧
        |total - totalWeight exactWeight scorer_configs| ≤
          totalError scorer_configs.length * totalWeight exactWeight scorer_configs := by
  have isValues : (scorer_configs.map ScorerConfig.weight).map Double.value? =
      (scorer_configs.map exactWeight).map some := by
    rw [List.map_map, List.map_map]
    apply List.map_congr_left
    intro sc member
    exact weighable.value_weight member
  have nonneg : ∀ weight ∈ scorer_configs.map exactWeight, 0 ≤ weight := by
    intro weight member
    obtain ⟨sc, inConfigs, rfl⟩ := List.mem_map.mp member
    exact weighable.nonneg inConfigs
  have cases := Double.sum_cases isValues nonneg (by simpa using weighable.few)
  rwa [List.length_map] at cases

/-- **A normalized weight** has a small relative error when the total does not overflow. -/
theorem Weighable.value_share (weighable : Weighable scorer_configs)
    (inRange : floatTotal scorer_configs ≠ .posInf) (member : sc ∈ scorer_configs) :
    ∃ value, (share scorer_configs sc).value? = some value ∧
      |value - exactShare scorer_configs sc| ≤
        5 / 4 * totalError scorer_configs.length * exactShare scorer_configs sc + tiny := by
  obtain ⟨total, isTotal, close⟩ := weighable.total_cases.resolve_left fun overflow =>
    inRange overflow.1
  have weight_le : exactWeight sc ≤ totalWeight exactWeight scorer_configs :=
    le_totalWeight (fun _ inConfigs => weighable.nonneg inConfigs) member
  have weight_nonneg := weighable.nonneg member
  rcases weight_nonneg.trans weight_le |>.eq_or_lt with zero | positive
  · -- All weights are zero, and so is their total.
    rw [← zero, mul_zero, sub_zero] at close
    have totalZero : total = 0 := abs_nonpos_iff.mp close
    have notPositive : ¬(floatTotal scorer_configs).IsPositive := by
      obtain ⟨_, isFinite⟩ := Double.value_eq_some.mp isTotal
      rw [isFinite, Double.IsPositive, totalZero]
      exact lt_irrefl 0
    refine ⟨0, ?_, ?_⟩
    · have isZero : share scorer_configs sc = Double.zero := if_neg notPositive
      rw [isZero]
      rfl
    · rw [exactShare, if_neg zero.not_lt, sub_zero, abs_zero, mul_zero, zero_add]
      exact tiny_pos.le
  · have error := abs_toFloat_div_sub_le weight_nonneg positive close (le_totalError _)
      ((totalError_le weighable.few).trans (by norm_num))
    have few := mul_le_mul_of_nonneg_right (totalError_le weighable.few) positive.le
    have totalBelow := neg_abs_le (total - totalWeight exactWeight scorer_configs)
    have totalPositive : 0 < total := by linarith
    have isPositive : (floatTotal scorer_configs).IsPositive := by
      obtain ⟨_, isFinite⟩ := Double.value_eq_some.mp isTotal
      rw [isFinite]
      exact totalPositive
    have quotient_le : exactWeight sc / total ≤ 2 := by
      rw [div_le_iff₀ totalPositive]
      linarith
    refine ⟨_, ?_, by rw [exactShare, if_pos positive]; exact error⟩
    have isQuotient : share scorer_configs sc =
        Double.div sc.weight (floatTotal scorer_configs) := if_pos isPositive
    rw [isQuotient, Double.div_of_value (weighable.value_weight member) isTotal]
    apply Double.value_rounded_of_safe
    rw [abs_of_nonneg (div_nonneg weight_nonneg totalPositive.le)]
    exact quotient_le.trans (by decide +kernel)

end Shares

end LlmopsPlatform.Scoring
