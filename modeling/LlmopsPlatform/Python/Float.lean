import LlmopsPlatform.Foundations.Rounding
import Mathlib.Algebra.BigOperators.Group.List.Basic
import Mathlib.Algebra.GroupWithZero.Nat

/-!
# Finite floats

A finite float is the rational number that it denotes. An operation computes exactly
and rounds its result once, to 53 binary digits with gradual underflow. Results that
are too large for a float are not treated here.

Rounding the mean of some values to decimals is monotone in the exact mean
(`roundFloat_toFloat_mono`), and it changes the mean by little more than half a unit in
the last decimal (`abs_roundFloat_toFloat_sub_le`).
-/

set_option autoImplicit false

namespace Python

open Foundations

/-- The float that a number is rounded to. -/
def toFloat (value : ℚ) : ℚ := roundBinary 53 (-1074) value

/-- `round(value, decimals)`. -/
def roundFloat (decimals : ℕ) (value : ℚ) : ℚ := toFloat (roundDecimals decimals value)

/-- The mean before it is rounded. -/
def exactMean (values : List ℚ) : ℚ := values.sum / values.length

/-- `statistics.mean`, which adds exactly. -/
def mean (values : List ℚ) : ℚ := toFloat (exactMean values)

theorem exactMean_perm {first second : List ℚ} (perm : first.Perm second) :
    exactMean first = exactMean second := by
  rw [exactMean, exactMean, perm.sum_eq, perm.length_eq]

/-- Half of the least positive float is less than this. -/
def tiny : ℚ := 2 ^ (-1074 : ℤ)

theorem tiny_pos : 0 < tiny := zpow_pos two_pos _

theorem tiny_le : tiny ≤ 1 / 2 ^ 100 := by
  have powers : tiny ≤ 2 ^ (-100 : ℤ) := zpow_le_zpow_right₀ one_le_two (by decide)
  rwa [zpow_neg, ← one_div] at powers

theorem abs_toFloat_sub_le_add_tiny (value : ℚ) :
    |toFloat value - value| ≤ |value| / 2 ^ 53 + tiny :=
  abs_roundBinary_sub_le 53 (-1074) value

theorem toFloat_mono {first second : ℚ} (le : first ≤ second) : toFloat first ≤ toFloat second :=
  roundBinary_mono (by decide) le

theorem roundFloat_toFloat_mono (decimals : ℕ) {first second : ℚ} (le : first ≤ second) :
    roundFloat decimals (toFloat first) ≤ roundFloat decimals (toFloat second) :=
  toFloat_mono (roundDecimals_mono decimals (toFloat_mono le))

theorem abs_toFloat_sub_le (value : ℚ) : |toFloat value - value| ≤ (|value| + 1) / 2 ^ 53 := by
  have close := abs_roundBinary_sub_le 53 (-1074) value
  have floor : (2 : ℚ) ^ (-1074 : ℤ) ≤ 2 ^ (-53 : ℤ) := zpow_le_zpow_right₀ one_le_two (by decide)
  have small : (2 : ℚ) ^ (-53 : ℤ) = 1 / 2 ^ 53 := by norm_num
  rw [add_div, ← small]
  exact close.trans (add_le_add le_rfl floor)

/-- Rounding a mean to a float, and then to decimals, changes it by little more than
half a unit in the last decimal. -/
theorem abs_roundFloat_toFloat_sub_le (decimals : ℕ) (value : ℚ) :
    |roundFloat decimals (toFloat value) - value| ≤
      1 / 2 / 10 ^ decimals + (3 * |value| + 4) / 2 ^ 53 := by
  have first := abs_toFloat_sub_le value
  have second := abs_roundDecimals_sub_le decimals (toFloat value)
  have third := abs_toFloat_sub_le (roundDecimals decimals (toFloat value))
  have unit : (1 : ℚ) / 2 / 10 ^ decimals ≤ 1 := by
    rw [div_le_one (by positivity)]
    exact (by norm_num : (1 : ℚ) / 2 ≤ 1).trans (one_le_pow₀ (by norm_num))
  have floatMagnitude : |toFloat value| ≤ 2 * |value| + 1 := by
    have bound := abs_sub_abs_le_abs_sub (toFloat value) value
    have nonneg := abs_nonneg value
    linarith
  have roundedMagnitude : |roundDecimals decimals (toFloat value)| ≤ 2 * |value| + 2 := by
    have bound := abs_sub_abs_le_abs_sub (roundDecimals decimals (toFloat value)) (toFloat value)
    linarith
  have outer := abs_sub_le (roundFloat decimals (toFloat value))
    (roundDecimals decimals (toFloat value)) value
  have inner := abs_sub_le (roundDecimals decimals (toFloat value)) (toFloat value) value
  unfold roundFloat at outer ⊢
  linarith

end Python
