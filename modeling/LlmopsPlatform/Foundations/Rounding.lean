import Mathlib.Algebra.Order.Round
import Mathlib.Algebra.Ring.Int.Parity
import Mathlib.Data.Int.Log
import Mathlib.Data.Rat.Floor
import Mathlib.Tactic.Linarith
import Mathlib.Tactic.FieldSimp
import Mathlib.Tactic.Positivity

/-!
# Rounding to decimals and to binary digits, halves to even

Rounding a number to a fixed count of decimals, or to a fixed count of significant
binary digits with gradual underflow, where a number halfway between two candidates
goes to the one with the even last digit.

Both are monotone (`roundDecimals_mono`, `roundBinary_mono`). The first has an error of
at most half a unit in the last place (`abs_roundDecimals_sub_le`). The second has a
small relative error, and an absolute one near zero (`abs_roundBinary_sub_le`). Rounding twice
is rounding once (`roundBinary_roundBinary`).
-/

set_option autoImplicit false

namespace Foundations

variable {K : Type*} [Field K] [LinearOrder K] [IsStrictOrderedRing K] [FloorRing K]

/-- The nearest integer, a half going to the even one. -/
def roundHalfEven (x : K) : ℤ :=
  if Int.fract x < 1 / 2 then ⌊x⌋
  else if 1 / 2 < Int.fract x then ⌊x⌋ + 1
  else if Even ⌊x⌋ then ⌊x⌋ else ⌊x⌋ + 1

/-- The nearest number with the given count of decimals, a half going to even. -/
def roundDecimals (decimals : ℕ) (x : K) : K :=
  roundHalfEven (x * 10 ^ decimals) / 10 ^ decimals

theorem abs_roundHalfEven_sub_le (x : K) : |(roundHalfEven x : K) - x| ≤ 1 / 2 := by
  have split : (⌊x⌋ : K) + Int.fract x = x := Int.floor_add_fract x
  have nonneg := Int.fract_nonneg x
  have below := Int.fract_lt_one x
  rw [abs_le]
  unfold roundHalfEven
  split_ifs with low high even <;> push_cast <;> constructor <;> linarith

theorem abs_roundDecimals_sub_le (decimals : ℕ) (x : K) :
    |roundDecimals decimals x - x| ≤ 1 / 2 / 10 ^ decimals := by
  have scale : (0 : K) < 10 ^ decimals := by positivity
  have same : roundDecimals decimals x - x =
      ((roundHalfEven (x * 10 ^ decimals) : K) - x * 10 ^ decimals) / 10 ^ decimals := by
    unfold roundDecimals
    field_simp
  rw [same, abs_div, abs_of_pos scale]
  exact div_le_div_of_nonneg_right (abs_roundHalfEven_sub_le _) scale.le

/-! ## Monotonicity -/

theorem roundHalfEven_intCast (n : ℤ) : roundHalfEven (n : K) = n := by
  simp [roundHalfEven]

/-- The errors of two roundings in the wrong order would add up to more than a unit. -/
theorem roundHalfEven_mono {x y : K} (le : x ≤ y) : roundHalfEven x ≤ roundHalfEven y := by
  by_contra crossed
  have step : (roundHalfEven y : K) + 1 ≤ roundHalfEven x := by
    exact_mod_cast not_le.mp crossed
  have xClose := (abs_le.mp (abs_roundHalfEven_sub_le x)).2
  have yClose := (abs_le.mp (abs_roundHalfEven_sub_le y)).1
  have same : x = y := by linarith
  rw [same] at crossed
  exact crossed le_rfl

theorem roundDecimals_mono (decimals : ℕ) {x y : K} (le : x ≤ y) :
    roundDecimals decimals x ≤ roundDecimals decimals y := by
  have scale : (0 : K) < 10 ^ decimals := by positivity
  unfold roundDecimals
  apply div_le_div_of_nonneg_right _ scale.le
  exact_mod_cast roundHalfEven_mono (mul_le_mul_of_nonneg_right le scale.le)

/-! ## Bounds that rounding does not cross -/

/-- A number is rounded to at most `n` up to the half above it, which is rounded down to an
even `n`. -/
theorem roundHalfEven_le_iff {x : K} {n : ℤ} :
    roundHalfEven x ≤ n ↔ x < n + 1 / 2 ∨ x = n + 1 / 2 ∧ Even n := by
  have split : (⌊x⌋ : K) + Int.fract x = x := Int.floor_add_fract x
  have below := Int.fract_lt_one x
  have nonneg := Int.fract_nonneg x
  have casts {m : ℤ} : m ≤ n ↔ (m : K) ≤ n := Int.cast_le.symm
  unfold roundHalfEven
  split_ifs with low high even
  · constructor
    · intro le
      left
      linarith [casts.mp le]
    · intro bound
      have close : (⌊x⌋ : K) < (n + 1 : ℤ) := by
        push_cast
        rcases bound with strict | ⟨tie, -⟩ <;> linarith
      exact Int.lt_add_one_iff.mp (Int.cast_lt.mp close)
  · constructor
    · intro le
      have cast := casts.mp le
      push_cast at cast
      left
      linarith
    · intro bound
      have close : (⌊x⌋ : K) < n := by rcases bound with strict | ⟨tie, -⟩ <;> linarith
      exact Int.add_one_le_iff.mpr (Int.cast_lt.mp close)
  · have tie : x = ⌊x⌋ + 1 / 2 := by linarith
    constructor
    · intro le
      rcases le.lt_or_eq with less | rfl
      · left
        linarith [(Int.cast_lt (R := K)).mpr less]
      · exact .inr ⟨tie, even⟩
    · rintro (strict | ⟨same, -⟩)
      · exact casts.mpr (by linarith)
      · exact casts.mpr (by linarith)
  · have tie : x = ⌊x⌋ + 1 / 2 := by linarith
    constructor
    · intro le
      left
      linarith [(Int.cast_lt (R := K)).mpr (Int.add_one_le_iff.mp le)]
    · rintro (strict | ⟨same, isEven⟩)
      · exact Int.add_one_le_iff.mpr ((Int.cast_lt (R := K)).mp (by linarith))
      · have equal : ⌊x⌋ = n := (Int.cast_inj (α := K)).mp (by linarith)
        exact absurd (equal ▸ isEven) even

theorem le_roundHalfEven_iff {x : K} {n : ℤ} :
    n ≤ roundHalfEven x ↔ n - 1 / 2 < x ∨ x = n - 1 / 2 ∧ Even n := by
  have below := @roundHalfEven_le_iff K _ _ _ _ x (n - 1)
  have parity : Even (n - 1) ↔ ¬Even n := Int.even_sub_one
  have half : ((n - 1 : ℤ) : K) + 1 / 2 = n - 1 / 2 := by
    push_cast
    ring
  rw [half, parity] at below
  rw [← not_lt, ← Int.le_sub_one_iff, below, not_or, not_and, not_not, not_lt]
  constructor
  · rintro ⟨le, tie⟩
    rcases le.lt_or_eq with less | same
    · exact .inl less
    · exact .inr ⟨same.symm, tie same.symm⟩
  · rintro (less | ⟨same, isEven⟩)
    · exact ⟨less.le, fun same => absurd same less.ne'⟩
    · exact ⟨same.ge, fun _ => isEven⟩

/-- A number is not rounded above a bound: it is less than half a unit above the last
multiple of the unit up to the bound, or half a unit above it when that is even. -/
def RoundsBelow (decimals : ℕ) (bound x : K) : Prop :=
  x * 10 ^ decimals < ⌊bound * 10 ^ decimals⌋ + 1 / 2 ∨
    x * 10 ^ decimals = ⌊bound * 10 ^ decimals⌋ + 1 / 2 ∧ Even ⌊bound * 10 ^ decimals⌋

/-- A number is not rounded below a bound. -/
def RoundsAbove (decimals : ℕ) (bound x : K) : Prop :=
  ⌈bound * 10 ^ decimals⌉ - 1 / 2 < x * 10 ^ decimals ∨
    x * 10 ^ decimals = ⌈bound * 10 ^ decimals⌉ - 1 / 2 ∧ Even ⌈bound * 10 ^ decimals⌉

theorem roundDecimals_le_iff {decimals : ℕ} {bound x : K} :
    roundDecimals decimals x ≤ bound ↔ RoundsBelow decimals bound x := by
  have scale : (0 : K) < 10 ^ decimals := by positivity
  rw [RoundsBelow, ← roundHalfEven_le_iff, roundDecimals, div_le_iff₀ scale, Int.le_floor]

theorem le_roundDecimals_iff {decimals : ℕ} {bound x : K} :
    bound ≤ roundDecimals decimals x ↔ RoundsAbove decimals bound x := by
  have scale : (0 : K) < 10 ^ decimals := by positivity
  rw [RoundsAbove, ← le_roundHalfEven_iff, roundDecimals, le_div_iff₀ scale, Int.ceil_le]

/-! ## Binary digits -/

section Binary

variable (digits : ℕ) (least : ℤ)

/-- The exponent of the last binary digit that is kept of a number. -/
def lastExponent (x : K) : ℤ := max (Int.log 2 |x| + 1 - digits) least

/-- The nearest number with the given count of significant binary digits and no digit
below the least exponent, a half going to even. -/
def roundBinary (x : K) : K :=
  roundHalfEven (x / 2 ^ lastExponent digits least x) * 2 ^ lastExponent digits least x

variable {digits least} {x y : K}

/-- Rounding does not cross a multiple of the last digit. -/
theorem roundBinary_le {n : ℤ} (le : x ≤ n * 2 ^ lastExponent digits least x) :
    roundBinary digits least x ≤ n * 2 ^ lastExponent digits least x := by
  have unit : (0 : K) < 2 ^ lastExponent digits least x := zpow_pos two_pos _
  have scaled : roundHalfEven (x / 2 ^ lastExponent digits least x) ≤ n := by
    rw [← roundHalfEven_intCast (K := K) n]
    exact roundHalfEven_mono ((div_le_iff₀ unit).mpr le)
  unfold roundBinary
  apply mul_le_mul_of_nonneg_right _ unit.le
  exact_mod_cast scaled

theorem le_roundBinary {n : ℤ} (le : n * 2 ^ lastExponent digits least x ≤ x) :
    n * 2 ^ lastExponent digits least x ≤ roundBinary digits least x := by
  have unit : (0 : K) < 2 ^ lastExponent digits least x := zpow_pos two_pos _
  have scaled : n ≤ roundHalfEven (x / 2 ^ lastExponent digits least x) := by
    rw [← roundHalfEven_intCast (K := K) n]
    exact roundHalfEven_mono ((le_div_iff₀ unit).mpr le)
  unfold roundBinary
  apply mul_le_mul_of_nonneg_right _ unit.le
  exact_mod_cast scaled

/-- A power of two is a multiple of every smaller one. -/
theorem exists_multiple {low high : ℤ} (le : low ≤ high) :
    ∃ n : ℤ, (n : K) * 2 ^ low = 2 ^ high := by
  refine ⟨2 ^ (high - low).toNat, ?_⟩
  have exponent : (((high - low).toNat : ℕ) : ℤ) + low = high := by omega
  rw [Int.cast_pow, Int.cast_ofNat, ← zpow_natCast, ← zpow_add₀ two_pos.ne', exponent]

/-- Where the last digits of two numbers differ, a power of two lies between their
magnitudes, and it is a multiple of both digits. -/
theorem exists_between_of_lastExponent_lt (positive : 0 < digits) (yNonzero : y ≠ 0)
    (lower : lastExponent digits least x < lastExponent digits least y) :
    ∃ m n : ℤ, |x| ≤ m * 2 ^ lastExponent digits least x ∧
      n * 2 ^ lastExponent digits least y ≤ |y| ∧
      (m : K) * 2 ^ lastExponent digits least x = n * 2 ^ lastExponent digits least y := by
  have order : Int.log 2 |x| + 1 ≤ Int.log 2 |y| ∧
      lastExponent digits least x ≤ Int.log 2 |y| ∧
      lastExponent digits least y ≤ Int.log 2 |y| := by
    unfold lastExponent at *
    omega
  obtain ⟨logs, xMultiple, yMultiple⟩ := order
  obtain ⟨m, xPower⟩ := exists_multiple (K := K) xMultiple
  obtain ⟨n, yPower⟩ := exists_multiple (K := K) yMultiple
  refine ⟨m, n, ?_, ?_, by rw [xPower, yPower]⟩
  · rw [xPower]
    calc
      |x| ≤ 2 ^ (Int.log 2 |x| + 1) := by
        exact_mod_cast (Int.lt_zpow_succ_log_self (R := K) one_lt_two |x|).le
      _ ≤ 2 ^ Int.log 2 |y| := zpow_le_zpow_right₀ one_le_two logs
  · rw [yPower]
    exact_mod_cast Int.zpow_log_le_self (R := K) one_lt_two (abs_pos.mpr yNonzero)

theorem lastExponent_mono (xNonzero : x ≠ 0) (le : |x| ≤ |y|) :
    lastExponent digits least x ≤ lastExponent digits least y := by
  have logs : Int.log 2 |x| ≤ Int.log 2 |y| := Int.log_mono_right (abs_pos.mpr xNonzero) le
  unfold lastExponent
  omega

/-- With the same last digit, rounding is that of integers. -/
theorem roundBinary_mono_of_eq (le : x ≤ y)
    (same : lastExponent digits least x = lastExponent digits least y) :
    roundBinary digits least x ≤ roundBinary digits least y := by
  have unit : (0 : K) < 2 ^ lastExponent digits least y := zpow_pos two_pos _
  unfold roundBinary
  rw [same]
  apply mul_le_mul_of_nonneg_right _ unit.le
  exact_mod_cast roundHalfEven_mono (div_le_div_of_nonneg_right le unit.le)

theorem roundBinary_nonpos (nonpos : x ≤ 0) : roundBinary digits least x ≤ 0 := by
  have bound : x ≤ ((0 : ℤ) : K) * 2 ^ lastExponent digits least x := by simpa using nonpos
  simpa using roundBinary_le bound

theorem roundBinary_nonneg (nonneg : 0 ≤ x) : 0 ≤ roundBinary digits least x := by
  have bound : ((0 : ℤ) : K) * 2 ^ lastExponent digits least x ≤ x := by simpa using nonneg
  simpa using le_roundBinary bound

/-- **Rounding to binary digits is monotone**, also across a power of two. -/
theorem roundBinary_mono (positive : 0 < digits) (le : x ≤ y) :
    roundBinary digits least x ≤ roundBinary digits least y := by
  rcases le_or_gt x 0 with xNonpos | xPos
  · rcases le_or_gt 0 y with yNonneg | yNeg
    · exact (roundBinary_nonpos xNonpos).trans (roundBinary_nonneg yNonneg)
    · have magnitudes : |y| ≤ |x| := by
        rw [abs_of_neg yNeg, abs_of_nonpos xNonpos]
        linarith
      have xNeg : x < 0 := le.trans_lt yNeg
      rcases (lastExponent_mono yNeg.ne magnitudes).lt_or_eq with lower | same
      · obtain ⟨m, n, yBound, xBound, between⟩ :=
          exists_between_of_lastExponent_lt positive xNeg.ne lower
        rw [abs_of_neg yNeg] at yBound
        rw [abs_of_neg xNeg] at xBound
        have yAbove : ((-m : ℤ) : K) * 2 ^ lastExponent digits least y ≤ y := by
          push_cast
          linarith
        have xBelow : x ≤ ((-n : ℤ) : K) * 2 ^ lastExponent digits least x := by
          push_cast
          linarith
        calc
          roundBinary digits least x ≤ ((-n : ℤ) : K) * 2 ^ lastExponent digits least x :=
            roundBinary_le xBelow
          _ = ((-m : ℤ) : K) * 2 ^ lastExponent digits least y := by
            push_cast
            linarith
          _ ≤ roundBinary digits least y := le_roundBinary yAbove
      · exact roundBinary_mono_of_eq le same.symm
  · have yPos : 0 < y := xPos.trans_le le
    have magnitudes : |x| ≤ |y| := by rwa [abs_of_pos xPos, abs_of_pos yPos]
    rcases (lastExponent_mono xPos.ne' magnitudes).lt_or_eq with lower | same
    · obtain ⟨m, n, xBound, yBound, between⟩ :=
        exists_between_of_lastExponent_lt positive yPos.ne' lower
      rw [abs_of_pos xPos] at xBound
      rw [abs_of_pos yPos] at yBound
      calc
        roundBinary digits least x ≤ m * 2 ^ lastExponent digits least x := roundBinary_le xBound
        _ = n * 2 ^ lastExponent digits least y := between
        _ ≤ roundBinary digits least y := le_roundBinary yBound
    · exact roundBinary_mono_of_eq le same

/-- The error is at most half of the last digit. -/
theorem abs_roundBinary_sub_le_half (x : K) :
    |roundBinary digits least x - x| ≤ 1 / 2 * 2 ^ lastExponent digits least x := by
  have unit : (0 : K) < 2 ^ lastExponent digits least x := zpow_pos two_pos _
  have same : roundBinary digits least x - x =
      ((roundHalfEven (x / 2 ^ lastExponent digits least x) : K) -
        x / 2 ^ lastExponent digits least x) * 2 ^ lastExponent digits least x := by
    unfold roundBinary
    rw [sub_mul, div_mul_cancel₀ _ unit.ne']
  rw [same, abs_mul, abs_of_pos unit]
  exact mul_le_mul_of_nonneg_right (abs_roundHalfEven_sub_le _) unit.le

/-- When the last digit is not the least one, the error is a small part of the number. -/
theorem abs_roundBinary_sub_le_of_normal (nonzero : x ≠ 0)
    (normal : lastExponent digits least x = Int.log 2 |x| + 1 - digits) :
    |roundBinary digits least x - x| ≤ |x| / 2 ^ digits := by
  have unit : 1 / 2 * (2 : K) ^ lastExponent digits least x =
      2 ^ Int.log 2 |x| / 2 ^ digits := by
    rw [normal, zpow_sub₀ two_ne_zero, zpow_add₀ two_ne_zero, zpow_one, zpow_natCast]
    ring
  have below : (2 : K) ^ Int.log 2 |x| ≤ |x| := by
    exact_mod_cast Int.zpow_log_le_self (R := K) one_lt_two (abs_pos.mpr nonzero)
  calc
    |roundBinary digits least x - x| ≤ 1 / 2 * 2 ^ lastExponent digits least x :=
      abs_roundBinary_sub_le_half x
    _ = 2 ^ Int.log 2 |x| / 2 ^ digits := unit
    _ ≤ |x| / 2 ^ digits := div_le_div_of_nonneg_right below (by positivity)

/-- The error is a small part of the number, or less than the least digit. -/
theorem abs_roundBinary_sub_le (digits : ℕ) (least : ℤ) (x : K) :
    |roundBinary digits least x - x| ≤ |x| / 2 ^ digits + 2 ^ least := by
  have floor : (0 : K) < 2 ^ least := zpow_pos two_pos _
  by_cases zero : x = 0
  · rw [zero]
    simp [roundBinary, roundHalfEven, floor.le]
  · rcases max_choice (Int.log 2 |x| + 1 - digits) least with isNormal | isLeast
    · have relative := abs_roundBinary_sub_le_of_normal zero isNormal
      linarith
    · have absolute := @abs_roundBinary_sub_le_half K _ _ _ _ digits least x
      have part : (0 : K) ≤ |x| / 2 ^ digits := by positivity
      rw [lastExponent, isLeast] at absolute
      linarith

/-! ## Numbers that are not changed -/

/-- A number without digits below the last one that is kept is not changed. -/
theorem roundBinary_of_multiple {n : ℤ} (multiple : x = n * 2 ^ lastExponent digits least x) :
    roundBinary digits least x = x := by
  have unit : (2 : K) ^ lastExponent digits least x ≠ 0 := (zpow_pos two_pos _).ne'
  have quotient : x / 2 ^ lastExponent digits least x = n := (div_eq_iff unit).mpr multiple
  unfold roundBinary
  rw [quotient, roundHalfEven_intCast]
  exact multiple.symm

/-- A rounded number has no digit below the least one. -/
theorem exists_multiple_of_roundBinary (x : K) :
    ∃ n : ℤ, roundBinary digits least x = n * 2 ^ least := by
  obtain ⟨m, power⟩ := exists_multiple (K := K)
    (show least ≤ lastExponent digits least x from le_max_right _ _)
  refine ⟨roundHalfEven (x / 2 ^ lastExponent digits least x) * m, ?_⟩
  rw [roundBinary, ← power, Int.cast_mul, mul_assoc, power]

/-- A number without digits below the least one has a small relative error. -/
theorem abs_roundBinary_sub_le_of_multiple {n : ℤ} (multiple : x = n * 2 ^ least) :
    |roundBinary digits least x - x| ≤ |x| / 2 ^ digits := by
  by_cases zero : x = 0
  · rw [zero]
    simp [roundBinary, roundHalfEven]
  · rcases max_choice (Int.log 2 |x| + 1 - digits) least with isNormal | isLeast
    · exact abs_roundBinary_sub_le_of_normal zero isNormal
    · have kept : x = n * 2 ^ lastExponent digits least x := by rwa [lastExponent, isLeast]
      rw [roundBinary_of_multiple kept, sub_self, abs_zero]
      positivity

/-- Rounding does not cross a power of two. -/
theorem abs_roundBinary_le_zpow {exponent : ℤ} (kept : lastExponent digits least x ≤ exponent)
    (le : |x| ≤ 2 ^ exponent) : |roundBinary digits least x| ≤ 2 ^ exponent := by
  obtain ⟨n, power⟩ := exists_multiple (K := K) kept
  obtain ⟨low, high⟩ := abs_le.mp (power.symm ▸ le)
  rw [← power]
  apply abs_le.mpr
  constructor
  · have below : ((-n : ℤ) : K) * 2 ^ lastExponent digits least x ≤ x := by
      push_cast
      linarith
    have bound := le_roundBinary below
    push_cast at bound
    linarith
  · exact roundBinary_le high

/-- **Rounding twice** is rounding once. A number can be rounded up to a power of two, which
has a greater last digit. -/
theorem roundBinary_roundBinary (positive : 0 < digits) (x : K) :
    roundBinary digits least (roundBinary digits least x) = roundBinary digits least x := by
  generalize rounds : roundBinary digits least x = rounded
  obtain ⟨n, multiple⟩ : ∃ n : ℤ, rounded = n * 2 ^ lastExponent digits least x := ⟨_, rounds.symm⟩
  by_cases zero : rounded = 0
  · apply roundBinary_of_multiple (n := 0)
    simpa using zero
  · rcases le_or_gt (lastExponent digits least rounded) (lastExponent digits least x) with
      le | greater
    · obtain ⟨m, power⟩ := exists_multiple (K := K) le
      apply roundBinary_of_multiple (n := n * m)
      rw [Int.cast_mul, mul_assoc, power]
      exact multiple
    · -- Only a power of two has a greater last digit than the number it was rounded from.
      have below : |x| ≤ 2 ^ max (Int.log 2 |x| + 1) (lastExponent digits least x) := by
        have log : |x| ≤ 2 ^ (Int.log 2 |x| + 1) := by
          exact_mod_cast (Int.lt_zpow_succ_log_self (R := K) one_lt_two |x|).le
        exact log.trans (zpow_le_zpow_right₀ one_le_two (le_max_left _ _))
      have bound := abs_roundBinary_le_zpow (le_max_right _ _) below
      rw [rounds] at bound
      have least_le : (2 : K) ^ Int.log 2 |rounded| ≤ |rounded| := by
        exact_mod_cast Int.zpow_log_le_self (R := K) one_lt_two (abs_pos.mpr zero)
      have logs := (zpow_le_zpow_iff_right₀ (one_lt_two (α := K))).mp (least_le.trans bound)
      have exponents : max (Int.log 2 |x| + 1) (lastExponent digits least x) =
          Int.log 2 |rounded| ∧ lastExponent digits least rounded ≤ Int.log 2 |rounded| := by
        simp only [lastExponent] at *
        omega
      obtain ⟨isLog, kept⟩ := exponents
      obtain ⟨m, power⟩ := exists_multiple (K := K) kept
      have magnitude : |rounded| = 2 ^ Int.log 2 |rounded| :=
        le_antisymm (isLog ▸ bound) least_le
      rcases abs_choice rounded with same | opposite
      · apply roundBinary_of_multiple (n := m)
        rw [power, ← magnitude, same]
      · apply roundBinary_of_multiple (n := -m)
        rw [Int.cast_neg, neg_mul, power, ← magnitude, opposite, neg_neg]

/-- The negative of a number that is not changed is not changed. -/
theorem roundBinary_neg_of_eq (same : roundBinary digits least x = x) :
    roundBinary digits least (-x) = -x := by
  have sameDigit : lastExponent digits least (-x) = lastExponent digits least x := by
    rw [lastExponent, lastExponent, abs_neg]
  apply roundBinary_of_multiple (n := -roundHalfEven (x / 2 ^ lastExponent digits least x))
  rw [sameDigit, Int.cast_neg, neg_mul, neg_inj]
  exact same.symm

end Binary

end Foundations
