import LlmopsPlatform.Foundations.RoundedSums
import LlmopsPlatform.Python.Float
import LlmopsPlatform.Python.Json
import Mathlib.Algebra.Group.Subgroup.ZPowers.Basic

/-!
# Floats with overflow

A float is finite, infinite or not a number. An operation on finite floats rounds its exact
result and overflows to an infinity when that is too large. The sign of a zero is left out.

The built-in `sum` of floats is compensated.
-/

set_option autoImplicit false

namespace Python

open Foundations

/-! ## Finite floats -/

theorem toFloat_toFloat (value : ℚ) : toFloat (toFloat value) = toFloat value :=
  roundBinary_roundBinary (by decide) value

theorem toFloat_nonneg {value : ℚ} (nonneg : 0 ≤ value) : 0 ≤ toFloat value :=
  roundBinary_nonneg nonneg

/-- A number that a finite float denotes. -/
def IsDouble (value : ℚ) : Prop := toFloat value = value ∧ |value| < 2 ^ 1024

instance (value : ℚ) : Decidable (IsDouble value) :=
  inferInstanceAs (Decidable (toFloat value = value ∧ |value| < 2 ^ 1024))

theorem IsDouble.neg {value : ℚ} (isDouble : IsDouble value) : IsDouble (-value) :=
  ⟨roundBinary_neg_of_eq isDouble.1, by rw [abs_neg]; exact isDouble.2⟩

/-- Integers of at most 53 binary digits are floats. -/
theorem isDouble_intCast {n : ℤ} (small : |n| < 2 ^ 53) : IsDouble n := by
  have bounded : |(n : ℚ)| < 2 ^ 53 := by exact_mod_cast small
  constructor
  · by_cases zero : n = 0
    · simp [zero, toFloat, roundBinary, roundHalfEven]
    · have positive : 0 < |(n : ℚ)| := abs_pos.mpr (Int.cast_ne_zero.mpr zero)
      have log_lt : Int.log 2 |(n : ℚ)| < 53 :=
        (Int.lt_zpow_iff_log_lt Nat.one_lt_two positive).mp (by exact_mod_cast bounded)
      have isWhole : lastExponent 53 (-1074) (n : ℚ) ≤ 0 := by
        rw [lastExponent]
        omega
      obtain ⟨m, power⟩ := exists_multiple (K := ℚ) isWhole
      apply roundBinary_of_multiple (n := n * m)
      rw [Int.cast_mul, mul_assoc, power, zpow_zero, mul_one]
  · exact bounded.trans (pow_lt_pow_right₀ one_lt_two (by norm_num))

theorem isDouble_zero : IsDouble 0 := by
  simpa using isDouble_intCast (n := 0) (by norm_num)

theorem isDouble_one : IsDouble 1 := by
  simpa using isDouble_intCast (n := 1) (by norm_num)

/-- The multiples of the least positive float. -/
def floatGrid : AddSubgroup ℚ := AddSubgroup.zmultiples (2 ^ (-1074 : ℤ))

theorem toFloat_mem_floatGrid (value : ℚ) : toFloat value ∈ floatGrid := by
  obtain ⟨n, multiple⟩ := @exists_multiple_of_roundBinary ℚ _ _ _ _ 53 (-1074) value
  refine AddSubgroup.mem_zmultiples_iff.mpr ⟨n, ?_⟩
  rw [zsmul_eq_mul]
  exact multiple.symm

theorem IsDouble.mem_floatGrid {value : ℚ} (isDouble : IsDouble value) : value ∈ floatGrid := by
  rw [← isDouble.1]
  exact toFloat_mem_floatGrid value

/-- Sums and differences of floats are rounded with a relative error. -/
theorem roundsOn_toFloat : RoundsOn toFloat floatGrid (1 / 2 ^ 53) where
  mem exact _ := toFloat_mem_floatGrid exact
  close exact inGrid := by
    obtain ⟨n, multiple⟩ := AddSubgroup.mem_zmultiples_iff.mp inGrid
    rw [one_div_mul_eq_div]
    apply abs_roundBinary_sub_le_of_multiple (n := n)
    rw [← multiple, zsmul_eq_mul]

/-! ## Operations -/

/-- A float. -/
inductive Double where
  | finite (value : ℚ) (isDouble : IsDouble value)
  | posInf
  | negInf
  | nan

namespace Double

def zero : Double := .finite 0 isDouble_zero

/-- The number that a finite float denotes. -/
def value? : Double → Option ℚ
  | .finite value _ => some value
  | _ => none

/-- The float that an exact result is rounded to. -/
def rounded (exact : ℚ) : Double :=
  if inRange : |toFloat exact| < 2 ^ 1024 then
    .finite (toFloat exact) ⟨toFloat_toFloat exact, inRange⟩
  else if 0 < exact then .posInf
  else .negInf

def neg : Double → Double
  | .finite value isDouble => .finite (-value) isDouble.neg
  | .posInf => .negInf
  | .negInf => .posInf
  | .nan => .nan

def add : Double → Double → Double
  | .finite first _, .finite second _ => rounded (first + second)
  | .nan, _ => .nan
  | _, .nan => .nan
  | .posInf, .negInf => .nan
  | .negInf, .posInf => .nan
  | .posInf, _ => .posInf
  | _, .posInf => .posInf
  | .negInf, _ => .negInf
  | _, .negInf => .negInf

def sub (first second : Double) : Double := add first (neg second)

/-- The infinity with the sign of a number. Zero has none. -/
def infinity (sign : ℚ) : Double :=
  if 0 < sign then .posInf else if sign < 0 then .negInf else .nan

def mul : Double → Double → Double
  | .finite first _, .finite second _ => rounded (first * second)
  | .nan, _ => .nan
  | _, .nan => .nan
  | .finite first _, .posInf => infinity first
  | .finite first _, .negInf => infinity (-first)
  | .posInf, .finite second _ => infinity second
  | .negInf, .finite second _ => infinity (-second)
  | .posInf, .posInf => .posInf
  | .posInf, .negInf => .negInf
  | .negInf, .posInf => .negInf
  | .negInf, .negInf => .posInf

/-- The quotient by a positive float. -/
def div : Double → Double → Double
  | .finite first _, .finite second _ => rounded (first / second)
  | .finite _ _, .posInf => zero
  | .posInf, .finite _ _ => .posInf
  | .negInf, .finite _ _ => .negInf
  | _, _ => .nan

/-- `number > 0`. -/
def IsPositive : Double → Prop
  | .finite value _ => 0 < value
  | .posInf => True
  | .negInf => False
  | .nan => False

instance (number : Double) : Decidable number.IsPositive :=
  match number with
  | .finite value _ => inferInstanceAs (Decidable (0 < value))
  | .posInf => inferInstanceAs (Decidable True)
  | .negInf => inferInstanceAs (Decidable False)
  | .nan => inferInstanceAs (Decidable False)

/-- `round(number, decimals)`. Infinities are not changed. -/
def round (decimals : ℕ) : Double → Double
  | .finite value _ => rounded (roundDecimals decimals value)
  | other => other

/-- `fabs(first) <= fabs(second)`. -/
def absLe : Double → Double → Bool
  | .nan, _ => false
  | _, .nan => false
  | .finite first _, .finite second _ => decide (|first| ≤ |second|)
  | _, .finite _ _ => false
  | _, _ => true

/-- What the rounding of a sum loses, as the built-in `sum` computes it. -/
def lostIn (total item : Double) : Double :=
  if absLe item total then add (sub total (add total item)) item
  else add (sub item (add total item)) total

/-- One item of the built-in `sum`. The pair holds the sum so far and its compensation. -/
def compensate (state : Double × Double) (item : Double) : Double × Double :=
  (add state.1 item, add state.2 (lostIn state.1 item))

/-- The sum and its compensation after some items. -/
def compensated : List Double → Double × Double
  | [] => (zero, zero)
  | first :: rest => rest.foldl compensate (first, zero)

/-- The built-in `sum` of floats. The compensation is added at the end, if it is finite. -/
def sum (items : List Double) : Double :=
  let state := compensated items
  match state.2 with
  | .finite lost _ => if lost = 0 then state.1 else add state.1 state.2
  | _ => state.1

/-- The float in a JSON value. -/
def toPyFloat : Double → PyFloat
  | .finite value _ => .finite value
  | .posInf => .posInf
  | .negInf => .negInf
  | .nan => .nan

/-! ## Results in range -/

theorem value_eq_some {number : Double} {value : ℚ} :
    number.value? = some value ↔ ∃ isDouble, number = .finite value isDouble := by
  cases number with
  | finite other isDouble =>
      constructor
      · intro same
        cases same
        exact ⟨isDouble, rfl⟩
      · rintro ⟨_, same⟩
        cases same
        rfl
  | _ => simp [value?]

theorem isDouble_of_value {number : Double} {value : ℚ} (isValue : number.value? = some value) :
    IsDouble value :=
  (value_eq_some.mp isValue).1

theorem value_rounded {exact : ℚ} (inRange : |toFloat exact| < 2 ^ 1024) :
    (rounded exact).value? = some (toFloat exact) := by
  rw [rounded, dif_pos inRange]
  rfl

/-- A float is not rounded. -/
theorem rounded_of_isDouble {value : ℚ} (isDouble : IsDouble value) :
    rounded value = .finite value isDouble := by
  have inRange : |toFloat value| < 2 ^ 1024 := by
    rw [isDouble.1]
    exact isDouble.2
  rw [rounded, dif_pos inRange]
  congr
  exact isDouble.1

theorem value_rounded_of_isDouble {value : ℚ} (isDouble : IsDouble value) :
    (rounded value).value? = some value := by
  rw [rounded_of_isDouble isDouble]
  rfl

theorem value_rounded_zero : (rounded 0).value? = some 0 :=
  value_rounded_of_isDouble isDouble_zero

theorem value_rounded_one : (rounded 1).value? = some 1 :=
  value_rounded_of_isDouble isDouble_one

/-- Rounding does not leave an interval between floats. -/
theorem value_rounded_of_mem {low high exact : ℚ} (lowDouble : IsDouble low)
    (highDouble : IsDouble high) (inRange : exact ∈ Set.Icc low high) :
    (rounded exact).value? = some (toFloat exact) := by
  apply value_rounded
  have above := toFloat_mono inRange.1
  have below := toFloat_mono inRange.2
  rw [lowDouble.1] at above
  rw [highDouble.1] at below
  rw [abs_lt]
  exact ⟨(abs_lt.mp lowDouble.2).1.trans_le above, below.trans_lt (abs_lt.mp highDouble.2).2⟩

/-- A bound below which nothing overflows. -/
def safe : ℚ := 3 * 2 ^ 1022

theorem two_pow_1023 : (2 : ℚ) ^ 1023 = 2 * 2 ^ 1022 := pow_succ' 2 1022

theorem two_pow_1024 : (2 : ℚ) ^ 1024 = 4 * 2 ^ 1022 := by
  have four : (2 : ℚ) * 2 = 4 := by norm_num
  rw [pow_succ' 2 1023, two_pow_1023, ← mul_assoc, four]

theorem safe_eq : safe = 3 / 2 * 2 ^ 1023 := by
  have three : (3 : ℚ) / 2 * 2 = 3 := by norm_num
  rw [two_pow_1023, ← mul_assoc, three, safe]

theorem isDouble_safe : IsDouble safe := by decide +kernel

theorem value_rounded_of_safe {exact : ℚ} (inRange : |exact| ≤ safe) :
    (rounded exact).value? = some (toFloat exact) :=
  value_rounded_of_mem isDouble_safe.neg isDouble_safe (abs_le.mp inRange)

/-- A result that is not rounded to a finite float is large. -/
theorem rounded_of_overflow {exact : ℚ} (nonneg : 0 ≤ exact)
    (overflow : ¬|toFloat exact| < 2 ^ 1024) : rounded exact = .posInf ∧ safe < exact := by
  have large : safe < exact := by
    by_contra small
    have inRange : |exact| ≤ safe := by
      rw [abs_of_nonneg nonneg]
      exact not_lt.mp small
    have isFinite := value_rounded_of_safe inRange
    rw [rounded, dif_neg overflow] at isFinite
    split at isFinite <;> cases isFinite
  have positive : 0 < exact := (by decide +kernel : (0 : ℚ) < safe).trans large
  rw [rounded, dif_neg overflow, if_pos positive]
  exact ⟨rfl, large⟩

section Values

variable {first second : Double} {a b : ℚ}

theorem add_of_value (isFirst : first.value? = some a) (isSecond : second.value? = some b) :
    add first second = rounded (a + b) := by
  obtain ⟨_, rfl⟩ := value_eq_some.mp isFirst
  obtain ⟨_, rfl⟩ := value_eq_some.mp isSecond
  rfl

theorem sub_of_value (isFirst : first.value? = some a) (isSecond : second.value? = some b) :
    sub first second = rounded (a - b) := by
  obtain ⟨_, rfl⟩ := value_eq_some.mp isFirst
  obtain ⟨_, rfl⟩ := value_eq_some.mp isSecond
  rw [sub_eq_add_neg]
  rfl

theorem mul_of_value (isFirst : first.value? = some a) (isSecond : second.value? = some b) :
    mul first second = rounded (a * b) := by
  obtain ⟨_, rfl⟩ := value_eq_some.mp isFirst
  obtain ⟨_, rfl⟩ := value_eq_some.mp isSecond
  rfl

theorem div_of_value (isFirst : first.value? = some a) (isSecond : second.value? = some b) :
    div first second = rounded (a / b) := by
  obtain ⟨_, rfl⟩ := value_eq_some.mp isFirst
  obtain ⟨_, rfl⟩ := value_eq_some.mp isSecond
  rfl

theorem absLe_of_value (isFirst : first.value? = some a) (isSecond : second.value? = some b) :
    absLe first second = decide (|a| ≤ |b|) := by
  obtain ⟨_, rfl⟩ := value_eq_some.mp isFirst
  obtain ⟨_, rfl⟩ := value_eq_some.mp isSecond
  rfl

end Values

/-- The difference of floats that are not negative does not overflow. -/
theorem value_sub_of_nonneg {first second : Double} {a b : ℚ} (isFirst : first.value? = some a)
    (isSecond : second.value? = some b) (firstNonneg : 0 ≤ a) (secondNonneg : 0 ≤ b) :
    (sub first second).value? = some (toFloat (a - b)) := by
  rw [sub_of_value isFirst isSecond]
  apply value_rounded_of_mem (isDouble_of_value isSecond).neg (isDouble_of_value isFirst)
  constructor <;> linarith

end Double

end Python
