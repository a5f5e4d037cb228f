import LlmopsPlatform.Python.Float
import LlmopsPlatform.Python.Json

/-!
# Conversions to floats, and comparisons of floats

`float(data)` of a decoded value raises a `TypeError` for what is neither a number nor a
text, an `OverflowError` for an integer that is too large, and a `ValueError` for a text
that is no number.

Comparisons with a value that is not a number are false. So `max(low, min(high, value))`
lies between the two bounds for every float (`exists_clamp_eq`).
-/

set_option autoImplicit false

namespace Python

/-- Whether `except ValueError` catches it. -/
def PyException.isValueError : PyException → Bool
  | .jsonDecodeError | .valueError _ => true
  | _ => false

namespace PyFloat

/-- The float nearest to a number, which is infinite beyond the largest floats. -/
def ofRat (value : ℚ) : PyFloat :=
  if |value| < floatOverflowBound then .finite (toFloat value)
  else if 0 < value then .posInf
  else .negInf

/-- `first < second`. -/
def isLess : PyFloat → PyFloat → Bool
  | .nan, _ | _, .nan => false
  | .finite first, .finite second => first < second
  | .negInf, .negInf | .posInf, .posInf => false
  | .negInf, _ | _, .posInf => true
  | _, _ => false

/-- `first <= second`. -/
def isAtMost (first second : PyFloat) : Bool :=
  first.isLess second || (first = second && first ≠ .nan)

/-- `min(first, second)`, which is the first one unless the second one is less. -/
def pyMin (first second : PyFloat) : PyFloat := if second.isLess first then second else first

/-- `max(first, second)`, which is the first one unless it is less than the second one. -/
def pyMax (first second : PyFloat) : PyFloat := if first.isLess second then second else first

/-- `value / divisor` for a positive divisor. -/
def divide (value : PyFloat) (divisor : ℚ) : PyFloat :=
  match value with
  | .finite value => .ofRat (value / divisor)
  | special => special

/-- `max(low, min(high, value))`. -/
def clamp (low high : ℚ) (value : PyFloat) : PyFloat :=
  pyMax (.finite low) (pyMin (.finite high) value)

variable {low high : ℚ}

/-- A number between the bounds is not changed. -/
theorem clamp_finite {value : ℚ} (above : low ≤ value) (below : value ≤ high) :
    clamp low high (.finite value) = .finite value := by
  unfold clamp pyMin pyMax
  simp only [isLess, decide_eq_true_eq]
  rcases below.lt_or_eq with less | rfl
  · rw [if_pos less]
    rcases above.lt_or_eq with greater | rfl
    · rw [if_pos (by simpa using greater)]
    · rw [if_neg (by simp)]
  · rw [if_neg (lt_irrefl _)]
    rcases above.lt_or_eq with greater | rfl
    · rw [if_pos (by simpa using greater)]
    · rw [if_neg (by simp)]

/-- **A clamped float** is a number between the bounds. -/
theorem exists_clamp_eq (order : low ≤ high) (value : PyFloat) :
    ∃ clamped, clamp low high value = .finite clamped ∧ low ≤ clamped ∧ clamped ≤ high := by
  have atLeast (number : ℚ) (below : number ≤ high) :
      ∃ clamped, pyMax (.finite low) (.finite number) = .finite clamped ∧ low ≤ clamped ∧
        clamped ≤ high := by
    unfold pyMax
    by_cases greater : low < number
    · exact ⟨number, by simp [isLess, greater], greater.le, below⟩
    · exact ⟨low, by simp [isLess, greater], le_rfl, order⟩
  unfold clamp
  cases value with
  | finite number =>
      by_cases less : number < high
      · rw [show pyMin (.finite high) (.finite number) = .finite number by
          simp [pyMin, isLess, less]]
        exact atLeast number less.le
      · rw [show pyMin (.finite high) (.finite number) = .finite high by
          simp [pyMin, isLess, less]]
        exact atLeast high le_rfl
  | posInf => exact atLeast high le_rfl
  | negInf => exact ⟨low, rfl, le_rfl, order⟩
  | nan => exact atLeast high le_rfl

end PyFloat

/-- `float(data)`. The texts of numbers are read by a function of their own. -/
def Json.toPyFloat (ofText : String → Option PyFloat) : Json → Except PyException PyFloat
  | .bool truth => .ok (.finite truth.toNat)
  | .int value =>
      if |value| < floatOverflowBound then .ok (.finite (toFloat value)) else .error .overflowError
  | .float value => .ok value
  | .str text =>
      match ofText text with
      | some value => .ok value
      | none => .error (.valueError "could not convert string to float")
  | .null | .list _ | .dict _ => .error .typeError

/-- A boolean, an integer or a float as the number that comparisons look at. -/
def Json.number? : Json → Option PyFloat
  | .bool truth => some (.finite truth.toNat)
  | .int value => some (.finite value)
  | .float value => some value
  | .null | .str _ | .list _ | .dict _ => none

/-- A boolean, a float, a text, or an integer that is not too large for a float. -/
def Json.NumberOrText : Json → Prop
  | .bool _ | .float _ | .str _ => True
  | .int value => |value| < floatOverflowBound
  | .null | .list _ | .dict _ => False

/-- **`float(data)`** returns or raises a `ValueError` exactly for these values. -/
theorem Json.numberOrText_iff (ofText : String → Option PyFloat) (data : Json) :
    data.NumberOrText ↔
      ∀ failure, data.toPyFloat ofText = .error failure → failure.isValueError = true := by
  cases data with
  | null => simp [NumberOrText, toPyFloat, PyException.isValueError]
  | bool truth => simp [NumberOrText, toPyFloat]
  | int value =>
      by_cases small : |value| < floatOverflowBound
      · simp [NumberOrText, toPyFloat, small]
      · simp [NumberOrText, toPyFloat, small, PyException.isValueError]
  | float value => simp [NumberOrText, toPyFloat]
  | str text =>
      cases read : ofText text with
      | none => simp [NumberOrText, toPyFloat, read, PyException.isValueError]
      | some value => simp [NumberOrText, toPyFloat, read]
  | list items => simp [NumberOrText, toPyFloat, PyException.isValueError]
  | dict entries => simp [NumberOrText, toPyFloat, PyException.isValueError]

end Python
