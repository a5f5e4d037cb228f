import LlmopsPlatform.Python.Json
import Mathlib.Algebra.Ring.Nat
import Mathlib.Data.List.TakeWhile

/-!
# Reading JSON numbers

The number that `NUMBER_RE` of the `json` module matches at the beginning of a text: an
optional sign, an integer without leading zeros, an optional fraction and an optional
exponent. A number with neither of the two is an integer, and any other is a float.

A number is read back whatever follows it, as long as that does not continue the number
(`readNumber_text`). Integers are written as such numbers (`intText`).
-/

set_option autoImplicit false

namespace Python

/-! ## The reader -/

/-- The groups of a match. The fraction begins with its point and the exponent with its mark,
and they are empty where they are missing. -/
structure NumberText where
  negative : Bool
  whole : List Char
  fraction : List Char
  exponent : List Char

/-- The text of a number. -/
def NumberText.text (number : NumberText) : List Char :=
  (if number.negative then ['-'] else []) ++ number.whole ++ number.fraction ++ number.exponent

def digitsOf (text : List Char) : List Char := text.takeWhile Char.isDigit

def afterDigits (text : List Char) : List Char := text.dropWhile Char.isDigit

/-- `0|[1-9]\d*` -/
def readWhole (text : List Char) : Option (List Char × List Char) :=
  if text.head? = some '0' then some (['0'], text.tail)
  else if digitsOf text = [] then none
  else some (digitsOf text, afterDigits text)

/-- `(\.\d+)?` -/
def readFraction (text : List Char) : List Char × List Char :=
  if text.head? = some '.' ∧ digitsOf text.tail ≠ [] then
    ('.' :: digitsOf text.tail, afterDigits text.tail)
  else ([], text)

/-- `[-+]?` -/
def readSign : List Char → List Char × List Char
  | [] => ([], [])
  | sign :: rest => if sign = '-' ∨ sign = '+' then ([sign], rest) else ([], sign :: rest)

/-- `([eE][-+]?\d+)?` -/
def readExponent : List Char → List Char × List Char
  | [] => ([], [])
  | mark :: rest =>
      if (mark = 'e' ∨ mark = 'E') ∧ digitsOf (readSign rest).2 ≠ [] then
        (mark :: (readSign rest).1 ++ digitsOf (readSign rest).2, afterDigits (readSign rest).2)
      else ([], mark :: rest)

/-- What follows an optional minus sign. -/
def readUnsigned (negative : Bool) (text : List Char) : Option (NumberText × List Char) :=
  match readWhole text with
  | none => none
  | some (whole, rest) =>
      let (fraction, rest) := readFraction rest
      let (exponent, rest) := readExponent rest
      some (⟨negative, whole, fraction, exponent⟩, rest)

/-- The match at the beginning of a text, and what follows it. -/
def readNumber (text : List Char) : Option (NumberText × List Char) :=
  if text.head? = some '-' then readUnsigned true text.tail else readUnsigned false text

/-! ## Numbers are read back -/

/-- A number that the reader can match as a whole. -/
structure NumberText.Valid (number : NumberText) : Prop where
  whole : number.whole = ['0'] ∨
    number.whole ≠ [] ∧ number.whole.head? ≠ some '0' ∧ ∀ digit ∈ number.whole, digit.isDigit
  fraction : number.fraction = [] ∨
    ∃ digits, number.fraction = '.' :: digits ∧ digits ≠ [] ∧ ∀ digit ∈ digits, digit.isDigit
  exponent : number.exponent = [] ∨
    ∃ mark sign digits, number.exponent = mark :: sign ++ digits ∧ (mark = 'e' ∨ mark = 'E') ∧
      (sign = [] ∨ sign = ['-'] ∨ sign = ['+']) ∧ digits ≠ [] ∧ ∀ digit ∈ digits, digit.isDigit

/-- What follows a number and does not continue it. -/
def EndsNumber (rest : List Char) : Prop :=
  ∀ char, rest.head? = some char → char.isDigit = false ∧ char ≠ '.' ∧ char ≠ 'e' ∧ char ≠ 'E'

/-- What follows does not begin with a digit. -/
def EndsDigits (rest : List Char) : Prop := ∀ char, rest.head? = some char → char.isDigit = false

variable {digits rest : List Char}

theorem digitsOf_of_ends (ends : EndsDigits rest) : digitsOf rest = [] := by
  cases rest with
  | nil => rfl
  | cons char later => exact List.takeWhile_cons_of_neg (by simp [ends char rfl])

theorem afterDigits_of_ends (ends : EndsDigits rest) : afterDigits rest = rest := by
  cases rest with
  | nil => rfl
  | cons char later => exact List.dropWhile_cons_of_neg (by simp [ends char rfl])

theorem digitsOf_append (all : ∀ digit ∈ digits, digit.isDigit) (ends : EndsDigits rest) :
    digitsOf (digits ++ rest) = digits := by
  rw [digitsOf, List.takeWhile_append_of_pos all]
  exact (congrArg (digits ++ ·) (digitsOf_of_ends ends)).trans (List.append_nil _)

theorem afterDigits_append (all : ∀ digit ∈ digits, digit.isDigit) (ends : EndsDigits rest) :
    afterDigits (digits ++ rest) = rest := by
  rw [afterDigits, List.dropWhile_append_of_pos all]
  exact afterDigits_of_ends ends

theorem readWhole_append {whole : List Char}
    (valid : whole = ['0'] ∨
      whole ≠ [] ∧ whole.head? ≠ some '0' ∧ ∀ digit ∈ whole, digit.isDigit)
    (ends : EndsDigits rest) : readWhole (whole ++ rest) = some (whole, rest) := by
  rcases valid with rfl | ⟨filled, notZero, all⟩
  · rfl
  · have head : (whole ++ rest).head? = whole.head? := by
      rw [List.head?_append_of_ne_nil _ filled]
    rw [readWhole, head, if_neg notZero, digitsOf_append all ends, if_neg filled,
      afterDigits_append all ends]

theorem readFraction_append {fraction : List Char}
    (valid : fraction = [] ∨
      ∃ digits, fraction = '.' :: digits ∧ digits ≠ [] ∧ ∀ digit ∈ digits, digit.isDigit)
    (ends : EndsDigits rest) (noPoint : rest.head? ≠ some '.') :
    readFraction (fraction ++ rest) = (fraction, rest) := by
  rcases valid with rfl | ⟨digits, rfl, filled, all⟩
  · rw [List.nil_append, readFraction, if_neg fun both => noPoint both.1]
  · rw [List.cons_append, readFraction, List.tail_cons, digitsOf_append all ends,
      afterDigits_append all ends, if_pos ⟨rfl, filled⟩]

/-- A sign is read, and nothing of digits. -/
theorem readSign_append {sign : List Char} (isSign : sign = [] ∨ sign = ['-'] ∨ sign = ['+'])
    (filled : digits ≠ []) (all : ∀ digit ∈ digits, digit.isDigit) :
    readSign (sign ++ (digits ++ rest)) = (sign, digits ++ rest) := by
  obtain ⟨first, later, rfl⟩ := List.exists_cons_of_ne_nil filled
  have isDigit : first.isDigit = true := all first List.mem_cons_self
  have noSign : ¬ (first = '-' ∨ first = '+') := by
    rintro (rfl | rfl)
    · exact absurd isDigit (by decide)
    · exact absurd isDigit (by decide)
  rcases isSign with rfl | rfl | rfl
  · rw [List.nil_append, List.cons_append, readSign, if_neg noSign]
  · rfl
  · rfl

theorem readExponent_append {exponent : List Char}
    (valid : exponent = [] ∨ ∃ mark sign digits, exponent = mark :: sign ++ digits ∧
      (mark = 'e' ∨ mark = 'E') ∧ (sign = [] ∨ sign = ['-'] ∨ sign = ['+']) ∧ digits ≠ [] ∧
        ∀ digit ∈ digits, digit.isDigit)
    (ends : EndsNumber rest) : readExponent (exponent ++ rest) = (exponent, rest) := by
  have endsDigits : EndsDigits rest := fun char isHead => (ends char isHead).1
  rcases valid with rfl | ⟨mark, sign, digits, rfl, isMark, isSign, filled, all⟩
  · cases rest with
    | nil => rfl
    | cons char later =>
        obtain ⟨-, -, notSmall, notLarge⟩ := ends char rfl
        rw [List.nil_append, readExponent, if_neg fun both => both.1.elim notSmall notLarge]
  · rw [List.cons_append, List.cons_append, List.append_assoc, readExponent,
      readSign_append isSign filled all, digitsOf_append all endsDigits,
      afterDigits_append all endsDigits, if_pos ⟨isMark, filled⟩]
    rfl

/-- A fraction and an exponent begin with no digit, and neither does what ends a number. -/
theorem endsDigits_append {exponent : List Char}
    (valid : exponent = [] ∨ ∃ mark sign digits, exponent = mark :: sign ++ digits ∧
      (mark = 'e' ∨ mark = 'E') ∧ (sign = [] ∨ sign = ['-'] ∨ sign = ['+']) ∧ digits ≠ [] ∧
        ∀ digit ∈ digits, digit.isDigit)
    (ends : EndsNumber rest) :
    EndsDigits (exponent ++ rest) ∧ (exponent ++ rest).head? ≠ some '.' := by
  rcases valid with rfl | ⟨mark, sign, digits, rfl, isMark, -⟩
  · exact ⟨fun char isHead => (ends char isHead).1, fun isPoint => (ends '.' isPoint).2.1 rfl⟩
  · rcases isMark with rfl | rfl
    · exact ⟨by rintro char ⟨⟩; rfl, by simp⟩
    · exact ⟨by rintro char ⟨⟩; rfl, by simp⟩

variable {number : NumberText}

theorem readUnsigned_append (valid : number.Valid) (ends : EndsNumber rest) :
    readUnsigned number.negative (number.whole ++ (number.fraction ++ (number.exponent ++ rest))) =
      some (number, rest) := by
  obtain ⟨noDigit, noPoint⟩ := endsDigits_append valid.exponent ends
  have afterWhole : EndsDigits (number.fraction ++ (number.exponent ++ rest)) := by
    rcases valid.fraction with none | ⟨digits, isFraction, -⟩
    · rw [none, List.nil_append]
      exact noDigit
    · rw [isFraction]
      rintro char ⟨⟩
      rfl
  simp only [readUnsigned, readWhole_append valid.whole afterWhole,
    readFraction_append valid.fraction noDigit noPoint, readExponent_append valid.exponent ends]

/-- **Numbers are read back**, with what follows them. -/
theorem readNumber_text (valid : number.Valid) (ends : EndsNumber rest) :
    readNumber (number.text ++ rest) = some (number, rest) := by
  have unsigned := readUnsigned_append valid ends
  have noMinus : (number.whole ++ (number.fraction ++ (number.exponent ++ rest))).head? ≠
      some '-' := by
    rcases valid.whole with zero | ⟨filled, -, all⟩
    · rw [zero]
      simp
    · rw [List.head?_append_of_ne_nil _ filled]
      intro isMinus
      exact absurd (all '-' (List.mem_of_head? isMinus)) (by decide)
  rw [NumberText.text, List.append_assoc, List.append_assoc, List.append_assoc]
  cases isNegative : number.negative with
  | true =>
      rw [isNegative] at unsigned
      rw [if_pos rfl, List.singleton_append, readNumber, List.head?_cons, if_pos rfl,
        List.tail_cons, unsigned]
  | false =>
      rw [isNegative] at unsigned
      rw [if_neg (by decide), List.nil_append, readNumber, if_neg noMinus, unsigned]

/-! ## Values -/

/-- `float.__repr__` on finite floats, and `float(…)` on the texts of numbers. -/
structure FloatFormat where
  repr : ℚ → List Char
  ofLiteral : List Char → PyFloat

/-- The number is no integer literal. -/
def NumberText.IsFloat (number : NumberText) : Prop := number.fraction ≠ [] ∨ number.exponent ≠ []

instance (number : NumberText) : Decidable number.IsFloat := inferInstanceAs (Decidable (_ ∨ _))

/-- A finite float whose `repr` is a literal of a float that reads back as the same float. -/
structure FloatFormat.ReadsBack (floats : FloatFormat) (value : ℚ) : Prop where
  literal : ∃ number : NumberText, number.Valid ∧ number.IsFloat ∧ number.text = floats.repr value
  inverts : floats.ofLiteral (floats.repr value) = .finite value

/-- `int` refuses a literal with more digits, and so does `str` an integer. -/
def maxStrDigits : ℕ := 4300

/-- The value of a number that was matched. -/
def NumberText.value (number : NumberText) (floats : FloatFormat) : Except PyException Json :=
  if number.IsFloat then .ok (.float (floats.ofLiteral number.text))
  else if maxStrDigits < number.whole.length then
    .error (.valueError "Exceeds the limit (4300 digits) for integer string conversion")
  else
    let magnitude : ℤ := Nat.ofDigitChars 10 number.whole 0
    .ok (.int (if number.negative then -magnitude else magnitude))

/-- `int.__repr__`, as a number. -/
def intText (value : ℤ) : NumberText := ⟨value < 0, Nat.toDigits 10 value.natAbs, [], []⟩

/-- Digits have no leading zero. -/
theorem head?_toDigits_ne_zero (value : ℕ) (positive : value ≠ 0) :
    (Nat.toDigits 10 value).head? ≠ some '0' := by
  induction value using Nat.strongRecOn with
  | ind value ih =>
      by_cases small : value < 10
      · rw [Nat.toDigits_of_lt_base small]
        simp [positive]
      · rw [Nat.toDigits_of_base_le (by decide) (not_lt.mp small),
          List.head?_append_of_ne_nil _ Nat.toDigits_ne_nil]
        exact ih (value / 10) (by omega) (by omega)

theorem intText_valid (value : ℤ) : (intText value).Valid where
  whole := by
    by_cases isZero : value = 0
    · subst isZero
      exact .inl rfl
    · exact .inr ⟨Nat.toDigits_ne_nil, head?_toDigits_ne_zero _ (Int.natAbs_ne_zero.mpr isZero),
        fun digit member => Nat.isDigit_of_mem_toDigits (by decide) (by decide) member⟩
  fraction := .inl rfl
  exponent := .inl rfl

/-- An integer that is not too long is the value of its text. -/
theorem value_intText (floats : FloatFormat) {value : ℤ}
    (short : value.natAbs < 10 ^ maxStrDigits) :
    (intText value).value floats = .ok (.int value) := by
  have noFloat : ¬ (intText value).IsFloat := by
    rintro (fraction | exponent)
    · exact fraction rfl
    · exact exponent rfl
  have fits : ¬ maxStrDigits < (intText value).whole.length :=
    not_lt.mpr ((Nat.length_toDigits_le_iff (by decide) (by decide)).mpr short)
  have magnitude : (Nat.ofDigitChars 10 (intText value).whole 0 : ℤ) = value.natAbs :=
    congrArg Nat.cast Nat.ofDigitChars_ten_toDigits
  rw [NumberText.value, if_neg noFloat, if_neg fits]
  simp only [magnitude]
  by_cases negative : value < 0
  · have isNegative : (intText value).negative = true := decide_eq_true negative
    rw [if_pos isNegative]
    exact congrArg (Except.ok ∘ Json.int) (by omega)
  · rw [if_neg (by simpa [intText] using negative)]
    exact congrArg (Except.ok ∘ Json.int) (by omega)

end Python
