import LlmopsPlatform.Python.Json

/-!
# Texts as JSON

`json.dumps` writes a text between quotes and escapes quotes, backslashes, control
characters and all characters outside ASCII. A printable character that is no part of an
escape, such as a brace, is in the written text for each time it is in the text
(`mem_escape_iff`, `escape_append_cons`).
-/

set_option autoImplicit false

namespace Python

def quote : Char := Char.ofNat 0x22

def backslash : Char := Char.ofNat 0x5c

def hexDigits : List Char := "0123456789abcdef".toList

def hexDigit (digit : ℕ) : Char := hexDigits.getD digit '0'

/-- The escape of a UTF-16 code unit. -/
def unicodeEscape (unit : ℕ) : List Char :=
  [backslash, 'u', hexDigit (unit / 4096), hexDigit (unit / 256 % 16), hexDigit (unit / 16 % 16),
    hexDigit (unit % 16)]

/-- The escape of a character, or the character. -/
def escapeChar (char : Char) : List Char :=
  if char = quote then [backslash, quote]
  else if char = backslash then [backslash, backslash]
  else if char.toNat = 0x0a then [backslash, 'n']
  else if char.toNat = 0x0d then [backslash, 'r']
  else if char.toNat = 0x09 then [backslash, 't']
  else if char.toNat = 0x0c then [backslash, 'f']
  else if char.toNat = 0x08 then [backslash, 'b']
  else if 0x20 ≤ char.toNat ∧ char.toNat ≤ 0x7e then [char]
  else if char.toNat < 0x10000 then unicodeEscape char.toNat
  else
    unicodeEscape (0xd800 + (char.toNat - 0x10000) / 1024) ++
      unicodeEscape (0xdc00 + (char.toNat - 0x10000) % 1024)

def escape (text : List Char) : List Char := text.flatMap escapeChar

/-- `json.dumps(text)`. -/
def dumpsText (text : List Char) : List Char := quote :: (escape text ++ [quote])

/-! ## Plain characters -/

/-- The characters of the escapes. -/
def escapeSymbols : List Char :=
  [quote, backslash, 'u', 'n', 'r', 't', 'f', 'b'] ++ hexDigits

/-- A printable character that is no part of an escape. -/
def IsPlain (char : Char) : Prop :=
  char ∉ escapeSymbols ∧ 0x20 ≤ char.toNat ∧ char.toNat ≤ 0x7e

instance (char : Char) : Decidable (IsPlain char) :=
  inferInstanceAs (Decidable (_ ∧ _))

variable {char plain : Char}

theorem hexDigit_mem (digit : ℕ) : hexDigit digit ∈ escapeSymbols := by
  refine List.mem_append_right _ ?_
  rw [hexDigit, List.getD_eq_getElem?_getD]
  by_cases inRange : digit < hexDigits.length
  · rw [List.getElem?_eq_getElem inRange]
    exact List.getElem_mem inRange
  · rw [List.getElem?_eq_none (not_lt.mp inRange)]
    decide

theorem unicodeEscape_subset (unit : ℕ) : unicodeEscape unit ⊆ escapeSymbols := by
  intro symbol member
  simp only [unicodeEscape, List.mem_cons, List.not_mem_nil, or_false] at member
  rcases member with rfl | rfl | rfl | rfl | rfl | rfl
  · decide
  · decide
  · exact hexDigit_mem _
  · exact hexDigit_mem _
  · exact hexDigit_mem _
  · exact hexDigit_mem _

/-- A character is written as it is, or as an escape. -/
theorem escapeChar_cases (char : Char) :
    escapeChar char = [char] ∨ escapeChar char ⊆ escapeSymbols ∧ escapeChar char ≠ [] := by
  let Written (text : List Char) : Prop := text = [char] ∨ text ⊆ escapeSymbols ∧ text ≠ []
  have either {condition : Prop} [Decidable condition] {one other : List Char}
      (first : Written one) (second : Written other) :
      Written (if condition then one else other) := by
    split
    · exact first
    · exact second
  have symbol (letter : Char) (member : letter ∈ escapeSymbols) : Written [backslash, letter] :=
    .inr ⟨List.cons_subset.mpr ⟨by decide, List.cons_subset.mpr ⟨member, List.nil_subset _⟩⟩,
      List.cons_ne_nil _ _⟩
  have unit (code : ℕ) : Written (unicodeEscape code) :=
    .inr ⟨unicodeEscape_subset code, List.cons_ne_nil _ _⟩
  have pair (high low : ℕ) : Written (unicodeEscape high ++ unicodeEscape low) :=
    .inr ⟨List.append_subset.mpr ⟨unicodeEscape_subset high, unicodeEscape_subset low⟩,
      List.cons_ne_nil _ _⟩
  unfold escapeChar
  refine either (symbol quote (by decide)) (either (symbol backslash (by decide)) ?_)
  refine either (symbol 'n' (by decide)) (either (symbol 'r' (by decide)) ?_)
  refine either (symbol 't' (by decide)) (either (symbol 'f' (by decide)) ?_)
  exact either (symbol 'b' (by decide)) (either (.inl rfl) (either (unit _) (pair _ _)))

theorem escapeChar_of_plain (isPlain : IsPlain plain) : escapeChar plain = [plain] := by
  obtain ⟨notSymbol, low, high⟩ := isPlain
  have notQuote : plain ≠ quote := fun same => notSymbol (by rw [same]; decide)
  have notBackslash : plain ≠ backslash := fun same => notSymbol (by rw [same]; decide)
  unfold escapeChar
  rw [if_neg notQuote, if_neg notBackslash, if_neg (by omega), if_neg (by omega),
    if_neg (by omega), if_neg (by omega), if_neg (by omega), if_pos ⟨low, high⟩]

theorem escapeChar_ne_nil (char : Char) : escapeChar char ≠ [] := by
  rcases escapeChar_cases char with same | ⟨-, filled⟩
  · rw [same]
    exact List.cons_ne_nil _ _
  · exact filled

/-- A plain character is written where it is in the text, and nowhere else. -/
theorem mem_escape_iff (isPlain : IsPlain plain) {text : List Char} :
    plain ∈ escape text ↔ plain ∈ text := by
  rw [escape, List.mem_flatMap]
  constructor
  · rintro ⟨char, member, written⟩
    rcases escapeChar_cases char with same | ⟨symbols, -⟩
    · rw [same, List.mem_singleton] at written
      exact written ▸ member
    · exact absurd (symbols written) isPlain.1
  · intro member
    exact ⟨plain, member, by rw [escapeChar_of_plain isPlain]; exact List.mem_singleton_self plain⟩

/-- What is around a plain character is escaped for itself. -/
theorem escape_append_cons (isPlain : IsPlain plain) (before after : List Char) :
    escape (before ++ plain :: after) = escape before ++ plain :: escape after := by
  simp [escape, escapeChar_of_plain isPlain]

/-- An escaped text is not shorter. -/
theorem length_le_length_escape (text : List Char) : text.length ≤ (escape text).length := by
  induction text with
  | nil => exact le_rfl
  | cons char rest ih =>
      have positive := List.length_pos_iff.mpr (escapeChar_ne_nil char)
      rw [escape, List.flatMap_cons, List.length_append, List.length_cons]
      change rest.length ≤ (rest.flatMap escapeChar).length at ih
      omega

end Python
