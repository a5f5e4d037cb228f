import LlmopsPlatform.Python.JsonText
import Mathlib.Tactic.IntervalCases

/-!
# Reading JSON strings

`scanstring` of the `json` module reads what follows the opening quote of a string, up to the
next quote that is no part of an escape. Control characters have to be escaped. The escape of
a code unit that is a high surrogate makes one character with the escape of a low one.

A text that was written by `dumpsText` is read back (`readString_escape`).
-/

set_option autoImplicit false

namespace Python

/-! ## The reader -/

/-- What stands between the quotes: characters, and escaped UTF-16 code units. -/
inductive StringPiece where
  | char (char : Char)
  | unit (unit : ℕ)

/-- The value of a hexadecimal digit. -/
def hexValue (digit : Char) : Option ℕ :=
  if '0' ≤ digit ∧ digit ≤ '9' then some (digit.toNat - 0x30)
  else if 'a' ≤ digit ∧ digit ≤ 'f' then some (digit.toNat - 0x61 + 10)
  else if 'A' ≤ digit ∧ digit ≤ 'F' then some (digit.toNat - 0x41 + 10)
  else none

/-- `_decode_uXXXX`, on the four digits. -/
def decodeUnit (first second third fourth : Char) : Option ℕ := do
  let first ← hexValue first
  let second ← hexValue second
  let third ← hexValue third
  let fourth ← hexValue fourth
  some (first * 4096 + second * 256 + third * 16 + fourth)

/-- The table `BACKSLASH`. -/
def unescape (letter : Char) : Option Char :=
  if letter = quote ∨ letter = backslash ∨ letter = '/' then some letter
  else if letter = 'b' then some (Char.ofNat 0x08)
  else if letter = 'f' then some (Char.ofNat 0x0c)
  else if letter = 'n' then some (Char.ofNat 0x0a)
  else if letter = 'r' then some (Char.ofNat 0x0d)
  else if letter = 't' then some (Char.ofNat 0x09)
  else none

/-- The pieces up to the closing quote, and what follows it. -/
def readPieces : List Char → Option (List StringPiece × List Char)
  | [] => none
  | char :: rest =>
      if char = quote then some ([], rest)
      else if char = backslash then
        match rest with
        | 'u' :: first :: second :: third :: fourth :: rest =>
            match decodeUnit first second third fourth, readPieces rest with
            | some unit, some (pieces, rest) => some (.unit unit :: pieces, rest)
            | _, _ => none
        | letter :: rest =>
            match unescape letter, readPieces rest with
            | some char, some (pieces, rest) => some (.char char :: pieces, rest)
            | _, _ => none
        | [] => none
      else if char.toNat < 0x20 then none
      else
        match readPieces rest with
        | some (pieces, rest) => some (.char char :: pieces, rest)
        | none => none

def isHighSurrogate (unit : ℕ) : Bool := 0xd800 ≤ unit ∧ unit ≤ 0xdbff

def isLowSurrogate (unit : ℕ) : Bool := 0xdc00 ≤ unit ∧ unit ≤ 0xdfff

/-- The characters of the pieces. A surrogate without its partner is no `Char`, so there are
none if one is among them. -/
def joinPieces : List StringPiece → Option (List Char)
  | [] => some []
  | .char char :: rest => (joinPieces rest).map (char :: ·)
  | .unit unit :: rest =>
      if isHighSurrogate unit then
        match rest with
        | .unit low :: rest =>
            if isLowSurrogate low then
              (joinPieces rest).map
                (Char.ofNat (0x10000 + ((unit - 0xd800) * 0x400 + (low - 0xdc00))) :: ·)
            else none
        | _ => none
      else if isLowSurrogate unit then none
      else (joinPieces rest).map (Char.ofNat unit :: ·)

/-- `scanstring`, on what follows the opening quote. A string with a lone surrogate is not
decoded here. -/
def readString (text : List Char) : Except PyException (List Char × List Char) :=
  match readPieces text with
  | none => .error .jsonDecodeError
  | some (pieces, rest) =>
      match joinPieces pieces with
      | none => .error (.exception "lone surrogate")
      | some chars => .ok (chars, rest)

/-! ## Reading what was written -/

theorem hexValue_hexDigit {digit : ℕ} (small : digit < 16) :
    hexValue (hexDigit digit) = some digit := by
  interval_cases digit <;> rfl

theorem decodeUnit_hexDigits {unit : ℕ} (small : unit < 0x10000) :
    decodeUnit (hexDigit (unit / 4096)) (hexDigit (unit / 256 % 16)) (hexDigit (unit / 16 % 16))
      (hexDigit (unit % 16)) = some unit := by
  have whole : unit / 4096 * 4096 + unit / 256 % 16 * 256 + unit / 16 % 16 * 16 + unit % 16 =
      unit := by omega
  simp only [decodeUnit, hexValue_hexDigit (show unit / 4096 < 16 by omega),
    hexValue_hexDigit (Nat.mod_lt _ (by decide : 0 < 16)), Option.bind_eq_bind, Option.bind_some,
    whole]

/-- How a character is written. -/
inductive Written (char : Char) : List Char → List StringPiece → Prop where
  | plain (printable : 0x20 ≤ char.toNat) (notQuote : char ≠ quote)
      (notBackslash : char ≠ backslash) : Written char [char] [.char char]
  | letter (letter : Char) (notUnit : letter ≠ 'u') (isLetter : unescape letter = some char) :
      Written char [backslash, letter] [.char char]
  | unit (inPlane : char.toNat < 0x10000) :
      Written char (unicodeEscape char.toNat) [.unit char.toNat]
  | pair (beyond : 0x10000 ≤ char.toNat) :
      Written char
        (unicodeEscape (0xd800 + (char.toNat - 0x10000) / 1024) ++
          unicodeEscape (0xdc00 + (char.toNat - 0x10000) % 1024))
        [.unit (0xd800 + (char.toNat - 0x10000) / 1024),
          .unit (0xdc00 + (char.toNat - 0x10000) % 1024)]

theorem unescape_control {char letter : Char} {code : ℕ} (isCode : char.toNat = code)
    (table : unescape letter = some (Char.ofNat code)) : unescape letter = some char := by
  rw [table, ← isCode, Char.ofNat_toNat]

theorem written_escapeChar (char : Char) : ∃ pieces, Written char (escapeChar char) pieces := by
  unfold escapeChar
  split_ifs with isQuote isBackslash isNewline isReturn isTab isFeed isBackspace isPlain inPlane
  · rw [isQuote]
    exact ⟨_, .letter quote (by decide) rfl⟩
  · rw [isBackslash]
    exact ⟨_, .letter backslash (by decide) rfl⟩
  · exact ⟨_, .letter 'n' (by decide) (unescape_control isNewline rfl)⟩
  · exact ⟨_, .letter 'r' (by decide) (unescape_control isReturn rfl)⟩
  · exact ⟨_, .letter 't' (by decide) (unescape_control isTab rfl)⟩
  · exact ⟨_, .letter 'f' (by decide) (unescape_control isFeed rfl)⟩
  · exact ⟨_, .letter 'b' (by decide) (unescape_control isBackspace rfl)⟩
  · exact ⟨_, .plain isPlain.1 isQuote isBackslash⟩
  · exact ⟨_, .unit inPlane⟩
  · exact ⟨_, .pair (not_lt.mp inPlane)⟩

/-! ### One character -/

theorem readPieces_quote (rest : List Char) : readPieces (quote :: rest) = some ([], rest) := by
  rw [readPieces.eq_def]
  simp only [↓reduceIte]

theorem readPieces_plain {char : Char} (printable : 0x20 ≤ char.toNat) (notQuote : char ≠ quote)
    (notBackslash : char ≠ backslash) (rest : List Char) :
    readPieces (char :: rest) =
      (readPieces rest).map fun read => (.char char :: read.1, read.2) := by
  rw [readPieces.eq_def]
  simp only [if_neg notQuote, if_neg notBackslash, if_neg (not_lt.mpr printable)]
  cases readPieces rest <;> rfl

theorem readPieces_letter {letter char : Char} (notUnit : letter ≠ 'u')
    (isLetter : unescape letter = some char) (rest : List Char) :
    readPieces (backslash :: letter :: rest) =
      (readPieces rest).map fun read => (.char char :: read.1, read.2) := by
  have notQuote : backslash ≠ quote := by decide
  rw [readPieces.eq_def]
  simp only [if_neg notQuote, ↓reduceIte]
  split
  · rename_i same
    exact absurd (List.cons.inj same).1 notUnit
  · rename_i same
    obtain ⟨rfl, rfl⟩ := List.cons.inj same
    rw [isLetter]
    cases readPieces rest <;> rfl
  · rename_i same
    cases same

theorem readPieces_unicodeEscape {unit : ℕ} (small : unit < 0x10000) (rest : List Char) :
    readPieces (unicodeEscape unit ++ rest) =
      (readPieces rest).map fun read => (.unit unit :: read.1, read.2) := by
  have notQuote : backslash ≠ quote := by decide
  rw [unicodeEscape, readPieces.eq_def]
  simp only [List.cons_append, List.nil_append, if_neg notQuote, ↓reduceIte,
    decodeUnit_hexDigits small]
  cases readPieces rest <;> rfl

/-- A written character is read as its pieces. -/
theorem readPieces_written {char : Char} {text : List Char} {pieces : List StringPiece}
    (written : Written char text pieces) (rest : List Char) :
    readPieces (text ++ rest) =
      (readPieces rest).map fun read => (pieces ++ read.1, read.2) := by
  cases written with
  | plain printable notQuote notBackslash =>
      exact readPieces_plain printable notQuote notBackslash rest
  | letter letter notUnit isLetter => exact readPieces_letter notUnit isLetter rest
  | unit inPlane => exact readPieces_unicodeEscape inPlane rest
  | pair beyond =>
      have valid : char.toNat < 0xd800 ∨ 0xdfff < char.toNat ∧ char.toNat < 0x110000 := char.valid
      rw [List.append_assoc, readPieces_unicodeEscape (by omega),
        readPieces_unicodeEscape (by omega)]
      cases readPieces rest <;> rfl

/-- A code unit that is no surrogate is a character. -/
theorem joinPieces_unit {unit : ℕ} (notHigh : isHighSurrogate unit = false)
    (notLow : isLowSurrogate unit = false) (more : List StringPiece) :
    joinPieces (.unit unit :: more) = (joinPieces more).map (Char.ofNat unit :: ·) := by
  rw [joinPieces.eq_def]
  simp [notHigh, notLow]

theorem joinPieces_pair {high low : ℕ} (isHigh : isHighSurrogate high)
    (isLow : isLowSurrogate low) (more : List StringPiece) :
    joinPieces (.unit high :: .unit low :: more) = (joinPieces more).map
      (Char.ofNat (0x10000 + ((high - 0xd800) * 0x400 + (low - 0xdc00))) :: ·) := by
  rw [joinPieces.eq_def]
  simp [isHigh, isLow]

/-- The pieces of a written character are joined to the character. -/
theorem joinPieces_written {char : Char} {text : List Char} {pieces : List StringPiece}
    (written : Written char text pieces) (more : List StringPiece) :
    joinPieces (pieces ++ more) = (joinPieces more).map (char :: ·) := by
  have valid : char.toNat < 0xd800 ∨ 0xdfff < char.toNat ∧ char.toNat < 0x110000 := char.valid
  cases written with
  | plain printable notQuote notBackslash => rfl
  | letter letter notUnit isLetter => rfl
  | unit inPlane =>
      have notHigh : isHighSurrogate char.toNat = false := by
        simp only [isHighSurrogate, decide_eq_false_iff_not]
        omega
      have notLow : isLowSurrogate char.toNat = false := by
        simp only [isLowSurrogate, decide_eq_false_iff_not]
        omega
      rw [List.singleton_append, joinPieces_unit notHigh notLow, Char.ofNat_toNat]
  | pair beyond =>
      have isHigh : isHighSurrogate (0xd800 + (char.toNat - 0x10000) / 1024) := by
        simp only [isHighSurrogate, decide_eq_true_eq]
        omega
      have isLow : isLowSurrogate (0xdc00 + (char.toNat - 0x10000) % 1024) := by
        simp only [isLowSurrogate, decide_eq_true_eq]
        omega
      have whole : 0x10000 + ((0xd800 + (char.toNat - 0x10000) / 1024 - 0xd800) * 0x400 +
          (0xdc00 + (char.toNat - 0x10000) % 1024 - 0xdc00)) = char.toNat := by omega
      rw [List.cons_append, List.singleton_append, joinPieces_pair isHigh isLow, whole,
        Char.ofNat_toNat]

/-- **Written strings are read back.** -/
theorem readString_escape (text rest : List Char) :
    readString (escape text ++ quote :: rest) = .ok (text, rest) := by
  have both : ∃ pieces, readPieces (escape text ++ quote :: rest) = some (pieces, rest) ∧
      joinPieces pieces = some text := by
    induction text with
    | nil => exact ⟨[], readPieces_quote rest, rfl⟩
    | cons char later ih =>
        obtain ⟨others, read, joined⟩ := ih
        obtain ⟨pieces, written⟩ := written_escapeChar char
        refine ⟨pieces ++ others, ?_, ?_⟩
        · rw [escape, List.flatMap_cons, List.append_assoc, readPieces_written written]
          rw [escape] at read
          rw [read]
          rfl
        · rw [joinPieces_written written, joined]
          rfl
  obtain ⟨pieces, read, joined⟩ := both
  simp only [readString, read, joined]

end Python
