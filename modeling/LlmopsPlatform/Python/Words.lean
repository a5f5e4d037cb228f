import LlmopsPlatform.Foundations.Words
import LlmopsPlatform.Python.Text
import Mathlib.Data.List.DropRight

/-!
# Words of a text

The operations `text.split()` and `text.strip(characters)`, and what the operation
`text.lower()` does to the words of a text: white space stays as it is, and the words between
are lowered for themselves. The lowercase of a letter can depend on the letters around it, but
only on those of the same word.
-/

set_option autoImplicit false

namespace Python

open Foundations

/-- Whether a character is white space. -/
def isSpace (char : Char) : Bool :=
  let point := char.toNat
  (9 ≤ point ∧ point ≤ 13) ∨ (28 ≤ point ∧ point ≤ 32) ∨ (0x2000 ≤ point ∧ point ≤ 0x200A) ∨
    point ∈ [0x85, 0xA0, 0x1680, 0x2028, 0x2029, 0x202F, 0x205F, 0x3000]

/-- `text.split()`. -/
def splitWords (text : String) : List (List Char) := words isSpace text.toList

/-- `text.strip(characters)`. -/
def strip (characters text : List Char) : List Char :=
  (text.dropWhile (· ∈ characters)).rdropWhile (· ∈ characters)

/-- Only characters that are stripped are left away. -/
theorem strip_ne_nil_iff {characters text : List Char} :
    strip characters text ≠ [] ↔ ∃ char ∈ text, char ∉ characters := by
  have remaining : strip characters text = [] ↔ ∀ char ∈ text, char ∈ characters := by
    rw [strip, List.rdropWhile_eq_nil_iff]
    simp only [decide_eq_true_eq]
    constructor
    · intro inDropped char member
      rw [← @List.takeWhile_append_dropWhile _ (· ∈ characters) text, List.mem_append] at member
      rcases member with taken | dropped
      · simpa using List.mem_takeWhile_imp taken
      · exact inDropped char dropped
    · exact fun all char dropped => all char ((List.dropWhile_sublist _).subset dropped)
  rw [Ne, remaining]
  simp only [not_forall, exists_prop]

theorem strip_subset (characters text : List Char) : strip characters text ⊆ text := by
  intro char member
  exact (List.dropWhile_sublist _).subset ((List.rdropWhile_prefix _ _).subset member)

theorem strip_cons_of_mem {characters : List Char} {char : Char} (isStripped : char ∈ characters)
    (text : List Char) : strip characters (char :: text) = strip characters text := by
  have dropped : (char :: text).dropWhile (· ∈ characters) = text.dropWhile (· ∈ characters) :=
    List.dropWhile_cons_of_pos (decide_eq_true isStripped)
  rw [strip, dropped, strip]

/-- Nothing is stripped from a text with other characters at both ends. -/
theorem strip_of_ends {characters text : List Char}
    (kept : ∀ char, char ∈ text.head? ∨ char ∈ text.getLast? → char ∉ characters) :
    strip characters text = text := by
  have noneAtStart : text.dropWhile (· ∈ characters) = text := by
    cases text with
    | nil => rfl
    | cons first rest =>
        exact List.dropWhile_cons_of_neg (by simpa using kept first (.inl rfl))
  rw [strip, noneAtStart, List.rdropWhile_eq_self_iff]
  intro nonempty
  simpa using kept _ (.inr (List.getLast?_eq_some_getLast nonempty))

/-- The operation `text.lower()`. -/
abbrev Lowercase := WordMap isSpace

/-- `lowerChar` neither makes nor takes away white space. -/
theorem isSpace_lowerChar (char : Char) : isSpace (lowerChar char) = isSpace char := by
  have letters : ∀ point < 91, 65 ≤ point →
      isSpace (Char.ofNat point).toLower = isSpace (Char.ofNat point) := by decide
  rw [lowerChar]
  split
  · rename_i kelvin
    rw [kelvin]
    decide
  · by_cases upper : 65 ≤ char.toNat ∧ char.toNat ≤ 90
    · have lowered := letters char.toNat (by omega) upper.1
      rwa [Char.ofNat_toNat] at lowered
    · have unchanged : char.toLower = char := dif_neg upper
      rw [unchanged]

/-- White space is its own lowercase. -/
theorem lowerChar_of_isSpace {char : Char} (space : isSpace char = true) :
    lowerChar char = char := by
  have notUpper : ¬(65 ≤ char.toNat ∧ char.toNat ≤ 90) := by
    simp only [isSpace, decide_eq_true_eq, List.mem_cons, List.not_mem_nil,
      or_false] at space
    omega
  have notKelvin : char ≠ Char.ofNat 0x212A := by
    rintro rfl
    exact absurd space (by decide)
  rw [lowerChar, if_neg notKelvin]
  exact dif_neg notUpper

/-- The lowercase, as far as `lowerChar` computes it. -/
def asciiLowercase : Lowercase where
  toFun text := text.map lowerChar
  map_nil := rfl
  map_append before separator after isSeparator := by
    rw [List.map_append, List.map_cons, lowerChar_of_isSpace isSeparator]
  map_word word nonempty unseparated := by
    refine ⟨fun empty => nonempty (List.map_eq_nil_iff.mp empty), ?_⟩
    refine List.forall_mem_map.mpr fun char member => ?_
    rw [isSpace_lowerChar, unseparated char member]

/-- Repeating a text, separated by spaces, repeats its words. -/
theorem splitWords_repeat (count : ℕ) (text : String) :
    splitWords (" ".intercalate (List.replicate count text)) =
      (List.replicate count (splitWords text)).flatten := by
  have space : isSpace ' ' = true := by decide
  have separator : " ".toList = [' '] := by decide
  rw [splitWords, String.toList_intercalate, separator, words_intercalate space,
    List.map_replicate, List.flatMap_replicate]
  rfl

end Python
