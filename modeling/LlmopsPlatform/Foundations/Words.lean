import Mathlib.Data.List.Basic

/-!
# The words of a sequence

Some symbols separate words, and the words of a sequence are the pieces between separators
that are not empty. They split at a separator (`words_append`), and this one equation decides
the words of every sequence.

A function that keeps the separators and turns words into words acts on each word for itself
(`WordMap.words_map`).
-/

set_option autoImplicit false

namespace Foundations

variable {Symbol : Type*} {separates : Symbol → Bool}

/-- The pieces between separators that are not empty. -/
def words (separates : Symbol → Bool) (text : List Symbol) : List (List Symbol) :=
  (text.splitOnP separates).filter (· ≠ [])

@[simp] theorem words_nil : words separates [] = [] := by simp [words]

/-- A sequence without separators that is not empty is one word. -/
theorem words_of_word {word : List Symbol} (nonempty : word ≠ [])
    (unseparated : ∀ symbol ∈ word, separates symbol = false) : words separates word = [word] := by
  rw [words, List.splitOnP_eq_singleton unseparated]
  simp [nonempty]

/-- **Words split at a separator.** -/
theorem words_append {separator : Symbol} (isSeparator : separates separator = true)
    (before after : List Symbol) :
    words separates (before ++ separator :: after) =
      words separates before ++ words separates after := by
  rw [words, List.splitOnP_append_cons before after isSeparator, List.filter_append]
  rfl

/-- Induction over a sequence that is cut at its separators. -/
theorem separated_induction {motive : List Symbol → Prop}
    (unseparated : ∀ text, (∀ symbol ∈ text, separates symbol = false) → motive text)
    (separated : ∀ before separator after, separates separator = true → motive before →
      motive after → motive (before ++ separator :: after))
    (text : List Symbol) : motive text := by
  induction size : text.length using Nat.strongRecOn generalizing text with
  | ind size ih =>
      by_cases cut : ∃ symbol ∈ text, separates symbol = true
      · obtain ⟨separator, member, isSeparator⟩ := cut
        obtain ⟨before, after, rfl⟩ := List.append_of_mem member
        rw [List.length_append, List.length_cons] at size
        exact separated before separator after isSeparator (ih before.length (by omega) before rfl)
          (ih after.length (by omega) after rfl)
      · refine unseparated text fun symbol member => ?_
        exact Bool.eq_false_iff.mpr fun separator => cut ⟨symbol, member, separator⟩

/-- No word contains a separator. -/
theorem unseparated_of_mem_words {word : List Symbol} (text : List Symbol)
    (isWord : word ∈ words separates text) : ∀ symbol ∈ word, separates symbol = false := by
  induction text using @separated_induction _ separates with
  | unseparated text unseparated =>
      by_cases empty : text = []
      · rw [empty, words_nil] at isWord
        cases isWord
      · rw [words_of_word empty unseparated, List.mem_singleton] at isWord
        exact isWord ▸ unseparated
  | separated before separator after isSeparator beforeHolds afterHolds =>
      rw [words_append isSeparator, List.mem_append] at isWord
      exact isWord.elim beforeHolds afterHolds

theorem ne_nil_of_mem_words {word text : List Symbol} (isWord : word ∈ words separates text) :
    word ≠ [] := by
  have kept := (List.mem_filter.mp isWord).2
  simpa using kept

/-- The words of sequences that are joined by a separator. -/
theorem words_intercalate {separator : Symbol} (isSeparator : separates separator = true)
    (texts : List (List Symbol)) :
    words separates ([separator].intercalate texts) = texts.flatMap (words separates) := by
  induction texts with
  | nil => simp
  | cons text rest ih =>
      cases rest with
      | nil => simp
      | cons next further =>
          have joined : [separator].intercalate (text :: next :: further) =
              text ++ separator :: [separator].intercalate (next :: further) := by simp
          rw [joined, words_append isSeparator, ih]
          rfl

/-- A function that keeps separators, and that turns the words between them into words. -/
structure WordMap (separates : Symbol → Bool) where
  toFun : List Symbol → List Symbol
  map_nil : toFun [] = []
  map_append : ∀ before separator after, separates separator = true →
    toFun (before ++ separator :: after) = toFun before ++ separator :: toFun after
  map_word : ∀ word, word ≠ [] → (∀ symbol ∈ word, separates symbol = false) →
    toFun word ≠ [] ∧ ∀ symbol ∈ toFun word, separates symbol = false

/-- **The words of the image** are the images of the words. -/
theorem WordMap.words_map (wordMap : WordMap separates) (text : List Symbol) :
    words separates (wordMap.toFun text) = (words separates text).map wordMap.toFun := by
  induction text using @separated_induction _ separates with
  | unseparated text unseparated =>
      by_cases empty : text = []
      · rw [empty, wordMap.map_nil, words_nil, List.map_nil]
      · obtain ⟨nonempty, inside⟩ := wordMap.map_word text empty unseparated
        rw [words_of_word empty unseparated, words_of_word nonempty inside, List.map_singleton]
  | separated before separator after isSeparator beforeWords afterWords =>
      rw [wordMap.map_append before separator after isSeparator, words_append isSeparator,
        words_append isSeparator, List.map_append, beforeWords, afterWords]

end Foundations
