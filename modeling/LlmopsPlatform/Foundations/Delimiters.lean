import Mathlib.Data.List.Basic

/-!
# The first delimited part of a text

The search for an opening character, at least one character that is not the closing one,
and the closing character. The leftmost opening character with such a part is found, and
the part ends at the first closing character after it.
-/

set_option autoImplicit false

namespace Foundations

variable {Symbol : Type*} [DecidableEq Symbol]

/-- The characters up to the first closing one, if there is at least one before it. -/
def bodyBefore (closing : Symbol) (text : List Symbol) : Option (List Symbol) :=
  let body := text.takeWhile (· ≠ closing)
  if body ≠ [] ∧ closing ∈ text then some body else none

/-- What is between the delimiters of the first delimited part. -/
def firstDelimited (opening closing : Symbol) : List Symbol → Option (List Symbol)
  | [] => none
  | first :: rest =>
      if first = opening then (bodyBefore closing rest).or (firstDelimited opening closing rest)
      else firstDelimited opening closing rest

variable {opening closing : Symbol}

/-- What is before the first closing character. -/
theorem takeWhile_append_cons {body : List Symbol} (absent : closing ∉ body)
    (after : List Symbol) : (body ++ closing :: after).takeWhile (· ≠ closing) = body := by
  rw [List.takeWhile_append_of_pos fun symbol member => by
    simpa using fun same : symbol = closing => absent (same ▸ member)]
  simp

theorem bodyBefore_append {body : List Symbol} (filled : body ≠ []) (absent : closing ∉ body)
    (after : List Symbol) : bodyBefore closing (body ++ closing :: after) = some body := by
  rw [bodyBefore]
  simp only [takeWhile_append_cons absent]
  exact if_pos ⟨filled, by simp⟩

/-- A list that starts like another one and has a closing character has the same part before
the first one. -/
theorem eq_of_prefix_append {first second after others : List Symbol} (inFirst : closing ∉ first)
    (inSecond : closing ∉ second)
    (starts : (first ++ closing :: after) <+: (second ++ closing :: others)) : first = second := by
  obtain ⟨more, same⟩ := starts
  rw [List.append_assoc, List.cons_append] at same
  have parts := congrArg (List.takeWhile (· ≠ closing)) same
  rwa [takeWhile_append_cons inFirst, takeWhile_append_cons inSecond] at parts

/-- **The part after the first opening character**, if it has a body. -/
theorem firstDelimited_append {before body : List Symbol} (noOpening : opening ∉ before)
    (filled : body ≠ []) (absent : closing ∉ body) (after : List Symbol) :
    firstDelimited opening closing (before ++ opening :: (body ++ closing :: after)) =
      some body := by
  induction before with
  | nil =>
      rw [List.nil_append, firstDelimited, if_pos rfl, bodyBefore_append filled absent]
      rfl
  | cons first rest ih =>
      rw [List.mem_cons, not_or] at noOpening
      rw [List.cons_append, firstDelimited, if_neg (Ne.symm noOpening.1)]
      exact ih noOpening.2

end Foundations
