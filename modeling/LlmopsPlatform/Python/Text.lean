import Mathlib.Data.List.Infix

/-!
# Texts

The operations `text.lower()` and `needle in text`, for needles of ASCII letters, loops
that add up texts (`foldl_append_eq_join`), and `text.split(separator)` for one character
(`split_append`, `length_split_eq_one_iff`).
-/

set_option autoImplicit false

namespace Python

/-- The lowercase of a character, where it is an ASCII character. The one character
outside ASCII whose lowercase is a single ASCII letter is the Kelvin sign. -/
def lowerChar (char : Char) : Char :=
  if char = Char.ofNat 0x212A then 'k' else char.toLower

/-- `text.lower()`, as far as `lowerChar` computes it. -/
def lower (text : String) : List Char := text.toList.map lowerChar

/-- `needle in text`. -/
def OccursIn (needle : String) (text : List Char) : Prop := needle.toList <:+: text

instance (needle : String) (text : List Char) : Decidable (OccursIn needle text) :=
  inferInstanceAs (Decidable (needle.toList <:+: text))

/-- A loop that appends a text for each item joins these texts. -/
theorem foldl_append_eq_join {Item : Type} (read : Item → String) (items : List Item)
    (text : String) :
    items.foldl (fun text item => text ++ read item) text =
      text ++ String.join (items.map read) := by
  induction items generalizing text with
  | nil => simp
  | cons item rest ih =>
      rw [List.foldl_cons, ih, List.map_cons, String.join_cons, String.append_assoc]

/-! ## Splitting -/

/-- `text.split(separator)`, for a separator of one character. -/
def split (separator : Char) (text : String) : List String :=
  (text.toList.splitOn separator).map String.ofList

/-- A text without the separator is the only part. -/
theorem split_of_not_mem {separator : Char} {text : String} (absent : separator ∉ text.toList) :
    split separator text = [text] := by
  rw [split, List.splitOn_eq_singleton absent, List.map_singleton, String.ofList_toList]

/-- The part before the first separator. -/
theorem split_append {separator : Char} {first : String} (absent : separator ∉ first.toList)
    (rest : String) :
    split separator (first ++ String.singleton separator ++ rest) =
      first :: split separator rest := by
  have parts : (first ++ String.singleton separator ++ rest).toList =
      first.toList ++ separator :: rest.toList := by simp
  rw [split, parts, List.splitOn_append_cons_self_of_not_mem absent, List.map_cons,
    String.ofList_toList]
  rfl

/-- Only a text without the separator has one part. -/
theorem length_split_eq_one_iff {separator : Char} {text : String} :
    (split separator text).length = 1 ↔ separator ∉ text.toList := by
  constructor
  · intro single present
    obtain ⟨before, after, parts⟩ := List.append_of_mem present
    rw [split, List.length_map, parts, List.splitOn_append_cons_self, List.length_append] at single
    have first := List.length_pos_iff.mpr (List.splitOn_ne_nil separator before)
    have second := List.length_pos_iff.mpr (List.splitOn_ne_nil separator after)
    omega
  · intro absent
    rw [split_of_not_mem absent]
    rfl

end Python
