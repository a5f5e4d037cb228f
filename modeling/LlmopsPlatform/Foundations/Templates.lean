import Mathlib.Combinatorics.Enumerative.DoubleCounting

/-!
# Templates and what is left of their values

A template is a sequence of literal segments and named parameters, and values for the
parameters fill it. When every segment of a filled template is read through a function, two
fillings look the same exactly when the function takes the same value at every parameter
(`map_fill_eq_iff`).

A function that replaces the segments of some class by a placeholder does so for two segments
when they are equal, or when each of them is in the class or the placeholder itself
(`collapse_eq_iff`).

Items whose labels are determined by their keys have at most as many labels as keys
(`card_labels_le`).
-/

set_option autoImplicit false

namespace Foundations

/-- A literal segment, or a parameter with a name. -/
inductive Piece (Segment Name : Type*) where
  | literal (segment : Segment)
  | parameter (name : Name)
deriving DecidableEq

namespace Piece

variable {Segment Name Image : Type*}

/-- The segment that a piece stands for. -/
def fill (values : Name → Segment) : Piece Segment Name → Segment
  | literal segment => segment
  | parameter name => values name

/-- The segments that a template stands for. -/
def fillAll (values : Name → Segment) (template : List (Piece Segment Name)) : List Segment :=
  template.map (fill values)

/-- The parameters of a template. -/
def parameters : List (Piece Segment Name) → List Name
  | [] => []
  | literal _ :: rest => parameters rest
  | parameter name :: rest => name :: parameters rest

/-- **Two fillings look the same** when their values do. -/
theorem map_fillAll_eq_iff {view : Segment → Image} {first second : Name → Segment}
    (template : List (Piece Segment Name)) :
    (fillAll first template).map view = (fillAll second template).map view ↔
      ∀ name ∈ parameters template, view (first name) = view (second name) := by
  induction template with
  | nil => simp [fillAll, parameters]
  | cons piece rest ih =>
      simp only [fillAll, List.map_cons, List.cons.injEq] at ih ⊢
      rw [ih]
      cases piece with
      | literal segment => exact and_iff_right rfl
      | parameter name =>
          rw [parameters, List.forall_mem_cons]
          rfl

end Piece

/-! ## Placeholders -/

section Collapse

variable {Segment : Type*} (recognised : Segment → Bool) (placeholder : Segment)

/-- The placeholder for every segment of the class. -/
def collapse (segment : Segment) : Segment :=
  if recognised segment then placeholder else segment

/-- The segment is in the class, or it is the placeholder itself. -/
def Collapses (segment : Segment) : Prop := recognised segment = true ∨ segment = placeholder

instance [DecidableEq Segment] (segment : Segment) :
    Decidable (Collapses recognised placeholder segment) :=
  inferInstanceAs (Decidable (recognised segment = true ∨ segment = placeholder))

variable {recognised placeholder} {first second : Segment}

theorem collapse_eq_placeholder_iff :
    collapse recognised placeholder first = placeholder ↔
      Collapses recognised placeholder first := by
  rw [collapse, Collapses]
  by_cases inClass : recognised first = true
  · simp [inClass]
  · simp [inClass]

theorem collapse_of_not (outside : ¬Collapses recognised placeholder first) :
    collapse recognised placeholder first = first :=
  if_neg fun inClass => outside (.inl inClass)

/-- **Two segments look the same** when they are equal or both collapse. -/
theorem collapse_eq_iff :
    collapse recognised placeholder first = collapse recognised placeholder second ↔
      first = second ∨
        Collapses recognised placeholder first ∧ Collapses recognised placeholder second := by
  by_cases firstIn : Collapses recognised placeholder first
  · rw [collapse_eq_placeholder_iff.mpr firstIn, eq_comm, collapse_eq_placeholder_iff]
    constructor
    · exact fun secondIn => .inr ⟨firstIn, secondIn⟩
    · rintro (rfl | both)
      · exact firstIn
      · exact both.2
  · by_cases secondIn : Collapses recognised placeholder second
    · rw [collapse_eq_placeholder_iff.mpr secondIn, collapse_eq_placeholder_iff]
      constructor
      · exact fun inside => absurd inside firstIn
      · rintro (rfl | both)
        · exact secondIn
        · exact both.1
    · rw [collapse_of_not firstIn, collapse_of_not secondIn]
      exact (or_iff_left fun both => firstIn both.1).symm

end Collapse

/-! ## Labels and keys -/

/-- **There are at most as many labels as keys**, when keys determine labels. -/
theorem card_labels_le {Item Key Label : Type*} [DecidableEq Key] [DecidableEq Label]
    {key : Item → Key} {label : Item → Label} {items : List Item}
    (determined : ∀ first ∈ items, ∀ second ∈ items, key first = key second →
      label first = label second) :
    (items.map label).toFinset.card ≤ (items.map key).toFinset.card := by
  -- Each label is the label of an item, and different labels have items with different keys.
  have labelled : ∀ found ∈ (items.map label).toFinset, ∃ item ∈ items, label item = found :=
    fun found member => List.mem_map.mp (List.mem_toFinset.mp member)
  choose item isItem isLabel using labelled
  refine Finset.card_le_card_of_forall_subsingleton (fun found wanted =>
    ∃ item ∈ items, label item = found ∧ key item = wanted) ?_ ?_
  · intro found member
    have present := isItem found member
    exact ⟨_, List.mem_toFinset.mpr (List.mem_map_of_mem present), _, present,
      isLabel found member, rfl⟩
  · rintro wanted - first ⟨-, one, isOne, rfl, oneKey⟩ second ⟨-, other, isOther, rfl, otherKey⟩
    exact determined one isOne other isOther (oneKey.trans otherKey.symm)

end Foundations
