import Mathlib.Algebra.BigOperators.Group.List.Basic
import Mathlib.Data.List.Forall2
import Mathlib.Order.Basic

/-!
# Combinations of one item from each list

The combinations of some lists take one item from each of them, and the last position
changes fastest. There are as many as the product of the lengths (`length_combinations`),
and an item list is a combination exactly when each item is in its list
(`mem_combinations_iff`).

An item can occur more than once in a list, so that combinations are told apart by the
positions of their items. The combinations of positions are in strict lexicographic order
(`pairwise_positions`), and the items at them are the combinations in their order
(`combinations_eq_positions`).
-/

set_option autoImplicit false

namespace Foundations

variable {Item : Type*}

/-- One item from each list, the last position changing fastest. -/
def combinations : List (List Item) → List (List Item)
  | [] => [[]]
  | items :: rest => items.flatMap fun item => (combinations rest).map (item :: ·)

theorem length_combinations (lists : List (List Item)) :
    (combinations lists).length = (lists.map List.length).prod := by
  induction lists with
  | nil => rfl
  | cons items rest ih => simp [combinations, List.length_flatMap, ih]

theorem mem_combinations_iff {lists : List (List Item)} {combo : List Item} :
    combo ∈ combinations lists ↔ List.Forall₂ (fun item items => item ∈ items) combo lists := by
  induction lists generalizing combo with
  | nil => simp [combinations]
  | cons items rest ih =>
      cases combo with
      | nil => simp [combinations]
      | cons item others => simp [combinations, ih]

/-- There is a combination unless one of the lists is empty. -/
theorem combinations_ne_nil_iff {lists : List (List Item)} :
    combinations lists ≠ [] ↔ ∀ items ∈ lists, items ≠ [] := by
  induction lists with
  | nil => simp [combinations]
  | cons items rest ih =>
      have lengths := length_combinations (items :: rest)
      rw [List.map_cons, List.prod_cons, ← length_combinations] at lengths
      rw [List.forall_mem_cons, ← ih]
      simp only [ne_eq, ← List.length_eq_zero_iff, lengths, Nat.mul_eq_zero, not_or]

/-! ## Positions -/

/-- The combinations of positions in some lists. -/
def positions (lists : List (List Item)) : List (List ℕ) :=
  combinations (lists.map fun items => List.range items.length)

theorem mem_positions_iff {lists : List (List Item)} {combo : List ℕ} :
    combo ∈ positions lists ↔
      List.Forall₂ (fun position items => position < items.length) combo lists := by
  rw [positions, mem_combinations_iff, List.forall₂_map_right_iff]
  simp only [List.mem_range]

/-- **Positions are in lexicographic order**, without repetitions. -/
theorem pairwise_positions (lists : List (List Item)) :
    (positions lists).Pairwise (· < ·) := by
  induction lists with
  | nil => exact List.pairwise_singleton _ _
  | cons items rest ih =>
      rw [positions, List.map_cons, combinations, List.pairwise_flatMap]
      constructor
      · intro position _
        refine List.pairwise_map.mpr (ih.imp fun order => ?_)
        exact List.cons_lt_cons_iff.mpr (.inr ⟨rfl, order⟩)
      · refine List.pairwise_lt_range.imp fun order => ?_
        intro first isFirst second isSecond
        obtain ⟨firstRest, -, rfl⟩ := List.mem_map.mp isFirst
        obtain ⟨secondRest, -, rfl⟩ := List.mem_map.mp isSecond
        exact List.cons_lt_cons_iff.mpr (.inl order)

/-- The items of a list are the ones at its positions. -/
theorem map_getElem?_range (items : List Item) :
    (List.range items.length).map (fun position => items[position]?) = items.map some := by
  apply List.ext_getElem
  · simp
  · intro position inRange _
    simp

/-- **The combinations are the items at the positions**, in the same order. -/
theorem combinations_eq_positions (lists : List (List Item)) :
    (combinations lists).map (List.map some) =
      (positions lists).map fun combo =>
        List.zipWith (fun position items => items[position]?) combo lists := by
  induction lists with
  | nil => rfl
  | cons items rest ih =>
      have extended (item : Option Item) :
          (combinations rest).map (fun combo => item :: combo.map some) =
            (positions rest).map fun combo =>
              item :: List.zipWith (fun position items => items[position]?) combo rest := by
        have prepended := congrArg (List.map (item :: ·)) ih
        rwa [List.map_map, List.map_map] at prepended
      have byItem : (combinations (items :: rest)).map (List.map some) =
          (items.map some).flatMap fun item =>
            (combinations rest).map fun combo => item :: combo.map some := by
        simp [combinations, List.map_flatMap, List.flatMap_map, Function.comp_def]
      have byPosition : (positions (items :: rest)).map (fun combo =>
            List.zipWith (fun position items => items[position]?) combo (items :: rest)) =
          ((List.range items.length).map fun position => items[position]?).flatMap fun item =>
            (positions rest).map fun combo =>
              item :: List.zipWith (fun position items => items[position]?) combo rest := by
        simp [positions, combinations, List.map_flatMap, List.flatMap_map, Function.comp_def]
      rw [byItem, byPosition, map_getElem?_range]
      simp only [extended]

end Foundations
