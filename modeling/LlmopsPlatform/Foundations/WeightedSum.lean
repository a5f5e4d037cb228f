import Mathlib.Algebra.BigOperators.Ring.List
import Mathlib.Algebra.Order.BigOperators.Group.List
import Mathlib.Algebra.GroupWithZero.Nat
import Mathlib.Algebra.Order.Field.Basic
import Mathlib.Tactic.Linarith

/-!
# Weighted sums over a list

Each item of a list has a weight and a value. When the weights are not negative, the
weighted sum of the values lies between the total weight times any lower bound of the
values and the total weight times any upper bound (`le_weightedSum`, `weightedSum_le`).
With a total weight of one it is an average.

Items of value zero can be left out (`weightedSum_filter_eq`).
-/

set_option autoImplicit false

namespace Foundations

variable {K Item : Type*} [Field K] [LinearOrder K] [IsStrictOrderedRing K]

/-- The sum of the weights. -/
def totalWeight (weight : Item → K) (items : List Item) : K := (items.map weight).sum

/-- The sum of the values, each times its weight. -/
def weightedSum (weight value : Item → K) (items : List Item) : K :=
  (items.map fun item => value item * weight item).sum

variable {weight value : Item → K} {items : List Item}

omit [LinearOrder K] [IsStrictOrderedRing K] in
theorem weightedSum_const (constant : K) :
    weightedSum weight (fun _ => constant) items = constant * totalWeight weight items := by
  simp [weightedSum, totalWeight, List.sum_map_mul_left]

theorem weightedSum_le (nonneg : ∀ item ∈ items, 0 ≤ weight item) {high : K}
    (bound : ∀ item ∈ items, value item ≤ high) :
    weightedSum weight value items ≤ high * totalWeight weight items := by
  rw [← weightedSum_const]
  apply List.sum_le_sum
  intro item member
  exact mul_le_mul_of_nonneg_right (bound item member) (nonneg item member)

theorem le_weightedSum (nonneg : ∀ item ∈ items, 0 ≤ weight item) {low : K}
    (bound : ∀ item ∈ items, low ≤ value item) :
    low * totalWeight weight items ≤ weightedSum weight value items := by
  rw [← weightedSum_const]
  apply List.sum_le_sum
  intro item member
  exact mul_le_mul_of_nonneg_right (bound item member) (nonneg item member)

/-- Weighted sums of close values are close. -/
theorem abs_weightedSum_sub_le (nonneg : ∀ item ∈ items, 0 ≤ weight item) {other : Item → K}
    {bound : K} (close : ∀ item ∈ items, |value item - other item| ≤ bound) :
    |weightedSum weight value items - weightedSum weight other items| ≤
      bound * totalWeight weight items := by
  have difference : weightedSum weight value items =
      weightedSum weight (fun item => value item - other item) items +
        weightedSum weight other items := by
    simp only [weightedSum, ← List.sum_map_add, sub_mul, sub_add_cancel]
  rw [difference, add_sub_cancel_right, abs_le]
  constructor
  · have low := le_weightedSum nonneg fun item member => (abs_le.mp (close item member)).1
    linarith
  · exact weightedSum_le nonneg fun item member => (abs_le.mp (close item member)).2

theorem totalWeight_nonneg (nonneg : ∀ item ∈ items, 0 ≤ weight item) :
    0 ≤ totalWeight weight items := by
  apply List.sum_nonneg
  intro part member
  obtain ⟨item, itemMember, rfl⟩ := List.mem_map.mp member
  exact nonneg item itemMember

/-- No weight is greater than the total. -/
theorem le_totalWeight (nonneg : ∀ item ∈ items, 0 ≤ weight item) {item : Item}
    (member : item ∈ items) : weight item ≤ totalWeight weight items := by
  obtain ⟨before, after, rfl⟩ := List.append_of_mem member
  have beforeNonneg : 0 ≤ totalWeight weight before :=
    totalWeight_nonneg fun other inBefore => nonneg other (List.mem_append_left _ inBefore)
  have afterNonneg : 0 ≤ totalWeight weight after :=
    totalWeight_nonneg fun other inAfter => nonneg other (by simp [inAfter])
  simp only [totalWeight, List.map_append, List.map_cons, List.sum_append, List.sum_cons] at *
  linarith

/-! ## Items that are left out -/

omit [LinearOrder K] [IsStrictOrderedRing K] in
/-- Leaving out items of value zero does not change the weighted sum. -/
theorem weightedSum_filter_eq {keep : Item → Bool}
    (zero : ∀ item ∈ items, keep item = false → value item = 0) :
    weightedSum weight value (items.filter keep) = weightedSum weight value items := by
  induction items with
  | nil => rfl
  | cons item rest ih =>
      obtain ⟨here, later⟩ := List.forall_mem_cons.mp zero
      have others := ih later
      simp only [weightedSum] at others
      cases kept : keep item with
      | true => simp [weightedSum, kept, others]
      | false => simp [weightedSum, kept, others, here kept]

end Foundations
