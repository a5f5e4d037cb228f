import Mathlib.Algebra.Order.Chebyshev
import Mathlib.Algebra.Order.Group.Finset
import Mathlib.Analysis.Real.Sqrt
import Mathlib.Tactic.LinearCombination

/-!
# The cosine of two vectors

The cosine of two vectors that are indexed by keys: their dot product divided by both norms.
It is at most one by the Cauchy–Schwarz inequality, and one exactly for vectors that are not
zero and proportional (`cosine_eq_one_iff`). Without negative entries it is at least zero, and
zero exactly when no key has an entry in both vectors (`cosine_eq_zero_iff`).

A positive factor does not change it. The cosine of two bags is that of how often they have
each token (`bagCosine`), and repeating a bag is a positive factor.
-/

set_option autoImplicit false

namespace Foundations

variable {Key : Type*}

/-- The dot product divided by the norms. -/
noncomputable def cosine (keys : Finset Key) (first second : Key → ℝ) : ℝ :=
  (∑ key ∈ keys, first key * second key) /
    (√(∑ key ∈ keys, first key ^ 2) * √(∑ key ∈ keys, second key ^ 2))

variable {keys : Finset Key} {first second : Key → ℝ}

theorem cosine_comm (keys : Finset Key) (first second : Key → ℝ) :
    cosine keys first second = cosine keys second first := by
  simp only [cosine, mul_comm]

theorem cosine_congr {others : Key → ℝ} (same : ∀ key ∈ keys, first key = others key) :
    cosine keys first second = cosine keys others second := by
  have products : ∑ key ∈ keys, first key * second key = ∑ key ∈ keys, others key * second key :=
    Finset.sum_congr rfl fun key member => by rw [same key member]
  have squares : ∑ key ∈ keys, first key ^ 2 = ∑ key ∈ keys, others key ^ 2 :=
    Finset.sum_congr rfl fun key member => by rw [same key member]
  rw [cosine, cosine, products, squares]

/-- A norm is zero exactly for the zero vector. -/
theorem sqrt_sum_sq_eq_zero_iff :
    √(∑ key ∈ keys, first key ^ 2) = 0 ↔ ∀ key ∈ keys, first key = 0 := by
  have nonneg : ∀ key ∈ keys, 0 ≤ first key ^ 2 := fun key _ => sq_nonneg _
  rw [Real.sqrt_eq_zero (Finset.sum_nonneg nonneg), Finset.sum_eq_zero_iff_of_nonneg nonneg]
  simp only [pow_eq_zero_iff two_ne_zero]

/-! ## Bounds -/

theorem cosine_le_one (keys : Finset Key) (first second : Key → ℝ) :
    cosine keys first second ≤ 1 :=
  div_le_one_of_le₀ (Real.sum_mul_le_sqrt_mul_sqrt keys first second) (by positivity)

section Nonneg

variable (firstNonneg : ∀ key, 0 ≤ first key) (secondNonneg : ∀ key, 0 ≤ second key)

include firstNonneg secondNonneg

theorem cosine_nonneg : 0 ≤ cosine keys first second :=
  div_nonneg (Finset.sum_nonneg fun key _ => mul_nonneg (firstNonneg key) (secondNonneg key))
    (by positivity)

/-- **The cosine is zero** exactly when no key has an entry in both vectors. -/
theorem cosine_eq_zero_iff :
    cosine keys first second = 0 ↔ ∀ key ∈ keys, first key = 0 ∨ second key = 0 := by
  have nonneg : ∀ key ∈ keys, 0 ≤ first key * second key :=
    fun key _ => mul_nonneg (firstNonneg key) (secondNonneg key)
  have products : ∑ key ∈ keys, first key * second key = 0 ↔
      ∀ key ∈ keys, first key = 0 ∨ second key = 0 := by
    rw [Finset.sum_eq_zero_iff_of_nonneg nonneg]
    simp only [mul_eq_zero]
  rw [cosine, div_eq_zero_iff, mul_eq_zero, sqrt_sum_sq_eq_zero_iff, sqrt_sum_sq_eq_zero_iff,
    products]
  constructor
  · rintro (disjoint | noFirst | noSecond)
    · exact disjoint
    · exact fun key member => .inl (noFirst key member)
    · exact fun key member => .inr (noSecond key member)
  · exact .inl

end Nonneg

/-! ## Proportional vectors -/

/-- A positive factor does not matter. -/
theorem cosine_smul {factor : ℝ} (positive : 0 < factor) :
    cosine keys (fun key => factor * first key) second = cosine keys first second := by
  have products : ∑ key ∈ keys, factor * first key * second key =
      factor * ∑ key ∈ keys, first key * second key := by
    rw [Finset.mul_sum]
    exact Finset.sum_congr rfl fun key _ => mul_assoc _ _ _
  have squares : ∑ key ∈ keys, (factor * first key) ^ 2 =
      factor ^ 2 * ∑ key ∈ keys, first key ^ 2 := by
    rw [Finset.mul_sum]
    exact Finset.sum_congr rfl fun key _ => mul_pow _ _ _
  rw [cosine, cosine, products, squares, Real.sqrt_mul (sq_nonneg factor),
    Real.sqrt_sq positive.le, mul_assoc, mul_div_mul_left _ _ positive.ne']

/-- A vector that is not zero has the cosine one with itself. -/
theorem cosine_self (nonzero : ∃ key ∈ keys, first key ≠ 0) : cosine keys first first = 1 := by
  have norm : √(∑ key ∈ keys, first key ^ 2) ≠ 0 := by
    rw [Ne, sqrt_sum_sq_eq_zero_iff]
    obtain ⟨key, member, entry⟩ := nonzero
    exact fun zero => entry (zero key member)
  have squares : ∑ key ∈ keys, first key * first key = ∑ key ∈ keys, first key ^ 2 :=
    Finset.sum_congr rfl fun key _ => (sq (first key)).symm
  have nonneg : 0 ≤ ∑ key ∈ keys, first key ^ 2 := Finset.sum_nonneg fun key _ => sq_nonneg _
  rw [cosine, squares, div_eq_one_iff_eq (mul_ne_zero norm norm), Real.mul_self_sqrt nonneg]

/-- When the dot product is the product of the norms, every entry of the first vector is the
entry of the second one times the same factor. -/
theorem proportional_of_dot_eq (secondNonzero : √(∑ key ∈ keys, second key ^ 2) ≠ 0)
    (equal : ∑ key ∈ keys, first key * second key =
      √(∑ key ∈ keys, first key ^ 2) * √(∑ key ∈ keys, second key ^ 2)) :
    ∀ key ∈ keys, first key = √(∑ key ∈ keys, first key ^ 2) /
      √(∑ key ∈ keys, second key ^ 2) * second key := by
  -- The squared distance of the two vectors, each scaled by the norm of the other one.
  have distance : ∑ key ∈ keys, (√(∑ key ∈ keys, second key ^ 2) * first key -
      √(∑ key ∈ keys, first key ^ 2) * second key) ^ 2 = 0 := by
    have firstSquare := Real.sq_sqrt
      (Finset.sum_nonneg fun key (_ : key ∈ keys) => sq_nonneg (first key))
    have secondSquare := Real.sq_sqrt
      (Finset.sum_nonneg fun key (_ : key ∈ keys) => sq_nonneg (second key))
    generalize √(∑ key ∈ keys, first key ^ 2) = firstNorm at *
    generalize √(∑ key ∈ keys, second key ^ 2) = secondNorm at *
    have expanded (key : Key) : (secondNorm * first key - firstNorm * second key) ^ 2 =
        secondNorm ^ 2 * first key ^ 2 - 2 * (firstNorm * secondNorm) * (first key * second key) +
          firstNorm ^ 2 * second key ^ 2 := by ring
    simp only [expanded, Finset.sum_add_distrib, Finset.sum_sub_distrib, ← Finset.mul_sum]
    rw [← firstSquare, ← secondSquare, equal]
    ring
  intro key member
  have term := (Finset.sum_eq_zero_iff_of_nonneg fun key _ => sq_nonneg _).mp distance key member
  have same := sub_eq_zero.mp (pow_eq_zero_iff two_ne_zero |>.mp term)
  rw [div_mul_eq_mul_div, eq_div_iff secondNonzero, mul_comm, same]

/-- **The cosine is one** exactly for proportional vectors that are not zero. -/
theorem cosine_eq_one_iff :
    cosine keys first second = 1 ↔
      (∃ key ∈ keys, first key ≠ 0) ∧
        ∃ factor : ℝ, 0 < factor ∧ ∀ key ∈ keys, first key = factor * second key := by
  constructor
  · intro one
    have norms : √(∑ key ∈ keys, first key ^ 2) * √(∑ key ∈ keys, second key ^ 2) ≠ 0 := by
      intro zero
      rw [cosine, zero, div_zero] at one
      exact zero_ne_one one
    have equal := (div_eq_one_iff_eq norms).mp one
    obtain ⟨firstNonzero, secondNonzero⟩ := mul_ne_zero_iff.mp norms
    refine ⟨?_, _, ?_, proportional_of_dot_eq secondNonzero equal⟩
    · by_contra none
      refine firstNonzero (sqrt_sum_sq_eq_zero_iff.mpr fun key member => ?_)
      exact not_not.mp fun entry => none ⟨key, member, entry⟩
    · exact div_pos (lt_of_le_of_ne (Real.sqrt_nonneg _) firstNonzero.symm)
        (lt_of_le_of_ne (Real.sqrt_nonneg _) secondNonzero.symm)
  · rintro ⟨⟨key, member, entry⟩, factor, positive, proportional⟩
    have other : second key ≠ 0 := by
      intro zero
      rw [proportional key member, zero, mul_zero] at entry
      exact entry rfl
    rw [cosine_congr proportional, cosine_smul positive, cosine_self ⟨key, member, other⟩]

/-! ## Bags -/

section Bags

variable {Token : Type*} [DecidableEq Token]

/-- How often a token is in a bag. -/
def occurrences (bag : Multiset Token) (token : Token) : ℝ := bag.count token

/-- The cosine of the multiplicities. -/
noncomputable def bagCosine (first second : Multiset Token) : ℝ :=
  cosine (first.toFinset ∪ second.toFinset) (occurrences first) (occurrences second)

variable {first second : Multiset Token}

theorem occurrences_nonneg (token : Token) : 0 ≤ occurrences first token := Nat.cast_nonneg _

theorem occurrences_eq_zero_iff {token : Token} :
    occurrences first token = 0 ↔ token ∉ first := by
  rw [occurrences, Nat.cast_eq_zero, Multiset.count_eq_zero]

theorem bagCosine_comm (first second : Multiset Token) :
    bagCosine first second = bagCosine second first := by
  rw [bagCosine, bagCosine, Finset.union_comm, cosine_comm]

theorem bagCosine_nonneg (first second : Multiset Token) : 0 ≤ bagCosine first second :=
  cosine_nonneg occurrences_nonneg occurrences_nonneg

theorem bagCosine_le_one (first second : Multiset Token) : bagCosine first second ≤ 1 :=
  cosine_le_one _ _ _

/-- **The cosine of two bags is zero** exactly when they share no token. -/
theorem bagCosine_eq_zero_iff :
    bagCosine first second = 0 ↔ ¬∃ token, token ∈ first ∧ token ∈ second := by
  rw [bagCosine, cosine_eq_zero_iff occurrences_nonneg occurrences_nonneg]
  simp only [occurrences_eq_zero_iff]
  constructor
  · rintro disjoint ⟨token, inFirst, inSecond⟩
    have member : token ∈ first.toFinset ∪ second.toFinset := by simp [inFirst]
    rcases disjoint token member with absent | absent
    · exact absent inFirst
    · exact absent inSecond
  · intro disjoint token _
    by_cases inFirst : token ∈ first
    · exact .inr fun inSecond => disjoint ⟨token, inFirst, inSecond⟩
    · exact .inl inFirst

/-- **The cosine of two bags is one** exactly when neither is empty and their multiplicities are
proportional. -/
theorem bagCosine_eq_one_iff :
    bagCosine first second = 1 ↔ first ≠ 0 ∧ second ≠ 0 ∧
      ∃ factor : ℝ, 0 < factor ∧
        ∀ token, occurrences first token = factor * occurrences second token := by
  rw [bagCosine, cosine_eq_one_iff]
  constructor
  · rintro ⟨⟨token, member, entry⟩, factor, positive, proportional⟩
    have everywhere (other : Token) :
        occurrences first other = factor * occurrences second other := by
      by_cases inside : other ∈ first.toFinset ∪ second.toFinset
      · exact proportional other inside
      · rw [Finset.mem_union, Multiset.mem_toFinset, Multiset.mem_toFinset, not_or] at inside
        rw [occurrences_eq_zero_iff.mpr inside.1, occurrences_eq_zero_iff.mpr inside.2, mul_zero]
    refine ⟨?_, ?_, factor, positive, everywhere⟩
    · rintro rfl
      exact entry (occurrences_eq_zero_iff.mpr (Multiset.notMem_zero token))
    · rintro rfl
      rw [everywhere, occurrences_eq_zero_iff.mpr (Multiset.notMem_zero token), mul_zero] at entry
      exact entry rfl
  · rintro ⟨nonempty, -, factor, positive, proportional⟩
    obtain ⟨token, member⟩ := Multiset.exists_mem_of_ne_zero nonempty
    have entry : occurrences first token ≠ 0 :=
      fun zero => occurrences_eq_zero_iff.mp zero member
    exact ⟨⟨token, by simp [member], entry⟩, factor, positive, fun other _ => proportional other⟩

/-- Repeating a bag does not matter. -/
theorem bagCosine_nsmul {count : ℕ} (positive : 0 < count) (first second : Multiset Token) :
    bagCosine (count • first) second = bagCosine first second := by
  have scaled : occurrences (count • first) = fun token => count * occurrences first token := by
    funext token
    rw [occurrences, Multiset.count_nsmul, Nat.cast_mul]
    rfl
  have factor : (0 : ℝ) < count := by exact_mod_cast positive
  rw [bagCosine, bagCosine, scaled, Multiset.toFinset_nsmul first count positive.ne',
    cosine_smul factor]

end Bags

end Foundations
