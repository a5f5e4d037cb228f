import LlmopsPlatform.Tuning.FairSplit

/-!
# Ramping the traffic

The bucket of a key is compared with the threshold, and the variant is chosen from the same
hash without looking at the threshold. The threshold grows with the percentage as long as
the rounding of the product `percentage * 100` is monotone.

So a key that has a variant at one percentage has the same variant at every larger one.
Without traffic no key has a variant, and with all of the traffic every key has one.
-/

set_option autoImplicit false

namespace LlmopsPlatform.Tuning.ABTestAllocator

open Python

section Rounding

variable {float : ℚ → ℚ} {p q : ℚ}

variable (monotone : Monotone float) (atZero : float 0 = 0) (atAll : float 10000 = 10000)

include monotone atZero in
/-- The threshold grows with the percentage. -/
theorem threshold_mono (nonneg : 0 ≤ p) (le : p ≤ q) : threshold float p ≤ threshold float q := by
  have product : 0 ≤ float (p * 100) := by
    rw [← atZero]
    exact monotone (by positivity)
  exact truncate_mono product (monotone (by linarith))

include atZero in
theorem threshold_zero : threshold float 0 = 0 := by
  rw [threshold, zero_mul, atZero]
  decide +kernel

include atAll in
theorem threshold_hundred : threshold float 100 = 10000 := by
  rw [threshold, show (100 : ℚ) * 100 = 10000 by norm_num, atAll]
  decide +kernel

include monotone atZero in
/-- What is allocated at a percentage is allocated at every larger one. -/
theorem allocateHashed_mono {variants : List ParameterSet} {hash_int : ℕ} {variant : ParameterSet}
    (nonneg : 0 ≤ p) (le : p ≤ q)
    (allocated : allocateHashed float ⟨variants, p⟩ hash_int = some variant) :
    allocateHashed float ⟨variants, q⟩ hash_int = some variant := by
  obtain ⟨admitted, chosen⟩ := allocateHashed_eq_some_iff.mp allocated
  have larger := threshold_mono monotone atZero nonneg le
  exact allocateHashed_eq_some_iff.mpr ⟨admitted.trans_le larger, chosen⟩

end Rounding

/-- A key keeps its variant when the percentage of its experiment grows. -/
theorem allocate_mono {variants : List ParameterSet} {p q : ℚ} (nonneg : 0 ≤ p) (le : p ≤ q)
    {key : String} {variant : ParameterSet}
    (allocated : allocate ⟨variants, p⟩ key = some variant) :
    allocate ⟨variants, q⟩ key = some variant := by
  have atZero : toFloat 0 = 0 := by decide +kernel
  exact allocateHashed_mono (fun _ _ => toFloat_mono) atZero nonneg le allocated

/-- **Ramping keeps every assignment.** For any monotone rounding of the product that is exact
at both ends, any variants and any hash: what is allocated at a percentage is allocated at
every larger one, too; without traffic nothing is; and with all of the traffic every hash is
allocated one of the variants. -/
theorem ramping_keeps_assignments (float : ℚ → ℚ) (monotone : Monotone float)
    (atZero : float 0 = 0) (atAll : float 10000 = 10000) (variants : List ParameterSet)
    (hash_int : ℕ) :
    (∀ p q, 0 ≤ p → p ≤ q → q ≤ 100 → ∀ variant,
      allocateHashed float ⟨variants, p⟩ hash_int = some variant →
        allocateHashed float ⟨variants, q⟩ hash_int = some variant) ∧
    allocateHashed float ⟨variants, 0⟩ hash_int = none ∧
    (variants ≠ [] → ∃ variant ∈ variants,
      allocateHashed float ⟨variants, 100⟩ hash_int = some variant) := by
  refine ⟨?_, ?_, ?_⟩
  · intro p q nonneg le _ variant
    exact allocateHashed_mono monotone atZero nonneg le
  · refine Option.eq_none_iff_forall_ne_some.mpr fun variant allocated => ?_
    have admitted := (allocateHashed_eq_some_iff.mp allocated).1
    rw [threshold_zero atZero] at admitted
    omega
  · intro given
    have inRange : hash_int % variants.length < variants.length :=
      Nat.mod_lt _ (List.length_pos_iff.mpr given)
    refine ⟨variants[hash_int % variants.length], List.getElem_mem inRange, ?_⟩
    refine allocateHashed_eq_some_iff.mpr ⟨?_, List.getElem?_eq_getElem inRange⟩
    rw [threshold_hundred atAll]
    omega

/-- The variant of a hash at half of the traffic is its variant at three quarters. -/
theorem halfOfThree_ramped :
    allocateHashed toFloat ⟨halfOfThree.variants, 75⟩ 4 = some ⟨"casual", []⟩ :=
  (ramping_keeps_assignments toFloat (fun _ _ => toFloat_mono) (by decide +kernel)
    (by decide +kernel) halfOfThree.variants 4).1 50 75 (by norm_num) (by norm_num) (by norm_num)
    ⟨"casual", []⟩
    (allocateHashed_eq_some_iff.mpr ⟨by decide +kernel, rfl⟩)

end LlmopsPlatform.Tuning.ABTestAllocator
