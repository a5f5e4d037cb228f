import LlmopsPlatform.Foundations.Residues
import LlmopsPlatform.Tuning.Allocation

/-!
# The shares of the variants

One hash decides twice: its residue modulo 10000 admits a request or not, and its residue
modulo the number of variants chooses the variant. Both residues are of the same number.
They are independent only when the number of variants has no divisor in common with 10000.

Over one period of the hash a variant gets as many residues as there are admitted buckets
that agree with its position modulo the greatest common divisor. So the shares of any two
variants differ by at most one, and they are equal when the divisor divides the threshold
(`fair_split`). But below a threshold that is less than the divisor, some variants get no
request at all: every variant can be returned exactly when the threshold is at least the
greatest common divisor (`no_starved_arm_iff`).
-/

set_option autoImplicit false

namespace LlmopsPlatform.Tuning

open Foundations Python

/-! ## Thresholds -/

theorem truncate_mono {first second : ℚ} (nonneg : 0 ≤ first) (le : first ≤ second) :
    truncate first ≤ truncate second := by
  rw [truncate, truncate, if_pos nonneg, if_pos (nonneg.trans le)]
  exact Int.floor_le_floor le

/-- The threshold of a percentage in its range is a number up to 10000. -/
theorem exists_threshold {traffic_percentage : ℚ} (nonneg : 0 ≤ traffic_percentage)
    (le : traffic_percentage ≤ 100) :
    ∃ t : ℕ, threshold toFloat traffic_percentage = t ∧ t ≤ 10000 := by
  have zero : toFloat 0 = 0 := by decide +kernel
  have product : 0 ≤ toFloat (traffic_percentage * 100) := by
    rw [← zero]
    exact toFloat_mono (by positivity)
  have lower : 0 ≤ threshold toFloat traffic_percentage := by
    rw [threshold, truncate, if_pos product]
    exact Int.floor_nonneg.mpr product
  have upper : threshold toFloat traffic_percentage ≤ 10000 := by
    rw [← threshold_all_traffic]
    exact truncate_mono product (toFloat_mono (by linarith))
  obtain ⟨t, isThreshold⟩ := Int.eq_ofNat_of_zero_le lower
  exact ⟨t, isThreshold, by omega⟩

namespace ABTestAllocator

/-! ## The period of the hash -/

/-- One period of the hash. -/
def period (allocator : ABTestAllocator) : ℕ := Nat.lcm allocator.variants.length 10000

/-- The greatest common divisor of the two moduli. -/
def divisor (allocator : ABTestAllocator) : ℕ := Nat.gcd allocator.variants.length 10000

theorem divisor_pos (allocator : ABTestAllocator) : 0 < allocator.divisor :=
  Nat.gcd_pos_of_pos_right _ (by decide)

/-- The residues of one period that are assigned the variant at a position. -/
def shareOf (allocator : ABTestAllocator) (position : ℕ) : Finset ℕ :=
  (Finset.range allocator.period).filter fun residue =>
    allocator.assignedPosition toFloat residue = some position

/-- The decision depends on the hash only modulo the period. -/
theorem assignedPosition_mod_period (allocator : ABTestAllocator) (hash_int : ℕ) :
    allocator.assignedPosition toFloat (hash_int % allocator.period) =
      allocator.assignedPosition toFloat hash_int := by
  unfold assignedPosition period
  rw [Nat.mod_mod_of_dvd _ (Nat.dvd_lcm_right _ _), Nat.mod_mod_of_dvd _ (Nat.dvd_lcm_left _ _)]

/-- Two keys whose hashes agree modulo the period are allocated the same variant, or none. -/
theorem allocate_congr (allocator : ABTestAllocator) {first second : String}
    (agree : Sha256.digestNumber (Sha256.encode first) % allocator.period =
      Sha256.digestNumber (Sha256.encode second) % allocator.period) :
    allocator.allocate first = allocator.allocate second := by
  unfold allocate allocateHashed
  rw [← assignedPosition_mod_period, agree, assignedPosition_mod_period]

/-! ## Shares -/

section Shares

variable {allocator : ABTestAllocator} {t position : ℕ}

/-- **The share of a variant**: as many residues as there are admitted buckets that agree with
its position modulo the common divisor. -/
theorem card_shareOf (isThreshold : threshold toFloat allocator.traffic_percentage = t)
    (bounded : t ≤ 10000) (isPosition : position < allocator.variants.length) :
    (allocator.shareOf position).card = (residueClass t allocator.divisor position).card := by
  have share : allocator.shareOf position =
      (Finset.range (Nat.lcm allocator.variants.length 10000)).filter fun residue =>
        residue % allocator.variants.length = position ∧ residue % 10000 < t := by
    refine Finset.filter_congr fun residue _ => ?_
    rw [assignedPosition_eq_some_iff, isThreshold, Nat.cast_lt]
  have buckets : residueClass t allocator.divisor position =
      (Finset.range 10000).filter fun bucket => bucket < t ∧
        bucket % allocator.divisor = position % allocator.divisor := by
    ext bucket
    simp only [residueClass, Finset.mem_filter, Finset.mem_range]
    constructor
    · rintro ⟨below, agrees⟩
      exact ⟨by omega, below, agrees⟩
    · rintro ⟨-, below, agrees⟩
      exact ⟨below, agrees⟩
  rw [share, card_residues (by decide) isPosition fun bucket => bucket < t, buckets]
  rfl

/-- All of the traffic is divided evenly. -/
theorem divisor_dvd_all (allocator : ABTestAllocator) : allocator.divisor ∣ 10000 :=
  Nat.gcd_dvd_right _ _

end Shares

/-- **The split among admitted requests.** For any number of variants and any threshold up to
10000: the decision depends on the hash only modulo one period; in a period a variant is
assigned as many residues as there are buckets below the threshold that agree with its
position modulo the greatest common divisor; the shares of two variants differ by at most
one; and they are equal when the divisor divides the threshold, so with all of the traffic. -/
theorem fair_split (allocator : ABTestAllocator) (t : ℕ)
    (isThreshold : threshold toFloat allocator.traffic_percentage = t) (bounded : t ≤ 10000) :
    (∀ hash_int, allocator.assignedPosition toFloat (hash_int % allocator.period) =
      allocator.assignedPosition toFloat hash_int) ∧
    (∀ i < allocator.variants.length, (allocator.shareOf i).card =
      ((Finset.range t).filter fun b => b % allocator.divisor = i % allocator.divisor).card) ∧
    (∀ i < allocator.variants.length, ∀ j < allocator.variants.length,
      (allocator.shareOf i).card ≤ (allocator.shareOf j).card + 1) ∧
    (allocator.divisor ∣ t → ∀ i < allocator.variants.length, ∀ j < allocator.variants.length,
      (allocator.shareOf i).card = (allocator.shareOf j).card) ∧
    (allocator.traffic_percentage = 100 → ∀ i < allocator.variants.length,
      ∀ j < allocator.variants.length,
        (allocator.shareOf i).card = (allocator.shareOf j).card) := by
  have share {i : ℕ} (isPosition : i < allocator.variants.length) :=
    card_shareOf isThreshold bounded isPosition
  have even (divides : allocator.divisor ∣ t) : ∀ i < allocator.variants.length,
      ∀ j < allocator.variants.length,
        (allocator.shareOf i).card = (allocator.shareOf j).card := by
    intro i iPosition j jPosition
    rw [share iPosition, share jPosition]
    exact card_residue_eq allocator.divisor_pos divides i j
  refine ⟨allocator.assignedPosition_mod_period, fun i => share, ?_, even, ?_⟩
  · intro i iPosition j jPosition
    rw [share iPosition, share jPosition]
    exact card_residue_le allocator.divisor_pos t i j
  · intro allTraffic
    rw [allTraffic, threshold_all_traffic] at isThreshold
    obtain rfl : t = 10000 := by omega
    exact even allocator.divisor_dvd_all

/-- Half of the traffic among three variants. -/
def halfOfThree : ABTestAllocator := ⟨[⟨"formal", []⟩, ⟨"casual", []⟩, ⟨"warm", []⟩], 50⟩

/-- The shares of its last two variants. -/
theorem halfOfThree_split :
    (halfOfThree.shareOf 1).card ≤ (halfOfThree.shareOf 2).card + 1 :=
  (fair_split halfOfThree 5000 (by decide +kernel) (by decide)).2.2.1 1 (by decide) 2 (by decide)

/-! ## Starved variants -/

/-- A position is assigned to some hash when an admitted bucket agrees with it. -/
theorem exists_assignedPosition_iff {allocator : ABTestAllocator} {position : ℕ}
    (isPosition : position < allocator.variants.length) :
    (∃ hash_int, allocator.assignedPosition toFloat hash_int = some position) ↔
      ∃ b < min 10000 (threshold toFloat allocator.traffic_percentage).toNat,
        b % allocator.divisor = position % allocator.divisor := by
  constructor
  · rintro ⟨hash_int, assigned⟩
    obtain ⟨residue, admitted⟩ := assignedPosition_eq_some_iff.mp assigned
    refine ⟨hash_int % 10000, lt_min (Nat.mod_lt _ (by decide)) (Int.lt_toNat.mpr admitted), ?_⟩
    exact mod_gcd_of_residues residue
  · rintro ⟨b, below, agrees⟩
    obtain ⟨hash_int, -, residue, rfl⟩ :=
      (exists_residues_iff isPosition (lt_min_iff.mp below).1).mpr agrees
    exact ⟨hash_int, assignedPosition_eq_some_iff.mpr
      ⟨residue, Int.lt_toNat.mp (lt_min_iff.mp below).2⟩⟩

/-- The positions that are assigned decide which of the variants are returned. -/
theorem forall_exists_allocateHashed_iff {allocator : ABTestAllocator}
    (distinct : allocator.variants.Nodup) :
    (∀ variant ∈ allocator.variants, ∃ hash_int,
        allocateHashed toFloat allocator hash_int = some variant) ↔
      ∀ i < allocator.variants.length, ∃ hash_int,
        allocator.assignedPosition toFloat hash_int = some i := by
  simp only [allocateHashed_eq_some_iff_exists]
  constructor
  · intro returned i isPosition
    obtain ⟨hash_int, position, assigned, same⟩ := returned _ (List.getElem_mem isPosition)
    obtain ⟨inRange, isVariant⟩ := List.getElem?_eq_some_iff.mp same
    obtain rfl : position = i := distinct.getElem_inj_iff.mp isVariant
    exact ⟨hash_int, assigned⟩
  · intro reached variant member
    obtain ⟨i, isPosition, rfl⟩ := List.getElem_of_mem member
    obtain ⟨hash_int, assigned⟩ := reached i isPosition
    exact ⟨hash_int, i, assigned, List.getElem?_eq_getElem isPosition⟩

/-- **Starved variants.** For any number of variants and any percentage, every position is
assigned to some hash exactly when the threshold is at least the greatest common divisor of
the number of variants and 10000. If no two variants are the same, this is also when each of
them is returned for some hash. -/
theorem no_starved_arm_iff (allocator : ABTestAllocator) (given : allocator.variants ≠ []) :
    ((∀ i < allocator.variants.length, ∃ hash_int,
        allocator.assignedPosition toFloat hash_int = some i) ↔
      Nat.gcd allocator.variants.length 10000 ≤
        threshold toFloat allocator.traffic_percentage) ∧
    (allocator.variants.Nodup →
      ((∀ variant ∈ allocator.variants, ∃ hash_int,
          allocateHashed toFloat allocator hash_int = some variant) ↔
        Nat.gcd allocator.variants.length 10000 ≤
          threshold toFloat allocator.traffic_percentage)) := by
  have positive := allocator.divisor_pos
  have atMost : allocator.divisor ≤ 10000 := Nat.gcd_le_right _ (by decide)
  have atLeast : allocator.divisor ≤ allocator.variants.length :=
    Nat.gcd_le_left _ (List.length_pos_iff.mpr given)
  have reached := forall_exists_residue_iff positive atLeast
    (min 10000 (threshold toFloat allocator.traffic_percentage).toNat)
  have positions : (∀ i < allocator.variants.length, ∃ hash_int,
      allocator.assignedPosition toFloat hash_int = some i) ↔
        allocator.divisor ≤ threshold toFloat allocator.traffic_percentage := by
    constructor
    · intro all
      have large := reached.mp fun i isPosition =>
        (exists_assignedPosition_iff isPosition).mp (all i isPosition)
      have inTraffic := (le_min_iff.mp large).2
      omega
    · intro large i isPosition
      have inTraffic : allocator.divisor ≤
          (threshold toFloat allocator.traffic_percentage).toNat := by omega
      exact (exists_assignedPosition_iff isPosition).mpr
        (reached.mpr (le_min atMost inTraffic) i isPosition)
  exact ⟨positions, fun distinct => (forall_exists_allocateHashed_iff distinct).trans positions⟩

/-- The divisor of three and 10000 is one, so that the last variant is returned, too. -/
theorem halfOfThree_returns_last :
    ∃ hash_int, halfOfThree.assignedPosition toFloat hash_int = some 2 :=
  (no_starved_arm_iff halfOfThree (by decide)).1.mpr (by decide +kernel) 2 (by decide)

/-- A canary with one admitted bucket. Each admitted hash is even, so that the second variant
is never returned. -/
theorem canary_starves_second_variant :
    ¬∀ allocator : ABTestAllocator, allocator.variants ≠ [] →
      1 ≤ threshold toFloat allocator.traffic_percentage →
        ∀ i < allocator.variants.length, ∃ hash_int,
          allocator.assignedPosition toFloat hash_int = some i := by
  intro always
  have one : threshold toFloat (1 / 64) = 1 := by decide +kernel
  obtain ⟨hash_int, assigned⟩ :=
    always ⟨[⟨"formal", []⟩, ⟨"casual", []⟩], 1 / 64⟩ (by simp) one.ge 1 (by simp)
  obtain ⟨residue, admitted⟩ := assignedPosition_eq_some_iff.mp assigned
  simp only [one, List.length_cons, List.length_nil] at residue admitted
  omega

end ABTestAllocator

end LlmopsPlatform.Tuning
