import Mathlib.Data.Int.CardIntervalMod

/-!
# Two residues of one number

A number has a residue for each of two moduli. When the moduli have a common divisor the
residues are not independent: a pair of them belongs to a number exactly if both are the
same modulo the greatest common divisor (`exists_residues_iff`), and then to one number
below the least common multiple (`residues_inj`).

So the numbers of one period with a given first residue, whose second residue has a
property, are as many as the second residues with the property that agree with the first
modulo the greatest common divisor (`card_residues`). How many of the numbers below a bound
have a residue differs by at most one between residues (`card_residue_le`), and not at all
when the modulus divides the bound (`card_residue_eq`).
-/

set_option autoImplicit false

namespace Foundations

variable {first second i : ℕ}

/-! ## Pairs of residues -/

/-- Two residues of one number agree modulo the greatest common divisor. -/
theorem mod_gcd_of_residues {number : ℕ} (residue : number % first = i) :
    number % second % Nat.gcd first second = i % Nat.gcd first second := by
  rw [Nat.mod_mod_of_dvd _ (Nat.gcd_dvd_right first second), ← residue,
    Nat.mod_mod_of_dvd _ (Nat.gcd_dvd_left first second)]

/-- **Which pairs are residues of a number** of the first period. -/
theorem exists_residues_iff {b : ℕ} (iBelow : i < first) (bBelow : b < second) :
    (∃ number < Nat.lcm first second, number % first = i ∧ number % second = b) ↔
      b % Nat.gcd first second = i % Nat.gcd first second := by
  constructor
  · rintro ⟨number, -, residue, rfl⟩
    exact mod_gcd_of_residues residue
  · intro agree
    have congruent : i ≡ b [MOD Nat.gcd first second] := agree.symm
    obtain ⟨ofFirst, ofSecond⟩ := (Nat.chineseRemainder' congruent).property
    refine ⟨Nat.chineseRemainder' congruent,
      Nat.chineseRemainder'_lt_lcm congruent (by omega) (by omega), ?_, ?_⟩
    · exact Nat.mod_eq_of_modEq ofFirst iBelow
    · exact Nat.mod_eq_of_modEq ofSecond bBelow

/-- A number below the least common multiple is determined by its residues. -/
theorem residues_inj {number other : ℕ} (numberBelow : number < Nat.lcm first second)
    (otherBelow : other < Nat.lcm first second) (ofFirst : number % first = other % first)
    (ofSecond : number % second = other % second) : number = other := by
  have same : number ≡ other [MOD Nat.lcm first second] := Nat.mod_lcm ofFirst ofSecond
  exact same.eq_of_lt_of_lt numberBelow otherBelow

/-- **Counting by residues.** -/
theorem card_residues (positive : 0 < second) (iBelow : i < first) (holds : ℕ → Prop)
    [DecidablePred holds] :
    ((Finset.range (Nat.lcm first second)).filter fun number =>
        number % first = i ∧ holds (number % second)).card =
      ((Finset.range second).filter fun b =>
        holds b ∧ b % Nat.gcd first second = i % Nat.gcd first second).card := by
  refine Finset.card_bij (fun number _ => number % second) ?_ ?_ ?_
  · intro number member
    rw [Finset.mem_filter, Finset.mem_range] at member ⊢
    exact ⟨Nat.mod_lt _ positive, member.2.2, mod_gcd_of_residues member.2.1⟩
  · intro number member other otherMember same
    rw [Finset.mem_filter, Finset.mem_range] at member otherMember
    exact residues_inj member.1 otherMember.1 (member.2.1.trans otherMember.2.1.symm) same
  · intro b member
    rw [Finset.mem_filter, Finset.mem_range] at member
    obtain ⟨number, below, residue, rfl⟩ := (exists_residues_iff iBelow member.1).mpr member.2.2
    exact ⟨number, by simp [below, residue, member.2.1], rfl⟩

/-! ## Numbers below a bound -/

/-- The numbers below a bound with the residue of a given number. -/
def residueClass (bound modulus i : ℕ) : Finset ℕ :=
  (Finset.range bound).filter fun b => b % modulus = i % modulus

variable {modulus : ℕ}

theorem card_residueClass (positive : 0 < modulus) (bound i : ℕ) :
    (residueClass bound modulus i).card =
      bound / modulus + if i % modulus < bound % modulus then 1 else 0 := by
  rw [← Nat.count_modEq_card bound positive i, Nat.count_eq_card_filter_range]
  rfl

/-- Two residues occur equally often below a bound, up to one. -/
theorem card_residue_le (positive : 0 < modulus) (bound i j : ℕ) :
    (residueClass bound modulus i).card ≤ (residueClass bound modulus j).card + 1 := by
  rw [card_residueClass positive, card_residueClass positive]
  split <;> split <;> omega

/-- They occur equally often below a multiple of the modulus. -/
theorem card_residue_eq (positive : 0 < modulus) {bound : ℕ} (divides : modulus ∣ bound)
    (i j : ℕ) : (residueClass bound modulus i).card = (residueClass bound modulus j).card := by
  rw [card_residueClass positive, card_residueClass positive, Nat.mod_eq_zero_of_dvd divides]
  rfl

/-- **Every residue occurs** below a bound exactly when the bound is as large as the modulus. -/
theorem forall_exists_residue_iff (positive : 0 < modulus) {count : ℕ} (atLeast : modulus ≤ count)
    (bound : ℕ) :
    (∀ i < count, ∃ b < bound, b % modulus = i % modulus) ↔ modulus ≤ bound := by
  constructor
  · intro all
    obtain ⟨b, below, isLast⟩ := all (modulus - 1) (by omega)
    rw [Nat.mod_eq_of_lt (by omega : modulus - 1 < modulus)] at isLast
    have atMost := Nat.mod_le b modulus
    omega
  · intro large i _
    exact ⟨i % modulus, (Nat.mod_lt i positive).trans_le large, Nat.mod_mod i modulus⟩

end Foundations
