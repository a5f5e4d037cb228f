import LlmopsPlatform.Python.Hashlib
import LlmopsPlatform.Tuning.Experiment

/-!
# The assignment of requests to variants

A key is hashed to a number. Its residue modulo 10000 decides whether the request is in
the experiment at all, and its residue modulo the number of variants decides which
variant it gets.
-/

set_option autoImplicit false

namespace LlmopsPlatform.Tuning

open Python Database

/-- `int(value)` for a float, which truncates. -/
def truncate (value : ℚ) : Int := if 0 ≤ value then ⌊value⌋ else ⌈value⌉

/-- `int(self._traffic_percentage * 100)`, where the product is rounded. -/
def threshold (float : ℚ → ℚ) (traffic_percentage : ℚ) : Int :=
  truncate (float (traffic_percentage * 100))

theorem threshold_all_traffic : threshold toFloat 100 = 10000 := by decide +kernel

/-- Deterministic variant assignment based on a key. -/
structure ABTestAllocator where
  variants : List ParameterSet
  traffic_percentage : ℚ

namespace ABTestAllocator

/-- The index of the variant in `allocate` for a hash that is admitted, where the product is
rounded by `float`. -/
def assignedPosition (allocator : ABTestAllocator) (float : ℚ → ℚ) (hash_int : Nat) : Option Nat :=
  -- The bucket has a granularity of a hundredth of a percent.
  if (hash_int % 10000 : Nat) ≥ threshold float allocator.traffic_percentage then none
  else some (hash_int % allocator.variants.length)

/-- `ABTestAllocator.allocate` after the key is hashed. -/
def allocateHashed (float : ℚ → ℚ) (allocator : ABTestAllocator) (hash_int : Nat) :
    Option ParameterSet :=
  if allocator.variants = [] then none
  else (allocator.assignedPosition float hash_int).bind fun variant_index =>
    allocator.variants[variant_index]?

/-- `ABTestAllocator.allocate`. -/
def allocate (allocator : ABTestAllocator) (key : String) : Option ParameterSet :=
  allocateHashed toFloat allocator (Sha256.digestNumber (Sha256.encode key))

section Hashes

variable {allocator : ABTestAllocator} {float : ℚ → ℚ} {hash_int : Nat} {variant : ParameterSet}

theorem assignedPosition_eq_some_iff {position : Nat} :
    allocator.assignedPosition float hash_int = some position ↔
      hash_int % allocator.variants.length = position ∧
        ((hash_int % 10000 : Nat) : Int) < threshold float allocator.traffic_percentage := by
  unfold assignedPosition
  split
  · rename_i refused
    simp only [reduceCtorEq, false_iff, not_and, not_lt]
    exact fun _ => refused
  · rename_i admitted
    rw [Option.some.injEq]
    exact ⟨fun same => ⟨same, not_le.mp admitted⟩, fun both => both.1⟩

/-- A variant is allocated at the position that its hash is assigned. -/
theorem allocateHashed_eq_some_iff_exists :
    allocateHashed float allocator hash_int = some variant ↔
      ∃ position, allocator.assignedPosition float hash_int = some position ∧
        allocator.variants[position]? = some variant := by
  rw [allocateHashed]
  by_cases noneGiven : allocator.variants = []
  · simp [noneGiven]
  · rw [if_neg noneGiven, Option.bind_eq_some_iff]

/-- **An allocation** has a bucket below the threshold and a variant that does not depend
on it. -/
theorem allocateHashed_eq_some_iff :
    allocateHashed float allocator hash_int = some variant ↔
      ((hash_int % 10000 : Nat) : Int) < threshold float allocator.traffic_percentage ∧
        allocator.variants[hash_int % allocator.variants.length]? = some variant := by
  simp only [allocateHashed_eq_some_iff_exists, assignedPosition_eq_some_iff]
  constructor
  · rintro ⟨position, ⟨rfl, admitted⟩, chosen⟩
    exact ⟨admitted, chosen⟩
  · rintro ⟨admitted, chosen⟩
    exact ⟨_, ⟨rfl, admitted⟩, chosen⟩

end Hashes

/-- What is returned is the variant at the position that the hash gives. -/
theorem getElem?_of_allocate {allocator : ABTestAllocator} {key : String} {variant : ParameterSet}
    (allocated : allocator.allocate key = some variant) :
    allocator.variants[Sha256.digestNumber (Sha256.encode key) % allocator.variants.length]? =
      some variant :=
  (allocateHashed_eq_some_iff.mp allocated).2

/-- With all of the traffic every request gets a variant. -/
theorem allocate_all_traffic {variants : List ParameterSet} (given : variants ≠ []) (key : String) :
    allocate ⟨variants, 100⟩ key =
      variants[Sha256.digestNumber (Sha256.encode key) % variants.length]? := by
  have bucket : ¬ ((Sha256.digestNumber (Sha256.encode key) % 10000 : Nat) : Int) ≥ 10000 := by
    omega
  rw [allocate, allocateHashed, if_neg given, assignedPosition, threshold_all_traffic,
    if_neg bucket]
  rfl

end ABTestAllocator

namespace ExperimentRunner

/-- `ExperimentRunner.allocate_variant`. -/
def allocateVariant (tables : ExperimentTables) (experiment_id : Nat) (key : String) :
    Except PyException (Option ParameterSet) := do
  let experiment ← getExperiment tables experiment_id
  if experiment.status ≠ .running then
    pure none
  else
    let allocator : ABTestAllocator := ⟨experiment.variants, experiment.traffic_percentage⟩
    pure (allocator.allocate key)

end ExperimentRunner

end LlmopsPlatform.Tuning
