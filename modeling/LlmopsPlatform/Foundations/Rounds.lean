import Mathlib.Data.Option.Basic
import Mathlib.Order.Basic

/-!
# Loops that are run for a number of rounds

A loop whose end is not obvious is modelled by a function that runs it for a given number
of rounds, and has no value when it is not finished by then. The loop ends when some number
of rounds is enough (`Terminates`), and then further rounds change nothing (`Stable`).

Several loops in a row all end exactly when each of them does (`terminates_mapM_iff`).
-/

set_option autoImplicit false

namespace Foundations

variable {Value Image Item : Type*}

/-- Some number of rounds is enough. -/
def Terminates (compute : ℕ → Option Value) : Prop := ∃ rounds, (compute rounds).isSome

/-- A loop that has ended is not changed by further rounds. -/
def Stable (compute : ℕ → Option Value) : Prop :=
  ∀ rounds value, compute rounds = some value → compute (rounds + 1) = some value

namespace Stable

variable {compute : ℕ → Option Value}

theorem of_le (stable : Stable compute) {rounds more : ℕ} (le : rounds ≤ more) {value : Value}
    (ended : compute rounds = some value) : compute more = some value := by
  induction le with
  | refl => exact ended
  | step _ ih => exact stable _ value ih

theorem isSome_of_le (stable : Stable compute) {rounds more : ℕ} (le : rounds ≤ more)
    (ended : (compute rounds).isSome) : (compute more).isSome := by
  obtain ⟨value, isValue⟩ := Option.isSome_iff_exists.mp ended
  exact Option.isSome_iff_exists.mpr ⟨value, stable.of_le le isValue⟩

theorem map (stable : Stable compute) (image : Value → Image) :
    Stable fun rounds => (compute rounds).map image := by
  intro rounds value ended
  obtain ⟨original, isOriginal, rfl⟩ := Option.map_eq_some_iff.mp ended
  dsimp only
  rw [stable rounds original isOriginal, Option.map_some]

end Stable

/-- A result that needs no loop. -/
theorem terminates_some (value : Value) : Terminates fun _ => some value := ⟨0, rfl⟩

theorem terminates_map_iff {compute : ℕ → Option Value} (image : Value → Image) :
    Terminates (fun rounds => (compute rounds).map image) ↔ Terminates compute := by
  simp only [Terminates, Option.isSome_map]

/-- All items have a value exactly when the list of values exists. -/
theorem isSome_mapM_iff {compute : Item → Option Value} {items : List Item} :
    (items.mapM compute).isSome ↔ ∀ item ∈ items, (compute item).isSome := by
  induction items with
  | nil => simp
  | cons item rest ih =>
      rw [List.forall_mem_cons, ← ih, List.mapM_cons]
      cases compute item with
      | none => simp
      | some value => cases rest.mapM compute <;> simp

/-- **Loops in a row** all end exactly when each of them does. -/
theorem terminates_mapM_iff {compute : Item → ℕ → Option Value}
    (stable : ∀ item, Stable (compute item)) {items : List Item} :
    Terminates (fun rounds => items.mapM fun item => compute item rounds) ↔
      ∀ item ∈ items, Terminates (compute item) := by
  simp only [Terminates, isSome_mapM_iff]
  constructor
  · rintro ⟨rounds, all⟩ item member
    exact ⟨rounds, all item member⟩
  · intro each
    induction items with
    | nil => exact ⟨0, by simp⟩
    | cons item rest ih =>
        rw [List.forall_mem_cons] at each
        obtain ⟨own, ended⟩ := each.1
        obtain ⟨others, restEnded⟩ := ih each.2
        refine ⟨max own others, ?_⟩
        rw [List.forall_mem_cons]
        refine ⟨(stable item).isSome_of_le (Nat.le_max_left own others) ended, ?_⟩
        intro other member
        exact (stable other).isSome_of_le (Nat.le_max_right own others) (restEnded other member)

end Foundations
