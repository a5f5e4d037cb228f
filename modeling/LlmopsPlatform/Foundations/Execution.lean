import LlmopsPlatform.Foundations.TransitionSystem
import Mathlib.Order.WellFounded

/-!
# Infinite executions and what they lead to

An execution has a state at every moment and a step from each moment to the next. Its
beginnings are finite runs (`Execution.run`), so what finite runs establish holds at every
moment.

Whether a goal is ever reached depends on who moves. While the goal is ahead, its
distance is a rank, and some actor is named who can bring it closer. If no step leads
farther away, a step of the named actor leads closer, and every named actor moves at
some later moment, then the goal is reached (`eventually_of_rank`).
-/

set_option autoImplicit false

namespace Foundations

namespace TransitionSystem

variable {State Label : Type*}

/-- An infinite sequence of steps. -/
structure Execution (system : TransitionSystem State Label) where
  state : ℕ → State
  label : ℕ → Label
  step : ∀ moment, system.next (state moment) (label moment) = some (state (moment + 1))

namespace Execution

variable {system : TransitionSystem State Label} (execution : system.Execution)

/-- The step at a moment. -/
def transition (moment : ℕ) : Transition State Label :=
  ⟨execution.state moment, execution.label moment, execution.state (moment + 1)⟩

/-- The steps before a moment. -/
def taken (moment : ℕ) : List (Transition State Label) :=
  (List.range moment).map execution.transition

variable {execution}

theorem mem_taken {moment : ℕ} {step : Transition State Label}
    (member : step ∈ execution.taken moment) :
    ∃ earlier, step = execution.transition earlier := by
  obtain ⟨earlier, -, rfl⟩ := List.mem_map.mp member
  exact ⟨earlier, rfl⟩

/-- A run that ends where the execution begins is continued by it. -/
theorem run {start : State} {transitions : List (Transition State Label)}
    (before : system.Run start transitions (execution.state 0)) (moment : ℕ) :
    system.Run start (transitions ++ execution.taken moment) (execution.state moment) := by
  induction moment with
  | zero => simpa [taken] using before
  | succ moment ih =>
      have next := ih.snoc (execution.step moment)
      rw [List.append_assoc] at next
      rwa [taken, List.range_succ, List.map_append]

end Execution

end TransitionSystem

/-- **Someone always brings the goal closer.** While a rank is waited for, a step
reaches the goal, lowers the rank, or leaves the rank and the actor who can lower it;
and that actor acts at some later moment. -/
theorem eventually_of_rank {Rank Actor : Type*} [LT Rank] [WellFoundedLT Rank]
    (waits : ℕ → Rank → Actor → Prop) (acts : ℕ → Actor → Prop) (goal : ℕ → Prop)
    (advances : ∀ moment rank actor, waits moment rank actor →
      goal (moment + 1) ∨
        (∃ lower other, lower < rank ∧ waits (moment + 1) lower other) ∨
          waits (moment + 1) rank actor ∧ ¬ acts moment actor)
    (fair : ∀ moment rank actor, waits moment rank actor →
      ∃ later, moment ≤ later ∧ acts later actor)
    {moment : ℕ} {rank : Rank} {actor : Actor} (waiting : waits moment rank actor) :
    ∃ later, moment ≤ later ∧ goal later := by
  induction rank using WellFoundedLT.induction generalizing moment actor with
  | ind rank closer =>
      obtain ⟨later, le, act⟩ := fair moment rank actor waiting
      obtain ⟨gap, rfl⟩ := Nat.exists_eq_add_of_le le
      -- Until the actor acts, the goal comes closer by other steps or not at all.
      induction gap generalizing moment with
      | zero =>
          rcases advances moment rank actor waiting with
            reached | ⟨lower, other, less, waits⟩ | ⟨-, idle⟩
          · exact ⟨moment + 1, Nat.le_succ moment, reached⟩
          · obtain ⟨later, le, reached⟩ := closer lower less waits
            exact ⟨later, by omega, reached⟩
          · exact absurd act idle
      | succ gap ih =>
          rcases advances moment rank actor waiting with
            reached | ⟨lower, other, less, waits⟩ | ⟨stays, -⟩
          · exact ⟨moment + 1, Nat.le_succ moment, reached⟩
          · obtain ⟨later, le, reached⟩ := closer lower less waits
            exact ⟨later, by omega, reached⟩
          · obtain ⟨later, le, reached⟩ := ih stays (Nat.le_add_right _ _)
              (by rwa [Nat.add_assoc, Nat.add_comm 1 gap])
            exact ⟨later, by omega, reached⟩

end Foundations
