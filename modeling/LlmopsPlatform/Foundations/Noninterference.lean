import LlmopsPlatform.Foundations.Stuttering

/-!
# What an observer can see of others

An observer sees a part of the state, and some of the labels are its own. Two conditions on
single steps suffice for whole runs (`Unwinding`): a step with an own label does the same to
what it sees, wherever it is taken, and a step with another label changes nothing of it.

Then what the observer sees at the end of a run is what it sees after its own labels alone
(`Unwinding.purge`), whatever others did in between.
-/

set_option autoImplicit false

namespace Foundations.TransitionSystem

variable {State Label : Type*} {system : TransitionSystem State Label}

/-- The labels of a run, executed from its start. -/
theorem Run.execute {start finish : State} {transitions : List (Transition State Label)}
    (run : system.Run start transitions finish) :
    system.execute (transitions.map Transition.label) start = some finish := by
  have append : ∀ (first : List Label) (last : Label) (state : State),
      system.execute (first ++ [last]) state =
        (system.execute first state).bind fun middle => system.next middle last := by
    intro first last
    induction first with
    | nil => intro state; simp [TransitionSystem.execute]
    | cons label rest ih =>
        intro state
        simp only [List.cons_append, TransitionSystem.execute]
        cases system.next state label with
        | none => rfl
        | some next => exact ih next
  induction run with
  | nil => rfl
  | snoc earlier step ih =>
      rw [List.map_append, List.map_singleton, append, ih]
      exact step

/-- The own labels, one step after the other. -/
theorem filter_map_eq_flatMap (own : Label → Bool) (steps : List (Transition State Label)) :
    (steps.map Transition.label).filter own =
      steps.flatMap fun step => if own step.label then [step.label] else [] := by
  induction steps with
  | nil => rfl
  | cons step rest ih =>
      by_cases isOwn : own step.label <;> simp [isOwn, ih]

/-- The conditions on the steps that an observer takes itself, and on those of others. -/
structure Unwinding (system : TransitionSystem State Label) (own : Label → Bool)
    (agree : State → State → Prop) : Prop where
  follows : ∀ state other label next, agree state other → own label = true →
    system.next state label = some next →
      ∃ answer, system.next other label = some answer ∧ agree next answer
  ignores : ∀ state other label next, agree state other → own label = false →
    system.next state label = some next → agree next other

namespace Unwinding

variable {own : Label → Bool} {agree : State → State → Prop}
  (unwinding : Unwinding system own agree)

include unwinding

/-- **Own steps are enough.** The own labels of a run can be executed alone, and lead to a
state that looks the same. -/
theorem purge {start other finish : State} {transitions : List (Transition State Label)}
    (base : agree start other) (run : system.Run start transitions finish) :
    ∃ reached, system.execute ((transitions.map Transition.label).filter own) other =
        some reached ∧ agree finish reached := by
  let shows (step : Transition State Label) : List Label :=
    if own step.label then [step.label] else []
  have answers : ∀ step state, agree step.before state →
      system.next step.before step.label = some step.after →
      Answer system agree (fun _ => True) shows (fun step => [step.label]) step state := by
    intro step state agrees taken
    by_cases isOwn : own step.label
    · obtain ⟨answer, moves, still⟩ := unwinding.follows _ _ _ _ agrees isOwn taken
      exact .follows step.label answer moves still trivial (if_pos isOwn).symm
    · have others : own step.label = false := by simpa using isOwn
      exact .skips (unwinding.ignores _ _ _ _ agrees others taken) (if_neg isOwn)
  obtain ⟨reached, answered, otherRun, agrees, -, same⟩ := run.exists_answer agree answers base
  refine ⟨reached, ?_, agrees⟩
  have labels : (transitions.map Transition.label).filter own = answered.map Transition.label := by
    rw [filter_map_eq_flatMap, List.map_eq_flatMap, same]
  rw [labels]
  exact otherRun.execute

end Unwinding

end Foundations.TransitionSystem
