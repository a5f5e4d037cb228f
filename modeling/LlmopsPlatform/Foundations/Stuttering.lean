import LlmopsPlatform.Foundations.TransitionSystem

/-!
# Simulations that may skip steps

A second machine simulates a first one if it answers every step either with a step of its
own or by staying where it is. When the steps that it leaves out show nothing, a run of the
first machine is answered by a run of the second that shows the same
(`Run.exists_answer`).
-/

set_option autoImplicit false

namespace Foundations.TransitionSystem

variable {State Label Other OtherLabel Observation : Type*}
  (system : TransitionSystem State Label) (other : TransitionSystem Other OtherLabel)

/-- How the second machine answers a step of the first. -/
inductive Answer (related : State → Other → Prop)
    (guard : Transition Other OtherLabel → Prop)
    (shows : Transition State Label → List Observation)
    (otherShows : Transition Other OtherLabel → List Observation)
    (step : Transition State Label) (state : Other) : Prop where
  | skips (stays : related step.after state) (silent : shows step = [])
  | follows (label : OtherLabel) (next : Other) (moves : other.next state label = some next)
      (stays : related step.after next) (guarded : guard ⟨state, label, next⟩)
      (same : otherShows ⟨state, label, next⟩ = shows step)

variable {system other} (related : State → Other → Prop)
  {guard : Transition Other OtherLabel → Prop}
  {shows : Transition State Label → List Observation}
  {otherShows : Transition Other OtherLabel → List Observation}
  {start finish : State} {transitions : List (Transition State Label)} {state : Other}

/-- **Runs are answered by runs** that show the same. -/
theorem Run.exists_answer
    (answers : ∀ step state, related step.before state →
      system.next step.before step.label = some step.after →
      Answer other related guard shows otherShows step state)
    (base : related start state) (run : system.Run start transitions finish) :
    ∃ reached answered, other.Run state answered reached ∧ related finish reached ∧
      (∀ step ∈ answered, guard step) ∧
      answered.flatMap otherShows = transitions.flatMap shows := by
  induction run with
  | nil => exact ⟨state, [], .nil, base, by simp, rfl⟩
  | @snoc earlierTransitions before after label earlier step ih =>
      obtain ⟨reached, answered, otherRun, stays, guarded, same⟩ := ih
      rcases answers ⟨before, label, after⟩ reached stays step with
        ⟨still, silent⟩ | ⟨otherLabel, next, moves, now, guardedHere, sameHere⟩
      · refine ⟨reached, answered, otherRun, still, guarded, ?_⟩
        rw [List.flatMap_append, List.flatMap_singleton, silent, List.append_nil, same]
      · refine ⟨next, answered ++ [⟨reached, otherLabel, next⟩], otherRun.snoc moves, now, ?_, ?_⟩
        · exact List.forall_mem_append.mpr ⟨guarded, List.forall_mem_singleton.mpr guardedHere⟩
        · rw [List.flatMap_append, List.flatMap_append, List.flatMap_singleton,
            List.flatMap_singleton, same, sameHere]

end Foundations.TransitionSystem
