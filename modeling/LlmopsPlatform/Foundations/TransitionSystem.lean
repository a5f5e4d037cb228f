import Mathlib.Data.List.Basic
import Mathlib.Logic.Relation

/-!
# Labelled transition systems and their finite runs

A system is a partial step function on states, one label for each step, with a
set of initial states. The label names everything that is nondeterministic in a
step: which party moves, what a message holds, what an unmodelled service
answers. A step is then a function, so a run can be evaluated, and a statement
about every run is a statement about every list of labels.

Two kinds of rule are proved here once and used for every system.

* An invariant that the initial states have and each step keeps holds of every
  reachable state (`Reachable.induction`).
* A run whose steps all meet a guard keeps every invariant that guarded steps
  keep (`Run.invariant`). When a step from an invariant state is good exactly if
  it meets the guard, a whole run is good exactly if all its steps meet the
  guard (`Run.good_iff_guarded`).

What is observed of the states of a run is the same all along exactly when no step
changes it (`Run.constant_iff`).

Steps leave their record behind: what each step writes and no later step erases is
there at the end (`Run.recorded`), and what the record of a step says about the steps
after it holds of any two steps of a run (`Run.pairwise`).

A run is related to an abstract machine by `Run.simulates`: if every guarded
step is a step of the abstract machine or leaves the abstract state alone, the
run is a sequence of abstract steps.
-/

set_option autoImplicit false

namespace Foundations

/-- A labelled transition system with a partial, deterministic step function. -/
structure TransitionSystem (State Label : Type*) where
  initial : State → Prop
  next : State → Label → Option State

/-- One step of a run: the state before it, its label and the state after it. -/
structure Transition (State Label : Type*) where
  before : State
  label : Label
  after : State

namespace TransitionSystem

variable {State Label : Type*} (system : TransitionSystem State Label)

/-- The finite runs from a state, with the transitions they make. A run grows at
its end, so an induction on it considers the last step. -/
inductive Run (start : State) : List (Transition State Label) → State → Prop where
  | nil : Run start [] start
  | snoc {transitions : List (Transition State Label)} {before after : State} {label : Label}
      (earlier : Run start transitions before) (step : system.next before label = some after) :
      Run start (transitions ++ [⟨before, label, after⟩]) after

/-- The states that some run reaches from an initial state. -/
def Reachable (state : State) : Prop :=
  ∃ start transitions, system.initial start ∧ system.Run start transitions state

/-- Execute a list of labels, as long as each of them is enabled. -/
def execute : List Label → State → Option State
  | [], state => some state
  | label :: rest, state => (system.next state label).bind (execute rest)

variable {system}

/-- The first of several labels is executed by one step. -/
theorem execute_cons {label : Label} {rest : List Label} {before after : State}
    (step : system.next before label = some after) :
    system.execute (label :: rest) before = system.execute rest after := by
  rw [execute, step, Option.bind_some]

theorem execute_append (first second : List Label) (state : State) :
    system.execute (first ++ second) state =
      (system.execute first state).bind (system.execute second) := by
  induction first generalizing state with
  | nil => rfl
  | cons label rest ih =>
      rw [List.cons_append, execute, execute, Option.bind_assoc]
      exact congrArg (system.next state label).bind (funext ih)

theorem Reachable.of_initial {state : State} (initial : system.initial state) :
    system.Reachable state :=
  ⟨state, [], initial, .nil⟩

theorem Reachable.step {before after : State} {label : Label} (reachable : system.Reachable before)
    (step : system.next before label = some after) : system.Reachable after := by
  obtain ⟨start, transitions, initial, run⟩ := reachable
  exact ⟨start, _, initial, run.snoc step⟩

/-- A property of the initial states that every step from a reachable state
keeps holds of all reachable states. -/
theorem Reachable.induction {holds : State → Prop}
    (base : ∀ state, system.initial state → holds state)
    (keeps : ∀ before label after, system.Reachable before → holds before →
      system.next before label = some after → holds after)
    {state : State} (reachable : system.Reachable state) : holds state := by
  obtain ⟨start, transitions, initial, run⟩ := reachable
  induction run with
  | nil => exact base start initial
  | snoc earlier step ih =>
      exact keeps _ _ _ ⟨start, _, initial, earlier⟩ ih step

/-- Executing labels from the end of a run extends the run, by transitions that
carry those labels. -/
theorem Run.extend_of_execute {labels : List Label} {start middle finish : State}
    {transitions : List (Transition State Label)} (run : system.Run start transitions middle)
    (executed : system.execute labels middle = some finish) :
    ∃ further, system.Run start (transitions ++ further) finish ∧
      further.map Transition.label = labels := by
  induction labels generalizing middle transitions with
  | nil =>
      have same : middle = finish := by simpa [execute] using executed
      subst same
      exact ⟨[], by simpa using run, rfl⟩
  | cons label rest ih =>
      obtain ⟨next, step, remaining⟩ := Option.bind_eq_some_iff.mp executed
      obtain ⟨further, longer, carried⟩ := ih (run.snoc step) remaining
      exact ⟨⟨middle, label, next⟩ :: further, by simpa using longer, by simp [carried]⟩

/-- An executed list of labels is a run, and its transitions carry the labels. -/
theorem exists_run_of_execute {labels : List Label} {start finish : State}
    (executed : system.execute labels start = some finish) :
    ∃ transitions, system.Run start transitions finish ∧
      transitions.map Transition.label = labels :=
  Run.extend_of_execute .nil executed

namespace Run

variable {start finish : State} {transitions : List (Transition State Label)}

/-- A run from where another one ends. -/
theorem append {middle : State} {further : List (Transition State Label)}
    (run : system.Run start transitions middle) (next : system.Run middle further finish) :
    system.Run start (transitions ++ further) finish := by
  induction next with
  | nil => rwa [List.append_nil]
  | snoc earlier step ih =>
      rw [← List.append_assoc]
      exact ih.snoc step

/-- The run before one of its steps, the step, and the run after it. -/
theorem split {earlier later : List (Transition State Label)} {step : Transition State Label}
    (run : system.Run start (earlier ++ step :: later) finish) :
    system.Run start earlier step.before ∧
      system.next step.before step.label = some step.after ∧
      system.Run step.after later finish := by
  generalize whole : earlier ++ step :: later = transitions at run
  induction run generalizing later with
  | nil => simp at whole
  | snoc before taken ih =>
      rcases List.eq_nil_or_concat later with rfl | ⟨rest, last, rfl⟩
      · obtain ⟨rfl, same⟩ := List.append_inj' whole rfl
        obtain rfl := List.singleton_inj.mp same
        exact ⟨before, taken, .nil⟩
      · rw [List.concat_eq_append, ← List.cons_append, ← List.append_assoc] at whole
        obtain ⟨sameEarlier, sameLast⟩ := List.append_inj' whole rfl
        obtain rfl := List.singleton_inj.mp sameLast
        obtain ⟨first, isStep, between⟩ := ih sameEarlier
        rw [List.concat_eq_append]
        exact ⟨first, isStep, between.snoc taken⟩

theorem step_of_mem {step : Transition State Label} (run : system.Run start transitions finish)
    (member : step ∈ transitions) : system.next step.before step.label = some step.after := by
  obtain ⟨earlier, later, rfl⟩ := List.append_of_mem member
  exact run.split.2.1

/-- **Invariants along a guarded run.** If the start has the property and every
guarded step keeps it, then a run whose steps all meet the guard has it at its
end and before each of its steps. -/
theorem invariant (holds : State → Prop) {guard : Transition State Label → Prop}
    (keeps : ∀ transition : Transition State Label, holds transition.before →
      system.next transition.before transition.label = some transition.after →
      guard transition → holds transition.after)
    (base : holds start) (run : system.Run start transitions finish)
    (guarded : ∀ transition ∈ transitions, guard transition) :
    holds finish ∧ ∀ transition ∈ transitions, holds transition.before := by
  induction run with
  | nil => exact ⟨base, fun _ member => absurd member (by simp)⟩
  | @snoc earlierTransitions before after label earlier step ih =>
      obtain ⟨atEnd, along⟩ := ih fun transition member =>
        guarded transition (List.mem_append_left _ member)
      have lastGuarded := guarded ⟨before, label, after⟩ (by simp)
      refine ⟨keeps _ atEnd step lastGuarded, fun transition member => ?_⟩
      rcases List.mem_append.mp member with inEarlier | isLast
      · exact along transition inEarlier
      · rw [List.mem_singleton.mp isLast]
        exact atEnd

/-- **A guard that is exact for one step is exact for whole runs.** -/
theorem good_iff_guarded (holds : State → Prop) {guard good : Transition State Label → Prop}
    (exact : ∀ transition : Transition State Label, holds transition.before →
      system.next transition.before transition.label = some transition.after →
      (good transition ↔ guard transition))
    (keeps : ∀ transition : Transition State Label, holds transition.before →
      system.next transition.before transition.label = some transition.after →
      guard transition → holds transition.after)
    (base : holds start) (run : system.Run start transitions finish) :
    (∀ transition ∈ transitions, good transition) ↔
      ∀ transition ∈ transitions, guard transition := by
  induction run with
  | nil => simp
  | @snoc earlierTransitions before after label earlier step ih =>
      simp only [List.forall_mem_append, List.forall_mem_singleton]
      rw [ih]
      refine and_congr_right fun earlierGuarded => ?_
      have atEnd := (invariant holds keeps base earlier earlierGuarded).1
      exact exact ⟨before, label, after⟩ atEnd step

/-- **Observations that stay.** What is observed after every step is what was observed
at the start, exactly when no step changes what is observed. -/
theorem constant_iff {Observed : Type*} (observe : State → Observed)
    (run : system.Run start transitions finish) :
    (∀ transition ∈ transitions, observe transition.after = observe start) ↔
      ∀ transition ∈ transitions, observe transition.after = observe transition.before := by
  have whole : ((∀ transition ∈ transitions, observe transition.after = observe start) ↔
      ∀ transition ∈ transitions, observe transition.after = observe transition.before) ∧
      ((∀ transition ∈ transitions, observe transition.after = observe start) →
        observe finish = observe start) := by
    induction run with
    | nil => simp
    | @snoc earlierTransitions before after label earlier step ih =>
        obtain ⟨same, atEnd⟩ := ih
        simp only [List.forall_mem_append, List.forall_mem_singleton]
        refine ⟨?_, fun constant => constant.2⟩
        rw [← same]
        exact and_congr_right fun constant => by rw [atEnd constant]
  exact whole.1

section Records

variable (holds : State → Prop) (isRecorded : Transition State Label → State → Prop)
  (keeps : ∀ transition : Transition State Label, holds transition.before →
    system.next transition.before transition.label = some transition.after →
    holds transition.after)
  (records : ∀ transition : Transition State Label, holds transition.before →
    system.next transition.before transition.label = some transition.after →
    isRecorded transition transition.after)
  (persists : ∀ earlier transition : Transition State Label, holds transition.before →
    system.next transition.before transition.label = some transition.after →
    isRecorded earlier transition.before → isRecorded earlier transition.after)

include keeps records persists

/-- **What steps leave behind.** If every step is recorded in the state it reaches and
no step erases the record of an earlier one, then all steps of a run are recorded at
its end. -/
theorem recorded (base : holds start) (run : system.Run start transitions finish) :
    ∀ transition ∈ transitions, isRecorded transition finish := by
  induction run with
  | nil => simp
  | @snoc earlierTransitions before after label earlier step ih =>
      have atEnd := (invariant holds
        (fun transition holdsBefore taken (_ : True) => keeps transition holdsBefore taken) base
        earlier (fun _ _ => trivial)).1
      intro transition member
      rcases List.mem_append.mp member with inEarlier | isLast
      · exact persists transition ⟨before, label, after⟩ atEnd step (ih transition inEarlier)
      · rw [List.mem_singleton.mp isLast]
        exact records ⟨before, label, after⟩ atEnd step

/-- **Pairs of steps.** What the record of an earlier step says about a step that is
about to be taken holds of any two steps of a run, in their order. -/
theorem pairwise {related : Transition State Label → Transition State Label → Prop}
    (relates : ∀ earlier transition : Transition State Label, holds transition.before →
      system.next transition.before transition.label = some transition.after →
      isRecorded earlier transition.before → related earlier transition)
    (base : holds start) (run : system.Run start transitions finish) :
    transitions.Pairwise related := by
  induction run with
  | nil => exact .nil
  | @snoc earlierTransitions before after label earlier step ih =>
      have atEnd := (invariant holds
        (fun transition holdsBefore taken (_ : True) => keeps transition holdsBefore taken) base
        earlier (fun _ _ => trivial)).1
      have sofar := Run.recorded holds isRecorded keeps records persists base earlier
      refine List.pairwise_append.mpr ⟨ih, List.pairwise_singleton _ _, ?_⟩
      intro first inEarlier last isLast
      rw [List.mem_singleton.mp isLast]
      exact relates first ⟨before, label, after⟩ atEnd step (sofar first inEarlier)

end Records

/-- **Simulation.** If every guarded step of a state with the invariant is, seen
through the abstraction, a step of the abstract machine or no step at all, then a
guarded run is a sequence of abstract steps. -/
theorem simulates {Abstract : Type*} (abstraction : State → Abstract) (holds : State → Prop)
    {abstractStep : Abstract → Abstract → Prop}
    {guard : Transition State Label → Prop}
    (keeps : ∀ transition : Transition State Label, holds transition.before →
      system.next transition.before transition.label = some transition.after →
      guard transition → holds transition.after)
    (matched : ∀ transition : Transition State Label, holds transition.before →
      system.next transition.before transition.label = some transition.after →
      guard transition →
      abstraction transition.after = abstraction transition.before ∨
        abstractStep (abstraction transition.before) (abstraction transition.after))
    (base : holds start) (run : system.Run start transitions finish)
    (guarded : ∀ transition ∈ transitions, guard transition) :
    Relation.ReflTransGen abstractStep (abstraction start) (abstraction finish) := by
  induction run with
  | nil => exact .refl
  | @snoc earlierTransitions before after label earlier step ih =>
      have earlierGuarded : ∀ transition ∈ earlierTransitions, guard transition :=
        fun transition member => guarded transition (List.mem_append_left _ member)
      have atEnd := (invariant holds keeps base earlier earlierGuarded).1
      have lastGuarded := guarded ⟨before, label, after⟩ (by simp)
      rcases matched ⟨before, label, after⟩ atEnd step lastGuarded with same | moved
      · rw [same]
        exact ih earlierGuarded
      · exact (ih earlierGuarded).tail moved

end Run

end TransitionSystem

end Foundations
