import LlmopsPlatform.Foundations.TransitionSystem
import Mathlib.Data.List.Nodup

/-!
# Linearization points

Calls on a shared object take several steps each, and the steps of different calls
interleave. The calls are explained by a sequential object if each of them takes effect
at one of its own steps, its linearization point: executing whole operations one after
another, in the order of the points, gives the same states and the same answers.

A `Linearization` names the points and says what has to be checked of one step. Whole
runs follow (`Linearization.explained`): the entries recorded at the points are a
history of the sequential object, no caller has two of them, every call that was answered
has one, and what the state knows about an entry stays known.

A property that the operations keep then holds at the end of every run, and what holds
of a sequential history is all there is to say about the shared state
(`SequentialObject.History.invariant`).
-/

set_option autoImplicit false

namespace Foundations

/-- What an operation does to a state, and what it answers there. -/
structure SequentialObject (State Operation Response : Type*) where
  apply : State → Operation → State
  respond : State → Operation → Response

/-- A call with its answer. -/
structure Entry (Caller Operation Response : Type*) where
  caller : Caller
  operation : Operation
  response : Response
deriving DecidableEq

namespace SequentialObject

variable {State Operation Response Caller : Type*}
  (object : SequentialObject State Operation Response)

/-- The sequential histories from a state: every call answers what the object answers
after the calls before it. -/
inductive History (start : State) : List (Entry Caller Operation Response) → State → Prop where
  | nil : History start [] start
  | snoc {entries : List (Entry Caller Operation Response)} {before : State}
      (earlier : History start entries before) (caller : Caller) (operation : Operation) :
      History start (entries ++ [⟨caller, operation, object.respond before operation⟩])
        (object.apply before operation)

/-- What a step does to the state is explained by the entry it makes, if it makes one. -/
def Explains (before after : State) : Option (Entry Caller Operation Response) → Prop
  | none => after = before
  | some entry => entry.response = object.respond before entry.operation ∧
      after = object.apply before entry.operation

variable {object}

namespace History

variable {start finish : State} {entries : List (Entry Caller Operation Response)}

/-- A property that the recorded operations keep holds at the end of a history. -/
theorem invariant (holds : State → Prop)
    (keeps : ∀ before, ∀ entry ∈ entries, entry.response = object.respond before entry.operation →
      holds before → holds (object.apply before entry.operation))
    (base : holds start) (history : object.History start entries finish) : holds finish := by
  induction history with
  | nil => exact base
  | @snoc entries before earlier caller operation ih =>
      exact keeps before ⟨caller, operation, object.respond before operation⟩ (by simp) rfl
        (ih fun state entry member => keeps state entry (List.mem_append_left _ member))

/-- The calls before an entry, and what the entry answers after them. -/
theorem split {earlier later : List (Entry Caller Operation Response)}
    {entry : Entry Caller Operation Response}
    (history : object.History start (earlier ++ entry :: later) finish) :
    ∃ before, object.History start earlier before ∧
      entry.response = object.respond before entry.operation ∧
      object.History (object.apply before entry.operation) later finish := by
  generalize whole : earlier ++ entry :: later = entries at history
  induction history generalizing later with
  | nil => simp at whole
  | @snoc shorter before before_history caller operation ih =>
      rcases List.eq_nil_or_concat later with rfl | ⟨rest, last, rfl⟩
      · obtain ⟨rfl, same⟩ := List.append_inj' whole rfl
        obtain rfl := List.singleton_inj.mp same
        exact ⟨before, before_history, rfl, .nil⟩
      · rw [List.concat_eq_append, ← List.cons_append, ← List.append_assoc] at whole
        obtain ⟨sameEarlier, sameLast⟩ := List.append_inj' whole rfl
        obtain rfl := List.singleton_inj.mp sameLast
        obtain ⟨middle, first, answers, between⟩ := ih sameEarlier
        rw [List.concat_eq_append]
        exact ⟨middle, first, answers, between.snoc caller operation⟩

end History

end SequentialObject

/-- The linearization points of the calls on a shared object, with what has to be
checked of each step. -/
structure Linearization {State Label Abstract Operation Response : Type*}
    (system : TransitionSystem State Label)
    (object : SequentialObject Abstract Operation Response) (Caller : Type*) where
  abstraction : State → Abstract
  point : Transition State Label → Option (Entry Caller Operation Response)
  holds : State → Prop
  /-- What the state knows about the call of an entry. -/
  records : Entry Caller Operation Response → State → Prop
  /-- The call has an answer, so it has to be in the history. -/
  answered : State → Caller → Prop
  initially : ∀ start, system.initial start → holds start ∧ ∀ caller, ¬ answered start caller
  keeps : ∀ step : Transition State Label, holds step.before →
    system.next step.before step.label = some step.after → holds step.after
  explains : ∀ step : Transition State Label, holds step.before →
    system.next step.before step.label = some step.after →
    object.Explains (abstraction step.before) (abstraction step.after) (point step)
  noted : ∀ step : Transition State Label, holds step.before →
    system.next step.before step.label = some step.after →
    ∀ entry, point step = some entry → records entry step.after
  stays : ∀ step : Transition State Label, holds step.before →
    system.next step.before step.label = some step.after →
    ∀ entry, records entry step.before → records entry step.after
  once : ∀ step : Transition State Label, holds step.before →
    system.next step.before step.label = some step.after →
    ∀ entry, point step = some entry →
      ∀ earlier, records earlier step.before → earlier.caller ≠ entry.caller
  answers : ∀ step : Transition State Label, holds step.before →
    system.next step.before step.label = some step.after →
    ∀ caller, answered step.after caller →
      answered step.before caller ∨ (point step).map Entry.caller = some caller

namespace Linearization

open TransitionSystem

variable {State Label Abstract Operation Response Caller : Type*}
  {system : TransitionSystem State Label}
  {object : SequentialObject Abstract Operation Response}
  (linearization : Linearization system object Caller)

/-- The entries of a run, in the order of their points. -/
def entries (transitions : List (Transition State Label)) :
    List (Entry Caller Operation Response) :=
  transitions.filterMap linearization.point

theorem entries_snoc (transitions : List (Transition State Label)) (step : Transition State Label) :
    linearization.entries (transitions ++ [step]) =
      linearization.entries transitions ++ (linearization.point step).toList := by
  unfold entries
  rw [List.filterMap_append]
  cases atPoint : linearization.point step <;> simp [atPoint]

/-- What a sequential history has to do with a state of the shared object. -/
structure Explained (start finish : State) (entries : List (Entry Caller Operation Response)) :
    Prop where
  history : object.History (linearization.abstraction start) entries
    (linearization.abstraction finish)
  distinct : (entries.map Entry.caller).Nodup
  recorded : ∀ entry ∈ entries, linearization.records entry finish
  complete : ∀ caller, linearization.answered finish caller → caller ∈ entries.map Entry.caller

variable {linearization}

/-- A step adds its entry to the history. -/
theorem Explained.step {start : State} {entries : List (Entry Caller Operation Response)}
    (step : Transition State Label)
    (explained : linearization.Explained start step.before entries)
    (holds : linearization.holds step.before)
    (taken : system.next step.before step.label = some step.after) :
    linearization.Explained start step.after (entries ++ (linearization.point step).toList) := by
  have effect := linearization.explains step holds taken
  have answers := linearization.answers step holds taken
  have stays : ∀ entry ∈ entries, linearization.records entry step.after := fun entry member =>
    linearization.stays step holds taken entry (explained.recorded entry member)
  cases atPoint : linearization.point step with
  | none =>
      rw [atPoint] at effect answers
      have same : linearization.abstraction step.after = linearization.abstraction step.before :=
        effect
      rw [Option.toList_none, List.append_nil]
      refine ⟨same ▸ explained.history, explained.distinct, stays, fun caller answered => ?_⟩
      exact explained.complete caller ((answers caller answered).resolve_right (by simp))
  | some entry =>
      rw [atPoint] at effect answers
      obtain ⟨response, moved⟩ := effect
      have first : entry.caller ∉ entries.map Entry.caller := by
        intro member
        obtain ⟨earlier, inEntries, sameCaller⟩ := List.mem_map.mp member
        exact linearization.once step holds taken entry atPoint earlier
          (explained.recorded earlier inEntries) sameCaller
      rw [Option.toList_some]
      constructor
      · have longer := explained.history.snoc entry.caller entry.operation
        rwa [← response, ← moved] at longer
      · rw [List.map_append, List.map_singleton]
        exact explained.distinct.append (List.nodup_singleton _) (by simpa using first)
      · simpa only [List.forall_mem_append, List.forall_mem_singleton] using
          ⟨stays, linearization.noted step holds taken entry atPoint⟩
      · intro caller answered
        rw [List.map_append, List.map_singleton, List.mem_append, List.mem_singleton]
        rcases answers caller answered with before | now
        · exact .inl (explained.complete caller before)
        · exact .inr (Option.some.inj now).symm

variable (linearization)

/-- **Whole runs are explained.** The entries at the points of a run are a history of the
sequential object that ends in the state of the shared one. -/
theorem explained {start finish : State} {transitions : List (Transition State Label)}
    (initial : system.initial start) (run : system.Run start transitions finish) :
    linearization.holds finish ∧
      linearization.Explained start finish (linearization.entries transitions) := by
  obtain ⟨holds, fresh⟩ := linearization.initially start initial
  induction run with
  | nil =>
      exact ⟨holds, .nil, List.nodup_nil, by simp [entries],
        fun caller answered => absurd answered (fresh caller)⟩
  | @snoc transitions before after label earlier step ih =>
      obtain ⟨holdsBefore, explainedBefore⟩ := ih
      have longer := explainedBefore.step ⟨before, label, after⟩ holdsBefore step
      refine ⟨linearization.keeps ⟨before, label, after⟩ holdsBefore step, ?_⟩
      rwa [entries_snoc]

end Linearization

end Foundations
