import LlmopsPlatform.Tuning.Lifecycle

/-!
# Assignments over whole runs

What an allocation returns depends on the status, the variants and the traffic percentage
of the row, and on the key (`allocateVariant_of_mem`). Of these only the status ever changes
after the creation, and only by a call on the same experiment.

So in every run a key has one assignment in an experiment for as long as it is running,
and that is none or an element of the variants that were stored at the creation
(`sticky_assignment`).
-/

set_option autoImplicit false

namespace LlmopsPlatform.Tuning

open Foundations Foundations.TransitionSystem Python Database

/-- The experiment that a call is about. -/
def RunnerCall.experimentId : RunnerCall → Nat
  | create _ outside => outside.id
  | start experiment_id => experiment_id
  | allocateVariant experiment_id _ => experiment_id
  | recordTrial trial => trial.experiment_id
  | getResults _ experiment_id => experiment_id
  | conclude _ _ experiment_id _ => experiment_id
  | cancel experiment_id => experiment_id
  | get experiment_id => experiment_id

/-- What the variants and the traffic percentage of a row assign to a key. -/
def ExperimentModel.assignment (row : ExperimentModel) (key : String) : Option ParameterSet :=
  ABTestAllocator.allocate ⟨row.variants, row.traffic_percentage⟩ key

/-- The experiment has a status. -/
def HasStatus (tables : ExperimentTables) (experiment_id : Nat) (status : ExperimentStatus) :
    Prop :=
  ∃ row ∈ tables.experiments, row.id = experiment_id ∧ row.status = status

/-- The allocations of a key in an experiment return one result while the experiment is
running, which is none or an element of the variants it was created with. In any other
status they return none. A call about another experiment changes no allocation. -/
structure StickyAssignment (transitions : List RunnerTransition) (experiment_id : Nat)
    (key : String) : Prop where
  while_running : ∃ result : Option ParameterSet,
    (∀ step ∈ transitions, step.label = .allocateVariant experiment_id key →
      HasStatus step.before experiment_id .running →
        step.label.outcome step.before = some (.ok (.variant result))) ∧
    ∀ variant, result = some variant → ∃ creation ∈ transitions, ∃ created,
      Creates creation created ∧ created.id = experiment_id ∧ variant ∈ created.variants
  otherwise : ∀ step ∈ transitions, step.label = .allocateVariant experiment_id key →
    ∀ status, status ≠ .running → HasStatus step.before experiment_id status →
      step.label.outcome step.before = some (.ok (.variant none))
  others : ∀ step ∈ transitions, step.label.experimentId ≠ experiment_id →
    RunnerCall.outcome (.allocateVariant experiment_id key) step.after =
      RunnerCall.outcome (.allocateVariant experiment_id key) step.before

/-! ## One allocation -/

/-- An allocated variant is one of the variants. -/
theorem ABTestAllocator.mem_of_allocate {allocator : ABTestAllocator} {key : String}
    {variant : ParameterSet} (allocated : allocator.allocate key = some variant) :
    variant ∈ allocator.variants :=
  List.mem_of_getElem? (getElem?_of_allocate allocated)

/-- **An allocation** is the assignment of the row while it is running, and none otherwise. -/
theorem allocateVariant_of_mem {tables : ExperimentTables} {row : ExperimentModel}
    (member : row ∈ tables.experiments) (key : String) :
    ExperimentRunner.allocateVariant tables row.id key =
      .ok (if row.status = .running then row.assignment key else none) := by
  rw [ExperimentRunner.allocateVariant, ExperimentRunner.getExperiment_of_mem member]
  by_cases running : row.status = .running
  · simp [running, bind, Except.bind, pure, Except.pure, ExperimentModel.assignment]
  · simp [running, bind, Except.bind, pure, Except.pure]

/-- The outcome of the call is what the function on tables returns or raises. -/
theorem outcome_allocateVariant (tables : ExperimentTables) (experiment_id : Nat) (key : String) :
    RunnerCall.outcome (.allocateVariant experiment_id key) tables =
      some ((ExperimentRunner.allocateVariant tables experiment_id key).map .variant) := by
  unfold RunnerCall.outcome RunnerCall.program Session.allocateVariant
  rw [Option.map_some, Effectful.run_bind, Session.run_query]
  simp only [Session.opened]
  cases ExperimentRunner.allocateVariant tables experiment_id key <;> rfl

/-- What a step that allocates a key returns, where its experiment has a row. -/
theorem outcome_of_row {step : RunnerTransition} {experiment_id : Nat} {key : String}
    {row : ExperimentModel} (isAllocate : step.label = .allocateVariant experiment_id key)
    (isRow : row ∈ step.before.experiments) (identified : row.id = experiment_id) :
    step.label.outcome step.before =
      some (.ok (.variant (if row.status = .running then row.assignment key else none))) := by
  rw [isAllocate, outcome_allocateVariant, ← identified, allocateVariant_of_mem isRow]
  rfl

/-- Rows with the same design assign the same. -/
theorem SameDesign.assignment {first second : ExperimentModel} (same : SameDesign first second)
    (key : String) : second.assignment key = first.assignment key := by
  rw [ExperimentModel.assignment, ExperimentModel.assignment, same.variants,
    same.traffic_percentage]

/-! ## Calls about another experiment -/

section Step

variable {before after : ExperimentTables} {call : RunnerCall}
  {outcome : Except PyException RunnerResult} {experiment_id : Nat}

/-- A call about another experiment leaves a row as it is. -/
theorem RowStep.eq_of_other {row later : ExperimentModel} (step : RowStep before call row later)
    (other : call.experimentId ≠ row.id) : later = row := by
  cases step with
  | same => rfl
  | started isCall draft =>
      rw [isCall] at other
      exact absurd rfl other
  | concluded order now given winner isCall running stored =>
      rw [isCall] at other
      exact absurd rfl other
  | cancelled isCall =>
      rw [isCall] at other
      exact absurd rfl other

theorem IsCreatedBy.experimentId_eq {row : ExperimentModel} (created : IsCreatedBy call row) :
    call.experimentId = row.id := by
  obtain ⟨config, outside, variants, rfl, -, rfl⟩ := created
  rfl

/-- Looking an experiment up finds the same after a call about another one. -/
theorem RunnerEffect.getExperiment_eq (effect : RunnerEffect before call outcome after)
    (other : call.experimentId ≠ experiment_id) :
    ExperimentRunner.getExperiment after experiment_id =
      ExperimentRunner.getExperiment before experiment_id := by
  rcases ExperimentRunner.getExperiment_cases before experiment_id with
    ⟨row, member, rfl, found⟩ | ⟨absent, missing⟩
  · obtain ⟨later, laterMember, rowStep⟩ := effect.row_after member
    obtain rfl := rowStep.eq_of_other other
    rw [found, ExperimentRunner.getExperiment_of_mem laterMember]
  · rcases ExperimentRunner.getExperiment_cases after experiment_id with
      ⟨later, laterMember, identified, -⟩ | ⟨-, missingAfter⟩
    · rcases effect.row_before laterMember with ⟨row, member, rowStep⟩ | ⟨created, -⟩
      · exact absurd (rowStep.id_eq.symm.trans identified) (absent row member)
      · exact absurd (created.experimentId_eq.trans identified) other
    · rw [missing, missingAfter]

/-- **An allocation is not changed by a call about another experiment.** -/
theorem RunnerEffect.allocateVariant_eq (effect : RunnerEffect before call outcome after)
    (other : call.experimentId ≠ experiment_id) (key : String) :
    ExperimentRunner.allocateVariant after experiment_id key =
      ExperimentRunner.allocateVariant before experiment_id key := by
  rw [ExperimentRunner.allocateVariant, effect.getExperiment_eq other,
    ExperimentRunner.allocateVariant]

end Step

/-! ## Runs -/

section Runs

variable {start finish : ExperimentTables} {transitions : List RunnerTransition}

/-- An experiment is created once, so that two creations of it in a run have one design. -/
theorem assignment_of_creations (run : runnerSystem.Run start transitions finish)
    {first second : RunnerTransition} (firstMember : first ∈ transitions)
    (secondMember : second ∈ transitions) {one other : ExperimentModel}
    (createsOne : Creates first one) (createsOther : Creates second other)
    (sameId : one.id = other.id) (key : String) : one.assignment key = other.assignment key := by
  obtain ⟨row, member, design⟩ := row_of_created run first firstMember one createsOne
  obtain ⟨again, againMember, againDesign⟩ :=
    row_of_created run second secondMember other createsOther
  have identified : row.id = again.id := by
    rw [design.id, againDesign.id, sameId]
  obtain rfl := finish.experimentIdUnique.eq_of_key_eq member againMember identified
  rw [← design.assignment key, ← againDesign.assignment key]

/-- Before a step, a row was created by an earlier step, with the assignment it still has. -/
theorem exists_creation (initial : runnerSystem.initial start)
    (run : runnerSystem.Run start transitions finish) {step : RunnerTransition}
    (member : step ∈ transitions) {row : ExperimentModel} (isRow : row ∈ step.before.experiments) :
    ∃ creation ∈ transitions, ∃ created, Creates creation created ∧ created.id = row.id ∧
      ∀ key, row.assignment key = created.assignment key := by
  obtain ⟨earlier, later, rfl⟩ := List.append_of_mem member
  obtain ⟨creation, inEarlier, created, creates, design⟩ :=
    created_of_row initial run.split.1 row isRow
  exact ⟨creation, List.mem_append_left _ inEarlier, created, creates, design.id.symm,
    design.assignment⟩

/-- **Assignments are sticky.** In every run from a new installation, for every experiment and
every key: all allocations of the key while the experiment is running return the same
result, which is none or an element of the variants that were stored at the creation; in
any other status they return none; and a call about another experiment changes none of
them. -/
theorem sticky_assignment (start finish : ExperimentTables) (transitions : List RunnerTransition)
    (initial : runnerSystem.initial start) (run : runnerSystem.Run start transitions finish)
    (experiment_id : Nat) (key : String) :
    StickyAssignment transitions experiment_id key := by
  refine ⟨?_, ?_, ?_⟩
  · by_cases wasCreated : ∃ creation ∈ transitions, ∃ created,
        Creates creation created ∧ created.id = experiment_id
    · obtain ⟨creation, isStep, created, creates, isExperiment⟩ := wasCreated
      refine ⟨created.assignment key, ?_, ?_⟩
      · rintro step member isAllocate ⟨row, isRow, identified, running⟩
        obtain ⟨other, otherStep, original, createsOther, sameId, assigned⟩ :=
          exists_creation initial run member isRow
        have same := assignment_of_creations run otherStep isStep createsOther creates
          (sameId.trans (identified.trans isExperiment.symm)) key
        rw [outcome_of_row isAllocate isRow identified, if_pos running, assigned, same]
      · intro variant isVariant
        exact ⟨creation, isStep, created, creates, isExperiment,
          ABTestAllocator.mem_of_allocate isVariant⟩
    · refine ⟨none, ?_, by simp⟩
      rintro step member isAllocate ⟨row, isRow, identified, running⟩
      obtain ⟨creation, isStep, created, creates, sameId, -⟩ :=
        exists_creation initial run member isRow
      exact absurd ⟨creation, isStep, created, creates, sameId.trans identified⟩ wasCreated
  · rintro step member isAllocate status notRunning ⟨row, isRow, identified, rfl⟩
    rw [outcome_of_row isAllocate isRow identified, if_neg notRunning]
  · intro step member other
    obtain ⟨outcome, -, effect⟩ := runnerNext_effect (run.step_of_mem member)
    rw [outcome_allocateVariant, outcome_allocateVariant, effect.allocateVariant_eq other]

/-- An experiment is allocated while it is running, and again after its conclusion. -/
def allocatedTwice : List RunnerCall :=
  [.create oneVariant firstIdentifier, .start 1, .allocateVariant 1 "user",
    .conclude .insertion 5 1 (some "formal"), .allocateVariant 1 "user"]

/-- The assignment of a key in this run. -/
theorem user_assignment_is_sticky :
    ∃ (finish : ExperimentTables) (transitions : List RunnerTransition),
      runnerSystem.Run ExperimentTables.empty transitions finish ∧
        transitions.map Transition.label = allocatedTwice ∧
        StickyAssignment transitions 1 "user" := by
  have executed : runnerSystem.execute allocatedTwice ExperimentTables.empty = some _ := rfl
  obtain ⟨transitions, run, labels⟩ := exists_run_of_execute executed
  exact ⟨_, transitions, run, labels, sticky_assignment _ _ transitions rfl run 1 "user"⟩

end Runs

end LlmopsPlatform.Tuning
