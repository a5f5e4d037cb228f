import LlmopsPlatform.Tuning.Runner

/-!
# The lifecycle of experiments

What a call does to the rows of the experiments is listed once (`RowStep`): a row stays
as it is, is started, concluded or cancelled, and new rows are drafts.

The bookkeeping of a row follows from that, in every run (`lifecycle_bookkeeping`): an
open experiment has no winner and no time of conclusion, a concluded one has a time,
no experiment is started or concluded twice, what it was created with never changes,
and a call that raises leaves all rows alone.

An experiment that has ended is meant to stay as it is. Starting and concluding check the
status first; cancelling does not. So ended experiments stay as they are in
exactly those runs that never cancel a completed one (`ended_rows_are_final_iff`).
-/

set_option autoImplicit false

namespace LlmopsPlatform.Tuning

open Foundations Foundations.TransitionSystem Python Database

/-- The experiment has ended. -/
def ExperimentStatus.isTerminal : ExperimentStatus → Bool
  | completed | cancelled => true
  | _ => false

/-! ## What a call does to a row -/

/-- What a call on some tables can do to a row that exists. -/
inductive RowStep (before : ExperimentTables) (call : RunnerCall) (row : ExperimentModel) :
    ExperimentModel → Prop where
  | same : RowStep before call row row
  | started (isCall : call = .start row.id) (draft : row.status = .draft) :
      RowStep before call row { row with status := .running }
  | concluded (order : RowOrder) (now : Timestamp) (given winner : Option String)
      (isCall : call = .conclude order now row.id given) (running : row.status = .running)
      (stored : winner = winnerToStore given
        (ExperimentRunner.variantResults (order.arrange (before.scoredTrials row.id)))) :
      RowStep before call row (concludedRow row winner now)
  | cancelled (isCall : call = .cancel row.id) :
      RowStep before call row { row with status := .cancelled }

/-- The row is the one that the call creates. -/
def IsCreatedBy (call : RunnerCall) (row : ExperimentModel) : Prop :=
  ∃ config outside variants, call = .create config outside ∧
    chosenVariants config outside = some variants ∧ row = experimentRow config outside variants

section Rows

variable {before after : ExperimentTables} {call : RunnerCall}
  {outcome : Except PyException RunnerResult}

/-- Updating one row leaves the others alone. -/
theorem restate_rowStep {row updated : ExperimentModel} (member : row ∈ before.experiments)
    (sameId : updated.id = row.id)
    (restated : ExperimentTables.restate updated row = updated)
    (step : RowStep before call row updated) :
    ∀ other ∈ before.experiments,
      RowStep before call other (ExperimentTables.restate updated other) := by
  intro other otherMember
  by_cases isRow : other.id = updated.id
  · obtain rfl := before.experimentIdUnique.eq_of_key_eq otherMember member (isRow.trans sameId)
    rwa [restated]
  · rw [ExperimentTables.restate, if_neg isRow]
    exact .same

/-- **What a call does to the rows of the experiments.** -/
theorem RunnerEffect.rows (effect : RunnerEffect before call outcome after) :
    ∃ (change : ExperimentModel → ExperimentModel) (created : List ExperimentModel),
      after.experiments = before.experiments.map change ++ created ∧
      (∀ row ∈ before.experiments, RowStep before call row (change row)) ∧
      ∀ row ∈ created, IsCreatedBy call row ∧ outcome = .ok (.experiment row) := by
  have unchanged : before.experiments = before.experiments.map id ++ [] := by simp
  cases effect with
  | raised call failure => exact ⟨id, [], unchanged, fun _ _ => .same, by simp⟩
  | allocated row key allocated member result =>
      exact ⟨id, [], unchanged, fun _ _ => .same, by simp⟩
  | aggregated order row found member results =>
      exact ⟨id, [], unchanged, fun _ _ => .same, by simp⟩
  | read row member => exact ⟨id, [], unchanged, fun _ _ => .same, by simp⟩
  | recorded trial after inserted =>
      obtain ⟨-, experiments, -⟩ := ExperimentTables.insertTrial_eq_ok inserted
      exact ⟨id, [], experiments.trans unchanged, fun _ _ => .same, by simp⟩
  | created config outside variants after chosen inserted =>
      obtain ⟨-, experiments, -⟩ := ExperimentTables.insertExperiment_eq_ok inserted
      refine ⟨id, [experimentRow config outside variants], by simpa using experiments,
        fun _ _ => .same, ?_⟩
      intro row isRow
      rw [List.mem_singleton.mp isRow]
      exact ⟨⟨config, outside, variants, rfl, chosen, rfl⟩, rfl⟩
  | started row member draft =>
      exact ⟨_, [], (List.append_nil _).symm, restate_rowStep member rfl
        (by simp [ExperimentTables.restate]) (.started rfl draft), by simp⟩
  | concluded order now row given winner member running stored =>
      exact ⟨_, [], (List.append_nil _).symm, restate_rowStep member rfl
        (by simp [ExperimentTables.restate, concludedRow])
        (.concluded order now given winner rfl running stored), by simp⟩
  | cancelled row member =>
      exact ⟨_, [], (List.append_nil _).symm, restate_rowStep member rfl
        (by simp [ExperimentTables.restate]) (.cancelled rfl), by simp⟩

theorem RowStep.id_eq {row later : ExperimentModel} (step : RowStep before call row later) :
    later.id = row.id := by
  cases step <;> rfl

/-- A row is found again after a call. -/
theorem RunnerEffect.row_after (effect : RunnerEffect before call outcome after)
    {row : ExperimentModel} (member : row ∈ before.experiments) :
    ∃ later ∈ after.experiments, RowStep before call row later := by
  obtain ⟨change, created, experiments, steps, -⟩ := effect.rows
  exact ⟨change row, experiments ▸ List.mem_append_left _ (List.mem_map_of_mem member),
    steps row member⟩

/-- A row after a call was there before, or the call created it. -/
theorem RunnerEffect.row_before (effect : RunnerEffect before call outcome after)
    {later : ExperimentModel} (member : later ∈ after.experiments) :
    (∃ row ∈ before.experiments, RowStep before call row later) ∨
      IsCreatedBy call later ∧ outcome = .ok (.experiment later) := by
  obtain ⟨change, created, experiments, steps, isCreated⟩ := effect.rows
  rcases List.mem_append.mp (experiments ▸ member) with earlier | isNew
  · obtain ⟨row, rowMember, rfl⟩ := List.mem_map.mp earlier
    exact .inl ⟨row, rowMember, steps row rowMember⟩
  · exact .inr (isCreated later isNew)

end Rows

/-! ## Bookkeeping -/

/-- A step of a run. -/
abbrev RunnerTransition := Transition ExperimentTables RunnerCall

/-- What the columns of a row say about one another. -/
structure Bookkept (row : ExperimentModel) : Prop where
  openIsUnset : row.status = .draft ∨ row.status = .running →
    row.winner_variant_id = none ∧ row.concluded_at = none
  completedIsConcluded : row.status = .completed → row.concluded_at.isSome
  winnerIsConcluded : row.winner_variant_id.isSome → row.concluded_at.isSome

/-- The columns of every row agree. -/
def AllBookkept (tables : ExperimentTables) : Prop := ∀ row ∈ tables.experiments, Bookkept row

/-- The columns that are set at the creation of an experiment and define it. -/
structure SameDesign (first second : ExperimentModel) : Prop where
  id : second.id = first.id
  variants : second.variants = first.variants
  traffic_percentage : second.traffic_percentage = first.traffic_percentage
  parameter_space : second.parameter_space = first.parameter_space
  allocation_strategy : second.allocation_strategy = first.allocation_strategy

/-- The step is a start of the experiment that succeeds. -/
def Starts (step : RunnerTransition) (experiment_id : Nat) : Prop :=
  step.label = .start experiment_id ∧ ∃ result, step.label.outcome step.before = some (.ok result)

/-- The step is a conclusion of the experiment that succeeds. -/
def Concludes (step : RunnerTransition) (experiment_id : Nat) : Prop :=
  (∃ order now given, step.label = .conclude order now experiment_id given) ∧
    ∃ result, step.label.outcome step.before = some (.ok result)

/-- The step is a creation of the experiment that succeeds. -/
def Creates (step : RunnerTransition) (created : ExperimentModel) : Prop :=
  IsCreatedBy step.label created ∧
    step.label.outcome step.before = some (.ok (.experiment created))

section Bookkeeping

variable {before : ExperimentTables} {call : RunnerCall} {row later : ExperimentModel}

theorem RowStep.bookkept (step : RowStep before call row later) (bookkept : Bookkept row) :
    Bookkept later := by
  cases step with
  | same => exact bookkept
  | started isCall draft =>
      obtain ⟨noWinner, notConcluded⟩ := bookkept.openIsUnset (.inl draft)
      exact ⟨fun _ => ⟨noWinner, notConcluded⟩, by simp, by simp [noWinner]⟩
  | concluded order now given winner isCall running stored =>
      exact ⟨by simp [concludedRow], fun _ => rfl, fun _ => rfl⟩
  | cancelled isCall => exact ⟨by simp, by simp, bookkept.winnerIsConcluded⟩

theorem IsCreatedBy.bookkept (created : IsCreatedBy call row) : Bookkept row := by
  obtain ⟨config, outside, variants, -, -, rfl⟩ := created
  exact ⟨fun _ => ⟨rfl, rfl⟩, by simp [experimentRow], by simp [experimentRow]⟩

theorem RowStep.sameDesign (step : RowStep before call row later) : SameDesign row later := by
  cases step <;> exact ⟨rfl, rfl, rfl, rfl, rfl⟩

theorem SameDesign.trans {first second third : ExperimentModel} (one : SameDesign first second)
    (two : SameDesign second third) : SameDesign first third :=
  ⟨two.id.trans one.id, two.variants.trans one.variants,
    two.traffic_percentage.trans one.traffic_percentage,
    two.parameter_space.trans one.parameter_space,
    two.allocation_strategy.trans one.allocation_strategy⟩

/-- No call takes an experiment back to a draft. -/
theorem RowStep.ne_draft (step : RowStep before call row later) (passed : row.status ≠ .draft) :
    later.status ≠ .draft := by
  cases step with
  | same => exact passed
  | started isCall draft => simp
  | concluded order now given winner isCall running stored => simp [concludedRow]
  | cancelled isCall => simp

/-- No call opens an experiment that has ended. -/
theorem RowStep.isTerminal (step : RowStep before call row later) (ended : row.status.isTerminal) :
    later.status.isTerminal := by
  cases step with
  | same => exact ended
  | started isCall draft => simp [draft, ExperimentStatus.isTerminal] at ended
  | concluded order now given winner isCall running stored => rfl
  | cancelled isCall => rfl

end Bookkeeping

section Runs

variable {start finish : ExperimentTables} {transitions : List RunnerTransition}

/-- An event that takes an experiment past a point, from which no call takes it
back, happens at most once in a run. -/
theorem happens_once (passed : ExperimentStatus → Prop) (happens : RunnerTransition → Nat → Prop)
    (closed : ∀ {before call row later}, RowStep before call row later → passed row.status →
      passed later.status)
    (needs : ∀ step : RunnerTransition, runnerSystem.next step.before step.label = some step.after →
      ∀ experiment_id, happens step experiment_id →
        ∃ row ∈ step.before.experiments, row.id = experiment_id ∧ ¬ passed row.status)
    (enters : ∀ step : RunnerTransition,
      runnerSystem.next step.before step.label = some step.after →
      ∀ experiment_id, happens step experiment_id →
        ∃ row ∈ step.after.experiments, row.id = experiment_id ∧ passed row.status)
    (run : runnerSystem.Run start transitions finish) :
    transitions.Pairwise fun first second =>
      ∀ experiment_id, ¬ (happens first experiment_id ∧ happens second experiment_id) := by
  refine run.pairwise (fun _ => True)
    (fun step tables => ∀ experiment_id, happens step experiment_id →
      ∃ row ∈ tables.experiments, row.id = experiment_id ∧ passed row.status)
    (fun _ _ _ => trivial) (fun step _ taken => enters step taken) ?_ ?_ trivial
  · intro earlier step _ taken recorded experiment_id happened
    obtain ⟨row, member, rfl, isPassed⟩ := recorded experiment_id happened
    obtain ⟨outcome, -, effect⟩ := runnerNext_effect taken
    obtain ⟨later, laterMember, rowStep⟩ := effect.row_after member
    exact ⟨later, laterMember, rowStep.id_eq, closed rowStep isPassed⟩
  · rintro earlier step _ taken recorded experiment_id ⟨happened, again⟩
    obtain ⟨row, member, identified, isPassed⟩ := recorded experiment_id happened
    obtain ⟨other, otherMember, otherIdentified, notPassed⟩ := needs step taken experiment_id again
    obtain rfl := step.before.experimentIdUnique.eq_of_key_eq member otherMember
      (identified.trans otherIdentified.symm)
    exact notPassed isPassed

theorem starts_once (run : runnerSystem.Run start transitions finish) :
    transitions.Pairwise fun first second =>
      ∀ experiment_id, ¬ (Starts first experiment_id ∧ Starts second experiment_id) := by
  refine happens_once (· ≠ .draft) Starts RowStep.ne_draft ?_ ?_ run
  · rintro step taken experiment_id ⟨isStart, result, succeeded⟩
    rw [isStart] at taken succeeded
    obtain ⟨row, member, identified, draft, -⟩ := (effect_of_outcome taken succeeded).start_ok
    exact ⟨row, member, identified, by simp [draft]⟩
  · rintro step taken experiment_id ⟨isStart, result, succeeded⟩
    rw [isStart] at taken succeeded
    obtain ⟨row, member, identified, -, committed⟩ := (effect_of_outcome taken succeeded).start_ok
    rw [committed]
    exact ⟨_, List.mem_map_of_mem member, by simpa using identified,
      by simp [ExperimentTables.restate]⟩

theorem concludes_once (run : runnerSystem.Run start transitions finish) :
    transitions.Pairwise fun first second =>
      ∀ experiment_id, ¬ (Concludes first experiment_id ∧ Concludes second experiment_id) := by
  refine happens_once (·.isTerminal) Concludes RowStep.isTerminal ?_ ?_ run
  · rintro step taken experiment_id ⟨⟨order, now, given, isConclude⟩, result, succeeded⟩
    rw [isConclude] at taken succeeded
    obtain ⟨row, member, identified, running, -⟩ :=
      (effect_of_outcome taken succeeded).conclude_ok
    exact ⟨row, member, identified, by simp [running, ExperimentStatus.isTerminal]⟩
  · rintro step taken experiment_id ⟨⟨order, now, given, isConclude⟩, result, succeeded⟩
    rw [isConclude] at taken succeeded
    obtain ⟨row, member, identified, -, committed⟩ :=
      (effect_of_outcome taken succeeded).conclude_ok
    rw [committed]
    exact ⟨_, List.mem_map_of_mem member, by simpa using identified,
      by simp [ExperimentTables.restate, concludedRow, ExperimentStatus.isTerminal]⟩

/-- Every row was created by a step of the run, with the design it still has. -/
theorem created_of_row (initial : runnerSystem.initial start)
    (run : runnerSystem.Run start transitions finish) :
    ∀ row ∈ finish.experiments, ∃ step ∈ transitions, ∃ created,
      Creates step created ∧ SameDesign created row := by
  induction run with
  | nil =>
      obtain rfl : start = ExperimentTables.empty := initial
      simp [ExperimentTables.empty]
  | @snoc earlierTransitions before after call earlier step ih =>
      intro later member
      obtain ⟨outcome, isOutcome, effect⟩ := runnerNext_effect step
      rcases effect.row_before member with ⟨row, rowMember, rowStep⟩ | ⟨created, rfl⟩
      · obtain ⟨creation, inEarlier, created, isCreated, same⟩ := ih row rowMember
        exact ⟨creation, List.mem_append_left _ inEarlier, created, isCreated,
          same.trans rowStep.sameDesign⟩
      · exact ⟨⟨before, call, after⟩, by simp, later, ⟨created, isOutcome⟩, rfl, rfl, rfl, rfl, rfl⟩

/-- An experiment whose creation succeeded is still there, with the same design. -/
theorem row_of_created (run : runnerSystem.Run start transitions finish) :
    ∀ step ∈ transitions, ∀ created, Creates step created →
      ∃ row ∈ finish.experiments, SameDesign created row := by
  refine run.recorded (fun _ => True)
    (fun step tables => ∀ created, Creates step created →
      ∃ row ∈ tables.experiments, SameDesign created row) (fun _ _ _ => trivial) ?_ ?_ trivial
  · rintro step - taken created ⟨⟨config, outside, variants, isCreate, -, -⟩, succeeded⟩
    rw [isCreate] at taken succeeded
    have experiments := (effect_of_outcome taken succeeded).create_ok
    exact ⟨created, by simp [experiments], rfl, rfl, rfl, rfl, rfl⟩
  · intro earlier step _ taken recorded created isCreated
    obtain ⟨row, member, same⟩ := recorded created isCreated
    obtain ⟨outcome, -, effect⟩ := runnerNext_effect taken
    obtain ⟨later, laterMember, rowStep⟩ := effect.row_after member
    exact ⟨later, laterMember, same.trans rowStep.sameDesign⟩

theorem bookkept_of_reachable (reachable : runnerSystem.Reachable finish) :
    AllBookkept finish := by
  refine Reachable.induction ?_ ?_ reachable
  · rintro state rfl
    simp [AllBookkept, ExperimentTables.empty]
  · intro before call after _ bookkept step later member
    obtain ⟨outcome, -, effect⟩ := runnerNext_effect step
    rcases effect.row_before member with ⟨row, rowMember, rowStep⟩ | ⟨created, -⟩
    · exact rowStep.bookkept (bookkept row rowMember)
    · exact created.bookkept

/-- **The bookkeeping of the lifecycle.** In every run from a new installation, the
columns of every row agree with its status; no experiment is concluded twice or started
twice; every row has the design it was created with, and every experiment that was
created is there; and a call that raises leaves all rows as they were. -/
theorem lifecycle_bookkeeping (start finish : ExperimentTables)
    (transitions : List RunnerTransition) (initial : runnerSystem.initial start)
    (run : runnerSystem.Run start transitions finish) :
    AllBookkept finish ∧
    (transitions.Pairwise fun first second =>
      ∀ experiment_id, ¬ (Concludes first experiment_id ∧ Concludes second experiment_id)) ∧
    (transitions.Pairwise fun first second =>
      ∀ experiment_id, ¬ (Starts first experiment_id ∧ Starts second experiment_id)) ∧
    (∀ row ∈ finish.experiments, ∃ step ∈ transitions, ∃ created,
      Creates step created ∧ SameDesign created row) ∧
    (∀ step ∈ transitions, ∀ created, Creates step created →
      ∃ row ∈ finish.experiments, SameDesign created row) ∧
    (∀ step ∈ transitions, ∀ failure,
      step.label.outcome step.before = some (.error failure) → step.after = step.before) := by
  refine ⟨bookkept_of_reachable ⟨start, transitions, initial, run⟩, concludes_once run,
    starts_once run, created_of_row initial run, row_of_created run, ?_⟩
  intro step member failure raised
  exact (effect_of_outcome (run.step_of_mem member) raised).of_error

end Runs

/-- The settings of an experiment with one variant. -/
def oneVariant : ExperimentConfig where
  name := "tone"
  description := ""
  parameter_space := ⟨[]⟩
  scoring_pipeline_id := none
  allocation_strategy := .ab_test
  traffic_percentage := 100
  variants := [⟨"formal", []⟩]
  traffic_nonneg := by norm_num
  traffic_le := le_rfl

/-- The first identifier, and no further ones. -/
def firstIdentifier : Surroundings where
  id := 1
  now := 0
  newPrefix := fun _ => ""
  draw := fun _ _ =>
    { below := fun _ => 0
      fraction := 0
      below_lt := fun _ positive => positive
      fraction_nonneg := le_rfl
      fraction_lt_one := by norm_num }
  rounds := 0

/-- An experiment is created, started and concluded, and a second conclusion is refused. -/
def concludedTwice : List RunnerCall :=
  [.create oneVariant firstIdentifier, .start 1, .conclude .insertion 5 1 (some "formal"),
    .conclude .insertion 6 1 none]

/-- The refused conclusion left the rows as they were. -/
theorem second_conclusion_changes_nothing :
    ∃ (finish : ExperimentTables) (transitions : List RunnerTransition),
      runnerSystem.Run ExperimentTables.empty transitions finish ∧
        transitions.map Transition.label = concludedTwice ∧
        ∀ step ∈ transitions, ∀ failure,
          step.label.outcome step.before = some (.error failure) → step.after = step.before := by
  have executed : runnerSystem.execute concludedTwice ExperimentTables.empty = some _ := rfl
  obtain ⟨transitions, run, labels⟩ := exists_run_of_execute executed
  exact ⟨_, transitions, run, labels,
    (lifecycle_bookkeeping _ _ transitions rfl run).2.2.2.2.2⟩

/-! ## Experiments that have ended -/

/-- The step leaves the status, the winner and the time of conclusion of every experiment
that has ended. -/
def KeepsEnded (step : RunnerTransition) : Prop :=
  ∀ row ∈ step.before.experiments, row.status.isTerminal →
    ∃ later ∈ step.after.experiments, later.id = row.id ∧ later.status = row.status ∧
      later.winner_variant_id = row.winner_variant_id ∧ later.concluded_at = row.concluded_at

/-- The step cancels an experiment that is completed. -/
def CancelsCompleted (step : RunnerTransition) : Prop :=
  ∃ row ∈ step.before.experiments, row.status = .completed ∧ step.label = .cancel row.id

/-- Cancelling an experiment that exists succeeds. -/
theorem next_cancel {tables : ExperimentTables} {row : ExperimentModel}
    (member : row ∈ tables.experiments) :
    runnerSystem.next tables (.cancel row.id) =
      some (tables.updateExperiment { row with status := .cancelled }) := by
  have found := ExperimentRunner.getExperiment_of_mem member
  have ran : (Session.cancel row.id).run (.opened tables) = _ := Session.run_cancel row.id
  rw [ExperimentRunner.cancel, found] at ran
  refine congrArg some ?_
  beta_reduce
  rw [Effectful.run_bind, ran]
  rfl

theorem keepsEnded_iff {step : RunnerTransition}
    (taken : runnerSystem.next step.before step.label = some step.after) :
    KeepsEnded step ↔ ¬ CancelsCompleted step := by
  constructor
  · rintro keeps ⟨row, member, completed, isCancel⟩
    obtain ⟨later, laterMember, sameId, sameStatus, -⟩ :=
      keeps row member (by simp [completed, ExperimentStatus.isTerminal])
    rw [isCancel, next_cancel member] at taken
    rw [← Option.some.inj taken] at laterMember
    obtain ⟨other, otherMember, rfl⟩ := List.mem_map.mp laterMember
    rw [ExperimentTables.restate_id] at sameId
    obtain rfl := step.before.experimentIdUnique.eq_of_key_eq otherMember member sameId
    simp [ExperimentTables.restate, completed] at sameStatus
  · intro spared row member ended
    obtain ⟨outcome, -, effect⟩ := runnerNext_effect taken
    obtain ⟨later, laterMember, rowStep⟩ := effect.row_after member
    refine ⟨later, laterMember, rowStep.id_eq, ?_⟩
    cases rowStep with
    | same => exact ⟨rfl, rfl, rfl⟩
    | started isCall draft => simp [draft, ExperimentStatus.isTerminal] at ended
    | concluded order now given winner isCall running stored =>
        simp [running, ExperimentStatus.isTerminal] at ended
    | cancelled isCall =>
        have notCompleted : row.status ≠ .completed := fun completed =>
          spared ⟨row, member, completed, isCall⟩
        cases status : row.status <;> simp_all [ExperimentStatus.isTerminal]

/-- **When ended experiments stay as they are.** Every step of a run leaves the status,
the winner and the time of conclusion of all experiments that have ended, exactly when
no step cancels a completed one. -/
theorem ended_rows_are_final_iff (start finish : ExperimentTables)
    (transitions : List RunnerTransition) (run : runnerSystem.Run start transitions finish) :
    (∀ step ∈ transitions, KeepsEnded step) ↔ ∀ step ∈ transitions, ¬ CancelsCompleted step :=
  Run.good_iff_guarded (fun _ => True) (fun _ _ taken => keepsEnded_iff taken)
    (fun _ _ _ _ => trivial) trivial run

/-- The run in which a second conclusion was refused cancels nothing. -/
theorem concluded_rows_stay :
    ∃ (finish : ExperimentTables) (transitions : List RunnerTransition),
      runnerSystem.Run ExperimentTables.empty transitions finish ∧
        transitions.map Transition.label = concludedTwice ∧
        ((∀ step ∈ transitions, KeepsEnded step) ↔
          ∀ step ∈ transitions, ¬ CancelsCompleted step) := by
  have executed : runnerSystem.execute concludedTwice ExperimentTables.empty = some _ := rfl
  obtain ⟨transitions, run, labels⟩ := exists_run_of_execute executed
  exact ⟨_, transitions, run, labels, ended_rows_are_final_iff _ _ transitions run⟩

/-- The experiment after its conclusion with a winner. -/
def completedTone (winner : String) : ExperimentModel :=
  { experimentRow oneVariant firstIdentifier oneVariant.variants with
    status := .completed
    winner_variant_id := some winner
    concluded_at := some 5 }

/-- The tables with one experiment and no trial. -/
def tablesOf (row : ExperimentModel) : ExperimentTables where
  experiments := [row]
  trials := []
  experimentIdUnique := List.nodup_singleton _
  experimentNameUnique := List.nodup_singleton _
  trialIdUnique := List.nodup_nil

/-- **A completed experiment can be cancelled.** -/
theorem completed_experiment_is_cancelled :
    ¬ ∀ (start finish : ExperimentTables) (transitions : List RunnerTransition),
      runnerSystem.initial start → runnerSystem.Run start transitions finish →
        ∀ step ∈ transitions, KeepsEnded step := by
  intro always
  have executed : runnerSystem.execute (concludedTwice.take 3) ExperimentTables.empty =
      some (tablesOf (completedTone "formal")) := rfl
  obtain ⟨transitions, run, -⟩ := exists_run_of_execute executed
  have member : completedTone "formal" ∈ (tablesOf (completedTone "formal")).experiments :=
    List.mem_singleton.mpr rfl
  have cancelled := next_cancel member
  have keeps := always _ _ _ rfl (run.snoc cancelled) _
    (List.mem_append_right _ (List.mem_singleton.mpr rfl))
  exact (keepsEnded_iff cancelled).mp keeps ⟨_, member, rfl, rfl⟩

end LlmopsPlatform.Tuning
