import LlmopsPlatform.Tuning.StoredWinner

/-!
# The results of an experiment that has ended

Results are aggregated from the scored trials whenever they are read. Recording a trial
does not look at the experiment that it names, so a score can arrive after the end, and
then the results change.

Nothing else changes them. In the runs in which no score is recorded for an experiment
after its end, its results stay the same (`results_after_end`). The order in which the
database returns the trials decides about the parameters of a row and about the order of
rows with equal averages, and about nothing else.
-/

set_option autoImplicit false

namespace LlmopsPlatform.Tuning

open Foundations Foundations.TransitionSystem Python Database ExperimentRunner

/-- The result rows and the number of trials that `get_results` returns. -/
def readResults (tables : ExperimentTables) (experiment_id : Nat) (order : RowOrder) :
    Except PyException (List VariantResult × Nat) :=
  (getResults tables order experiment_id).map fun found => (found.results, found.total_trials)

/-- The step records a trial of the experiment with a score. -/
def RecordsScored (step : RunnerTransition) (experiment_id : Nat) : Prop :=
  ∃ trial, step.label = .recordTrial trial ∧ trial.experiment_id = experiment_id ∧
    trial.score.isSome ∧ ∃ result, step.label.outcome step.before = some (.ok result)

/-! ## Which trials are there -/

section Trials

variable {before after : ExperimentTables} {call : RunnerCall}
  {outcome : Except PyException RunnerResult}

/-- A call leaves the trials alone, or records one. -/
theorem RunnerEffect.trials (effect : RunnerEffect before call outcome after) :
    after.trials = before.trials ∨
      ∃ trial, call = .recordTrial trial ∧ outcome = .ok (.trial trial) ∧
        after.trials = before.trials ++ [trial] := by
  cases effect with
  | created config outside variants after chosen inserted =>
      exact .inl (ExperimentTables.insertExperiment_eq_ok inserted).2.2
  | recorded trial after inserted =>
      exact .inr ⟨trial, rfl, rfl, (ExperimentTables.insertTrial_eq_ok inserted).2.2⟩
  | _ => exact .inl rfl

theorem RunnerEffect.recordTrial_ok {trial : ExperimentTrialModel} {result : RunnerResult}
    (effect : RunnerEffect before (.recordTrial trial) (.ok result) after) :
    after.trials = before.trials ++ [trial] := by
  cases effect with
  | recorded trial after inserted => exact (ExperimentTables.insertTrial_eq_ok inserted).2.2

variable {step : RunnerTransition} {experiment_id : Nat}

/-- A step that records no score for an experiment leaves its scored trials. -/
theorem scoredTrials_of_quiet (taken : runnerSystem.next step.before step.label = some step.after)
    (quiet : ¬ RecordsScored step experiment_id) :
    step.after.scoredTrials experiment_id = step.before.scoredTrials experiment_id := by
  obtain ⟨outcome, isOutcome, effect⟩ := runnerNext_effect taken
  unfold ExperimentTables.scoredTrials
  rcases effect.trials with same | ⟨trial, isRecord, rfl, appended⟩
  · rw [same]
  · have notScored : ¬ (trial.experiment_id = experiment_id ∧ trial.score.isSome) :=
      fun ⟨names, scored⟩ => quiet ⟨trial, isRecord, names, scored, _, isOutcome⟩
    rw [appended, List.filter_append]
    simp [notScored]

/-- A step that records a score adds a trial. -/
theorem scoredTrials_of_recordsScored
    (taken : runnerSystem.next step.before step.label = some step.after)
    (records : RecordsScored step experiment_id) :
    (step.after.scoredTrials experiment_id).length =
      (step.before.scoredTrials experiment_id).length + 1 := by
  obtain ⟨trial, isRecord, rfl, scored, result, succeeded⟩ := records
  rw [isRecord] at taken succeeded
  have appended := (effect_of_outcome taken succeeded).recordTrial_ok
  simp [ExperimentTables.scoredTrials, appended, List.filter_append, scored]

end Trials

/-! ## What is read from them -/

/-- The columns of a result row that the scores determine. -/
def VariantResult.statistics (row : VariantResult) : String × Nat × ℚ × ℚ × ℚ :=
  (row.variant_id, row.sample_count, row.avg_score, row.min_score, row.max_score)

/-- The same columns, from the trials. -/
def statisticsOf (trials : List ExperimentTrialModel) (variant_id : String) :
    String × Nat × ℚ × ℚ × ℚ :=
  (variantResult .empty variant_id (scoresOf trials variant_id)).statistics

theorem statisticsOf_perm {first second : List ExperimentTrialModel} (perm : first.Perm second)
    (variant_id : String) : statisticsOf first variant_id = statisticsOf second variant_id := by
  have scores := scoresOf_perm perm variant_id
  have empty : scoresOf first variant_id = [] ↔ scoresOf second variant_id = [] := by
    rw [← List.length_eq_zero_iff, scores.length_eq, List.length_eq_zero_iff]
  simp only [statisticsOf, variantResult, VariantResult.statistics, scores.length_eq, mean,
    exactMean_perm scores, min?_eq_of_perm scores, max?_eq_of_perm scores, empty]

/-- There is one result row for each variant. -/
theorem variantResults_nodup (trials : List ExperimentTrialModel) :
    ((variantResults trials).map VariantResult.variant_id).Nodup := by
  refine ((sortDescending_perm _ _).map _).nodup_iff.mpr ?_
  rw [List.map_map]
  exact (trials.foldl groupTrial (.empty, .empty)).1.keysUnique

theorem mem_variant_ids {trials : List ExperimentTrialModel} {variant_id : String} :
    variant_id ∈ (variantResults trials).map VariantResult.variant_id ↔
      variant_id ∈ trials.map ExperimentTrialModel.variant_id := by
  constructor
  · intro member
    obtain ⟨row, rowMember, rfl⟩ := List.mem_map.mp member
    exact (mem_variantResults rowMember).1
  · intro present
    obtain ⟨row, rowMember, rfl⟩ := exists_mem_variantResults present
    exact List.mem_map_of_mem rowMember

/-- The statistics are those of the variants that have a trial. -/
theorem map_statistics (trials : List ExperimentTrialModel) :
    (variantResults trials).map VariantResult.statistics =
      ((variantResults trials).map VariantResult.variant_id).map (statisticsOf trials) := by
  rw [List.map_map]
  refine List.map_congr_left fun row member => ?_
  obtain ⟨variant_id, -, rfl⟩ := mem_variantResults_iff.mp member
  rfl

/-- **The order of the trials does not matter for the statistics.** -/
theorem statistics_perm {first second : List ExperimentTrialModel} (perm : first.Perm second) :
    ((variantResults first).map VariantResult.statistics).Perm
      ((variantResults second).map VariantResult.statistics) := by
  have variants : ((variantResults first).map VariantResult.variant_id).Perm
      ((variantResults second).map VariantResult.variant_id) := by
    refine (List.perm_ext_iff_of_nodup (variantResults_nodup _) (variantResults_nodup _)).mpr ?_
    intro variant_id
    rw [mem_variant_ids, mem_variant_ids, (perm.map _).mem_iff]
  rw [map_statistics, map_statistics, funext (statisticsOf_perm perm)]
  exact variants.map _

/-- What is read for an experiment that exists. -/
theorem readResults_of_mem {tables : ExperimentTables} {row : ExperimentModel}
    (member : row ∈ tables.experiments) (order : RowOrder) :
    readResults tables row.id order =
      .ok (variantResults (order.arrange (tables.scoredTrials row.id)),
        (tables.scoredTrials row.id).length) := by
  rw [readResults, getResults_of_found (getExperiment_of_mem member) order,
    (order.arrange_perm _).length_eq]
  rfl

/-! ## After the end -/

/-- The tables have the experiment. -/
def HasExperiment (experiment_id : Nat) (tables : ExperimentTables) : Prop :=
  ∃ row ∈ tables.experiments, row.id = experiment_id

theorem HasExperiment.after {step : RunnerTransition} {experiment_id : Nat}
    (taken : runnerSystem.next step.before step.label = some step.after)
    (has : HasExperiment experiment_id step.before) : HasExperiment experiment_id step.after := by
  obtain ⟨row, member, rfl⟩ := has
  obtain ⟨outcome, -, effect⟩ := runnerNext_effect taken
  obtain ⟨later, laterMember, rowStep⟩ := effect.row_after member
  exact ⟨later, laterMember, rowStep.id_eq⟩

/-- A step changes what is read for an experiment exactly when it records a score
for it. -/
theorem readResults_unchanged_iff {step : RunnerTransition} {experiment_id : Nat}
    (has : HasExperiment experiment_id step.before)
    (taken : runnerSystem.next step.before step.label = some step.after) :
    readResults step.after experiment_id = readResults step.before experiment_id ↔
      ¬ RecordsScored step experiment_id := by
  obtain ⟨row, member, rfl⟩ := id has
  obtain ⟨later, laterMember, sameId⟩ := has.after taken
  constructor
  · intro unchanged records
    have oneMore := scoredTrials_of_recordsScored taken records
    have read := congrFun unchanged .insertion
    rw [readResults_of_mem member, ← sameId, readResults_of_mem laterMember, sameId] at read
    have sameTotal := (Prod.mk.inj (Except.ok.inj read)).2
    omega
  · intro quiet
    funext order
    have sameTrials := scoredTrials_of_quiet taken quiet
    rw [readResults_of_mem member, ← sameId, readResults_of_mem laterMember, sameId, sameTrials]

/-- The step concludes an experiment that has scores, reads the trials in some order, and
detects the winner. -/
def DetectsWinner (step : RunnerTransition) (experiment_id : Nat) (order : RowOrder) : Prop :=
  (∃ now given, step.label = .conclude order now experiment_id given ∧
    given.filter (· ≠ "") = none) ∧
  (∃ result, step.label.outcome step.before = some (.ok result)) ∧
  step.before.scoredTrials experiment_id ≠ []

/-- The row of the variant comes first in the results. -/
def IsFirstResult (tables : ExperimentTables) (experiment_id : Nat) (order : RowOrder)
    (variant_id : String) : Prop :=
  ∃ best rest total, readResults tables experiment_id order = .ok (best :: rest, total) ∧
    best.variant_id = variant_id

/-- The experiment has ended with the winner. -/
def EndedWith (experiment_id : Nat) (winner : String) (tables : ExperimentTables) : Prop :=
  ∃ row ∈ tables.experiments, row.id = experiment_id ∧ row.status.isTerminal ∧
    row.winner_variant_id = some winner

section AfterEnd

variable {start finish : ExperimentTables} {transitions : List RunnerTransition}
  {experiment_id : Nat}

/-- An experiment keeps the winner with which it has ended. -/
theorem EndedWith.along {winner : String} (ended : EndedWith experiment_id winner start)
    (run : runnerSystem.Run start transitions finish) : EndedWith experiment_id winner finish := by
  refine (run.invariant (EndedWith experiment_id winner) ?_ ended fun _ _ => trivial).1
  rintro step ⟨row, member, rfl, isEnded, isWinner⟩ taken (_ : True)
  obtain ⟨outcome, -, effect⟩ := runnerNext_effect taken
  obtain ⟨later, laterMember, rowStep⟩ := effect.row_after member
  refine ⟨later, laterMember, rowStep.id_eq, rowStep.isTerminal isEnded, ?_⟩
  cases rowStep with
  | same => exact isWinner
  | started isCall draft => simp [draft, ExperimentStatus.isTerminal] at isEnded
  | concluded order now given winner isCall running stored =>
      simp [running, ExperimentStatus.isTerminal] at isEnded
  | cancelled isCall => exact isWinner

/-- Without new scores the scored trials stay. -/
theorem scoredTrials_along (run : runnerSystem.Run start transitions finish)
    (quiet : ∀ step ∈ transitions, ¬ RecordsScored step experiment_id) :
    finish.scoredTrials experiment_id = start.scoredTrials experiment_id := by
  have kept := run.invariant
    (fun tables => tables.scoredTrials experiment_id = start.scoredTrials experiment_id)
    (fun step same taken stepQuiet => (scoredTrials_of_quiet taken stepQuiet).trans same) rfl quiet
  exact kept.1

/-- What a conclusion that detects the winner leaves: the winner comes first in the
results, read in the same order. -/
theorem DetectsWinner.stores {step : RunnerTransition} {order : RowOrder}
    (detects : DetectsWinner step experiment_id order)
    (taken : runnerSystem.next step.before step.label = some step.after) :
    ∃ best rest, variantResults (order.arrange (step.after.scoredTrials experiment_id)) =
        best :: rest ∧
      EndedWith experiment_id best.variant_id step.after := by
  obtain ⟨⟨now, given, isConclude, notGiven⟩, ⟨result, succeeded⟩, scored⟩ := detects
  rw [isConclude] at taken succeeded
  obtain ⟨row, member, rfl, -, committed⟩ := (effect_of_outcome taken succeeded).conclude_ok
  rw [committed]
  cases split : variantResults (order.arrange (step.before.scoredTrials row.id)) with
  | nil => exact absurd split (variantResults_ne_nil scored)
  | cons best rest =>
      have stored : winnerToStore given (best :: rest) = some best.variant_id := by
        simp only [winnerToStore, notGiven]
      refine ⟨best, rest, split, _, List.mem_map_of_mem member,
        ExperimentTables.restate_id _ _, ?_, ?_⟩
      · simp [ExperimentTables.restate, concludedRow, ExperimentStatus.isTerminal]
      · simp [ExperimentTables.restate, concludedRow, stored]

/-- An ended experiment's winner, while no scores arrive. -/
theorem winner_first {order : RowOrder} {best : VariantResult} {rest : List VariantResult}
    (split : variantResults (order.arrange (finish.scoredTrials experiment_id)) = best :: rest)
    (ended : EndedWith experiment_id best.variant_id finish) :
    IsFirstResult finish experiment_id order best.variant_id ∧
      IsBestRounded finish experiment_id best.variant_id ∧
      ((∀ other ∈ scoredVariants finish experiment_id, other ≠ best.variant_id →
          variantAverage finish experiment_id other <
            variantAverage finish experiment_id best.variant_id) →
        ∀ other, IsFirstResult finish experiment_id other best.variant_id) := by
  obtain ⟨row, member, rfl, -, -⟩ := ended
  have isBest := first_result_isBestRounded split
  refine ⟨⟨best, rest, _, by rw [readResults_of_mem member, split], rfl⟩, isBest, ?_⟩
  intro unique other
  have scored : finish.scoredTrials row.id ≠ [] := by
    intro empty
    simpa [scoredVariants, empty] using isBest.1
  cases otherSplit : variantResults (other.arrange (finish.scoredTrials row.id)) with
  | nil => exact absurd otherSplit (variantResults_ne_nil scored)
  | cons otherBest otherRest =>
      exact ⟨otherBest, otherRest, _, by rw [readResults_of_mem member, otherSplit],
        isBest.eq_of_unique (first_result_isBestRounded otherSplit) unique⟩

/-- **The results of an experiment that has ended.** After any step of a run, and so after
the one that ends the experiment, its results stay the same at all later states exactly
when no score is recorded for it. Then the statistics of the
variants and the number of trials do not depend on the order in which the trials are
read either. A winner that the conclusion detected stays the winner; it has the best
average, and it comes first in the order of the conclusion, and in every order when no
other average equals it. -/
theorem results_after_end (start finish : ExperimentTables)
    (earlier later : List RunnerTransition) (ending : RunnerTransition)
    (run : runnerSystem.Run start (earlier ++ ending :: later) finish)
    (row : ExperimentModel) (member : row ∈ ending.after.experiments) :
    ((∀ step ∈ later, readResults step.after row.id = readResults ending.after row.id) ↔
      ∀ step ∈ later, ¬ RecordsScored step row.id) ∧
    ((∀ step ∈ later, ¬ RecordsScored step row.id) →
      (∀ order other, ∃ atFinish atEnd total,
        readResults finish row.id order = .ok (atFinish, total) ∧
        readResults ending.after row.id other = .ok (atEnd, total) ∧
        (atFinish.map VariantResult.statistics).Perm (atEnd.map VariantResult.statistics)) ∧
      ∀ order, DetectsWinner ending row.id order → ∃ winner,
        EndedWith row.id winner finish ∧
        IsFirstResult finish row.id order winner ∧
        IsBestRounded finish row.id winner ∧
        ((∀ other ∈ scoredVariants finish row.id, other ≠ winner →
            variantAverage finish row.id other < variantAverage finish row.id winner) →
          ∀ other, IsFirstResult finish row.id other winner)) := by
  obtain ⟨-, taken, after⟩ := run.split
  have has : HasExperiment row.id ending.after := ⟨row, member, rfl⟩
  constructor
  · rw [after.constant_iff (readResults · row.id)]
    exact Run.good_iff_guarded (HasExperiment row.id)
      (fun step hasBefore => readResults_unchanged_iff hasBefore)
      (fun step hasBefore isStep _ => hasBefore.after isStep) has after
  · intro quiet
    have sameTrials := scoredTrials_along after quiet
    refine ⟨fun order other => ?_, fun order detects => ?_⟩
    · obtain ⟨last, lastMember, sameId⟩ := (after.invariant (HasExperiment row.id)
        (fun step hasBefore isStep _ => hasBefore.after isStep) has quiet).1
      have readLast := readResults_of_mem lastMember order
      rw [sameId, sameTrials] at readLast
      exact ⟨_, _, _, readLast, readResults_of_mem member other, statistics_perm
        ((order.arrange_perm _).trans (other.arrange_perm _).symm)⟩
    · obtain ⟨best, rest, split, ended⟩ := detects.stores taken
      rw [← sameTrials] at split
      have stillEnded := ended.along after
      exact ⟨best.variant_id, stillEnded, winner_first split stillEnded⟩

end AfterEnd

/-- A trial of the only variant. -/
def formalTrial (id : Nat) (score : Option ℚ) : ExperimentTrialModel where
  id := id
  experiment_id := 1
  variant_id := "formal"
  trace_id := ""
  parameters := []
  input_text := ""
  output_text := ""
  score := score

/-- The conclusion of an experiment with one score, which detects its winner. -/
def detectsFormal : RunnerTransition where
  before :=
    { tablesOf { experimentRow oneVariant firstIdentifier oneVariant.variants with
        status := .running } with
      trials := [formalTrial 7 (some 1)]
      trialIdUnique := List.nodup_singleton _ }
  label := .conclude .insertion 5 1 none
  after :=
    { tablesOf (completedTone "formal") with
      trials := [formalTrial 7 (some 1)]
      trialIdUnique := List.nodup_singleton _ }

/-- A trial without a score is recorded after the conclusion. -/
def unscoredFormal : RunnerTransition where
  before := detectsFormal.after
  label := .recordTrial (formalTrial 8 none)
  after :=
    { tablesOf (completedTone "formal") with
      trials := [formalTrial 7 (some 1), formalTrial 8 none]
      trialIdUnique := by simp [UniqueKey, formalTrial] }

/-- The detected winner is still the first result. -/
theorem detected_winner_stays_first : ∃ winner,
    EndedWith 1 winner unscoredFormal.after ∧
      IsFirstResult unscoredFormal.after 1 .insertion winner := by
  have executed : runnerSystem.execute
      [.create oneVariant firstIdentifier, .start 1, .recordTrial (formalTrial 7 (some 1))]
      ExperimentTables.empty = some detectsFormal.before := rfl
  obtain ⟨earlier, run, -⟩ := exists_run_of_execute executed
  have concluded : runnerSystem.next detectsFormal.before detectsFormal.label =
      some detectsFormal.after := rfl
  have recorded : runnerSystem.next unscoredFormal.before unscoredFormal.label =
      some unscoredFormal.after := rfl
  have whole : runnerSystem.Run ExperimentTables.empty
      (earlier ++ detectsFormal :: [unscoredFormal]) unscoredFormal.after := by
    have twoSteps := (run.snoc concluded).snoc recorded
    rwa [List.append_assoc] at twoSteps
  have quiet : ∀ step ∈ [unscoredFormal], ¬ RecordsScored step 1 := by
    rintro step isStep ⟨trial, isRecord, -, scored, -⟩
    rw [List.mem_singleton.mp isStep] at isRecord
    obtain rfl : formalTrial 8 none = trial := RunnerCall.recordTrial.inj isRecord
    simp [formalTrial] at scored
  have detects : DetectsWinner detectsFormal 1 .insertion :=
    ⟨⟨5, none, rfl, rfl⟩, ⟨_, rfl⟩, List.cons_ne_nil _ _⟩
  obtain ⟨winner, ended, isFirst, -⟩ := ((results_after_end _ _ earlier _ _ whole
    (completedTone "formal") (List.mem_singleton.mpr rfl)).2 quiet).2 .insertion detects
  exact ⟨winner, ended, isFirst⟩

/-- **A late score changes the results.** -/
theorem late_score_changes_results :
    ¬ ∀ (start finish : ExperimentTables) (earlier later : List RunnerTransition)
        (ending : RunnerTransition), runnerSystem.initial start →
      runnerSystem.Run start (earlier ++ ending :: later) finish →
        ∀ row ∈ ending.after.experiments, row.status.isTerminal →
          ∀ step ∈ later, readResults step.after row.id = readResults ending.after row.id := by
  intro always
  have executed : runnerSystem.execute (concludedTwice.take 2) ExperimentTables.empty =
      some concludesFormal.before := rfl
  obtain ⟨earlier, run, -⟩ := exists_run_of_execute executed
  have concluded : runnerSystem.next concludesFormal.before concludesFormal.label =
      some concludesFormal.after := rfl
  have recorded : runnerSystem.next concludesFormal.after
      (.recordTrial (formalTrial 7 (some 1))) = some detectsFormal.after := rfl
  have member : completedTone "formal" ∈ concludesFormal.after.experiments :=
    List.mem_singleton.mpr rfl
  have unchanged := always _ _ earlier [⟨_, _, _⟩] concludesFormal rfl
    (by simpa using (run.snoc concluded).snoc recorded) _ member rfl _
    (List.mem_singleton.mpr rfl)
  exact (readResults_unchanged_iff ⟨_, member, rfl⟩ recorded).mp unchanged
    ⟨_, rfl, rfl, rfl, _, rfl⟩

end LlmopsPlatform.Tuning
