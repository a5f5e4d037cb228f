import LlmopsPlatform.Database.Query
import LlmopsPlatform.Python.Float

/-!
# Experiments, trials and the experiment runner

The tables `experiments` and `experiment_trials`, and the operations of
`ExperimentRunner` on them, one request after another. What several requests do to
one another when they overlap is the subject of the module on the concurrent
lifecycle.

Scores are finite floats. The average of a variant is their mean, rounded to four
decimals.

A query without `ORDER BY` returns its rows in an order the database chooses, which
may differ from one query to the next. The choice is an argument, `RowOrder`.
-/

set_option autoImplicit false

namespace LlmopsPlatform.Tuning

open Foundations Python Database

/-- The enumeration `ExperimentStatus`. -/
inductive ExperimentStatus where
  | draft
  | running
  | completed
  | cancelled
deriving DecidableEq, Repr

def ExperimentStatus.value : ExperimentStatus → String
  | draft => "draft"
  | running => "running"
  | completed => "completed"
  | cancelled => "cancelled"

/-- A dictionary of parameter values. -/
abbrev Parameters := List (String × Json)

/-- One variant of an experiment. -/
structure ParameterSet where
  variant_id : String
  values : Parameters

/-- A row of the table `experiments`. -/
structure ExperimentModel where
  id : Nat
  name : String
  description : String
  status : ExperimentStatus
  allocation_strategy : String
  parameter_space : Json
  variants : List ParameterSet
  scoring_pipeline_id : Option String
  traffic_percentage : ℚ
  winner_variant_id : Option String
  concluded_at : Option Timestamp
  created_at : Timestamp

/-- A row of the table `experiment_trials`. -/
structure ExperimentTrialModel where
  id : Nat
  experiment_id : Nat
  variant_id : String
  trace_id : String
  parameters : Parameters
  input_text : String
  output_text : String
  score : Option ℚ

/-- The two tables with their primary keys and the unique experiment name. -/
structure ExperimentTables where
  experiments : List ExperimentModel
  trials : List ExperimentTrialModel
  experimentIdUnique : UniqueKey ExperimentModel.id experiments
  experimentNameUnique : UniqueKey ExperimentModel.name experiments
  trialIdUnique : UniqueKey ExperimentTrialModel.id trials

/-- The order in which the database returns the rows of one query. -/
structure RowOrder where
  arrange : List ExperimentTrialModel → List ExperimentTrialModel
  arrange_perm : ∀ rows, (arrange rows).Perm rows

/-- The rows as they were inserted. -/
def RowOrder.insertion : RowOrder := ⟨id, fun rows => .refl rows⟩

/-- Aggregated result for a single variant. -/
structure VariantResult where
  variant_id : String
  parameters : Parameters
  sample_count : Nat
  avg_score : ℚ
  min_score : ℚ
  max_score : ℚ
  scores : List ℚ

/-- The dictionary returned by `get_results`. -/
structure ExperimentResults where
  experiment : ExperimentModel
  results : List VariantResult
  total_trials : Nat

namespace ExperimentTables

/-- The row with its status, winner and conclusion replaced, if it has the given id. -/
def restate (updated row : ExperimentModel) : ExperimentModel :=
  if row.id = updated.id then
    { row with
      status := updated.status
      winner_variant_id := updated.winner_variant_id
      concluded_at := updated.concluded_at }
  else row

@[simp] theorem restate_id (updated row : ExperimentModel) : (restate updated row).id = row.id := by
  unfold restate; split <;> rfl

@[simp] theorem restate_name (updated row : ExperimentModel) :
    (restate updated row).name = row.name := by
  unfold restate; split <;> rfl

/-- `UPDATE experiments SET … WHERE id = …`, for the columns that the runner changes. -/
def updateExperiment (tables : ExperimentTables) (updated : ExperimentModel) : ExperimentTables :=
  { tables with
    experiments := tables.experiments.map (restate updated)
    experimentIdUnique := tables.experimentIdUnique.map (restate_id updated)
    experimentNameUnique := tables.experimentNameUnique.map (restate_name updated) }

/-- `INSERT INTO experiment_trials`. -/
def insertTrial (tables : ExperimentTables) (row : ExperimentTrialModel) :
    Except PyException ExperimentTables :=
  if fresh : row.id ∉ tables.trials.map ExperimentTrialModel.id then
    .ok { tables with
      trials := tables.trials ++ [row]
      trialIdUnique := tables.trialIdUnique.append_fresh fresh }
  else
    .error integrityError

/-- The trials of an experiment that have a score. -/
def scoredTrials (tables : ExperimentTables) (experiment_id : Nat) : List ExperimentTrialModel :=
  tables.trials.filter fun trial => trial.experiment_id = experiment_id ∧ trial.score.isSome

end ExperimentTables

namespace ExperimentRunner

open ExperimentTables

/-- `_get_experiment`. -/
def getExperiment (tables : ExperimentTables) (experiment_id : Nat) :
    Except PyException ExperimentModel := do
  match ← scalarOneOrNone (tables.experiments.filter fun row => row.id = experiment_id) with
  | none => throw (.valueError ("Experiment '" ++ toString experiment_id ++ "' not found"))
  | some experiment => pure experiment

/-- Looking an experiment up by its identifier finds the one row that has it, or raises. -/
theorem getExperiment_cases (tables : ExperimentTables) (experiment_id : Nat) :
    (∃ row ∈ tables.experiments, row.id = experiment_id ∧
      getExperiment tables experiment_id = .ok row) ∨
    (∀ row ∈ tables.experiments, row.id ≠ experiment_id) ∧
      getExperiment tables experiment_id =
        .error (.valueError ("Experiment '" ++ toString experiment_id ++ "' not found")) := by
  unfold getExperiment
  rcases scalarOneOrNone_filter_key tables.experimentIdUnique experiment_id with
    ⟨row, member, identified, query⟩ | ⟨absent, query⟩
  · exact .inl ⟨row, member, identified, by rw [query]; rfl⟩
  · exact .inr ⟨absent, by rw [query]; rfl⟩

theorem getExperiment_of_mem {tables : ExperimentTables} {row : ExperimentModel}
    (member : row ∈ tables.experiments) : getExperiment tables row.id = .ok row := by
  rcases getExperiment_cases tables row.id with ⟨other, otherMember, same, found⟩ | ⟨absent, -⟩
  · obtain rfl := tables.experimentIdUnique.eq_of_key_eq otherMember member same
    exact found
  · exact absurd rfl (absent row member)

/-- `ExperimentRunner.start`. -/
def start (tables : ExperimentTables) (experiment_id : Nat) :
    Except PyException (ExperimentModel × ExperimentTables) := do
  let experiment ← getExperiment tables experiment_id
  if experiment.status ≠ .draft then
    throw (.valueError ("Cannot start experiment in '" ++ experiment.status.value ++ "' status"))
  let started := { experiment with status := .running }
  pure (started, tables.updateExperiment started)

/-- `ExperimentRunner.record_trial`. The source does not look at the experiment. -/
def recordTrial (tables : ExperimentTables) (trial : ExperimentTrialModel) :
    Except PyException (ExperimentTrialModel × ExperimentTables) := do
  let committed ← insertTrial tables trial
  pure (trial, committed)

/-! ## Results -/

/-- One round of the loop of `get_results` that groups the scores by variant. The
pair holds `variant_trials` and `variant_params`. -/
def groupTrial
    (groups : OrderedDict String (List ℚ) × OrderedDict String Parameters)
    (trial : ExperimentTrialModel) : OrderedDict String (List ℚ) × OrderedDict String Parameters :=
  let (variant_trials, variant_params) := groups
  (variant_trials.upsert trial.variant_id fun scores => scores.getD [] ++ trial.score.toList,
    -- The parameters of the first trial seen are kept.
    if (variant_trials.get? trial.variant_id).isNone then
      variant_params.set trial.variant_id trial.parameters
    else variant_params)

/-- The row of one variant. -/
def variantResult (variant_params : OrderedDict String Parameters) (variant_id : String)
    (scores : List ℚ) : VariantResult where
  variant_id := variant_id
  parameters := (variant_params.get? variant_id).getD []
  sample_count := scores.length
  avg_score := if scores = [] then 0 else roundFloat 4 (mean scores)
  min_score := scores.min?.getD 0
  max_score := scores.max?.getD 0
  scores := scores

/-- The rows of all variants, best average first. -/
def variantResults (trials : List ExperimentTrialModel) : List VariantResult :=
  let (variant_trials, variant_params) := trials.foldl groupTrial (.empty, .empty)
  sortDescending VariantResult.avg_score
    (variant_trials.entries.map fun (variant_id, scores) =>
      variantResult variant_params variant_id scores)

/-- `ExperimentRunner.get_results`. -/
def getResults (tables : ExperimentTables) (order : RowOrder) (experiment_id : Nat) :
    Except PyException ExperimentResults := do
  let experiment ← getExperiment tables experiment_id
  let trials := order.arrange (tables.scoredTrials experiment_id)
  pure { experiment, results := variantResults trials, total_trials := trials.length }

/-! ## Ending an experiment -/

/-- `ExperimentRunner.conclude`. -/
def conclude (tables : ExperimentTables) (order : RowOrder) (now : Timestamp)
    (experiment_id : Nat) (winner_variant_id : Option String) :
    Except PyException (ExperimentModel × ExperimentTables) := do
  let experiment ← getExperiment tables experiment_id
  if experiment.status ≠ .running then
    throw (.valueError
      ("Cannot conclude experiment in '" ++ experiment.status.value ++ "' status"))
  let winner ←
    match winner_variant_id.filter (· ≠ "") with
    | some given => pure (some given)
    | none => do
        let results ← getResults tables order experiment_id
        match results.results with
        | best :: _ => pure (some best.variant_id)
        | [] => pure winner_variant_id
  let concluded :=
    { experiment with
      status := .completed
      winner_variant_id := winner
      concluded_at := some now }
  pure (concluded, tables.updateExperiment concluded)

/-- `ExperimentRunner.cancel`. -/
def cancel (tables : ExperimentTables) (experiment_id : Nat) :
    Except PyException (ExperimentModel × ExperimentTables) := do
  let experiment ← getExperiment tables experiment_id
  let cancelled := { experiment with status := .cancelled }
  pure (cancelled, tables.updateExperiment cancelled)

/-- `ExperimentRunner.get`. -/
def get (tables : ExperimentTables) (experiment_id : Nat) : Except PyException ExperimentModel :=
  getExperiment tables experiment_id

end ExperimentRunner

end LlmopsPlatform.Tuning
