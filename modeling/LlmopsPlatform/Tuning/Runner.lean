import LlmopsPlatform.Foundations.Effectful
import LlmopsPlatform.Foundations.TransitionSystem
import LlmopsPlatform.Tuning.Allocation
import LlmopsPlatform.Tuning.ParameterSpace

/-!
# Requests to the experiment runner, one after another

A request works in a database session of its own. It reads rows, collects the writes
that it wants to make, and commits them. A commit that the database refuses is rolled
back. After a commit the written row is read again.

Written out in the order of their statements, the operations do the same as the
functions on tables (`run_start` and the lemmas after it). What a request can do to the
tables, and what it returns, is listed once (`RunnerEffect`): a request that raises
leaves the tables alone, and each of the writing requests writes one row
(`runnerNext_effect`).
-/

set_option autoImplicit false

namespace LlmopsPlatform.Tuning

open Foundations Python Database

/-! ## Creating an experiment -/

/-- The enumeration `AllocationStrategy`. -/
inductive AllocationStrategy where
  | ab_test
  | grid
  | random
deriving DecidableEq, Repr

def AllocationStrategy.value : AllocationStrategy → String
  | ab_test => "ab_test"
  | grid => "grid"
  | random => "random"

/-- Configuration for creating an experiment. The percentage is in its range. -/
structure ExperimentConfig where
  name : String
  description : String
  parameter_space : ParameterSpace
  scoring_pipeline_id : Option String
  allocation_strategy : AllocationStrategy
  traffic_percentage : ℚ
  variants : List ParameterSet
  traffic_nonneg : 0 ≤ traffic_percentage
  traffic_le : traffic_percentage ≤ 100

/-- What `create` takes from outside: the new identifier, the clock, the prefixes of new
UUIDs and random numbers. The loops that expand continuous ranges are run for a number of
rounds. -/
structure Surroundings where
  id : Nat
  now : Timestamp
  newPrefix : Nat → String
  draw : Nat → Nat → Draw
  rounds : Nat

/-- The variants of a new experiment: the given ones, or generated ones, for any rounding of
the arithmetic. -/
def variantsOfNew (float : ℚ → ℚ) (config : ExperimentConfig) (outside : Surroundings) :
    Option (List ParameterSet) :=
  if config.variants = [] then
    if config.allocation_strategy = .grid then
      generateGridVariants float outside.rounds outside.newPrefix config.parameter_space
    else
      some (generateRandomVariants float outside.newPrefix outside.draw config.parameter_space 4)
  else some config.variants

/-- The variants that `create` stores, generated with floats. -/
def chosenVariants (config : ExperimentConfig) (outside : Surroundings) :
    Option (List ParameterSet) := variantsOfNew toFloat config outside

/-- The row of a new experiment. -/
def experimentRow (config : ExperimentConfig) (outside : Surroundings)
    (variants : List ParameterSet) : ExperimentModel where
  id := outside.id
  name := config.name
  description := config.description
  status := .draft
  allocation_strategy := config.allocation_strategy.value
  parameter_space := config.parameter_space.modelDump
  variants := variants
  scoring_pipeline_id := config.scoring_pipeline_id
  traffic_percentage := config.traffic_percentage
  winner_variant_id := none
  concluded_at := none
  created_at := outside.now

/-- `INSERT INTO experiments`. -/
def ExperimentTables.insertExperiment (tables : ExperimentTables) (row : ExperimentModel) :
    Except PyException ExperimentTables :=
  if fresh : row.id ∉ tables.experiments.map ExperimentModel.id ∧
      row.name ∉ tables.experiments.map ExperimentModel.name then
    .ok { tables with
      experiments := tables.experiments ++ [row]
      experimentIdUnique := tables.experimentIdUnique.append_fresh fresh.1
      experimentNameUnique := tables.experimentNameUnique.append_fresh fresh.2 }
  else
    .error integrityError

/-- `ExperimentRunner.create`, once the variants are chosen. -/
def ExperimentRunner.create (tables : ExperimentTables) (row : ExperimentModel) :
    Except PyException (ExperimentModel × ExperimentTables) := do
  let committed ← tables.insertExperiment row
  pure (row, committed)

/-! ## Sessions -/

/-- A write that waits for the commit. -/
inductive PendingWrite where
  | insertExperiment (row : ExperimentModel)
  | updateExperiment (row : ExperimentModel)
  | insertTrial (row : ExperimentTrialModel)

/-- Execute a write. -/
def PendingWrite.flush (tables : ExperimentTables) :
    PendingWrite → Except PyException ExperimentTables
  | insertExperiment row => tables.insertExperiment row
  | updateExperiment row => .ok (tables.updateExperiment row)
  | insertTrial row => tables.insertTrial row

/-- The committed tables and the writes that a session has collected. -/
structure Session where
  committed : ExperimentTables
  pending : List PendingWrite

/-- A session in which nothing was written yet. -/
def Session.opened (tables : ExperimentTables) : Session := ⟨tables, []⟩

namespace Session

variable {Result : Type}

/-- Read the committed rows. No request reads while writes are pending. -/
def query (read : ExperimentTables → Except PyException Result) :
    Effectful Session PyException Result :=
  ⟨fun session => (read session.committed, session)⟩

/-- `session.add(row)`, or an assignment to an attribute of a row. -/
def add (write : PendingWrite) : Effectful Session PyException Unit :=
  .modify fun session => { session with pending := session.pending ++ [write] }

/-- `session.commit()`. A write that the database refuses undoes the others. -/
def commit : Effectful Session PyException Unit :=
  ⟨fun session =>
    match session.pending.foldlM PendingWrite.flush session.committed with
    | .ok committed => (.ok (), .opened committed)
    | .error failure => (.error failure, .opened session.committed)⟩

/-- `session.refresh(row)`. -/
def refresh {Row : Type} (rows : ExperimentTables → List Row) (key : Row → Nat) (id : Nat) :
    Effectful Session PyException Row :=
  query fun tables =>
    match scalarOneOrNone ((rows tables).filter fun row => key row = id) with
    | .ok (some row) => .ok row
    | _ => .error (.exception "InvalidRequestError")

/-! ## The operations, statement by statement -/

/-- Write one row, commit, and read it again. -/
def store {Row : Type} (write : PendingWrite) (rows : ExperimentTables → List Row)
    (key : Row → Nat) (id : Nat) : Effectful Session PyException Row := do
  add write
  commit
  refresh rows key id

def create (row : ExperimentModel) : Effectful Session PyException ExperimentModel :=
  store (.insertExperiment row) ExperimentTables.experiments ExperimentModel.id row.id

def start (experiment_id : Nat) : Effectful Session PyException ExperimentModel := do
  let experiment ← query fun tables => ExperimentRunner.getExperiment tables experiment_id
  if experiment.status ≠ .draft then
    .raise (.valueError ("Cannot start experiment in '" ++ experiment.status.value ++ "' status"))
  else
    store (.updateExperiment { experiment with status := .running })
      ExperimentTables.experiments ExperimentModel.id experiment.id

def allocateVariant (experiment_id : Nat) (key : String) :
    Effectful Session PyException (Option ParameterSet) :=
  query fun tables => ExperimentRunner.allocateVariant tables experiment_id key

def recordTrial (trial : ExperimentTrialModel) :
    Effectful Session PyException ExperimentTrialModel :=
  store (.insertTrial trial) ExperimentTables.trials ExperimentTrialModel.id trial.id

def getResults (order : RowOrder) (experiment_id : Nat) :
    Effectful Session PyException ExperimentResults :=
  query fun tables => ExperimentRunner.getResults tables order experiment_id

def conclude (order : RowOrder) (now : Timestamp) (experiment_id : Nat)
    (winner_variant_id : Option String) : Effectful Session PyException ExperimentModel := do
  let experiment ← query fun tables => ExperimentRunner.getExperiment tables experiment_id
  if experiment.status ≠ .running then
    .raise (.valueError
      ("Cannot conclude experiment in '" ++ experiment.status.value ++ "' status"))
  else
    let winner ←
      match winner_variant_id.filter (· ≠ "") with
      | some given => pure (some given)
      | none => do
          let results ← getResults order experiment_id
          match results.results with
          | best :: _ => pure (some best.variant_id)
          | [] => pure winner_variant_id
    store
      (.updateExperiment { experiment with
        status := .completed
        winner_variant_id := winner
        concluded_at := some now })
      ExperimentTables.experiments ExperimentModel.id experiment.id

def cancel (experiment_id : Nat) : Effectful Session PyException ExperimentModel := do
  let experiment ← query fun tables => ExperimentRunner.getExperiment tables experiment_id
  store (.updateExperiment { experiment with status := .cancelled })
    ExperimentTables.experiments ExperimentModel.id experiment.id

def get (experiment_id : Nat) : Effectful Session PyException ExperimentModel :=
  query fun tables => ExperimentRunner.get tables experiment_id

end Session

/-! ## Runs -/

/-- A call of an operation, with its arguments. -/
inductive RunnerCall where
  | create (config : ExperimentConfig) (outside : Surroundings)
  | start (experiment_id : Nat)
  | allocateVariant (experiment_id : Nat) (key : String)
  | recordTrial (trial : ExperimentTrialModel)
  | getResults (order : RowOrder) (experiment_id : Nat)
  | conclude (order : RowOrder) (now : Timestamp) (experiment_id : Nat)
      (winner_variant_id : Option String)
  | cancel (experiment_id : Nat)
  | get (experiment_id : Nat)

/-- What a call returns. -/
inductive RunnerResult where
  | experiment (row : ExperimentModel)
  | variant (allocated : Option ParameterSet)
  | trial (row : ExperimentTrialModel)
  | results (found : ExperimentResults)

/-- The statements of a call. A creation whose loops are not finished has none. -/
def RunnerCall.program : RunnerCall → Option (Effectful Session PyException RunnerResult)
  | create config outside =>
      (chosenVariants config outside).map fun variants => do
        return .experiment (← Session.create (experimentRow config outside variants))
  | start experiment_id => some do return .experiment (← Session.start experiment_id)
  | allocateVariant experiment_id key =>
      some do return .variant (← Session.allocateVariant experiment_id key)
  | recordTrial trial => some do return .trial (← Session.recordTrial trial)
  | getResults order experiment_id =>
      some do return .results (← Session.getResults order experiment_id)
  | conclude order now experiment_id winner_variant_id =>
      some do
        return .experiment (← Session.conclude order now experiment_id winner_variant_id)
  | cancel experiment_id => some do return .experiment (← Session.cancel experiment_id)
  | get experiment_id => some do return .experiment (← Session.get experiment_id)

/-- What a call on some tables returns or raises. -/
def RunnerCall.outcome (call : RunnerCall) (tables : ExperimentTables) :
    Option (Except PyException RunnerResult) :=
  call.program.map fun program => (program.run (.opened tables)).1

/-- The tables of a new installation. -/
def ExperimentTables.empty : ExperimentTables where
  experiments := []
  trials := []
  experimentIdUnique := List.nodup_nil
  experimentNameUnique := List.nodup_nil
  trialIdUnique := List.nodup_nil

/-- The operations one after another, on the committed tables. -/
def runnerSystem : TransitionSystem ExperimentTables RunnerCall where
  initial := fun tables => tables = ExperimentTables.empty
  next := fun tables call =>
    call.program.map fun program => (program.run (.opened tables)).2.committed

/-! ## What the statements do -/

/-- The winner that a conclusion stores: the given one, or the variant of the first
result row, if there is one. -/
def winnerToStore (given : Option String) (results : List VariantResult) : Option String :=
  match given.filter (· ≠ "") with
  | some winner => some winner
  | none =>
      match results with
      | best :: _ => some best.variant_id
      | [] => given

/-- The row of an experiment after its conclusion. -/
def concludedRow (row : ExperimentModel) (winner : Option String) (now : Timestamp) :
    ExperimentModel :=
  { row with
    status := .completed
    winner_variant_id := winner
    concluded_at := some now }

namespace ExperimentTables

variable {tables after : ExperimentTables}

/-- What `INSERT INTO experiments` has done when the database accepted it. -/
theorem insertExperiment_eq_ok {row : ExperimentModel}
    (inserted : tables.insertExperiment row = .ok after) :
    row.id ∉ tables.experiments.map ExperimentModel.id ∧
      after.experiments = tables.experiments ++ [row] ∧ after.trials = tables.trials := by
  unfold insertExperiment at inserted
  split at inserted
  · rename_i fresh
    cases inserted
    exact ⟨fresh.1, rfl, rfl⟩
  · cases inserted

/-- What `INSERT INTO experiment_trials` has done when the database accepted it. -/
theorem insertTrial_eq_ok {row : ExperimentTrialModel}
    (inserted : tables.insertTrial row = .ok after) :
    row.id ∉ tables.trials.map ExperimentTrialModel.id ∧
      after.experiments = tables.experiments ∧ after.trials = tables.trials ++ [row] := by
  unfold insertTrial at inserted
  split at inserted
  · rename_i fresh
    cases inserted
    exact ⟨fresh, rfl, rfl⟩
  · cases inserted

end ExperimentTables

/-- What `get_results` returns for an experiment that exists. -/
theorem ExperimentRunner.getResults_of_found {tables : ExperimentTables} {row : ExperimentModel}
    {experiment_id : Nat}
    (found : ExperimentRunner.getExperiment tables experiment_id = .ok row) (order : RowOrder) :
    ExperimentRunner.getResults tables order experiment_id = .ok
      { experiment := row
        results :=
          ExperimentRunner.variantResults (order.arrange (tables.scoredTrials experiment_id))
        total_trials := (order.arrange (tables.scoredTrials experiment_id)).length } := by
  rw [ExperimentRunner.getResults, found]
  rfl

/-- What the conclusion of a running experiment stores. -/
theorem ExperimentRunner.conclude_of_running {tables : ExperimentTables} {row : ExperimentModel}
    {experiment_id : Nat}
    (found : ExperimentRunner.getExperiment tables experiment_id = .ok row)
    (running : row.status = .running) (order : RowOrder) (now : Timestamp)
    (given : Option String) :
    ExperimentRunner.conclude tables order now experiment_id given =
      .ok (concludedRow row (winnerToStore given (ExperimentRunner.variantResults
          (order.arrange (tables.scoredTrials experiment_id)))) now,
        tables.updateExperiment (concludedRow row (winnerToStore given
          (ExperimentRunner.variantResults
            (order.arrange (tables.scoredTrials experiment_id)))) now)) := by
  simp only [ExperimentRunner.conclude, ExperimentRunner.getResults, found, running, winnerToStore,
    concludedRow, bind, Except.bind, pure, Except.pure]
  generalize ExperimentRunner.variantResults _ = results
  cases given.filter (· ≠ "") with
  | some winner => rfl
  | none => cases results <;> rfl

namespace Session

variable {tables : ExperimentTables}

@[simp] theorem run_query {Result : Type} (read : ExperimentTables → Except PyException Result)
    (session : Session) : (query read).run session = (read session.committed, session) := rfl

/-- How a request ends that a function on tables describes: with its result and the
committed tables, or with its exception and the tables as they were. -/
def ended {Result : Type} (tables : ExperimentTables) :
    Except PyException (Result × ExperimentTables) → Except PyException Result × Session
  | .ok (result, committed) => (.ok result, .opened committed)
  | .error failure => (.error failure, .opened tables)

/-- One write is committed or rolled back. -/
theorem run_add_commit (tables : ExperimentTables) (write : PendingWrite) :
    (add write >>= fun _ => commit).run (.opened tables) =
      ended tables ((write.flush tables).map fun committed => ((), committed)) := by
  have single : [write].foldlM PendingWrite.flush tables = write.flush tables := by simp
  simp only [add, Effectful.run_modify_bind, commit, opened, List.nil_append, single]
  cases write.flush tables <;> rfl

/-- Storing a row that is found again after the write. -/
theorem run_store {Row : Type} (write : PendingWrite) (rows : ExperimentTables → List Row)
    (key : Row → Nat) (row : Row)
    (written : ∀ committed, write.flush tables = .ok committed →
      row ∈ rows committed ∧ UniqueKey key (rows committed)) :
    (store write rows key (key row)).run (.opened tables) =
      ended tables ((write.flush tables).map fun committed => (row, committed)) := by
  have first := run_add_commit tables write
  have sequence : store write rows key (key row) =
      (add write >>= fun _ => commit) >>= fun _ => refresh rows key (key row) := rfl
  cases flushed : write.flush tables with
  | error failure =>
      rw [flushed] at first
      rw [sequence, Effectful.run_bind_of_error _ first]
      rfl
  | ok committed =>
      obtain ⟨member, unique⟩ := written committed flushed
      rw [flushed] at first
      rw [sequence, Effectful.run_bind_of_ok _ first]
      simp [refresh, opened, unique.filter_eq_singleton member, scalarOneOrNone, ended, Except.map]

/-- A request that reads first goes on with what it read. -/
theorem run_query_bind {Result Next : Type} (read : ExperimentTables → Except PyException Result)
    (rest : Result → Effectful Session PyException Next) :
    (query read >>= rest).run (.opened tables) =
      match read tables with
      | .ok result => (rest result).run (.opened tables)
      | .error failure => (.error failure, .opened tables) := by
  rw [Effectful.run_bind, run_query]
  simp only [opened]
  cases read tables <;> rfl

/-- Storing new values of a row that is in the table. -/
theorem run_store_experiment {row : ExperimentModel} (updated : ExperimentModel)
    (member : row ∈ tables.experiments)
    (restated : ExperimentTables.restate updated row = updated) :
    (store (.updateExperiment updated) ExperimentTables.experiments ExperimentModel.id
        updated.id).run (.opened tables) =
      (.ok updated, .opened (tables.updateExperiment updated)) := by
  refine run_store (.updateExperiment updated) _ _ updated fun committed flushed => ?_
  obtain rfl : tables.updateExperiment updated = committed := Except.ok.inj flushed
  exact ⟨List.mem_map.mpr ⟨row, member, restated⟩, ExperimentTables.experimentIdUnique _⟩

theorem run_create (row : ExperimentModel) :
    (create row).run (.opened tables) = ended tables (ExperimentRunner.create tables row) := by
  refine (run_store _ _ _ row fun committed flushed => ?_).trans ?_
  · obtain ⟨-, experiments, -⟩ := ExperimentTables.insertExperiment_eq_ok flushed
    exact ⟨by simp [experiments], committed.experimentIdUnique⟩
  · simp only [PendingWrite.flush, ExperimentRunner.create]
    cases tables.insertExperiment row <;> rfl

theorem run_recordTrial (trial : ExperimentTrialModel) :
    (recordTrial trial).run (.opened tables) =
      ended tables (ExperimentRunner.recordTrial tables trial) := by
  refine (run_store _ _ _ trial fun committed flushed => ?_).trans ?_
  · obtain ⟨-, -, trials⟩ := ExperimentTables.insertTrial_eq_ok flushed
    exact ⟨by simp [trials], committed.trialIdUnique⟩
  · simp only [PendingWrite.flush, ExperimentRunner.recordTrial]
    cases tables.insertTrial trial <;> rfl

theorem run_start (experiment_id : Nat) :
    (start experiment_id).run (.opened tables) =
      ended tables (ExperimentRunner.start tables experiment_id) := by
  rw [start, run_query_bind, ExperimentRunner.start]
  rcases ExperimentRunner.getExperiment_cases tables experiment_id with
    ⟨row, member, -, found⟩ | ⟨-, missing⟩
  · rw [found]
    by_cases draft : row.status = .draft
    · have stored := run_store_experiment { row with status := .running } member
        (by simp [ExperimentTables.restate])
      simpa [draft, ended, bind, Except.bind, pure, Except.pure] using stored
    · simp [draft, ended, bind, Except.bind, throw, throwThe, MonadExceptOf.throw]
  · rw [missing]
    rfl

theorem run_cancel (experiment_id : Nat) :
    (cancel experiment_id).run (.opened tables) =
      ended tables (ExperimentRunner.cancel tables experiment_id) := by
  rw [cancel, run_query_bind, ExperimentRunner.cancel]
  rcases ExperimentRunner.getExperiment_cases tables experiment_id with
    ⟨row, member, -, found⟩ | ⟨-, missing⟩
  · rw [found]
    exact run_store_experiment _ member (by simp [ExperimentTables.restate])
  · rw [missing]
    rfl

theorem run_conclude (order : RowOrder) (now : Timestamp) (experiment_id : Nat)
    (winner_variant_id : Option String) :
    (conclude order now experiment_id winner_variant_id).run (.opened tables) =
      ended tables
        (ExperimentRunner.conclude tables order now experiment_id winner_variant_id) := by
  rw [conclude, run_query_bind]
  rcases ExperimentRunner.getExperiment_cases tables experiment_id with
    ⟨row, member, -, found⟩ | ⟨-, missing⟩
  · rw [found]
    have stored (winner : Option String) :=
      run_store_experiment (concludedRow row winner now) member
        (by simp [ExperimentTables.restate, concludedRow])
    by_cases running : row.status = .running
    · have concluded := ExperimentRunner.conclude_of_running found running order now
        winner_variant_id
      rw [concluded]
      simp only [running, winnerToStore, ended]
      cases given : winner_variant_id.filter (· ≠ "") with
      | some winner => exact stored (some winner)
      | none =>
          dsimp only
          rw [if_neg (by simp), getResults, run_query_bind,
            ExperimentRunner.getResults_of_found found]
          generalize ExperimentRunner.variantResults _ = results at stored
          cases results with
          | nil => exact stored winner_variant_id
          | cons best rest => exact stored (some best.variant_id)
    · simp [ExperimentRunner.conclude, found, running, ended, bind, Except.bind, throw, throwThe,
        MonadExceptOf.throw]
  · rw [missing, ExperimentRunner.conclude, missing]
    rfl

end Session

/-! ## What a call can do -/

/-- What a call on some tables returns or raises, and the tables after it. -/
inductive RunnerEffect (before : ExperimentTables) :
    RunnerCall → Except PyException RunnerResult → ExperimentTables → Prop where
  | raised (call : RunnerCall) (failure : PyException) :
      RunnerEffect before call (.error failure) before
  | created (config : ExperimentConfig) (outside : Surroundings) (variants : List ParameterSet)
      (after : ExperimentTables) (chosen : chosenVariants config outside = some variants)
      (inserted : before.insertExperiment (experimentRow config outside variants) = .ok after) :
      RunnerEffect before (.create config outside)
        (.ok (.experiment (experimentRow config outside variants))) after
  | started (row : ExperimentModel) (member : row ∈ before.experiments)
      (draft : row.status = .draft) :
      RunnerEffect before (.start row.id) (.ok (.experiment { row with status := .running }))
        (before.updateExperiment { row with status := .running })
  | allocated (row : ExperimentModel) (key : String) (allocated : Option ParameterSet)
      (member : row ∈ before.experiments)
      (result : ExperimentRunner.allocateVariant before row.id key = .ok allocated) :
      RunnerEffect before (.allocateVariant row.id key) (.ok (.variant allocated)) before
  | recorded (trial : ExperimentTrialModel) (after : ExperimentTables)
      (inserted : before.insertTrial trial = .ok after) :
      RunnerEffect before (.recordTrial trial) (.ok (.trial trial)) after
  | aggregated (order : RowOrder) (row : ExperimentModel) (found : ExperimentResults)
      (member : row ∈ before.experiments)
      (results : ExperimentRunner.getResults before order row.id = .ok found) :
      RunnerEffect before (.getResults order row.id) (.ok (.results found)) before
  | concluded (order : RowOrder) (now : Timestamp) (row : ExperimentModel)
      (given winner : Option String) (member : row ∈ before.experiments)
      (running : row.status = .running)
      (stored : winner = winnerToStore given
        (ExperimentRunner.variantResults (order.arrange (before.scoredTrials row.id)))) :
      RunnerEffect before (.conclude order now row.id given)
        (.ok (.experiment (concludedRow row winner now)))
        (before.updateExperiment (concludedRow row winner now))
  | cancelled (row : ExperimentModel) (member : row ∈ before.experiments) :
      RunnerEffect before (.cancel row.id) (.ok (.experiment { row with status := .cancelled }))
        (before.updateExperiment { row with status := .cancelled })
  | read (row : ExperimentModel) (member : row ∈ before.experiments) :
      RunnerEffect before (.get row.id) (.ok (.experiment row)) before

section Effects

variable {before after : ExperimentTables} {call : RunnerCall}

/-- The effect of a call whose statements do what a function on tables does. -/
theorem RunnerEffect.of_described {Result : Type} {program : Effectful Session PyException Result}
    {wrap : Result → RunnerResult}
    (statements : call.program = some (program >>= fun result => pure (wrap result)))
    (described : Except PyException (Result × ExperimentTables))
    (run : program.run (.opened before) = Session.ended before described)
    (effect : ∀ result after, described = .ok (result, after) →
      RunnerEffect before call (.ok (wrap result)) after)
    (step : runnerSystem.next before call = some after) :
    ∃ outcome, call.outcome before = some outcome ∧ RunnerEffect before call outcome after := by
  have ran : (program >>= fun result => pure (wrap result)).run (.opened before) =
      Session.ended before (described.map fun (result, after) => (wrap result, after)) := by
    rw [Effectful.run_bind, run]
    cases described <;> rfl
  simp only [runnerSystem, statements, Option.map_some, ran, Option.some.injEq] at step
  refine ⟨_, by rw [RunnerCall.outcome, statements, Option.map_some, ran], ?_⟩
  cases described with
  | error failure =>
      obtain rfl : before = after := step
      exact .raised call failure
  | ok pair =>
      obtain ⟨result, committed⟩ := pair
      obtain rfl : committed = after := step
      exact effect result committed rfl

/-- A call that only reads. -/
theorem RunnerEffect.of_query {Result : Type} {wrap : Result → RunnerResult}
    (read : ExperimentTables → Except PyException Result)
    (statements : call.program = some (Session.query read >>= fun result => pure (wrap result)))
    (effect : ∀ result, read before = .ok result →
      RunnerEffect before call (.ok (wrap result)) before)
    (step : runnerSystem.next before call = some after) :
    ∃ outcome, call.outcome before = some outcome ∧ RunnerEffect before call outcome after := by
  refine RunnerEffect.of_described statements ((read before).map fun result => (result, before))
    ?_ ?_ step
  · rw [Session.run_query]
    cases found : read before <;> simp [Session.opened, found, Session.ended, Except.map]
  · intro result committed same
    cases found : read before with
    | error failure => simp [found, Except.map] at same
    | ok value =>
        simp only [found, Except.map, Except.ok.injEq, Prod.mk.injEq] at same
        obtain ⟨rfl, rfl⟩ := same
        exact effect value found

/-- An operation on an experiment that exists, or an exception. -/
theorem exists_row_of_bind_ok {Result : Type} {experiment_id : Nat}
    {rest : ExperimentModel → Except PyException Result} {result : Result}
    (isOk : (ExperimentRunner.getExperiment before experiment_id).bind rest = .ok result) :
    ∃ row ∈ before.experiments, row.id = experiment_id ∧
      ExperimentRunner.getExperiment before experiment_id = .ok row ∧ rest row = .ok result := by
  rcases ExperimentRunner.getExperiment_cases before experiment_id with
    ⟨row, member, identified, found⟩ | ⟨-, missing⟩
  · rw [found] at isOk
    exact ⟨row, member, identified, found, isOk⟩
  · rw [missing] at isOk
    cases isOk

/-- **Every step has one of these effects.** -/
theorem runnerNext_effect (step : runnerSystem.next before call = some after) :
    ∃ outcome, call.outcome before = some outcome ∧ RunnerEffect before call outcome after := by
  cases call with
  | create config outside =>
      cases chosen : chosenVariants config outside with
      | none => simp [runnerSystem, RunnerCall.program, chosen] at step
      | some variants =>
          refine RunnerEffect.of_described (by rw [RunnerCall.program, chosen]; rfl) _
            (Session.run_create _) ?_ step
          intro result committed created
          cases inserted : before.insertExperiment (experimentRow config outside variants) with
          | error failure =>
              simp [ExperimentRunner.create, inserted, bind, Except.bind] at created
          | ok tables =>
              simp only [ExperimentRunner.create, inserted, bind, Except.bind, pure, Except.pure,
                Except.ok.injEq, Prod.mk.injEq] at created
              obtain ⟨rfl, rfl⟩ := created
              exact .created config outside variants tables chosen inserted
  | start experiment_id =>
      refine RunnerEffect.of_described rfl _ (Session.run_start _) ?_ step
      intro result committed started
      obtain ⟨row, member, rfl, -, isOk⟩ := exists_row_of_bind_ok started
      by_cases draft : row.status = .draft
      · simp only [draft, ne_eq, not_true_eq_false, if_false] at isOk
        obtain ⟨rfl, rfl⟩ := Prod.mk.inj (Except.ok.inj isOk)
        exact .started row member draft
      · simp [draft, throw, throwThe, MonadExceptOf.throw] at isOk
  | allocateVariant experiment_id key =>
      refine RunnerEffect.of_query _ rfl ?_ step
      intro result read
      obtain ⟨row, member, rfl, -, -⟩ := exists_row_of_bind_ok read
      exact .allocated row key result member read
  | recordTrial trial =>
      refine RunnerEffect.of_described rfl _ (Session.run_recordTrial _) ?_ step
      intro result committed recorded
      cases inserted : before.insertTrial trial with
      | error failure =>
          simp [ExperimentRunner.recordTrial, inserted, bind, Except.bind] at recorded
      | ok tables =>
          simp only [ExperimentRunner.recordTrial, inserted, bind, Except.bind, pure, Except.pure,
            Except.ok.injEq, Prod.mk.injEq] at recorded
          obtain ⟨rfl, rfl⟩ := recorded
          exact .recorded trial tables inserted
  | getResults order experiment_id =>
      refine RunnerEffect.of_query _ rfl ?_ step
      intro result read
      obtain ⟨row, member, rfl, -, -⟩ := exists_row_of_bind_ok read
      exact .aggregated order row result member read
  | conclude order now experiment_id given =>
      refine RunnerEffect.of_described rfl _ (Session.run_conclude _ _ _ _) ?_ step
      intro result committed concluded
      obtain ⟨row, member, rfl, found, isOk⟩ := exists_row_of_bind_ok concluded
      by_cases running : row.status = .running
      · rw [ExperimentRunner.conclude_of_running found running] at concluded
        obtain ⟨rfl, rfl⟩ := Prod.mk.inj (Except.ok.inj concluded)
        exact .concluded order now row given _ member running rfl
      · simp [running, throw, throwThe, MonadExceptOf.throw, bind, Except.bind] at isOk
  | cancel experiment_id =>
      refine RunnerEffect.of_described rfl _ (Session.run_cancel _) ?_ step
      intro result committed cancelled
      obtain ⟨row, member, rfl, -, isOk⟩ := exists_row_of_bind_ok cancelled
      obtain ⟨rfl, rfl⟩ := Prod.mk.inj (Except.ok.inj isOk)
      exact .cancelled row member
  | get experiment_id =>
      refine RunnerEffect.of_query _ rfl ?_ step
      intro result read
      rcases ExperimentRunner.getExperiment_cases before experiment_id with
        ⟨row, member, rfl, found⟩ | ⟨-, missing⟩
      · obtain rfl : row = result := Except.ok.inj (found.symm.trans read)
        exact .read row member
      · cases missing.symm.trans read

/-- A step has the effect that belongs to its outcome. -/
theorem effect_of_outcome {outcome : Except PyException RunnerResult}
    (step : runnerSystem.next before call = some after)
    (isOutcome : call.outcome before = some outcome) : RunnerEffect before call outcome after := by
  obtain ⟨found, isFound, effect⟩ := runnerNext_effect step
  obtain rfl : found = outcome := Option.some.inj (isFound.symm.trans isOutcome)
  exact effect

theorem RunnerEffect.of_error {failure : PyException}
    (effect : RunnerEffect before call (.error failure) after) : after = before := by
  cases effect
  rfl

theorem RunnerEffect.create_ok {config : ExperimentConfig} {outside : Surroundings}
    {created : ExperimentModel}
    (effect : RunnerEffect before (.create config outside) (.ok (.experiment created)) after) :
    after.experiments = before.experiments ++ [created] := by
  cases effect with
  | created config outside variants after chosen inserted =>
      exact (ExperimentTables.insertExperiment_eq_ok inserted).2.1

theorem RunnerEffect.start_ok {experiment_id : Nat} {result : RunnerResult}
    (effect : RunnerEffect before (.start experiment_id) (.ok result) after) :
    ∃ row ∈ before.experiments, row.id = experiment_id ∧ row.status = .draft ∧
      after = before.updateExperiment { row with status := .running } := by
  cases effect with
  | started row member draft => exact ⟨row, member, rfl, draft, rfl⟩

theorem RunnerEffect.conclude_ok {order : RowOrder} {now : Timestamp} {experiment_id : Nat}
    {given : Option String} {result : RunnerResult}
    (effect : RunnerEffect before (.conclude order now experiment_id given) (.ok result) after) :
    ∃ row ∈ before.experiments, row.id = experiment_id ∧ row.status = .running ∧
      after = before.updateExperiment (concludedRow row (winnerToStore given
        (ExperimentRunner.variantResults (order.arrange (before.scoredTrials experiment_id))))
        now) := by
  cases effect with
  | concluded order now row given winner member running stored =>
      exact ⟨row, member, rfl, running, by rw [stored]⟩

end Effects

end LlmopsPlatform.Tuning
