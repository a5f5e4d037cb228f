import LlmopsPlatform.Tuning.Runner

/-!
# The tuning worker

A call of `check_running_experiments` reads the running experiments and reports the state of
each of them. A check that raises is tried again, up to `MAX_CHECK_RETRIES` times, before the
loop goes on to the next experiment.

All statements of one call run in one session. When a statement of a transaction raises, each
later statement raises, too, until the transaction is rolled back, and no branch of the worker
rolls it back. So the retries do not help: the first attempt that raises is the end of the
reports. The log of a call shows it (`run_checkRunningExperiments`): the experiments before
that attempt are reported, and every experiment from it on fails on all of its attempts.

Hence the checks of different experiments are independent of one another exactly when the
statements of all of these experiments fail by themselves on each attempt
(`isolatesFailures_iff`).
-/

set_option autoImplicit false

namespace LlmopsPlatform.Workers.TuningWorker

open Foundations Python Tuning

def MAX_CHECK_RETRIES : ℕ := 3

def BASE_BACKOFF_SECONDS : ℚ := 5

/-- A statement that one call sends to the database. Those of a check belong to an experiment
and to an attempt. -/
inductive Statement where
  | runningExperiments
  | experiment (experiment_id retries : ℕ)
  | scoredTrials (experiment_id retries : ℕ)
deriving DecidableEq

/-- The database during one call: its tables, the orders in which it returns rows, and which
statements fail when they are sent to it. -/
structure PolledDatabase where
  tables : ExperimentTables
  running : List ExperimentModel
  running_perm : running.Perm (tables.experiments.filter fun row => row.status = .running)
  order : ℕ → ℕ → RowOrder
  fails : Statement → Bool

/-- A line of the worker's log. -/
inductive LogEvent where
  | experimentStatus (experiment : String) (total_trials variant_count : ℕ)
  | experimentLeader (experiment variant : String) (avg_score : ℚ) (sample_count : ℕ)
  | experimentCheckFailed (experiment : String) (retries : ℕ)
  | experimentCheckRetry (experiment : String) (retry : ℕ) (backoff_seconds : ℚ)

/-- The state of one call: whether a statement of the open transaction has raised, the log,
and the pauses. -/
structure CheckState where
  aborted : Bool
  log : List LogEvent
  slept : List ℚ

/-- A new session. -/
def CheckState.opened : CheckState := ⟨false, [], []⟩

def log (event : LogEvent) : Effectful CheckState PyException Unit :=
  .modify fun state => { state with log := state.log ++ [event] }

def sleep (seconds : ℚ) : Effectful CheckState PyException Unit :=
  .modify fun state => { state with slept := state.slept ++ [seconds] }

/-- What SQLAlchemy raises when the database refuses a statement. -/
def databaseError : PyException := .exception "DBAPIError"

/-- `backoff` after a number of failed attempts. -/
def backoff (retries : ℕ) : ℚ := BASE_BACKOFF_SECONDS * 2 ^ (retries - 1)

/-- The `except` block, for the number of attempts that have failed by then. -/
def handleFailure (experiment : ExperimentModel) (retries : ℕ) :
    Effectful CheckState PyException Unit :=
  if retries > MAX_CHECK_RETRIES then
    log (.experimentCheckFailed experiment.name retries)
  else do
    log (.experimentCheckRetry experiment.name retries (backoff retries))
    sleep (backoff retries)

/-- The two lines on an experiment whose results were read. -/
def reportResults (experiment : ExperimentModel) (results : ExperimentResults) :
    Effectful CheckState PyException Unit := do
  log (.experimentStatus experiment.name results.total_trials results.results.length)
  match results.results with
  | [] => pure ()
  | best :: _ =>
      log (.experimentLeader experiment.name best.variant_id best.avg_score best.sample_count)

namespace PolledDatabase

variable (database : PolledDatabase)

/-- `session.execute(statement)`. Nothing but a rollback ends an aborted transaction. -/
def execute (statement : Statement) : Effectful CheckState PyException Unit :=
  ⟨fun state =>
    if state.aborted || database.fails statement then
      (.error databaseError, { state with aborted := true })
    else (.ok (), state)⟩

/-- `ExperimentRunner.get_results`, statement by statement. -/
def getResults (experiment_id retries : ℕ) :
    Effectful CheckState PyException ExperimentResults := do
  database.execute (.experiment experiment_id retries)
  let experiment ← .ofExcept (ExperimentRunner.getExperiment database.tables experiment_id)
  database.execute (.scoredTrials experiment_id retries)
  let trials := (database.order experiment_id retries).arrange
    (database.tables.scoredTrials experiment_id)
  pure
    { experiment
      results := ExperimentRunner.variantResults trials
      total_trials := trials.length }

/-- The `try` block of one attempt. -/
def attempt (experiment : ExperimentModel) (retries : ℕ) :
    Effectful CheckState PyException Unit := do
  let results ← database.getResults experiment.id retries
  reportResults experiment results

/-- The loop over the attempts for one experiment. -/
def checkExperiment (experiment : ExperimentModel) (retries : ℕ) :
    Effectful CheckState PyException Unit :=
  if retries ≤ MAX_CHECK_RETRIES then
    .tryExcept (database.attempt experiment retries) PyException.isException fun _ => do
      handleFailure experiment (retries + 1)
      checkExperiment experiment (retries + 1)
  else
    pure ()
termination_by MAX_CHECK_RETRIES + 1 - retries

/-- `check_running_experiments`. -/
def checkRunningExperiments : Effectful CheckState PyException Unit := do
  database.execute .runningExperiments
  database.running.forM fun experiment => database.checkExperiment experiment 0

/-! ## One attempt -/

/-- The statements of an experiment fail on an attempt by themselves. -/
def ownFails (experiment : ExperimentModel) (retries : ℕ) : Bool :=
  database.fails (.experiment experiment.id retries) ||
    database.fails (.scoredTrials experiment.id retries)

/-- The results that an attempt reads. -/
def resultsOf (experiment : ExperimentModel) (retries : ℕ) : ExperimentResults :=
  let trials := (database.order experiment.id retries).arrange
    (database.tables.scoredTrials experiment.id)
  { experiment
    results := ExperimentRunner.variantResults trials
    total_trials := trials.length }

/-- The lines that report these results. -/
def statusEvents (experiment : ExperimentModel) (retries : ℕ) : List LogEvent :=
  let results := database.resultsOf experiment retries
  .experimentStatus experiment.name results.total_trials results.results.length ::
    (results.results.head?.map fun best =>
      .experimentLeader experiment.name best.variant_id best.avg_score best.sample_count).toList

variable {database} {experiment : ExperimentModel} {retries : ℕ} (state : CheckState)

theorem getExperiment_running (listed : experiment ∈ database.running) :
    ExperimentRunner.getExperiment database.tables experiment.id = .ok experiment :=
  ExperimentRunner.getExperiment_of_mem
    (List.mem_of_mem_filter (database.running_perm.mem_iff.mp listed))

theorem run_execute_of_fails {statement : Statement}
    (fails : (state.aborted || database.fails statement) = true) :
    (database.execute statement).run state =
      (.error databaseError, { state with aborted := true }) :=
  if_pos fails

theorem run_execute_of_succeeds {statement : Statement}
    (succeeds : (state.aborted || database.fails statement) = false) :
    (database.execute statement).run state = (.ok (), state) :=
  if_neg (Bool.eq_false_iff.mp succeeds)

/-- **An attempt raises** when a statement failed before in the session, or one of its own
fails. -/
theorem run_getResults (retries : ℕ) (listed : experiment ∈ database.running) :
    (database.getResults experiment.id retries).run state =
      if state.aborted || database.ownFails experiment retries then
        (.error databaseError, { state with aborted := true })
      else (.ok (database.resultsOf experiment retries), state) := by
  unfold getResults ownFails
  rw [← Bool.or_assoc]
  cases first : state.aborted || database.fails (.experiment experiment.id retries) with
  | true =>
      rw [Effectful.run_bind_of_error _ (run_execute_of_fails state first)]
      rfl
  | false =>
      rw [Effectful.run_bind_of_ok _ (run_execute_of_succeeds state first),
        getExperiment_running listed, Effectful.run_ofExcept_ok_bind]
      have notAborted : state.aborted = false := (Bool.or_eq_false_iff.mp first).1
      cases second : database.fails (.scoredTrials experiment.id retries) with
      | true =>
          have fails : (state.aborted || database.fails
              (.scoredTrials experiment.id retries)) = true := by
            rw [second, Bool.or_true]
          rw [Effectful.run_bind_of_error _ (run_execute_of_fails state fails)]
          rfl
      | false =>
          have succeeds : (state.aborted || database.fails
              (.scoredTrials experiment.id retries)) = false := by
            rw [notAborted, second, Bool.or_false]
          rw [Effectful.run_bind_of_ok _ (run_execute_of_succeeds state succeeds)]
          rfl

end PolledDatabase

theorem run_reportResults (experiment : ExperimentModel) (results : ExperimentResults)
    (state : CheckState) :
    (reportResults experiment results).run state =
      (.ok (), { state with
        log := state.log ++
          .experimentStatus experiment.name results.total_trials results.results.length ::
            (results.results.head?.map fun best => .experimentLeader experiment.name
              best.variant_id best.avg_score best.sample_count).toList }) := by
  unfold reportResults log
  rw [Effectful.run_modify_bind]
  cases results.results with
  | nil => rfl
  | cons best rest =>
      simp only [Effectful.run_modify, List.append_assoc]
      rfl

/-- The line of a failed attempt. -/
def failureEvent (experiment : ExperimentModel) (retries : ℕ) : LogEvent :=
  if retries > MAX_CHECK_RETRIES then .experimentCheckFailed experiment.name retries
  else .experimentCheckRetry experiment.name retries (backoff retries)

theorem run_handleFailure (experiment : ExperimentModel) (retries : ℕ) (state : CheckState) :
    (handleFailure experiment retries).run state =
      (.ok (), { state with
        log := state.log ++ [failureEvent experiment retries]
        slept := state.slept ++
          if retries > MAX_CHECK_RETRIES then [] else [backoff retries] }) := by
  unfold handleFailure failureEvent
  split
  · rw [List.append_nil]
    rfl
  · rfl

namespace PolledDatabase

variable {database : PolledDatabase} {experiment : ExperimentModel} {retries : ℕ}
  (state : CheckState)

theorem run_attempt (retries : ℕ) (listed : experiment ∈ database.running) :
    (database.attempt experiment retries).run state =
      if state.aborted || database.ownFails experiment retries then
        (.error databaseError, { state with aborted := true })
      else
        (.ok (), { state with log := state.log ++ database.statusEvents experiment retries }) := by
  have read := run_getResults state retries listed
  unfold attempt
  split
  · rename_i fails
    rw [if_pos fails] at read
    exact Effectful.run_bind_of_error _ read
  · rename_i succeeds
    rw [if_neg succeeds] at read
    rw [Effectful.run_bind_of_ok _ read, run_reportResults]
    rfl

/-! ## The attempts for one experiment -/

/-- The session after an experiment all of whose attempts failed. -/
def afterFailure (experiment : ExperimentModel) (state : CheckState) : CheckState where
  aborted := true
  log := state.log ++ (List.range' 1 (MAX_CHECK_RETRIES + 1)).map (failureEvent experiment)
  slept := state.slept ++ (List.range' 1 MAX_CHECK_RETRIES).map backoff

/-- The session after an experiment that was reported. -/
def afterReport (database : PolledDatabase) (experiment : ExperimentModel)
    (state : CheckState) : CheckState :=
  { state with log := state.log ++ database.statusEvents experiment 0 }

/-- After an attempt that raises the loop goes on, in an aborted transaction. -/
theorem run_checkExperiment_retry (listed : experiment ∈ database.running)
    (allowed : retries ≤ MAX_CHECK_RETRIES)
    (fails : (state.aborted || database.ownFails experiment retries) = true) :
    (database.checkExperiment experiment retries).run state =
      (database.checkExperiment experiment (retries + 1)).run
        { aborted := true
          log := state.log ++ [failureEvent experiment (retries + 1)]
          slept := state.slept ++
            if retries + 1 > MAX_CHECK_RETRIES then [] else [backoff (retries + 1)] } := by
  have raised := run_attempt state retries listed
  rw [if_pos fails] at raised
  have caught : databaseError.isException = true := rfl
  rw [checkExperiment, if_pos allowed, Effectful.run_tryExcept_of_error _ raised, if_pos caught,
    Effectful.run_bind_of_ok _ (run_handleFailure _ _ _)]

/-- **The retries do not help.** An attempt that raises is followed by failed ones only. -/
theorem run_checkExperiment_of_fails (listed : experiment ∈ database.running) {remaining : ℕ}
    (last : retries + remaining = MAX_CHECK_RETRIES)
    (fails : (state.aborted || database.ownFails experiment retries) = true) :
    (database.checkExperiment experiment retries).run state =
      (.ok (),
        { aborted := true
          log := state.log ++
            (List.range' (retries + 1) (remaining + 1)).map (failureEvent experiment)
          slept := state.slept ++ (List.range' (retries + 1) remaining).map backoff }) := by
  induction remaining generalizing retries state with
  | zero =>
      rw [run_checkExperiment_retry state listed (by omega) fails, checkExperiment,
        if_neg (by omega), if_pos (by omega)]
      rfl
  | succ remaining ih =>
      rw [run_checkExperiment_retry state listed (by omega) fails, if_neg (by omega),
        ih _ (by omega) rfl]
      simp only [List.range'_succ, List.map_cons, List.append_assoc, List.singleton_append]

/-- What the check of one experiment leaves behind. -/
theorem run_checkExperiment (listed : experiment ∈ database.running) :
    (database.checkExperiment experiment 0).run state =
      (.ok (),
        if state.aborted || database.ownFails experiment 0 then afterFailure experiment state
        else database.afterReport experiment state) := by
  split
  · rename_i fails
    exact run_checkExperiment_of_fails state listed (Nat.zero_add _) fails
  · rename_i succeeds
    have reported := run_attempt state 0 listed
    rw [if_neg succeeds] at reported
    rw [checkExperiment, if_pos (Nat.zero_le _), Effectful.run_tryExcept_of_ok _ reported]
    rfl

/-! ## The loop over the experiments -/

/-- The experiments before the first one whose first attempt fails. -/
def unaffected (database : PolledDatabase) : List ExperimentModel :=
  database.running.takeWhile fun experiment => !database.ownFails experiment 0

/-- The experiments from the first one on whose first attempt fails; all of them when the
running experiments are not even read. -/
def affected (database : PolledDatabase) : List ExperimentModel :=
  if database.fails .runningExperiments then database.running
  else database.running.dropWhile fun experiment => !database.ownFails experiment 0

/-- The lines on experiments that are reported. -/
def statusLog (database : PolledDatabase) (experiments : List ExperimentModel) :
    List LogEvent :=
  experiments.flatMap fun experiment => database.statusEvents experiment 0

/-- The lines on experiments all of whose attempts fail. -/
def failureLog (experiments : List ExperimentModel) : List LogEvent :=
  experiments.flatMap fun experiment =>
    (List.range' 1 (MAX_CHECK_RETRIES + 1)).map (failureEvent experiment)

/-- The pauses between their attempts. -/
def pauses (experiments : List ExperimentModel) : List ℚ :=
  experiments.flatMap fun _ => (List.range' 1 MAX_CHECK_RETRIES).map backoff

theorem run_forM_cons (first : ExperimentModel) (rest : List ExperimentModel) :
    ((first :: rest).forM fun experiment => database.checkExperiment experiment 0) =
      database.checkExperiment first 0 >>= fun _ =>
        rest.forM fun experiment => database.checkExperiment experiment 0 := rfl

/-- In an aborted transaction every check fails. -/
theorem run_forM_of_aborted {experiments : List ExperimentModel}
    (listed : ∀ experiment ∈ experiments, experiment ∈ database.running)
    (aborted : state.aborted = true) :
    (experiments.forM fun experiment => database.checkExperiment experiment 0).run state =
      (.ok (), ⟨true, state.log ++ failureLog experiments, state.slept ++ pauses experiments⟩) := by
  induction experiments generalizing state with
  | nil =>
      obtain ⟨raised, log, slept⟩ := state
      obtain rfl : raised = true := aborted
      simp [failureLog, pauses]
  | cons first rest ih =>
      obtain ⟨here, others⟩ := List.forall_mem_cons.mp listed
      have checked := run_checkExperiment state here
      rw [aborted, Bool.true_or, if_pos rfl] at checked
      rw [run_forM_cons, Effectful.run_bind_of_ok _ checked, ih _ others rfl]
      simp only [afterFailure, failureLog, pauses, List.flatMap_cons, List.append_assoc]

/-- The experiments before the first failure are reported, and the others fail. -/
theorem run_forM_of_open {experiments : List ExperimentModel}
    (listed : ∀ experiment ∈ experiments, experiment ∈ database.running)
    (isOpen : state.aborted = false) :
    (experiments.forM fun experiment => database.checkExperiment experiment 0).run state =
      (.ok (),
        let succeeds := fun experiment => !database.ownFails experiment 0
        { aborted := !(experiments.dropWhile succeeds).isEmpty
          log := state.log ++ (database.statusLog (experiments.takeWhile succeeds) ++
            failureLog (experiments.dropWhile succeeds))
          slept := state.slept ++ pauses (experiments.dropWhile succeeds) }) := by
  induction experiments generalizing state with
  | nil =>
      obtain ⟨raised, log, slept⟩ := state
      obtain rfl : raised = false := isOpen
      simp [failureLog, statusLog, pauses]
  | cons first rest ih =>
      obtain ⟨here, others⟩ := List.forall_mem_cons.mp listed
      have checked := run_checkExperiment state here
      rw [isOpen, Bool.false_or] at checked
      cases own : database.ownFails first 0 with
      | true =>
          rw [own, if_pos rfl] at checked
          rw [run_forM_cons, Effectful.run_bind_of_ok _ checked,
            run_forM_of_aborted _ others rfl]
          simp [own, afterFailure, failureLog, statusLog, pauses]
      | false =>
          rw [own, if_neg Bool.false_ne_true] at checked
          have stillOpen : (database.afterReport first state).aborted = false := isOpen
          rw [run_forM_cons, Effectful.run_bind_of_ok _ checked, ih _ others stillOpen]
          simp [own, afterReport, statusLog]

/-- **A call that reads the running experiments** reports those before the first failure, and
nothing but failed attempts follows. -/
theorem run_checkRunningExperiments (read : database.fails .runningExperiments = false) :
    database.checkRunningExperiments.run .opened =
      (.ok (),
        { aborted := !database.affected.isEmpty
          log := database.statusLog database.unaffected ++ failureLog database.affected
          slept := pauses database.affected }) := by
  unfold checkRunningExperiments affected
  rw [Effectful.run_bind_of_ok _ (run_execute_of_succeeds .opened read),
    run_forM_of_open _ (fun _ => id) rfl, read, if_neg Bool.false_ne_true]
  rfl

/-- **A call that cannot read them** raises, and logs nothing. -/
theorem run_checkRunningExperiments_of_fails
    (fails : database.fails .runningExperiments = true) :
    database.checkRunningExperiments.run .opened = (.error databaseError, ⟨true, [], []⟩) :=
  Effectful.run_bind_of_error _ (run_execute_of_fails _ fails)

/-! ## Reports -/

variable (database) in
/-- The status of the experiment is in the log of a call. -/
def Reported (experiment : ExperimentModel) : Prop :=
  ∃ total_trials variant_count, .experimentStatus experiment.name total_trials variant_count ∈
    (database.checkRunningExperiments.run .opened).2.log

theorem running_nameUnique (database : PolledDatabase) :
    UniqueKey ExperimentModel.name database.running := by
  have ofTable := database.tables.experimentNameUnique.sublist
    ((List.filter_sublist (p := fun row => row.status = .running)).map ExperimentModel.name)
  exact (database.running_perm.map _).nodup_iff.mpr ofTable

theorem mem_unaffected_iff (read : database.fails .runningExperiments = false)
    (listed : experiment ∈ database.running) :
    experiment ∈ database.unaffected ↔ experiment ∉ database.affected := by
  have split : database.unaffected ++ database.affected = database.running := by
    rw [unaffected, affected, read, if_neg Bool.false_ne_true]
    exact List.takeWhile_append_dropWhile
  have distinct : (database.unaffected ++ database.affected).Nodup := by
    rw [split]
    exact database.running_nameUnique.of_map _
  rw [← split, List.mem_append] at listed
  exact ⟨fun early late => List.disjoint_of_nodup_append distinct early late, listed.resolve_right⟩

theorem experimentStatus_mem_statusLog {experiments : List ExperimentModel} {name : String}
    {total_trials variant_count : ℕ}
    (logged : .experimentStatus name total_trials variant_count ∈
      database.statusLog experiments) :
    ∃ experiment ∈ experiments, experiment.name = name := by
  obtain ⟨experiment, member, event⟩ := List.mem_flatMap.mp logged
  rcases List.mem_cons.mp event with same | leader
  · injection same with sameName
    exact ⟨experiment, member, sameName.symm⟩
  · simp at leader

theorem experimentStatus_not_mem_failureLog {experiments : List ExperimentModel} {name : String}
    {total_trials variant_count : ℕ} :
    .experimentStatus name total_trials variant_count ∉ failureLog experiments := by
  intro logged
  obtain ⟨experiment, -, event⟩ := List.mem_flatMap.mp logged
  obtain ⟨retries, -, same⟩ := List.mem_map.mp event
  unfold failureEvent at same
  split at same <;> cases same

/-- **An experiment is reported** exactly when it is checked before the first failure. -/
theorem reported_iff (listed : experiment ∈ database.running) :
    database.Reported experiment ↔ experiment ∉ database.affected := by
  unfold Reported
  cases read : database.fails .runningExperiments with
  | true =>
      rw [run_checkRunningExperiments_of_fails read, affected, read, if_pos rfl]
      exact iff_of_false (by simp) (not_not.mpr listed)
  | false =>
      rw [← mem_unaffected_iff read listed, run_checkRunningExperiments read]
      constructor
      · rintro ⟨total_trials, variant_count, logged⟩
        rcases List.mem_append.mp logged with reported | failed
        · obtain ⟨other, member, same⟩ := experimentStatus_mem_statusLog reported
          have otherListed := List.takeWhile_subset _ member
          rwa [← database.running_nameUnique.eq_of_key_eq otherListed listed same]
        · exact absurd failed experimentStatus_not_mem_failureLog
      · intro early
        exact ⟨_, _, List.mem_append_left _
          (List.mem_flatMap.mpr ⟨experiment, early, List.mem_cons_self⟩)⟩

variable (database) in
/-- The attempts on which the experiment's own statements fail. -/
def failedAttempts (experiment : ExperimentModel) : List ℕ :=
  (List.range (MAX_CHECK_RETRIES + 1)).filter (database.ownFails experiment)

/-- One experiment's failing check does not affect the others: an experiment is reported when
its own statements fail on at most `MAX_CHECK_RETRIES` attempts, so also when none fails. -/
def IsolatesFailures (database : PolledDatabase) : Prop :=
  ∀ experiment ∈ database.running,
    ((database.failedAttempts experiment).length ≤ MAX_CHECK_RETRIES →
      database.Reported experiment) ∧
    (database.failedAttempts experiment = [] → database.Reported experiment)

theorem failedAttempts_le_iff :
    (database.failedAttempts experiment).length ≤ MAX_CHECK_RETRIES ↔
      ¬∀ retries ≤ MAX_CHECK_RETRIES, database.ownFails experiment retries := by
  have attempts : (List.range (MAX_CHECK_RETRIES + 1)).length = MAX_CHECK_RETRIES + 1 :=
    List.length_range
  have atMost : (database.failedAttempts experiment).length ≤ MAX_CHECK_RETRIES + 1 :=
    (List.length_filter_le _ _).trans_eq attempts
  have all : (database.failedAttempts experiment).length = MAX_CHECK_RETRIES + 1 ↔
      ∀ retries ≤ MAX_CHECK_RETRIES, database.ownFails experiment retries := by
    rw [← attempts, failedAttempts, List.length_filter_eq_length_iff]
    simp only [List.mem_range, Nat.lt_succ_iff]
  rw [← all]
  omega

/-- **Failures are isolated** exactly when every experiment, from the first one on whose first
attempt fails, fails by its own statements on each attempt. -/
theorem isolatesFailures_iff (database : PolledDatabase) :
    database.IsolatesFailures ↔
      ∀ experiment ∈ database.affected, ∀ retries ≤ MAX_CHECK_RETRIES,
        database.ownFails experiment retries := by
  have affected_subset : database.affected ⊆ database.running := by
    unfold affected
    split
    · exact List.Subset.refl _
    · exact (List.dropWhile_suffix _).subset
  constructor
  · intro isolates experiment late
    by_contra sometimes
    have listed := affected_subset late
    have reported := (isolates experiment listed).1 (failedAttempts_le_iff.mpr sometimes)
    exact (reported_iff listed).mp reported late
  · intro always experiment listed
    have reported (few : (database.failedAttempts experiment).length ≤ MAX_CHECK_RETRIES) :
        database.Reported experiment :=
      (reported_iff listed).mpr fun late =>
        failedAttempts_le_iff.mp few (always experiment late)
    refine ⟨reported, fun none => reported ?_⟩
    rw [none]
    exact Nat.zero_le _

/-! ## One failing statement -/

/-- A running experiment. -/
def runningRow (id : ℕ) (name : String) : ExperimentModel where
  id := id
  name := name
  description := ""
  status := .running
  allocation_strategy := "ab_test"
  parameter_space := .dict []
  variants := []
  scoring_pipeline_id := none
  traffic_percentage := 100
  winner_variant_id := none
  concluded_at := none
  created_at := 0

/-- Two running experiments. The query of the first one's trials fails once. -/
def failsOnce : PolledDatabase where
  tables :=
    { experiments := [runningRow 1 "tone", runningRow 2 "length"]
      trials := []
      experimentIdUnique := by decide
      experimentNameUnique := by decide
      trialIdUnique := by decide }
  running := [runningRow 1 "tone", runningRow 2 "length"]
  running_perm := .refl _
  order _ _ := .insertion
  fails statement := statement = .scoredTrials 1 0

/-- No statement of the second experiment fails, and its status is not reported. -/
theorem failsOnce_hides_second : ¬∀ database : PolledDatabase, database.IsolatesFailures := by
  intro isolates
  have listed : runningRow 2 "length" ∈ failsOnce.running := .tail _ (.head _)
  have late : runningRow 2 "length" ∈ failsOnce.affected := by
    change _ ∈ [runningRow 1 "tone", runningRow 2 "length"]
    exact .tail _ (.head _)
  have noFailure : failsOnce.failedAttempts (runningRow 2 "length") = [] := by decide
  exact (reported_iff listed).mp ((isolates failsOnce _ listed).2 noFailure) late

end PolledDatabase

end LlmopsPlatform.Workers.TuningWorker
