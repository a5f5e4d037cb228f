import LlmopsPlatform.Workers.ProcessJob
import LlmopsPlatform.Workers.ScoringWorker
import Mathlib.Algebra.GroupWithZero.Nat

/-!
# How many rows one job stores

The attempts on one job are the handler calls on its copies: the first on the text
that was enqueued, each further one on the text that the attempt before pushed back.
Between two attempts the queue, the tables and the services may change in any way,
so an attempt carries its own world.

Nothing makes an attempt after a committed one recognise the row. Each attempt stores
at most one row and there are at most four attempts; when every attempt but the last
delivers its submissions, there is at most one row (`rows_of_one_job`). A flush that
fails after the commit gives a second row (`failed_flush_stores_a_second_row`).
-/

set_option autoImplicit false

namespace LlmopsPlatform.Workers

open Foundations Python Scoring

/-- One handler call on a copy of a job. -/
structure Attempt (Text : Type) where
  text : Text
  services : Services
  before : World Text ScoringBackend

section Attempts

variable {Text : Type}

namespace Attempt

variable (json : JsonModule Text) (attempt : Attempt Text)

/-- The world the handler call leaves. -/
def after : World Text ScoringBackend :=
  ((handleJobWithRetry (.reliable json) (processJob attempt.services) attempt.text).run
    attempt.before).2

/-- The number of rows that `score_results` gains. -/
def rowsGained : Nat :=
  (attempt.after json).backend.score_results.length -
    attempt.before.backend.score_results.length

/-- The attempt pushed this text back onto the queue. -/
def Requeued (next : Text) : Prop :=
  (attempt.after json).scoring_queue = next :: attempt.before.scoring_queue

end Attempt

variable (json : JsonModule Text)

/-- The attempts on the copies of one job, from the text that was enqueued. The run
may stop after any attempt. -/
inductive RetryRun : Text → List (Attempt Text) → Prop where
  | nothing (text : Text) : RetryRun text []
  | last (attempt : Attempt Text) : RetryRun attempt.text [attempt]
  | again (attempt : Attempt Text) {next : Text} {later : List (Attempt Text)}
      (requeued : attempt.Requeued json next) (run : RetryRun next later) :
      RetryRun attempt.text (attempt :: later)

/-! ## One attempt -/

variable {json} {attempt : Attempt Text} {request : ScoringRequest} {retries : Nat}

/-- Whatever the handler pushes, the tables are as processing the job left them. -/
theorem after_backend (decoded : json.loads attempt.text = .ok (scoringJob request retries)) :
    (attempt.after json).backend =
      ((processJob attempt.services (scoringJob request retries)).run
        attempt.before.backend).2 := by
  rw [Attempt.after, run_handle_scoringJob decoded]
  rcases (processJob attempt.services (scoringJob request retries)).run
    attempt.before.backend with ⟨failure | done, backend⟩
  · by_cases caught : failure.isException
    · by_cases few : retries < 3 <;> simp [caught, few, World.lpushQueue, World.lpushDlq,
        World.sleep, World.withBackend]
    · simp [caught, World.withBackend]
  · rfl

/-- A job that is pushed back had failed, fewer than four times so far, and the text
is its next copy. -/
theorem requeued_inversion (decoded : json.loads attempt.text = .ok (scoringJob request retries))
    {next : Text} (requeued : attempt.Requeued json next) :
    ((processJob attempt.services (scoringJob request retries)).run attempt.before.backend).1 ≠
        .ok () ∧
      retries < 3 ∧ next = json.dumps (scoringJob request (retries + 1)) := by
  have differs : attempt.before.scoring_queue ≠ next :: attempt.before.scoring_queue := by
    intro same
    exact absurd (congrArg List.length same) (by simp)
  rw [Attempt.Requeued, Attempt.after, run_handle_scoringJob decoded] at requeued
  rcases outcome : (processJob attempt.services (scoringJob request retries)).run
    attempt.before.backend with ⟨failure | done, backend⟩
  · rw [outcome] at requeued
    by_cases caught : failure.isException
    · by_cases few : retries < 3
      · simp [caught, few, World.lpushQueue, World.sleep, World.withBackend] at requeued
        exact ⟨by simp, few, requeued.symm⟩
      · simp [caught, few, World.lpushDlq, World.withBackend] at requeued
    · simp [caught, World.withBackend] at requeued
  · rw [outcome] at requeued
    exact absurd requeued differs

/-- An attempt gains at most one row. -/
theorem rowsGained_le_one (decoded : json.loads attempt.text = .ok (scoringJob request retries)) :
    attempt.rowsGained json ≤ 1 := by
  obtain ⟨stored, appended, atMostOne, -⟩ := processJob_score_results attempt.services
    (scoringJob request retries) attempt.before.backend
  rw [Attempt.rowsGained, after_backend decoded, appended, List.length_append]
  omega

/-- An attempt that delivers and is pushed back anyway gained no row. -/
theorem rowsGained_eq_zero (decoded : json.loads attempt.text = .ok (scoringJob request retries))
    (delivers : attempt.services.Delivers) {next : Text} (requeued : attempt.Requeued json next) :
    attempt.rowsGained json = 0 := by
  obtain ⟨stored, appended, -, storedSucceeds⟩ := processJob_score_results attempt.services
    (scoringJob request retries) attempt.before.backend
  have nothing : stored = [] := by
    by_contra nonempty
    exact (requeued_inversion decoded requeued).1 (storedSucceeds delivers nonempty)
  rw [Attempt.rowsGained, after_backend decoded, appended, nothing, List.append_nil]
  exact Nat.sub_self _

/-! ## All attempts -/

/-- The attempts on a copy with some failures behind it. -/
theorem RetryRun.rows {codec : JsonCodec Text} {text : Text} {attempts : List (Attempt Text)}
    (run : RetryRun codec.toJsonModule text attempts)
    (decoded : codec.loads text = .ok (scoringJob request retries)) (few : retries ≤ 3) :
    attempts.length + retries ≤ 4 ∧
      (∀ attempt ∈ attempts, attempt.rowsGained codec.toJsonModule ≤ 1) ∧
      ((∀ attempt ∈ attempts.dropLast, attempt.services.Delivers) →
        (attempts.map (Attempt.rowsGained codec.toJsonModule)).sum ≤ 1) := by
  induction run generalizing retries with
  | nothing text => exact ⟨by simp; omega, by simp, by simp⟩
  | last attempt =>
      have one := rowsGained_le_one decoded
      refine ⟨by simp; omega, by simpa using one, ?_⟩
      intro _
      simpa using one
  | @again attempt next later requeued run ih =>
      obtain ⟨-, fewer, isNext⟩ := requeued_inversion decoded requeued
      have nextDecoded : codec.loads next = .ok (scoringJob request (retries + 1)) := by
        rw [isNext]
        exact codec.loads_dumps _
      obtain ⟨short, single, atMostOne⟩ := ih nextDecoded (by omega)
      refine ⟨by simp; omega, ?_, ?_⟩
      · intro other member
        rcases List.mem_cons.mp member with rfl | inLater
        · exact rowsGained_le_one decoded
        · exact single other inLater
      · intro delivering
        cases later with
        | nil => simpa using rowsGained_le_one decoded
        | cons second rest =>
            rw [List.dropLast_cons_cons] at delivering
            obtain ⟨delivers, laterDelivering⟩ := List.forall_mem_cons.mp delivering
            have none := rowsGained_eq_zero decoded delivers requeued
            rw [List.map_cons, List.sum_cons, none, Nat.zero_add]
            exact atMostOne laterDelivering

end Attempts

/-- **The rows of one job.** An enqueued job is attempted at most four times, each
attempt gains at most one row, and if nothing fails after the commit in any attempt
but the last, the job has at most one row. -/
theorem rows_of_one_job {Text : Type} (codec : JsonCodec Text) (request : ScoringRequest)
    (attempts : List (Attempt Text))
    (run : RetryRun codec.toJsonModule (codec.dumps (scoringJob request 0)) attempts) :
    (attempts.length : Int) ≤ MAX_RETRIES + 1 ∧
      (∀ attempt ∈ attempts, attempt.rowsGained codec.toJsonModule ≤ 1) ∧
      ((∀ attempt ∈ attempts.dropLast, attempt.services.Delivers) →
        (attempts.map (Attempt.rowsGained codec.toJsonModule)).sum ≤ 1) := by
  obtain ⟨short, single, atMostOne⟩ := run.rows (codec.loads_dumps _) (Nat.zero_le 3)
  refine ⟨?_, single, atMostOne⟩
  unfold MAX_RETRIES
  omega

/-! ## A job with two rows -/

/-- A request without scorers. -/
def plainRequest : ScoringRequest where
  trace_id := "trace-1"
  pipeline_id := "pipe-1"
  input_text := "input"
  output_text := "output"
  reference_text := none
  scorers_config := []

/-- Services on which everything succeeds. -/
def deliveringServices : Services where
  scorerConfig _ _ _ := .error .typeError
  construct _ := .ok ()
  runPipeline _ _ _ _ := .ok ⟨[], .zero⟩
  commit _ := .ok ()
  observability := .ok ()
  score _ _ := .ok ()
  flush := .ok ()

/-- The first attempt on the plain request, in an empty world. -/
def firstAttempt (services : Services) : Attempt Json :=
  ⟨scoringJob plainRequest 0, services, ⟨[], [], [], ⟨[], [], 0⟩⟩⟩

/-- The attempt on the copy that the first one pushed back. -/
def secondAttempt (services : Services) : Attempt Json :=
  ⟨scoringJob plainRequest 1, deliveringServices,
    ((firstAttempt services).after JsonCodec.ofValues.toJsonModule).popQueue⟩

/-- If the first attempt fails with an exception that is caught, both are a run. -/
theorem plain_run {services : Services} {failure : PyException} {backend : ScoringBackend}
    (failed : (processJob services (scoringJob plainRequest 0)).run ⟨[], [], 0⟩ =
      (.error failure, backend)) (caught : failure.isException) :
    RetryRun JsonCodec.ofValues.toJsonModule (scoringJob plainRequest 0)
      [firstAttempt services, secondAttempt services] := by
  refine RetryRun.again (firstAttempt services) ?_ (.last (secondAttempt services))
  have decoded : JsonCodec.ofValues.loads (firstAttempt services).text =
      .ok (scoringJob plainRequest 0) := rfl
  rw [Attempt.Requeued, Attempt.after, run_handle_scoringJob decoded]
  simp [firstAttempt, secondAttempt, failed, caught, World.lpushQueue, World.sleep,
    World.withBackend, JsonCodec.ofValues]

/-- The first attempt fails before the commit. -/
theorem rows_of_one_job_plain :
    let failing :=
      { deliveringServices with runPipeline := fun _ _ _ _ => .error (.exception "Error") }
    let attempts := [firstAttempt failing, secondAttempt failing]
    (attempts.length : Int) ≤ MAX_RETRIES + 1 ∧
      (∀ attempt ∈ attempts, attempt.rowsGained JsonCodec.ofValues.toJsonModule ≤ 1) ∧
      ((∀ attempt ∈ attempts.dropLast, attempt.services.Delivers) →
        (attempts.map (Attempt.rowsGained JsonCodec.ofValues.toJsonModule)).sum ≤ 1) := by
  intro failing attempts
  exact rows_of_one_job JsonCodec.ofValues plainRequest attempts (plain_run rfl rfl)

/-- **A second row.** The flush of the first attempt fails after the commit, and the
attempt that follows stores the job again. -/
theorem failed_flush_stores_a_second_row :
    ¬ ∀ (Text : Type) (codec : JsonCodec Text) (request : ScoringRequest)
        (attempts : List (Attempt Text)),
        RetryRun codec.toJsonModule (codec.dumps (scoringJob request 0)) attempts →
        (attempts.map (Attempt.rowsGained codec.toJsonModule)).sum ≤ 1 := by
  intro always
  let failing := { deliveringServices with flush := .error (.exception "TimeoutError") }
  have atMostOne := always Json JsonCodec.ofValues plainRequest
    [firstAttempt failing, secondAttempt failing] (plain_run rfl rfl)
  have first : (firstAttempt failing).rowsGained JsonCodec.ofValues.toJsonModule = 1 := by
    have decoded : JsonCodec.ofValues.loads (firstAttempt failing).text =
        .ok (scoringJob plainRequest 0) := rfl
    rw [Attempt.rowsGained, after_backend decoded]
    rfl
  have second : (secondAttempt failing).rowsGained JsonCodec.ofValues.toJsonModule = 1 := by
    have decoded : JsonCodec.ofValues.loads (secondAttempt failing).text =
        .ok (scoringJob plainRequest 1) := rfl
    rw [Attempt.rowsGained, after_backend decoded]
    -- Whatever was stored before, this attempt appends a row.
    generalize (secondAttempt failing).before.backend = backend
    change (backend.score_results ++ [_]).length - backend.score_results.length = 1
    simp
  simp [first, second] at atMostOne

end LlmopsPlatform.Workers
