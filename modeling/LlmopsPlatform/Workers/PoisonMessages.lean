import LlmopsPlatform.Workers.ScoringWorker

/-!
# Which texts an iteration of the worker survives

The handler decodes the text and looks into the result before its `try` statement. Inside
the `except` block it computes with the retry count, logs the trace id and dumps the job
again. An exception in these places leaves the loop of `run_worker` and ends the worker,
with the text already popped.

An iteration ends normally, with the text processed, pushed back or dead-lettered,
exactly when the text is `Digestible` (`iteration_settles_iff`).
-/

set_option autoImplicit false

namespace LlmopsPlatform.Workers

open Foundations Python

section Poison

variable {Text Backend : Type} (runtime : WorkerRuntime Text)
  (process_job : Json → Effectful Backend PyException Unit)

/-- How an item that was popped may end up. The world before is the one without it. -/
inductive Settled (item : Text) (before after : World Text Backend) : Prop where
  | processed (data : Json) (decoded : runtime.loads item = .ok data)
      (finished : ((process_job data).run before.backend).1 = .ok ())
      (queueSame : after.scoring_queue = before.scoring_queue)
      (dlqSame : after.scoring_dlq = before.scoring_dlq)
  | requeued (data retried retry_count : Json) (text : Text)
      (decoded : runtime.loads item = .ok data)
      (counted : data.setItem "_retry_count" retry_count = .ok retried)
      (dumped : runtime.dumps retried = .ok text)
      (pushed : after.scoring_queue = text :: before.scoring_queue)
      (dlqSame : after.scoring_dlq = before.scoring_dlq)
  | deadLettered (data : Json) (text : Text) (decoded : runtime.loads item = .ok data)
      (dumped : runtime.dumps data = .ok text)
      (queueSame : after.scoring_queue = before.scoring_queue)
      (pushed : after.scoring_dlq = text :: before.scoring_dlq)

/-- The retry count of a job, zero if there is none. -/
def retryCount (entries : List (String × Json)) : Json :=
  (OrderedDict.find "_retry_count" entries).getD (.int 0)

/-- The trace id of a job, null if there is none. -/
def traceId (entries : List (String × Json)) : Json :=
  (OrderedDict.find "trace_id" entries).getD .null

/-- A job can be logged and dumped with a new retry count. -/
def CanRetry (entries : List (String × Json)) (retry_count : Json) (backoff : Option ℚ) : Prop :=
  runtime.warning (traceId entries) retry_count backoff = .ok () ∧
    ∃ text, runtime.dumps
      (.dict (OrderedDict.write "_retry_count" (fun _ => retry_count) entries)) = .ok text

/-- A job can be logged and dumped as it is. -/
def CanDeadLetter (entries : List (String × Json)) : Prop :=
  runtime.error (traceId entries) (retryCount entries) = .ok () ∧
    ∃ text, runtime.dumps (.dict entries) = .ok text

/-- The `except` block can deal with a job. Its retry count is a float, a boolean, or an
integer that is not so far below zero that a float cannot hold it, and the job can be logged
and dumped, for another attempt if the count is less than three. -/
def Recoverable (entries : List (String × Json)) : Prop :=
  match retryCount entries with
  | .int count =>
      -floatOverflowBound < count ∧
        if count < 3 then CanRetry runtime entries (.int (count + 1)) (some (2 * powerOfTwo count))
        else CanDeadLetter runtime entries
  | .bool truth =>
      CanRetry runtime entries (.int (truth.toNat + 1)) (some (2 * 2 ^ truth.toNat))
  | .float (.finite count) =>
      if count < 3 then CanRetry runtime entries (.float (.finite (toFloat (count + 1)))) none
      else CanDeadLetter runtime entries
  | .float .negInf => CanRetry runtime entries (.float .negInf) none
  | .float .posInf | .float .nan => CanDeadLetter runtime entries
  | _ => False

/-- The text of a dictionary whose processing succeeds, or raises an `Exception`
from which the `except` block can recover. -/
def Digestible (item : Text) (backend : Backend) : Prop :=
  ∃ entries, runtime.loads item = .ok (.dict entries) ∧
    ∀ failure, ((process_job (.dict entries)).run backend).1 = .error failure →
      failure.isException ∧ Recoverable runtime entries

/-- The `except` block can deal with a job exactly if it takes a decision and the job can be
logged and dumped accordingly. -/
theorem recoverable_iff (entries : List (String × Json)) :
    Recoverable runtime entries ↔
      match failedAttempt (retryCount entries) with
      | .error _ => False
      | .ok (.retry counted backoff) => CanRetry runtime entries counted backoff
      | .ok .deadLetter => CanDeadLetter runtime entries := by
  rw [Recoverable, failedAttempt_eq]
  cases retryCount entries with
  | int count =>
      have bound : (3 : Int) < floatOverflowBound := by decide +kernel
      by_cases few : count < 3
      · by_cases tooLow : count ≤ -floatOverflowBound
        · simp [few, tooLow, not_lt.mpr tooLow]
        · simp [few, tooLow, lt_of_not_ge tooLow]
      · have large : -floatOverflowBound < count := by omega
        simp [few, large]
  | float value =>
      cases value with
      | finite count => by_cases few : count < 3 <;> simp [few]
      | _ => rfl
  | _ => rfl

variable {runtime process_job} {item : Text} {world : World Text Backend}

/-- The `except` block settles the item exactly if it can deal with the job. -/
theorem handleFailure_settles_iff {entries : List (String × Json)}
    (decoded : runtime.loads item = .ok (.dict entries)) (backend : Backend) :
    (∃ after, (handleFailure runtime (.dict entries) (retryCount entries)).run
          (world.withBackend backend) = (.ok (), after) ∧
        Settled runtime process_job item world after) ↔ Recoverable runtime entries := by
  rw [recoverable_iff, run_handleFailure]
  cases failedAttempt (retryCount entries) with
  | error failure => simp
  | ok decision =>
      cases decision with
      | retry counted backoff =>
          simp only [CanRetry, traceId]
          cases runtime.warning ((OrderedDict.find "trace_id" entries).getD .null) counted
              backoff with
          | error failure => simp
          | ok done =>
              cases dumped : runtime.dumps
                  (.dict (OrderedDict.write "_retry_count" (fun _ => counted) entries)) with
              | error failure => simp
              | ok text =>
                  exact iff_of_true
                    ⟨_, rfl, .requeued _ _ counted text decoded rfl dumped rfl rfl⟩
                    ⟨rfl, text, rfl⟩
      | deadLetter =>
          simp only [CanDeadLetter, traceId]
          cases runtime.error ((OrderedDict.find "trace_id" entries).getD .null)
              (retryCount entries) with
          | error failure => simp
          | ok done =>
              cases dumped : runtime.dumps (.dict entries) with
              | error failure => simp
              | ok text =>
                  exact iff_of_true ⟨_, rfl, .deadLettered _ text decoded dumped rfl rfl⟩
                    ⟨rfl, text, rfl⟩

/-- A text that decodes to a dictionary is handled well exactly if its processing
succeeds, or fails in a way that the `except` block can deal with. -/
theorem handle_settles_of_dict {entries : List (String × Json)}
    (decoded : runtime.loads item = .ok (.dict entries)) :
    (∃ after, (handleJobWithRetry runtime process_job item).run world = (.ok (), after) ∧
        Settled runtime process_job item world after) ↔
      ∀ failure, ((process_job (.dict entries)).run world.backend).1 = .error failure →
        failure.isException ∧ Recoverable runtime entries := by
  rcases outcome : (process_job (.dict entries)).run world.backend with ⟨failure | done, backend⟩
  · rw [run_handle_of_failed decoded outcome]
    by_cases caught : failure.isException
    · rw [if_pos caught]
      refine (handleFailure_settles_iff decoded backend).trans ?_
      simp [caught]
    · rw [if_neg caught]
      simp [caught]
  · have processed := run_handle_of_processed decoded outcome
    refine iff_of_true ⟨_, processed, .processed _ decoded ?_ rfl rfl⟩ (by simp)
    rw [outcome]

/-- **One iteration of the worker loop.** It ends normally with its text processed,
pushed back or dead-lettered exactly if the text is digestible. -/
theorem iteration_settles_iff (runtime : WorkerRuntime Text)
    (process_job : Json → Effectful Backend PyException Unit) (item : Text)
    (world : World Text Backend) :
    (∃ after, (iteration runtime process_job).run
          { world with scoring_queue := world.scoring_queue ++ [item] } = (.ok (), after) ∧
        Settled runtime process_job item world after) ↔
      Digestible runtime process_job item world.backend := by
  rw [run_iteration_append]
  cases decoded : runtime.loads item with
  | error failure =>
      rw [run_handle_of_loads_error decoded]
      simp [Digestible, decoded]
  | ok data =>
      cases isDict : data.getMethod "_retry_count" (.int 0) with
      | error failure =>
          rw [run_handle_of_getMethod_error decoded isDict]
          have notDict : ∀ entries, data ≠ .dict entries := by
            rintro entries rfl
            cases isDict
          simp [Digestible, decoded, notDict]
      | ok retry_count =>
          cases data with
          | dict entries =>
              rw [handle_settles_of_dict decoded]
              simp [Digestible, decoded]
          | null => cases isDict
          | bool truth => cases isDict
          | int value => cases isDict
          | float value => cases isDict
          | str text => cases isDict
          | list items => cases isDict

/-- A decoder that knows the empty object only. -/
def emptyObjectOnly : JsonModule String where
  loads text := if text = "\x7b\x7d" then .ok (.dict []) else .error .jsonDecodeError
  dumps _ := "\x7b\x7d"

/-- A text that is not JSON raises out of the iteration and is on neither list, even if the
logger and `json.dumps` raise nothing. -/
theorem undecodable_text_ends_the_worker :
    ¬ ∀ (json : JsonModule String) (process_job : Json → Effectful Unit PyException Unit)
        (item : String) (world : World String Unit),
        ∃ after, (iteration (.reliable json) process_job).run
            { world with scoring_queue := world.scoring_queue ++ [item] } = (.ok (), after) ∧
          Settled (.reliable json) process_job item world after := by
  intro always
  obtain ⟨after, ended, -⟩ := always emptyObjectOnly (fun _ => pure ()) "not json" ⟨[], [], [], ()⟩
  have raised : (iteration (.reliable emptyObjectOnly) fun _ => pure ()).run
      ⟨["not json"], [], [], ()⟩ = (.error .jsonDecodeError, ⟨[], [], [], ()⟩) := rfl
  exact absurd (congrArg Prod.fst (ended.symm.trans raised)) (by simp)

end Poison

end LlmopsPlatform.Workers
