import LlmopsPlatform.Foundations.Effectful
import LlmopsPlatform.Python.Json

/-!
# The scoring worker

Scoring jobs travel as JSON texts on a Redis list. A worker pops the oldest text,
decodes it, processes the job and, when that raises, pushes the job back with a
higher retry count or onto the dead-letter list.

The text type, the JSON functions, the logger and the processing of a job are parameters.
`json.dumps` and the logger may raise, for example on a value that is nested too deep.
Redis lists have their left end first, so `lpush` adds at the head and `brpop` takes the
last text.
-/

set_option autoImplicit false

namespace LlmopsPlatform.Workers

open Foundations Python

def MAX_RETRIES : Int := 3

def BASE_BACKOFF_SECONDS : ℚ := 2

/-- The arguments of `enqueue_scoring_job`. -/
structure ScoringRequest where
  trace_id : String
  pipeline_id : String
  input_text : String
  output_text : String
  reference_text : Option String
  scorers_config : List Json

/-- The job of a request after some number of failed attempts. -/
def scoringJob (request : ScoringRequest) (retry_count : Nat) : Json :=
  .dict [
    ("trace_id", .str request.trace_id),
    ("pipeline_id", .str request.pipeline_id),
    ("input_text", .str request.input_text),
    ("output_text", .str request.output_text),
    ("reference_text", (request.reference_text.map Json.str).getD .null),
    ("scorers_config", .list request.scorers_config),
    ("_retry_count", .int retry_count)]

/-- What a worker acts on: the two Redis lists, the time it slept, and whatever else
processing a job reads and writes. -/
structure World (Text Backend : Type) where
  scoring_queue : List Text
  scoring_dlq : List Text
  slept : List (Option ℚ)
  backend : Backend

/-- What the handler of a job calls: the JSON functions, and the logger with the fields of
its two calls. All of them may raise. -/
structure WorkerRuntime (Text : Type) where
  loads : Text → Except PyException Json
  dumps : Json → Except PyException Text
  warning : (trace_id retry_count : Json) → (backoff : Option ℚ) → Except PyException Unit
  error : (trace_id retry_count : Json) → Except PyException Unit

section Worker

variable {Text Backend : Type}

/-- The runtime in which `json.dumps` and the logger raise nothing. -/
def WorkerRuntime.reliable (json : JsonModule Text) : WorkerRuntime Text where
  loads := json.loads
  dumps data := .ok (json.dumps data)
  warning _ _ _ := .ok ()
  error _ _ := .ok ()

namespace World

def lpushQueue (text : Text) (world : World Text Backend) : World Text Backend :=
  { world with scoring_queue := text :: world.scoring_queue }

def lpushDlq (text : Text) (world : World Text Backend) : World Text Backend :=
  { world with scoring_dlq := text :: world.scoring_dlq }

def popQueue (world : World Text Backend) : World Text Backend :=
  { world with scoring_queue := world.scoring_queue.dropLast }

def sleep (seconds : Option ℚ) (world : World Text Backend) : World Text Backend :=
  { world with slept := world.slept ++ [seconds] }

def withBackend (backend : Backend) (world : World Text Backend) : World Text Backend :=
  { world with backend }

end World

variable (json : JsonModule Text)

/-- `enqueue_scoring_job`. -/
def enqueueScoringJob (request : ScoringRequest) :
    Effectful (World Text Backend) PyException Unit :=
  .modify (World.lpushQueue (json.dumps (scoringJob request 0)))

/-- What the handler of a failed attempt decides before it touches Redis. -/
inductive FailedAttempt where
  | retry (retry_count : Json) (backoff : Option ℚ)
  | deadLetter
deriving Inhabited

/-- The decision taken in the `except` block. It computes with a field of the job. -/
def failedAttempt (retry_count : Json) : Except PyException FailedAttempt := do
  if ← retry_count.isLess MAX_RETRIES then
    let retry_count ← retry_count.plus 1
    let exponent ← retry_count.plus (-1)
    let backoff ← exponent.scaledPowerOfTwo BASE_BACKOFF_SECONDS
    pure (.retry retry_count backoff)
  else
    pure .deadLetter

variable (runtime : WorkerRuntime Text)

/-- The `except` block of `_handle_job_with_retry`. -/
def handleFailure (job_data retry_count : Json) :
    Effectful (World Text Backend) PyException Unit := do
  match ← .ofExcept (failedAttempt retry_count) with
  | .retry retry_count backoff =>
      let trace_id ← .ofExcept (job_data.getMethod "trace_id" .null)
      .ofExcept (runtime.warning trace_id retry_count backoff)
      .modify (World.sleep backoff)
      let job_data ← .ofExcept (job_data.setItem "_retry_count" retry_count)
      let text ← .ofExcept (runtime.dumps job_data)
      .modify (World.lpushQueue text)
  | .deadLetter =>
      let trace_id ← .ofExcept (job_data.getMethod "trace_id" .null)
      .ofExcept (runtime.error trace_id retry_count)
      let text ← .ofExcept (runtime.dumps job_data)
      .modify (World.lpushDlq text)

variable (process_job : Json → Effectful Backend PyException Unit)

/-- `_handle_job_with_retry`. -/
def handleJobWithRetry (job_json : Text) : Effectful (World Text Backend) PyException Unit := do
  let job_data ← .ofExcept (runtime.loads job_json)
  let retry_count ← .ofExcept (job_data.getMethod "_retry_count" (.int 0))
  .tryExcept (.onPart World.backend World.withBackend (process_job job_data))
    PyException.isException fun _ => handleFailure runtime job_data retry_count

/-- The body of the loop of `run_worker`. Nothing is caught around it. -/
def iteration : Effectful (World Text Backend) PyException Unit := do
  match (← .gets World.scoring_queue).getLast? with
  | none => pure ()
  | some job_json => do
      .modify World.popQueue
      handleJobWithRetry runtime process_job job_json

/-- The loop of `run_worker` over a number of iterations. -/
def runWorker : Nat → Effectful (World Text Backend) PyException Unit
  | 0 => pure ()
  | further + 1 => do
      iteration runtime process_job
      runWorker further

/-! ## The handler, case by case -/

variable {json runtime process_job} {world : World Text Backend} {job_json : Text}
  {job_data : Json} {entries : List (String × Json)}

/-- A text that does not decode raises before anything happens. -/
theorem run_handle_of_loads_error {failure : PyException}
    (undecodable : runtime.loads job_json = .error failure) :
    (handleJobWithRetry runtime process_job job_json).run world = (.error failure, world) := by
  simp [handleJobWithRetry, undecodable]

/-- So does a value that is not a dictionary. -/
theorem run_handle_of_getMethod_error {failure : PyException}
    (decoded : runtime.loads job_json = .ok job_data)
    (noMethod : job_data.getMethod "_retry_count" (.int 0) = .error failure) :
    (handleJobWithRetry runtime process_job job_json).run world = (.error failure, world) := by
  simp [handleJobWithRetry, decoded, noMethod]

/-- The handler on a dictionary is the `try` statement. -/
theorem run_handle_of_dict (decoded : runtime.loads job_json = .ok (.dict entries)) :
    (handleJobWithRetry runtime process_job job_json).run world =
      (Effectful.tryExcept (.onPart World.backend World.withBackend (process_job (.dict entries)))
        PyException.isException fun _ => handleFailure runtime (.dict entries)
          ((OrderedDict.find "_retry_count" entries).getD (.int 0))).run world := by
  simp [handleJobWithRetry, decoded, Json.getMethod]

/-- A processed job leaves the lists alone. -/
theorem run_handle_of_processed (decoded : runtime.loads job_json = .ok (.dict entries))
    {backend : Backend}
    (processed : (process_job (.dict entries)).run world.backend = (.ok (), backend)) :
    (handleJobWithRetry runtime process_job job_json).run world =
      (.ok (), world.withBackend backend) := by
  rw [run_handle_of_dict decoded]
  exact Effectful.run_tryExcept_of_ok _ (by rw [Effectful.run_onPart, processed])

/-- After a failed attempt the `except` block runs, if the exception is caught. -/
theorem run_handle_of_failed (decoded : runtime.loads job_json = .ok (.dict entries))
    {backend : Backend} {failure : PyException}
    (failed : (process_job (.dict entries)).run world.backend = (.error failure, backend)) :
    (handleJobWithRetry runtime process_job job_json).run world =
      if failure.isException then
        (handleFailure runtime (.dict entries)
          ((OrderedDict.find "_retry_count" entries).getD (.int 0))).run
            (world.withBackend backend)
      else (.error failure, world.withBackend backend) := by
  rw [run_handle_of_dict decoded]
  exact Effectful.run_tryExcept_of_error _ (by rw [Effectful.run_onPart, failed])

/-- The decision of the `except` block, by the kind of the retry count. -/
theorem failedAttempt_eq (retry_count : Json) :
    failedAttempt retry_count =
      match retry_count with
      | .int count =>
          if count < 3 then
            if count ≤ -floatOverflowBound then .error .overflowError
            else .ok (.retry (.int (count + 1)) (some (2 * powerOfTwo count)))
          else .ok .deadLetter
      | .bool truth => .ok (.retry (.int (truth.toNat + 1)) (some (2 * 2 ^ truth.toNat)))
      | .float (.finite count) =>
          if count < 3 then .ok (.retry (.float (.finite (toFloat (count + 1)))) none)
          else .ok .deadLetter
      | .float .negInf => .ok (.retry (.float .negInf) none)
      | .float .posInf | .float .nan => .ok .deadLetter
      | _ => .error .typeError := by
  cases retry_count with
  | int count =>
      by_cases few : count < 3
      · -- The power that is computed is that of the old count.
        have small : count < 1024 := few.trans (by decide)
        by_cases tooLow : count ≤ -floatOverflowBound <;>
          simp [failedAttempt, Json.isLess, Json.plus, Json.scaledPowerOfTwo, MAX_RETRIES,
            BASE_BACKOFF_SECONDS, few, tooLow, small.not_ge, bind, Except.bind, pure, Except.pure]
      · simp [failedAttempt, Json.isLess, MAX_RETRIES, few, bind, Except.bind, pure, Except.pure]
  | bool truth =>
      have few : (truth.toNat : Int) < 3 := by cases truth <;> decide
      have bound : (0 : Int) < floatOverflowBound := by decide +kernel
      have exact : ¬ (truth.toNat : Int) ≤ -floatOverflowBound := by omega
      have small : ¬ (1024 : Int) ≤ truth.toNat := not_le.mpr (few.trans (by decide))
      simp [failedAttempt, Json.isLess, Json.plus, Json.scaledPowerOfTwo, MAX_RETRIES,
        BASE_BACKOFF_SECONDS, few, exact, small, bind, Except.bind, pure, Except.pure]
  | float value =>
      cases value with
      | finite count =>
          by_cases few : count < 3 <;>
            simp [failedAttempt, Json.isLess, Json.plus, Json.scaledPowerOfTwo, MAX_RETRIES, few,
              bind, Except.bind, pure, Except.pure]
      | posInf => rfl
      | negInf => rfl
      | nan => rfl
  | null => rfl
  | str text => rfl
  | list items => rfl
  | dict fields => rfl

/-- The effect of the `except` block on a dictionary, by its decision. -/
theorem run_handleFailure (retry_count : Json) :
    (handleFailure runtime (.dict entries) retry_count).run world =
      match failedAttempt retry_count with
      | .error failure => (.error failure, world)
      | .ok (.retry counted backoff) =>
          match runtime.warning ((OrderedDict.find "trace_id" entries).getD .null) counted
            backoff with
          | .error failure => (.error failure, world)
          | .ok _ =>
              match runtime.dumps
                (.dict (OrderedDict.write "_retry_count" (fun _ => counted) entries)) with
              | .error failure => (.error failure, world.sleep backoff)
              | .ok text => (.ok (), (world.sleep backoff).lpushQueue text)
      | .ok .deadLetter =>
          match runtime.error ((OrderedDict.find "trace_id" entries).getD .null) retry_count with
          | .error failure => (.error failure, world)
          | .ok _ =>
              match runtime.dumps (.dict entries) with
              | .error failure => (.error failure, world)
              | .ok text => (.ok (), world.lpushDlq text) := by
  cases decided : failedAttempt retry_count with
  | error failure => simp [handleFailure, decided]
  | ok decision =>
      cases decision with
      | retry counted backoff =>
          cases logged : runtime.warning ((OrderedDict.find "trace_id" entries).getD .null)
              counted backoff with
          | error failure => simp [handleFailure, decided, Json.getMethod, logged]
          | ok done =>
              cases dumped : runtime.dumps
                  (.dict (OrderedDict.write "_retry_count" (fun _ => counted) entries)) <;>
                simp [handleFailure, decided, Json.getMethod, logged, Json.setItem, dumped]
      | deadLetter =>
          cases logged : runtime.error ((OrderedDict.find "trace_id" entries).getD .null)
              retry_count with
          | error failure => simp [handleFailure, decided, Json.getMethod, logged]
          | ok done =>
              cases dumped : runtime.dumps (.dict entries) <;>
                simp [handleFailure, decided, Json.getMethod, logged, dumped]

/-- Without exceptions from the logger and from `json.dumps` the block pushes the job. -/
theorem run_handleFailure_reliable (retry_count : Json) :
    (handleFailure (.reliable json) (.dict entries) retry_count).run world =
      match failedAttempt retry_count with
      | .error failure => (.error failure, world)
      | .ok (.retry counted backoff) =>
          (.ok (), (world.sleep backoff).lpushQueue (json.dumps
            (.dict (OrderedDict.write "_retry_count" (fun _ => counted) entries))))
      | .ok .deadLetter => (.ok (), world.lpushDlq (json.dumps (.dict entries))) := by
  rw [run_handleFailure]
  rfl

/-- An iteration with a text on the queue pops the last one and handles it. -/
theorem run_iteration_append (world : World Text Backend) (job_json : Text) :
    (iteration runtime process_job).run
        { world with scoring_queue := world.scoring_queue ++ [job_json] } =
      (handleJobWithRetry runtime process_job job_json).run world := by
  simp [iteration, World.popQueue]

end Worker

/-! ## Jobs that were enqueued -/

theorem getMethod_retry_count (request : ScoringRequest) (retries : Nat) (default : Json) :
    (scoringJob request retries).getMethod "_retry_count" default = .ok (.int retries) := rfl

theorem setItem_retry_count (request : ScoringRequest) (retries counted : Nat) :
    (scoringJob request retries).setItem "_retry_count" (.int counted) =
      .ok (scoringJob request counted) := rfl

/-- An enqueued job that failed is retried after two, four and eight seconds, and
then it is a dead letter. -/
theorem failedAttempt_retries (retries : Nat) :
    failedAttempt (.int retries) =
      .ok (if retries < 3 then .retry (.int (retries + 1 : Nat)) (some (2 * 2 ^ retries))
        else .deadLetter) := by
  rw [failedAttempt_eq]
  have bound : (0 : Int) < floatOverflowBound := by decide +kernel
  have exact : ¬ (retries : Int) ≤ -floatOverflowBound := by omega
  by_cases few : retries < 3
  · have isLess : (retries : Int) < 3 := by exact_mod_cast few
    simp [few, isLess, exact]
  · have notLess : ¬ (retries : Int) < 3 := by exact_mod_cast few
    simp [few, notLess]

section Enqueued

variable {Text Backend : Type} {json : JsonModule Text}
  {process_job : Json → Effectful Backend PyException Unit} {world : World Text Backend}
  {request : ScoringRequest} {retries : Nat} {job_json : Text}

/-- Handling a copy of an enqueued job, when it can be logged and dumped: the lists
afterwards are determined by the outcome of its processing and by the number of earlier
failures. -/
theorem run_handle_scoringJob (decoded : json.loads job_json = .ok (scoringJob request retries)) :
    (handleJobWithRetry (.reliable json) process_job job_json).run world =
      match (process_job (scoringJob request retries)).run world.backend with
      | (.ok _, backend) => (.ok (), world.withBackend backend)
      | (.error failure, backend) =>
          if failure.isException then
            if retries < 3 then
              (.ok (),
                ((world.withBackend backend).sleep (some (2 * 2 ^ retries))).lpushQueue
                  (json.dumps (scoringJob request (retries + 1))))
            else
              (.ok (), (world.withBackend backend).lpushDlq
                (json.dumps (scoringJob request retries)))
          else (.error failure, world.withBackend backend) := by
  have loaded : (WorkerRuntime.reliable json).loads job_json = .ok (scoringJob request retries) :=
    decoded
  rcases outcome : (process_job (scoringJob request retries)).run world.backend with
    ⟨failure | done, backend⟩
  · rw [run_handle_of_failed loaded outcome]
    by_cases caught : failure.isException
    · simp only [if_pos caught]
      refine (run_handleFailure_reliable (.int retries)).trans ?_
      rw [failedAttempt_retries]
      by_cases few : retries < 3
      · simp only [if_pos few]
        rfl
      · simp only [if_neg few]
        rfl
    · simp only [if_neg caught]
  · exact run_handle_of_processed loaded outcome

end Enqueued

end LlmopsPlatform.Workers
