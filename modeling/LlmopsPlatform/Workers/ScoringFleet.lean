import LlmopsPlatform.Foundations.TransitionSystem
import LlmopsPlatform.Workers.ScoringWorker

/-!
# A fleet of scoring workers

Any number of workers share the Redis lists. A step is one enqueued job, one Redis
command, one processed job, one sleep that ends, a shutdown signal, or the death of a
worker process. Between two steps of one worker every other worker may move.

The steps of one worker that is not interrupted are the iterations of its loop
(`steps_of_iteration`).
-/

set_option autoImplicit false

namespace LlmopsPlatform.Workers

open Foundations Python TransitionSystem

/-- A copy of a job. The ticket is the position of the job among all that were
enqueued; it identifies the job here and is not part of the text. -/
structure Copy (Text : Type) where
  ticket : Nat
  text : Text

/-- Where a worker is in its loop, and the copy it has in memory. -/
inductive WorkerPhase (Text : Type) where
  /-- Before the test of `_shutdown`. -/
  | idle
  /-- In `brpop`. -/
  | waiting
  /-- The copy was popped and is not processed yet. -/
  | handling (copy : Copy Text)
  /-- Asleep before a retry. -/
  | backingOff (copy : Copy Text) (job_data retry_count : Json)
  /-- About to push the text back. -/
  | requeueing (copy : Copy Text) (text : Text)
  /-- About to push the text onto the dead-letter list. -/
  | deadLettering (copy : Copy Text) (text : Text)
  | stopped
  /-- Killed, or ended by an exception. -/
  | dead (lost : Option (Copy Text))

namespace WorkerPhase

variable {Text : Type}

/-- The copy a worker has in memory, or had when it died. -/
def held : WorkerPhase Text → Option (Copy Text)
  | handling copy | backingOff copy _ _ | requeueing copy _ | deadLettering copy _ => some copy
  | dead lost => lost
  | idle | waiting | stopped => none

def alive : WorkerPhase Text → Bool
  | stopped | dead _ => false
  | _ => true

end WorkerPhase

/-- The shared lists and the phase of every worker. The requests that were enqueued
and the tickets that were processed successfully are recorded. -/
structure Fleet (Text Worker : Type) where
  queue : List (Copy Text)
  dlq : List (Copy Text)
  phase : Worker → WorkerPhase Text
  shutdown : Worker → Bool
  requests : List ScoringRequest
  processed : List Nat

inductive FleetStep (Worker : Type) where
  | enqueue (request : ScoringRequest)
  | check (worker : Worker)
  | brpop (worker : Worker)
  | process (worker : Worker) (outcome : Except PyException Unit)
  | wake (worker : Worker)
  | lpush (worker : Worker)
  | signal (worker : Worker)
  | kill (worker : Worker)

section System

variable {Text Worker : Type} [DecidableEq Worker] (json : JsonModule Text)

/-- `_handle_job_with_retry` up to the sleep or the push, given how processing ends.
The exceptions that it raises end the worker. -/
def attemptPhase (copy : Copy Text) (outcome : Except PyException Unit) :
    Except PyException (WorkerPhase Text) := do
  let job_data ← json.loads copy.text
  let retry_count ← job_data.getMethod "_retry_count" (.int 0)
  match outcome with
  | .ok () => pure .idle
  | .error failure =>
      if failure.isException then
        match ← failedAttempt retry_count with
        | .retry counted _ => pure (.backingOff copy job_data counted)
        | .deadLetter => pure (.deadLettering copy (json.dumps job_data))
      else throw failure

namespace Fleet

variable (fleet : Fleet Text Worker) (worker : Worker)

def setPhase (phase : WorkerPhase Text) : Fleet Text Worker :=
  { fleet with phase := Function.update fleet.phase worker phase }

def afterEnqueue (request : ScoringRequest) : Fleet Text Worker :=
  { fleet with
    queue := ⟨fleet.requests.length, json.dumps (scoringJob request 0)⟩ :: fleet.queue
    requests := fleet.requests ++ [request] }

def afterPop : Fleet Text Worker :=
  match fleet.queue.getLast? with
  | none => fleet.setPhase worker .idle
  | some copy => { fleet with queue := fleet.queue.dropLast }.setPhase worker (.handling copy)

def afterProcess (copy : Copy Text) (outcome : Except PyException Unit) : Fleet Text Worker :=
  match attemptPhase json copy outcome with
  | .error _ => fleet.setPhase worker (.dead (some copy))
  | .ok .idle => { fleet with processed := copy.ticket :: fleet.processed }.setPhase worker .idle
  | .ok phase => fleet.setPhase worker phase

def afterWake (copy : Copy Text) (job_data retry_count : Json) : Fleet Text Worker :=
  match job_data.setItem "_retry_count" retry_count with
  | .error _ => fleet.setPhase worker (.dead (some copy))
  | .ok job_data => fleet.setPhase worker (.requeueing copy (json.dumps job_data))

def afterRequeue (copy : Copy Text) (text : Text) : Fleet Text Worker :=
  { fleet with queue := ⟨copy.ticket, text⟩ :: fleet.queue }.setPhase worker .idle

def afterDeadLetter (copy : Copy Text) (text : Text) : Fleet Text Worker :=
  { fleet with dlq := ⟨copy.ticket, text⟩ :: fleet.dlq }.setPhase worker .idle

end Fleet

def fleetNext (fleet : Fleet Text Worker) : FleetStep Worker → Option (Fleet Text Worker)
  | .enqueue request => some (fleet.afterEnqueue json request)
  | .check worker =>
      match fleet.phase worker with
      | .idle => some (fleet.setPhase worker (if fleet.shutdown worker then .stopped else .waiting))
      | _ => none
  | .brpop worker =>
      match fleet.phase worker with
      | .waiting => some (fleet.afterPop worker)
      | _ => none
  | .process worker outcome =>
      match fleet.phase worker with
      | .handling copy => some (fleet.afterProcess json worker copy outcome)
      | _ => none
  | .wake worker =>
      match fleet.phase worker with
      | .backingOff copy job_data retry_count =>
          some (fleet.afterWake json worker copy job_data retry_count)
      | _ => none
  | .lpush worker =>
      match fleet.phase worker with
      | .requeueing copy text => some (fleet.afterRequeue worker copy text)
      | .deadLettering copy text => some (fleet.afterDeadLetter worker copy text)
      | _ => none
  | .signal worker => some { fleet with shutdown := Function.update fleet.shutdown worker true }
  | .kill worker =>
      if (fleet.phase worker).alive then
        some (fleet.setPhase worker (.dead (fleet.phase worker).held))
      else none

/-- The fleet. At the start nothing was enqueued and no worker has begun. -/
def fleetSystem : TransitionSystem (Fleet Text Worker) (FleetStep Worker) where
  initial fleet :=
    fleet.queue = [] ∧ fleet.dlq = [] ∧ fleet.requests = [] ∧ ∀ worker, fleet.phase worker = .idle
  next := fleetNext json

variable {json} {fleet : Fleet Text Worker}

/-- What a step requires of the phase of its worker, and what it leads to. -/
theorem fleetNext_cases {label : FleetStep Worker} {after : Fleet Text Worker}
    (step : fleetNext json fleet label = some after) :
    match label with
    | .enqueue request => after = fleet.afterEnqueue json request
    | .check worker =>
        fleet.phase worker = .idle ∧
          after = fleet.setPhase worker (if fleet.shutdown worker then .stopped else .waiting)
    | .brpop worker => fleet.phase worker = .waiting ∧ after = fleet.afterPop worker
    | .process worker outcome =>
        ∃ copy, fleet.phase worker = .handling copy ∧
          after = fleet.afterProcess json worker copy outcome
    | .wake worker =>
        ∃ copy job_data retry_count, fleet.phase worker = .backingOff copy job_data retry_count ∧
          after = fleet.afterWake json worker copy job_data retry_count
    | .lpush worker =>
        ∃ copy text,
          fleet.phase worker = .requeueing copy text ∧
              after = fleet.afterRequeue worker copy text ∨
            fleet.phase worker = .deadLettering copy text ∧
              after = fleet.afterDeadLetter worker copy text
    | .signal worker =>
        after = { fleet with shutdown := Function.update fleet.shutdown worker true }
    | .kill worker =>
        (fleet.phase worker).alive ∧
          after = fleet.setPhase worker (.dead (fleet.phase worker).held) := by
  unfold fleetNext at step
  cases label with
  | enqueue request => exact (Option.some.inj step).symm
  | signal worker => exact (Option.some.inj step).symm
  | check worker =>
      dsimp only at step
      split at step
      · rename_i idle
        exact ⟨idle, (Option.some.inj step).symm⟩
      · cases step
  | brpop worker =>
      dsimp only at step
      split at step
      · rename_i waiting
        exact ⟨waiting, (Option.some.inj step).symm⟩
      · cases step
  | process worker outcome =>
      dsimp only at step
      split at step
      · rename_i copy handling
        exact ⟨copy, handling, (Option.some.inj step).symm⟩
      · cases step
  | wake worker =>
      dsimp only at step
      split at step
      · rename_i copy job_data retry_count asleep
        exact ⟨copy, job_data, retry_count, asleep, (Option.some.inj step).symm⟩
      · cases step
  | lpush worker =>
      dsimp only at step
      split at step
      · rename_i copy text requeueing
        exact ⟨copy, text, .inl ⟨requeueing, (Option.some.inj step).symm⟩⟩
      · rename_i copy text deadLettering
        exact ⟨copy, text, .inr ⟨deadLettering, (Option.some.inj step).symm⟩⟩
      · cases step
  | kill worker =>
      dsimp only at step
      split at step
      · rename_i alive
        exact ⟨alive, (Option.some.inj step).symm⟩
      · cases step

/-! ## One worker that is not interrupted -/

/-- What the handler does with a copy, by the phase that its processing leads to. -/
theorem run_handle_of_attemptPhase (copy : Copy Text) (outcome : Except PyException Unit)
    (world : World Text Unit) {handled : Except PyException Unit × World Text Unit}
    (isHandled : (handleJobWithRetry (.reliable json) (fun _ => .ofExcept outcome) copy.text).run
      world = handled) :
    match attemptPhase json copy outcome with
    | .error failure => handled = (.error failure, world)
    | .ok .idle => handled = (.ok (), world)
    | .ok (.backingOff held job_data counted) =>
        held = copy ∧ ∃ retried backoff, job_data.setItem "_retry_count" counted = .ok retried ∧
          handled = (.ok (), (world.sleep backoff).lpushQueue (json.dumps retried))
    | .ok (.deadLettering held text) => held = copy ∧ handled = (.ok (), world.lpushDlq text)
    | .ok _ => False := by
  subst isHandled
  cases decoded : json.loads copy.text with
  | error failure =>
      rw [run_handle_of_loads_error decoded]
      simp [attemptPhase, decoded, bind, Except.bind]
  | ok data =>
      cases isDict : data.getMethod "_retry_count" (.int 0) with
      | error failure =>
          rw [run_handle_of_getMethod_error decoded isDict]
          simp [attemptPhase, decoded, isDict, bind, Except.bind]
      | ok retry_count =>
          obtain ⟨entries, rfl⟩ : ∃ entries, data = .dict entries := by
            cases data <;> cases isDict
            exact ⟨_, rfl⟩
          obtain rfl : (OrderedDict.find "_retry_count" entries).getD (.int 0) = retry_count := by
            simpa [Json.getMethod] using isDict
          cases outcome with
          | ok done =>
              rw [run_handle_of_processed decoded rfl]
              simp [attemptPhase, decoded, isDict, bind, Except.bind, pure, Except.pure,
                World.withBackend]
          | error failure =>
              rw [run_handle_of_failed decoded rfl]
              by_cases caught : failure.isException
              · rw [if_pos caught, run_handleFailure_reliable]
                cases decided : failedAttempt
                    ((OrderedDict.find "_retry_count" entries).getD (.int 0)) with
                | error raised =>
                    simp [attemptPhase, decoded, isDict, caught, decided, bind, Except.bind,
                      World.withBackend]
                | ok decision =>
                    cases decision <;>
                      simp [attemptPhase, decoded, isDict, caught, decided, bind, Except.bind,
                        pure, Except.pure, World.withBackend, Json.setItem]
                    exact ⟨_, rfl⟩
              · rw [if_neg caught]
                simp [attemptPhase, decoded, isDict, caught, bind, Except.bind, throw, throwThe,
                  MonadExceptOf.throw, World.withBackend]

/-- The lists of the fleet are those of the world. -/
def Fleet.Shows {Backend : Type} (fleet : Fleet Text Worker) (world : World Text Backend) : Prop :=
  fleet.queue.map Copy.text = world.scoring_queue ∧ fleet.dlq.map Copy.text = world.scoring_dlq

omit [DecidableEq Worker] in
/-- The step that enqueues a job does what `enqueue_scoring_job` does. -/
theorem Fleet.Shows.afterEnqueue {Backend : Type} {world : World Text Backend}
    (shows : fleet.Shows world) (request : ScoringRequest) :
    (fleet.afterEnqueue json request).Shows ((enqueueScoringJob json request).run world).2 :=
  ⟨congrArg (json.dumps (scoringJob request 0) :: ·) shows.1, shows.2⟩

/-- The steps of a worker that popped a copy do what the handler does. -/
theorem steps_of_handle {worker : Worker} {copy : Copy Text}
    (handling : fleet.phase worker = .handling copy) (outcome : Except PyException Unit)
    {world : World Text Unit} (shows : fleet.Shows world)
    {handled : Except PyException Unit × World Text Unit}
    (isHandled : (handleJobWithRetry (.reliable json) (fun _ => .ofExcept outcome) copy.text).run
      world = handled) :
    ∃ labels after, (fleetSystem json).execute labels fleet = some after ∧
      after.Shows handled.2 ∧ (handled.1 = .ok () ↔ after.phase worker = .idle) := by
  have process : (fleetSystem json).next fleet (.process worker outcome) =
      some (fleet.afterProcess json worker copy outcome) := by
    simp [fleetSystem, fleetNext, handling]
  have byPhase := run_handle_of_attemptPhase copy outcome world isHandled
  cases reached : attemptPhase json copy outcome with
  | error failure =>
      rw [reached] at byPhase
      subst byPhase
      refine ⟨[.process worker outcome], _, execute_cons process, ?_⟩
      rw [Fleet.afterProcess, reached]
      exact ⟨shows, by simp [Fleet.setPhase]⟩
  | ok phase =>
      rw [reached] at byPhase
      cases phase with
      | idle =>
          subst byPhase
          refine ⟨[.process worker outcome], _, execute_cons process, ?_⟩
          rw [Fleet.afterProcess, reached]
          exact ⟨shows, by simp [Fleet.setPhase]⟩
      | backingOff held job_data counted =>
          obtain ⟨rfl, retried, backoff, set, rfl⟩ := byPhase
          let asleep := fleet.setPhase worker (.backingOff held job_data counted)
          let awake := asleep.setPhase worker (.requeueing held (json.dumps retried))
          have wake : (fleetSystem json).next asleep (.wake worker) = some awake := by
            simp [fleetSystem, fleetNext, asleep, awake, Fleet.setPhase, Fleet.afterWake, set]
          have push : (fleetSystem json).next awake (.lpush worker) =
              some (awake.afterRequeue worker held (json.dumps retried)) := by
            simp [fleetSystem, fleetNext, awake, Fleet.setPhase]
          rw [Fleet.afterProcess, reached] at process
          refine ⟨[.process worker outcome, .wake worker, .lpush worker],
            awake.afterRequeue worker held (json.dumps retried), ?_, ?_, ?_⟩
          · exact (execute_cons process).trans ((execute_cons wake).trans (execute_cons push))
          · exact ⟨congrArg (json.dumps retried :: ·) shows.1, shows.2⟩
          · simp [Fleet.afterRequeue, Fleet.setPhase]
      | deadLettering held text =>
          obtain ⟨rfl, rfl⟩ := byPhase
          let pushing := fleet.setPhase worker (.deadLettering held text)
          have push : (fleetSystem json).next pushing (.lpush worker) =
              some (pushing.afterDeadLetter worker held text) := by
            simp [fleetSystem, fleetNext, pushing, Fleet.setPhase]
          rw [Fleet.afterProcess, reached] at process
          refine ⟨[.process worker outcome, .lpush worker],
            pushing.afterDeadLetter worker held text, ?_, ?_, ?_⟩
          · exact (execute_cons process).trans (execute_cons push)
          · exact ⟨shows.1, congrArg (text :: ·) shows.2⟩
          · simp [Fleet.afterDeadLetter, Fleet.setPhase]
      | waiting => exact byPhase.elim
      | handling other => exact byPhase.elim
      | requeueing other text => exact byPhase.elim
      | stopped => exact byPhase.elim
      | dead lost => exact byPhase.elim

/-- **Iterations are uninterrupted steps.** When no other worker moves in between, the
steps of a worker from the pop on change the lists as one iteration of its loop does,
and the worker is back at the top of the loop exactly if the iteration raises nothing. -/
theorem steps_of_iteration (json : JsonModule Text) {worker : Worker}
    (waiting : fleet.phase worker = .waiting) (outcome : Except PyException Unit)
    {world : World Text Unit} (shows : fleet.Shows world) :
    ∃ labels after, (fleetSystem json).execute labels fleet = some after ∧
      after.Shows ((iteration (.reliable json) fun _ => .ofExcept outcome).run world).2 ∧
      (((iteration (.reliable json) fun _ => .ofExcept outcome).run world).1 = .ok () ↔
        after.phase worker = .idle) := by
  have popStep : (fleetSystem json).next fleet (.brpop worker) = some (fleet.afterPop worker) := by
    simp [fleetSystem, fleetNext, waiting]
  cases last : fleet.queue.getLast? with
  | none =>
      have emptyQueue : world.scoring_queue = [] := by
        rw [← shows.1, List.getLast?_eq_none_iff.mp last, List.map_nil]
      have nothing : (iteration (.reliable json) fun _ => .ofExcept outcome).run world =
          (.ok (), world) := by
        simp [iteration, emptyQueue]
      refine ⟨[.brpop worker], _, execute_cons popStep, ?_⟩
      rw [nothing, Fleet.afterPop, last]
      exact ⟨shows, by simp [Fleet.setPhase]⟩
  | some copy =>
      obtain ⟨rest, queue⟩ := List.getLast?_eq_some_iff.mp last
      let popped : World Text Unit := { world with scoring_queue := rest.map Copy.text }
      have listed : rest.map Copy.text ++ [copy.text] = world.scoring_queue := by
        rw [← shows.1, queue, List.map_append]
        rfl
      have whole :
          { popped with scoring_queue := popped.scoring_queue ++ [copy.text] } = world := by
        simp only [popped, listed]
      have afterPop : fleet.afterPop worker =
          { fleet with queue := rest }.setPhase worker (.handling copy) := by
        rw [Fleet.afterPop, last, queue, List.dropLast_concat]
      have showsPopped : (fleet.afterPop worker).Shows popped := by
        rw [afterPop]
        exact ⟨rfl, shows.2⟩
      have handling : (fleet.afterPop worker).phase worker = .handling copy := by
        rw [afterPop]
        simp [Fleet.setPhase]
      obtain ⟨labels, after, executed, afterShows, backIdle⟩ :=
        steps_of_handle handling outcome showsPopped rfl
      refine ⟨.brpop worker :: labels, after, (execute_cons popStep).trans executed, ?_⟩
      rw [← whole, run_iteration_append]
      exact ⟨afterShows, backIdle⟩

end System

end LlmopsPlatform.Workers
