import LlmopsPlatform.Foundations.Stuttering
import LlmopsPlatform.Foundations.Tallies
import LlmopsPlatform.Workers.RetryAccounting
import Mathlib.Algebra.BigOperators.Ring.Finset
import Mathlib.Algebra.Order.BigOperators.Group.Finset

/-!
# The counters of the scoring workers

The handler of a worker counts every job that it processed, by its outcome, every retry and
every job that it gives up. The counters are added up here over all workers of a fleet.

A worker that dies counts nothing more, and neither would a worker that never moves again.
So a run in which workers are killed counts what a run counts in which they stay where they
are (`exists_spared_run`). Along every run and for every job the errors are the retries and
the dead letters together, the job is counted as settled at most once, and it is retried at
most three times (`counters_agree`). Once every job is settled the counters account for each
of them.
-/

set_option autoImplicit false

namespace LlmopsPlatform.Workers

open Foundations Python TransitionSystem

/-- The status label of `SCORING_JOBS_TOTAL`. -/
inductive JobStatus where
  | success
  | error
deriving DecidableEq

/-- The counters that the worker increments, with their labels. -/
inductive WorkerCounter where
  | scoring_jobs_total (status : JobStatus)
  | worker_retries_total
  | worker_dlq_total
deriving DecidableEq

section System

variable {Text Worker : Type} [DecidableEq Worker] (json : JsonModule Text)

/-- What `_handle_job_with_retry` counts, given how processing ends. A retry and a dead
letter are counted before the sleep and the push. -/
def increments (text : Text) (outcome : Except PyException Unit) : List WorkerCounter :=
  match json.loads text with
  | .error _ => []
  | .ok job_data =>
      match job_data.getMethod "_retry_count" (.int 0) with
      | .error _ => []
      | .ok retry_count =>
          match outcome with
          | .ok () => [.scoring_jobs_total .success]
          | .error failure =>
              if failure.isException then
                .scoring_jobs_total .error ::
                  match failedAttempt retry_count with
                  | .ok (.retry _ _) => [.worker_retries_total]
                  | .ok .deadLetter => [.worker_dlq_total]
                  | .error _ => []
              else []

/-- What a step counts, with the ticket of the job that is handled. -/
def counted (step : FleetTransition Text Worker) : List (ℕ × WorkerCounter) :=
  match step.label with
  | .process worker outcome =>
      match step.before.phase worker with
      | .handling copy => (increments json copy.text outcome).map fun counter =>
          (copy.ticket, counter)
      | _ => []
  | _ => []

/-- The value of a counter after a run. -/
def WorkerCounter.value (transitions : List (FleetTransition Text Worker))
    (counter : WorkerCounter) : ℕ :=
  (transitions.flatMap (counted json)).countP fun entry => entry.2 = counter

/-- How often a counter was incremented for one job. -/
def WorkerCounter.valueOn (transitions : List (FleetTransition Text Worker)) (ticket : ℕ)
    (counter : WorkerCounter) : ℕ :=
  (transitions.flatMap (counted json)).count (ticket, counter)

variable {json} {fleet after ghost : Fleet Text Worker} {label : FleetStep Worker}

/-! ## Workers that die -/

/-- The fleet with its dead workers alive and where they died. -/
structure Fleet.Spares (ghost fleet : Fleet Text Worker) : Prop where
  queue : ghost.queue = fleet.queue
  dlq : ghost.dlq = fleet.dlq
  shutdown : ghost.shutdown = fleet.shutdown
  requests : ghost.requests = fleet.requests
  processed : ghost.processed = fleet.processed
  phase : ∀ worker, fleet.phase worker = ghost.phase worker ∨
    fleet.phase worker = .dead (ghost.phase worker).held

namespace Fleet.Spares

variable {worker : Worker}

omit [DecidableEq Worker] in
theorem refl (fleet : Fleet Text Worker) : fleet.Spares fleet :=
  ⟨rfl, rfl, rfl, rfl, rfl, fun _ => .inl rfl⟩

omit [DecidableEq Worker] in
/-- A worker that is not dead is in the same phase. -/
theorem phase_eq (spares : ghost.Spares fleet) {phase : WorkerPhase Text}
    (inPhase : fleet.phase worker = phase) (lives : ∀ lost, phase ≠ .dead lost) :
    ghost.phase worker = phase := by
  rcases spares.phase worker with same | died
  · rw [← same, inPhase]
  · exact absurd (inPhase.symm.trans died) (lives _)

/-- The same change of a worker in both fleets. -/
theorem setPhase (spares : ghost.Spares fleet) (worker : Worker) (phase : WorkerPhase Text) :
    (ghost.setPhase worker phase).Spares (fleet.setPhase worker phase) where
  queue := spares.queue
  dlq := spares.dlq
  shutdown := spares.shutdown
  requests := spares.requests
  processed := spares.processed
  phase other := by
    by_cases same : other = worker
    · subst same
      simp [Fleet.setPhase]
    · simpa [Fleet.setPhase, Function.update_of_ne same] using spares.phase other

/-- A worker that dies stays where it is in the other fleet. -/
theorem dies (spares : ghost.Spares fleet) {lost : Option (Copy Text)}
    (held : (ghost.phase worker).held = lost) :
    ghost.Spares (fleet.setPhase worker (.dead lost)) where
  queue := spares.queue
  dlq := spares.dlq
  shutdown := spares.shutdown
  requests := spares.requests
  processed := spares.processed
  phase other := by
    by_cases same : other = worker
    · subst same
      simp [Fleet.setPhase, held]
    · simpa [Fleet.setPhase, Function.update_of_ne same] using spares.phase other

end Fleet.Spares

/-- The handler ends the worker when processing raises something that it does not catch. -/
theorem attemptPhase_of_uncaught {copy : Copy Text} {failure : PyException}
    (uncaught : ¬ failure.isException) :
    ∃ raised, attemptPhase json copy (.error failure) = .error raised := by
  cases decoded : json.loads copy.text with
  | error raised => exact ⟨raised, by simp [attemptPhase, decoded, bind, Except.bind]⟩
  | ok job_data =>
      cases isDict : job_data.getMethod "_retry_count" (.int 0) with
      | error raised => exact ⟨raised, by simp [attemptPhase, decoded, isDict, bind, Except.bind]⟩
      | ok retry_count =>
          exact ⟨failure, by simp [attemptPhase, decoded, isDict, uncaught, bind, Except.bind,
            throw, throwThe, MonadExceptOf.throw]⟩

theorem increments_of_uncaught {text : Text} {failure : PyException}
    (uncaught : ¬ failure.isException) : increments json text (.error failure) = [] := by
  unfold increments
  split
  · rfl
  · split
    · rfl
    · exact if_neg uncaught

/-- A step that ends no worker is taken in the other fleet as well. -/
theorem Fleet.Spares.follows (spares : ghost.Spares fleet)
    (step : fleetNext json fleet label = some after) (gentle : EndsNoWorker ⟨fleet, label, after⟩) :
    ∃ next, fleetNext json ghost label = some next ∧ next.Spares after ∧
      counted json ⟨ghost, label, next⟩ = counted json ⟨fleet, label, after⟩ := by
  have required := fleetNext_cases step
  cases label with
  | enqueue request =>
      have same : after = fleet.afterEnqueue json request := required
      subst same
      refine ⟨ghost.afterEnqueue json request, rfl, ?_, rfl⟩
      constructor
      · rw [Fleet.afterEnqueue, Fleet.afterEnqueue, spares.queue, spares.requests]
      · exact spares.dlq
      · exact spares.shutdown
      · rw [Fleet.afterEnqueue, Fleet.afterEnqueue, spares.requests]
      · exact spares.processed
      · exact spares.phase
  | signal worker =>
      have same : after =
          { fleet with shutdown := Function.update fleet.shutdown worker true } := required
      subst same
      refine ⟨_, rfl, ⟨spares.queue, spares.dlq, ?_, spares.requests, spares.processed,
        spares.phase⟩, rfl⟩
      rw [spares.shutdown]
  | kill worker => exact gentle.elim
  | check worker =>
      obtain ⟨idle, rfl⟩ := required
      have ghostIdle := spares.phase_eq idle (by simp)
      refine ⟨_, by rw [fleetNext, ghostIdle], ?_, rfl⟩
      rw [spares.shutdown]
      exact spares.setPhase worker _
  | brpop worker =>
      obtain ⟨waiting, rfl⟩ := required
      have ghostWaiting := spares.phase_eq waiting (by simp)
      refine ⟨_, by rw [fleetNext, ghostWaiting], ?_, rfl⟩
      unfold Fleet.afterPop
      rw [spares.queue]
      split
      · exact spares.setPhase worker _
      · refine Fleet.Spares.setPhase ?_ worker _
        exact ⟨rfl, spares.dlq, spares.shutdown, spares.requests, spares.processed, spares.phase⟩
  | process worker outcome =>
      obtain ⟨copy, handling, rfl⟩ := required
      have ghostHandling := spares.phase_eq handling (by simp)
      refine ⟨_, by rw [fleetNext, ghostHandling], ?_, by simp only [counted, handling,
        ghostHandling]⟩
      unfold Fleet.afterProcess
      split
      · exact spares.setPhase worker _
      · refine Fleet.Spares.setPhase ?_ worker _
        exact ⟨spares.queue, spares.dlq, spares.shutdown, spares.requests,
          congrArg (copy.ticket :: ·) spares.processed, spares.phase⟩
      · exact spares.setPhase worker _
  | wake worker =>
      obtain ⟨copy, job_data, retry_count, asleep, rfl⟩ := required
      have ghostAsleep := spares.phase_eq asleep (by simp)
      refine ⟨_, by rw [fleetNext, ghostAsleep], ?_, rfl⟩
      unfold Fleet.afterWake
      split <;> exact spares.setPhase worker _
  | lpush worker =>
      obtain ⟨copy, text, ⟨requeueing, rfl⟩ | ⟨deadLettering, rfl⟩⟩ := required
      · have ghostRequeueing := spares.phase_eq requeueing (by simp)
        refine ⟨_, by rw [fleetNext, ghostRequeueing], ?_, rfl⟩
        unfold Fleet.afterRequeue
        refine Fleet.Spares.setPhase ?_ worker _
        exact ⟨congrArg (List.cons _) spares.queue, spares.dlq, spares.shutdown, spares.requests,
          spares.processed, spares.phase⟩
      · have ghostDeadLettering := spares.phase_eq deadLettering (by simp)
        refine ⟨_, by rw [fleetNext, ghostDeadLettering], ?_, rfl⟩
        unfold Fleet.afterDeadLetter
        refine Fleet.Spares.setPhase ?_ worker _
        exact ⟨spares.queue, congrArg (List.cons _) spares.dlq, spares.shutdown, spares.requests,
          spares.processed, spares.phase⟩

/-- A step that ends a worker counts nothing. -/
theorem Fleet.Spares.skips (spares : ghost.Spares fleet)
    (step : fleetNext json fleet label = some after) (ends : ¬ EndsNoWorker ⟨fleet, label, after⟩) :
    ghost.Spares after ∧ counted json ⟨fleet, label, after⟩ = [] := by
  have required := fleetNext_cases step
  cases label with
  | kill worker =>
      obtain ⟨alive, rfl⟩ := required
      refine ⟨spares.dies ?_, rfl⟩
      rcases spares.phase worker with same | died
      · rw [same]
      · rw [died] at alive
        cases alive
  | process worker outcome =>
      obtain ⟨copy, handling, rfl⟩ := required
      have ghostHandling := spares.phase_eq handling (by simp)
      cases outcome with
      | ok done => exact absurd trivial ends
      | error failure =>
          have uncaught : ¬ failure.isException := ends
          obtain ⟨raised, dies⟩ := @attemptPhase_of_uncaught _ json copy failure uncaught
          refine ⟨?_, ?_⟩
          · rw [Fleet.afterProcess, dies]
            exact spares.dies (by rw [ghostHandling]; rfl)
          · simp only [counted, handling, increments_of_uncaught uncaught, List.map_nil]
  | _ => exact absurd trivial ends

variable {start finish : Fleet Text Worker} {transitions : List (FleetTransition Text Worker)}

/-- **Runs without deaths.** For every run there is one in which nothing ends a worker, that
counts the same and leads to the same lists. -/
theorem exists_spared_run (run : (fleetSystem json).Run start transitions finish) :
    ∃ spared survivors, (fleetSystem json).Run start survivors spared ∧ spared.Spares finish ∧
      (∀ step ∈ survivors, EndsNoWorker step) ∧
      survivors.flatMap (counted json) = transitions.flatMap (counted json) := by
  refine run.exists_answer (fun (fleet ghost : Fleet Text Worker) => ghost.Spares fleet)
    (fun step state spares taken => ?_) (Fleet.Spares.refl start)
  by_cases gentle : EndsNoWorker step
  · obtain ⟨next, moves, stays, same⟩ := spares.follows taken gentle
    exact .follows step.label next moves stays (by cases step; exact gentle) same
  · obtain ⟨stays, silent⟩ := spares.skips taken gentle
    exact .skips stays silent

/-! ## What is counted for one job -/

section Gentle

variable {codec : JsonCodec Text} {ticket : ℕ} {request : ScoringRequest}
  {stage next : JobStage Worker}

/-- How often a counter is incremented for a job up to a stage. -/
def JobStage.counts (stage : JobStage Worker) : WorkerCounter → ℕ
  | .scoring_jobs_total .success => stage.successes
  | .scoring_jobs_total .error => stage.failures
  | .worker_retries_total => min stage.failures 3
  | .worker_dlq_total => stage.failures - 3

/-- What the handler counts for a job that was enqueued. -/
theorem increments_scoringJob {text : Text} {retries : ℕ}
    (decoded : json.loads text = .ok (scoringJob request retries)) :
    increments json text (.ok ()) = [.scoring_jobs_total .success] ∧
      ∀ failure : PyException, failure.isException →
        increments json text (.error failure) =
          [.scoring_jobs_total .error,
            if retries < 3 then .worker_retries_total else .worker_dlq_total] := by
  constructor
  · simp [increments, decoded, getMethod_retry_count]
  · intro failure caught
    by_cases few : retries < 3 <;>
      simp [increments, decoded, getMethod_retry_count, failedAttempt_retries, caught, few]

omit [DecidableEq Worker] in
theorem valueOn_snoc (ticket : ℕ) (counter : WorkerCounter) (step : FleetTransition Text Worker) :
    counter.valueOn json (transitions ++ [step]) ticket =
      counter.valueOn json transitions ticket + (counted json step).count (ticket, counter) := by
  rw [WorkerCounter.valueOn, List.flatMap_append, List.count_append, List.flatMap_singleton,
    WorkerCounter.valueOn]

omit [DecidableEq Worker] in
/-- The step that ends an attempt. -/
theorem Fleet.attemptOn_eq_some {succeeded : Bool}
    (attempted : fleet.attemptOn ticket label = some succeeded) :
    ∃ worker outcome copy, label = .process worker outcome ∧
      fleet.phase worker = .handling copy ∧ copy.ticket = ticket ∧ outcome.isOk = succeeded := by
  cases label with
  | process worker outcome =>
      simp only [Fleet.attemptOn] at attempted
      split at attempted
      · rename_i copy handling
        split at attempted
        · rename_i same
          exact ⟨worker, outcome, copy, rfl, handling, same, Option.some.inj attempted⟩
        · cases attempted
      · cases attempted
  | _ => cases attempted

omit [DecidableEq Worker] in
/-- A step that ends no attempt on a job counts nothing for it. -/
theorem count_counted_of_no_attempt (noAttempt : fleet.attemptOn ticket label = none)
    (counter : WorkerCounter) :
    (counted json ⟨fleet, label, after⟩).count (ticket, counter) = 0 := by
  refine List.count_eq_zero.mpr fun member => ?_
  cases label with
  | process worker outcome =>
      simp only [counted] at member
      split at member
      · rename_i copy handling
        rw [Fleet.attemptOn_process handling] at noAttempt
        obtain ⟨other, -, same⟩ := List.mem_map.mp member
        cases same
        rw [if_pos rfl] at noAttempt
        cases noAttempt
      · cases member
  | _ => cases member

/-- **A step and the counters of a job.** A step that ends no worker moves the job to a stage
that counts what the step counts. -/
theorem Fleet.AtStage.counts_step
    (atStage : fleet.AtStage codec.toJsonModule ticket request stage)
    (effect : FleetEffect codec.toJsonModule fleet label after)
    (gentle : EndsNoWorker ⟨fleet, label, after⟩) (enqueued : ticket < fleet.requests.length) :
    ∃ next, after.AtStage codec.toJsonModule ticket request next ∧ ∀ counter,
      next.counts counter = stage.counts counter +
        (counted codec.toJsonModule ⟨fleet, label, after⟩).count (ticket, counter) := by
  obtain ⟨next, atNext, advances⟩ := atStage.step effect enqueued
  refine ⟨next, atNext, fun counter => ?_⟩
  cases attempted : fleet.attemptOn ticket label with
  | none =>
      rw [count_counted_of_no_attempt attempted]
      rcases advances with ⟨rfl, -, -⟩ | move
      · rfl
      · rw [attempted] at move
        cases move <;> cases counter <;> rfl
  | some succeeded =>
      obtain ⟨worker, outcome, copy, rfl, handling, rfl, isOk⟩ := Fleet.attemptOn_eq_some attempted
      obtain ⟨failures, rfl, decoded⟩ := atStage.of_handling handling rfl
      have increments := increments_scoringJob decoded
      have move : JobMove (.handling worker failures) (some succeeded) next := by
        rcases advances with ⟨-, none, -⟩ | move
        · rw [attempted] at none
          cases none
        · rwa [attempted] at move
      simp only [counted, handling]
      cases outcome with
      | ok done =>
          obtain rfl : true = succeeded := isOk
          rw [increments.1]
          cases move
          rcases counter with ⟨⟨⟩⟩ | - | - <;>
            simp [JobStage.counts, JobStage.successes, JobStage.failures]
      | error failure =>
          obtain rfl : false = succeeded := isOk
          rw [increments.2 failure gentle]
          cases move with
          | failed _ _ few =>
              have more : failures.val < 3 := by omega
              rcases counter with ⟨⟨⟩⟩ | - | - <;>
                simp [JobStage.counts, JobStage.successes, JobStage.failures, more] <;> omega
          | exhausted =>
              rcases counter with ⟨⟨⟩⟩ | - | - <;>
                simp [JobStage.counts, JobStage.successes, JobStage.failures]

/-! ## The counters of a run that ends no worker -/

variable (json) in
/-- The counters of every job agree with its stage, nothing is counted for other jobs, and a
success is counted for every job that was processed. -/
structure CounterLedger (start fleet : Fleet Text Worker)
    (transitions : List (FleetTransition Text Worker)) : Prop where
  ledger : Ledger json fleet transitions
  atStage : ∀ ticket request, fleet.requests[ticket]? = some request →
    ∃ stage, fleet.AtStage json ticket request stage ∧
      ∀ counter, WorkerCounter.valueOn json transitions ticket counter = stage.counts counter
  known : ∀ entry ∈ transitions.flatMap (counted json), entry.1 < fleet.requests.length
  processed : fleet.processed.length =
    start.processed.length + WorkerCounter.value json transitions (.scoring_jobs_total .success)

omit [DecidableEq Worker] in
/-- What is counted is counted for an enqueued job. -/
theorem FleetInvariant.lt_of_counted (sound : FleetInvariant json fleet) {entry : ℕ × WorkerCounter}
    (member : entry ∈ counted json ⟨fleet, label, after⟩) : entry.1 < fleet.requests.length := by
  cases label with
  | process worker outcome =>
      simp only [counted] at member
      split at member
      · rename_i copy handling
        obtain ⟨counter, -, rfl⟩ := List.mem_map.mp member
        have holds : (fleet.phase worker).Holds copy.ticket := by simp [handling]
        exact sound.lt_of_holds holds
      · cases member
  | _ => cases member

/-- A step counts a success when it processes a job, and only then. -/
theorem FleetEffect.processed (effect : FleetEffect json fleet label after)
    (sound : FleetInvariant json fleet) (gentle : EndsNoWorker ⟨fleet, label, after⟩) :
    after.processed.length = fleet.processed.length +
      (counted json ⟨fleet, label, after⟩).countP
        fun entry => entry.2 = .scoring_jobs_total .success := by
  cases effect with
  | succeeded worker copy handling =>
      have genuine := sound.phaseSound worker
      rw [handling] at genuine
      obtain ⟨request, -, retries, decoded⟩ := genuine
      simp [counted, handling, (increments_scoringJob decoded).1, Fleet.setPhase]
  | failed worker copy failure request retries handling decoded few =>
      simp [counted, handling, (increments_scoringJob decoded).2 failure gentle, few,
        Fleet.setPhase]
  | exhausted worker copy failure request retries handling decoded many =>
      simp [counted, handling, (increments_scoringJob decoded).2 failure gentle, many,
        Fleet.setPhase]
  | _ => rfl

/-- A step keeps the ledger of the counters. -/
theorem CounterLedger.step (counters : CounterLedger codec.toJsonModule start fleet transitions)
    (taken : fleetNext codec.toJsonModule fleet label = some after)
    (gentle : EndsNoWorker ⟨fleet, label, after⟩) :
    CounterLedger codec.toJsonModule start after (transitions ++ [⟨fleet, label, after⟩]) := by
  obtain ⟨ledger, atStage, known, processed⟩ := counters
  have effect : FleetEffect codec.toJsonModule fleet label after :=
    fleetNext_effect ⟨fleet, label, after⟩ ledger.sound taken gentle
  have keepsKnown : fleet.requests.length ≤ after.requests.length := by
    rcases effect.requests with same | ⟨new, -, rfl⟩
    · rw [same]
    · simp [Fleet.afterEnqueue]
  refine ⟨ledger.step effect (ledger.sound.step taken), ?_, ?_, ?_⟩
  · intro ticket request requested
    rcases Nat.lt_or_ge ticket fleet.requests.length with earlier | beyond
    · have before : fleet.requests[ticket]? = some request := by
        rcases effect.requests with same | ⟨new, -, rfl⟩
        · rw [← same, requested]
        · rwa [Fleet.afterEnqueue, List.getElem?_append_left earlier] at requested
      obtain ⟨stage, stageBefore, counts⟩ := atStage ticket request before
      obtain ⟨next, atNext, advances⟩ := stageBefore.counts_step effect gentle earlier
      exact ⟨next, atNext, fun counter => by rw [valueOn_snoc, counts, advances]⟩
    · -- Only the job that this step enqueues is beyond the earlier ones.
      have inRange := (List.getElem?_eq_some_iff.mp requested).1
      rcases effect.requests with same | ⟨new, rfl, rfl⟩
      · rw [same] at inRange
        omega
      · simp only [Fleet.afterEnqueue, List.length_append, List.length_singleton] at inRange
        obtain rfl : ticket = fleet.requests.length := by omega
        obtain rfl : new = request := by simpa [Fleet.afterEnqueue] using requested
        refine ⟨.queued 0, ledger.atStage_enqueued new, fun counter => ?_⟩
        have untouched : WorkerCounter.valueOn codec.toJsonModule transitions
            fleet.requests.length counter = 0 := by
          refine List.count_eq_zero.mpr fun member => ?_
          exact absurd (known _ member) (lt_irrefl _)
        rw [valueOn_snoc, untouched]
        rcases counter with ⟨⟨⟩⟩ | - | - <;> rfl
  · intro entry member
    rw [List.flatMap_append, List.flatMap_singleton] at member
    rcases List.mem_append.mp member with old | new
    · exact (known entry old).trans_le keepsKnown
    · exact (ledger.sound.lt_of_counted new).trans_le keepsKnown
  · rw [effect.processed ledger.sound gentle, processed, WorkerCounter.value, WorkerCounter.value,
      List.flatMap_append, List.countP_append, List.flatMap_singleton, Nat.add_assoc]

/-- **The counters of a run** that ends no worker. -/
theorem CounterLedger.of_run (initial : (fleetSystem codec.toJsonModule).initial start)
    (run : (fleetSystem codec.toJsonModule).Run start transitions finish)
    (gentle : ∀ transition ∈ transitions, EndsNoWorker transition) :
    CounterLedger codec.toJsonModule start finish transitions := by
  induction run with
  | nil =>
      have noRequests : start.requests = [] := initial.2.2.1
      exact ⟨.of_run initial .nil (by simp), by simp [noRequests], by simp, rfl⟩
  | snoc earlier step ih =>
      have counters := ih fun transition member => gentle transition (List.mem_append_left _ member)
      exact counters.step step (gentle _ (List.mem_append_right _ (List.mem_singleton.mpr rfl)))

/-! ## Adding up the jobs -/

namespace CounterLedger

variable (counters : CounterLedger json start fleet transitions)

include counters

omit [DecidableEq Worker] in
/-- The value of a counter is the sum over the jobs. -/
theorem value_eq_sum (counter : WorkerCounter) :
    counter.value json transitions =
      ∑ ticket ∈ Finset.range fleet.requests.length, counter.valueOn json transitions ticket := by
  rw [WorkerCounter.value, List.countP_eq_length_filter, length_eq_sum_count Prod.fst
    fun entry member => counters.known entry (List.mem_of_mem_filter member)]
  refine Finset.sum_congr rfl fun ticket _ => ?_
  rw [WorkerCounter.valueOn, List.count_eq_countP, List.countP_map, List.countP_filter,
    List.count_eq_countP]
  refine List.countP_congr fun entry _ => ?_
  obtain ⟨other, found⟩ := entry
  simp [Prod.ext_iff]

omit [DecidableEq Worker] in
/-- Every enqueued job has a stage with its counters. -/
theorem exists_stage {ticket : ℕ} (enqueued : ticket ∈ Finset.range fleet.requests.length) :
    ∃ request stage, fleet.AtStage json ticket request stage ∧
      ∀ counter, WorkerCounter.valueOn json transitions ticket counter = stage.counts counter := by
  have inRange := Finset.mem_range.mp enqueued
  obtain ⟨stage, found⟩ := counters.atStage ticket _ (List.getElem?_eq_getElem inRange)
  exact ⟨_, stage, found⟩

omit [DecidableEq Worker] in
/-- The length of the dead-letter list is the sum over the jobs. -/
theorem length_dlq_eq_sum :
    fleet.dlq.length = ∑ ticket ∈ Finset.range fleet.requests.length,
      (fleet.dlqOf ticket).length := by
  have inRange : ∀ copy ∈ fleet.dlq, copy.ticket < fleet.requests.length := by
    intro copy member
    obtain ⟨request, requested, -⟩ := counters.ledger.sound.dlqGenuine copy member
    exact (List.getElem?_eq_some_iff.mp requested).1
  rw [length_eq_sum_count Copy.ticket inRange]
  refine Finset.sum_congr rfl fun ticket _ => ?_
  rw [Fleet.dlqOf, List.count_eq_countP, List.countP_map, ← List.countP_eq_length_filter]
  exact List.countP_congr fun copy _ => by simp

end CounterLedger

/-- How the counters of one job agree with each other and with the dead-letter list. -/
structure JobAgrees (json : JsonModule Text) (finish : Fleet Text Worker)
    (transitions : List (FleetTransition Text Worker)) (ticket : ℕ) : Prop where
  errors : WorkerCounter.valueOn json transitions ticket (.scoring_jobs_total .error) =
    WorkerCounter.valueOn json transitions ticket .worker_retries_total +
      WorkerCounter.valueOn json transitions ticket .worker_dlq_total
  settled_once : WorkerCounter.valueOn json transitions ticket (.scoring_jobs_total .success) +
    WorkerCounter.valueOn json transitions ticket .worker_dlq_total ≤ 1
  retries : WorkerCounter.valueOn json transitions ticket .worker_retries_total ≤ 3
  buried : (finish.dlqOf ticket).length ≤
    WorkerCounter.valueOn json transitions ticket .worker_dlq_total

/-- How the counters agree with each other and with the lists of the fleet. -/
structure CountersAgree (json : JsonModule Text) (start finish : Fleet Text Worker)
    (transitions : List (FleetTransition Text Worker)) : Prop where
  jobs : ∀ ticket < finish.requests.length, JobAgrees json finish transitions ticket
  sums : ∀ counter, WorkerCounter.value json transitions counter =
    ∑ ticket ∈ Finset.range finish.requests.length, counter.valueOn json transitions ticket
  errors : WorkerCounter.value json transitions (.scoring_jobs_total .error) =
    WorkerCounter.value json transitions .worker_retries_total +
      WorkerCounter.value json transitions .worker_dlq_total
  processed : finish.processed.length =
    start.processed.length + WorkerCounter.value json transitions (.scoring_jobs_total .success)
  buried : finish.dlq.length ≤ WorkerCounter.value json transitions .worker_dlq_total
  settled_once : WorkerCounter.value json transitions (.scoring_jobs_total .success) +
    WorkerCounter.value json transitions .worker_dlq_total ≤ finish.requests.length
  retries : WorkerCounter.value json transitions .worker_retries_total ≤
    3 * finish.requests.length

/-- Nothing is on the queue or in the memory of a worker. -/
def Fleet.Quiet (fleet : Fleet Text Worker) : Prop :=
  fleet.queue = [] ∧ ∀ worker, (fleet.phase worker).held = none

/-- The counters of a job say that it was processed, or that it was retried three times and is
on the dead-letter list once. -/
def JobSettled (json : JsonModule Text) (finish : Fleet Text Worker)
    (transitions : List (FleetTransition Text Worker)) (ticket : ℕ) : Prop :=
  WorkerCounter.valueOn json transitions ticket (.scoring_jobs_total .success) = 1 ∧
      WorkerCounter.valueOn json transitions ticket .worker_dlq_total = 0 ∧
      (finish.dlqOf ticket).length = 0 ∨
    WorkerCounter.valueOn json transitions ticket (.scoring_jobs_total .success) = 0 ∧
      WorkerCounter.valueOn json transitions ticket .worker_dlq_total = 1 ∧
      WorkerCounter.valueOn json transitions ticket .worker_retries_total = 3 ∧
      (finish.dlqOf ticket).length = 1

/-- Every job was processed or given up, and the counters account for all of them. -/
structure CountersComplete (json : JsonModule Text) (finish : Fleet Text Worker)
    (transitions : List (FleetTransition Text Worker)) : Prop where
  jobs : ∀ ticket < finish.requests.length, JobSettled json finish transitions ticket
  settled : WorkerCounter.value json transitions (.scoring_jobs_total .success) +
    WorkerCounter.value json transitions .worker_dlq_total = finish.requests.length
  buried : WorkerCounter.value json transitions .worker_dlq_total = finish.dlq.length
  retries : 3 * WorkerCounter.value json transitions .worker_dlq_total ≤
    WorkerCounter.value json transitions .worker_retries_total

namespace CounterLedger

variable (counters : CounterLedger json start fleet transitions)

include counters

omit [DecidableEq Worker] in
/-- The counters of a job agree, since they are those of its stage. -/
theorem jobAgrees {ticket : ℕ} (enqueued : ticket < fleet.requests.length) :
    JobAgrees json fleet transitions ticket := by
  obtain ⟨request, stage, atStage, counts⟩ := counters.exists_stage (Finset.mem_range.mpr enqueued)
  constructor
  · simp only [counts, JobStage.counts]
    omega
  · simp only [counts, JobStage.counts]
    cases stage <;> simp only [JobStage.successes, JobStage.failures] <;> omega
  · simp only [counts, JobStage.counts]
    omega
  · rw [counts, atStage.lengths.2]
    cases stage <;> simp [JobStage.onDlq, JobStage.counts, JobStage.failures]

omit [DecidableEq Worker] in
/-- The counters agree, since those of every job do. -/
theorem agree : CountersAgree json start fleet transitions where
  jobs _ := counters.jobAgrees
  sums := counters.value_eq_sum
  errors := by
    rw [counters.value_eq_sum, counters.value_eq_sum, counters.value_eq_sum,
      ← Finset.sum_add_distrib]
    exact Finset.sum_congr rfl fun ticket enqueued =>
      (counters.jobAgrees (Finset.mem_range.mp enqueued)).errors
  processed := counters.processed
  buried := by
    rw [counters.length_dlq_eq_sum, counters.value_eq_sum]
    exact Finset.sum_le_sum fun ticket enqueued =>
      (counters.jobAgrees (Finset.mem_range.mp enqueued)).buried
  settled_once := by
    rw [counters.value_eq_sum, counters.value_eq_sum, ← Finset.sum_add_distrib]
    exact (Finset.sum_le_card_nsmul _ _ 1 fun ticket enqueued =>
      (counters.jobAgrees (Finset.mem_range.mp enqueued)).settled_once).trans (by simp)
  retries := by
    rw [counters.value_eq_sum]
    exact (Finset.sum_le_card_nsmul _ _ 3 fun ticket enqueued =>
      (counters.jobAgrees (Finset.mem_range.mp enqueued)).retries).trans (by simp [mul_comm])

omit [DecidableEq Worker] in
/-- In a quiet fleet a job is settled, and its counters say how. -/
theorem jobSettled (quiet : fleet.Quiet) {ticket : ℕ} (enqueued : ticket < fleet.requests.length) :
    JobSettled json fleet transitions ticket := by
  obtain ⟨request, stage, atStage, counts⟩ := counters.exists_stage (Finset.mem_range.mpr enqueued)
  have noCopy : fleet.NoCopy ticket := by
    refine ⟨by simp [Fleet.queueOf, quiet.1], fun worker inFlight => ?_⟩
    obtain ⟨-, holds⟩ := inFlight
    simp [WorkerPhase.Holds, quiet.2 worker] at holds
  obtain ⟨free, notQueued⟩ := atStage.noCopy_iff.mp noCopy
  rw [JobSettled, atStage.lengths.2, counts, counts, counts]
  cases stage <;>
    simp_all [JobStage.holder, JobStage.onQueue, JobStage.onDlq, JobStage.counts,
      JobStage.successes, JobStage.failures]
  omega

omit [DecidableEq Worker] in
/-- In a quiet fleet the counters account for all jobs. -/
theorem complete (quiet : fleet.Quiet) : CountersComplete json fleet transitions where
  jobs _ := counters.jobSettled quiet
  settled := by
    rw [counters.value_eq_sum, counters.value_eq_sum, ← Finset.sum_add_distrib]
    refine (Finset.sum_congr rfl fun ticket enqueued => ?_).trans
      (by simp : ∑ ticket ∈ Finset.range fleet.requests.length, 1 = _)
    have settled := counters.jobSettled quiet (Finset.mem_range.mp enqueued)
    rw [JobSettled] at settled
    omega
  buried := by
    rw [counters.value_eq_sum, counters.length_dlq_eq_sum]
    refine Finset.sum_congr rfl fun ticket enqueued => ?_
    have settled := counters.jobSettled quiet (Finset.mem_range.mp enqueued)
    rw [JobSettled] at settled
    omega
  retries := by
    rw [counters.value_eq_sum, counters.value_eq_sum, Finset.mul_sum]
    refine Finset.sum_le_sum fun ticket enqueued => ?_
    have settled := counters.jobSettled quiet (Finset.mem_range.mp enqueued)
    rw [JobSettled] at settled
    omega

end CounterLedger

/-- **The counters agree.** After every run of the fleet, also when workers were killed or
ended by an exception: for every job and in total the errors are the retries and the dead
letters together, the successes are the processed jobs, no job is counted as settled twice,
and no job is retried more than three times. The dead letters that were counted are at least
those on the list. In a run in which nothing ended a worker, when nothing is left on the queue
or in the memory of a worker, every job is counted once, as a success or as a dead letter that
is on the list. -/
theorem counters_agree (codec : JsonCodec Text) (start finish : Fleet Text Worker)
    (transitions : List (FleetTransition Text Worker))
    (initial : (fleetSystem codec.toJsonModule).initial start)
    (run : (fleetSystem codec.toJsonModule).Run start transitions finish) :
    CountersAgree codec.toJsonModule start finish transitions ∧
      ((∀ transition ∈ transitions, EndsNoWorker transition) → finish.Quiet →
        CountersComplete codec.toJsonModule finish transitions) := by
  constructor
  · obtain ⟨spared, survivors, sparedRun, spares, gentle, same⟩ := exists_spared_run run
    have agree := (CounterLedger.of_run initial sparedRun gentle).agree
    have values : WorkerCounter.value codec.toJsonModule survivors =
        WorkerCounter.value codec.toJsonModule transitions := by
      funext counter
      rw [WorkerCounter.value, same, WorkerCounter.value]
    have onJob : WorkerCounter.valueOn codec.toJsonModule survivors =
        WorkerCounter.valueOn codec.toJsonModule transitions := by
      funext ticket counter
      rw [WorkerCounter.valueOn, same, WorkerCounter.valueOn]
    obtain ⟨jobs, sums, errors, processed, buried, settled_once, retries⟩ := agree
    rw [spares.requests] at jobs sums settled_once retries
    rw [spares.processed] at processed
    rw [spares.dlq] at buried
    rw [values] at errors processed buried settled_once retries
    refine ⟨fun ticket enqueued => ?_, fun counter => ?_, errors, processed, buried, settled_once,
      retries⟩
    · obtain ⟨jobErrors, once, few, listed⟩ := jobs ticket enqueued
      rw [Fleet.dlqOf, spares.dlq] at listed
      rw [onJob] at jobErrors once few listed
      exact ⟨jobErrors, once, few, listed⟩
    · rw [← values, ← onJob]
      exact sums counter
  · intro gentle quiet
    exact (CounterLedger.of_run initial run gentle).complete quiet

end Gentle

end System

/-! ## A worker that is killed after a retry -/

/-- The worker is killed after it pushed the job back. -/
def killedTransitions : List (FleetTransition Json Unit) :=
  retryTransitions ++
    [⟨lone [failedCopy 1] .idle [], .kill (), lone [failedCopy 1] (.dead none) []⟩]

theorem retried_job_is_counted :
    CountersAgree JsonCodec.ofValues.toJsonModule idleFleet
        (lone [failedCopy 1] (.dead none) []) killedTransitions ∧
      ((∀ transition ∈ killedTransitions, EndsNoWorker transition) →
        (lone [failedCopy 1] (.dead none) []).Quiet →
          CountersComplete JsonCodec.ofValues.toJsonModule
            (lone [failedCopy 1] (.dead none) []) killedTransitions) :=
  counters_agree JsonCodec.ofValues idleFleet (lone [failedCopy 1] (.dead none) [])
    killedTransitions ⟨rfl, rfl, rfl, fun _ => rfl⟩
    (retry_run.snoc (congrArg some (lone_setPhase [failedCopy 1] .idle (.dead none) [])))

end LlmopsPlatform.Workers
