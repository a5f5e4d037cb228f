import LlmopsPlatform.Foundations.Ranking
import LlmopsPlatform.Workers.JobLifecycle

/-!
# How a worker shuts down

A signal only sets the flag that the loop of a worker tests before it waits for a job. A
worker that is waiting then pops one more job; whatever it has popped it finishes: it
processes the job, sleeps before a retry, and pushes the job back or onto the dead-letter
list. It takes at most five more steps and is never stuck before it has stopped
(`shutdown_is_graceful`).

When all workers have stopped and none of them was ended from outside, no job is in the
memory of a worker any more.
-/

set_option autoImplicit false

namespace LlmopsPlatform.Workers

open Foundations Python TransitionSystem

section System

variable {Text Worker : Type} [DecidableEq Worker] {json : JsonModule Text}
  {fleet after : Fleet Text Worker} {label : FleetStep Worker} {worker : Worker}

/-- How many steps a worker takes at most until it stops, once it was signalled. -/
def WorkerPhase.stepsToStop : WorkerPhase Text → ℕ
  | stopped | dead _ => 0
  | idle => 1
  | requeueing _ _ | deadLettering _ _ => 2
  | backingOff _ _ _ => 3
  | handling _ => 4
  | waiting => 5

/-- How many jobs a worker still pops, once it was signalled. -/
def WorkerPhase.popsToStop : WorkerPhase Text → ℕ
  | waiting => 1
  | _ => 0

theorem WorkerPhase.stepsToStop_le (phase : WorkerPhase Text) : phase.stepsToStop ≤ 5 := by
  cases phase <;> simp [WorkerPhase.stepsToStop]

theorem WorkerPhase.popsToStop_le (phase : WorkerPhase Text) : phase.popsToStop ≤ 1 := by
  cases phase <;> simp [WorkerPhase.popsToStop]

/-- The step is one of the worker's own. -/
def FleetStep.isBy (worker : Worker) (label : FleetStep Worker) : Bool :=
  label.actor = some worker

/-- The step is a `brpop` of the worker. -/
def FleetStep.isPopBy (worker : Worker) : FleetStep Worker → Bool
  | .brpop other => other = worker
  | _ => false

/-- What a worker does after it processed a job. -/
theorem attemptPhase_cases {copy : Copy Text} {outcome : Except PyException Unit}
    {phase : WorkerPhase Text} (attempted : attemptPhase json copy outcome = .ok phase) :
    phase = .idle ∨ (∃ job_data retry_count, phase = .backingOff copy job_data retry_count) ∨
      ∃ text, phase = .deadLettering copy text := by
  unfold attemptPhase at attempted
  simp only [bind, Except.bind] at attempted
  split at attempted
  · cases attempted
  · rename_i job_data _
    split at attempted
    · cases attempted
    · split at attempted
      · cases attempted
        exact .inl rfl
      · split at attempted
        · split at attempted
          · cases attempted
          · split at attempted <;> cases attempted
            · exact .inr (.inl ⟨_, _, rfl⟩)
            · exact .inr (.inr ⟨_, rfl⟩)
        · cases attempted

/-- A step changes the flag and the phase of no worker but its own. -/
theorem fleetNext_other (step : fleetNext json fleet label = some after)
    (other : label.actor ≠ some worker) (alive : label ≠ .kill worker) :
    after.phase worker = fleet.phase worker := by
  have required := fleetNext_cases step
  have different : ∀ actor : Worker, some actor ≠ some worker → worker ≠ actor :=
    fun actor distinct same => distinct (congrArg some same.symm)
  cases label with
  | enqueue request =>
      rw [show after = _ from required]
      rfl
  | signal actor =>
      rw [show after = _ from required]
  | kill actor =>
      obtain ⟨-, rfl⟩ := required
      refine Function.update_of_ne ?_ _ _
      rintro rfl
      exact alive rfl
  | check actor =>
      obtain ⟨-, rfl⟩ := required
      exact Function.update_of_ne (different actor other) _ _
  | brpop actor =>
      obtain ⟨-, rfl⟩ := required
      unfold Fleet.afterPop
      split <;> exact Function.update_of_ne (different actor other) _ _
  | process actor outcome =>
      obtain ⟨copy, -, rfl⟩ := required
      unfold Fleet.afterProcess
      split <;> exact Function.update_of_ne (different actor other) _ _
  | wake actor =>
      obtain ⟨copy, job_data, retry_count, -, rfl⟩ := required
      unfold Fleet.afterWake
      split <;> exact Function.update_of_ne (different actor other) _ _
  | lpush actor =>
      obtain ⟨copy, text, ⟨-, rfl⟩ | ⟨-, rfl⟩⟩ := required
      · exact Function.update_of_ne (different actor other) _ _
      · exact Function.update_of_ne (different actor other) _ _

/-- No step takes the flag back. -/
theorem shutdown_stays (step : fleetNext json fleet label = some after)
    (asked : fleet.shutdown worker = true) : after.shutdown worker = true := by
  have required := fleetNext_cases step
  cases label with
  | enqueue request =>
      rw [show after = _ from required]
      exact asked
  | signal actor =>
      rw [show after = _ from required]
      by_cases same : worker = actor <;> simp [same, asked]
  | kill actor =>
      obtain ⟨-, rfl⟩ := required
      exact asked
  | check actor =>
      obtain ⟨-, rfl⟩ := required
      exact asked
  | brpop actor =>
      obtain ⟨-, rfl⟩ := required
      unfold Fleet.afterPop
      split <;> exact asked
  | process actor outcome =>
      obtain ⟨copy, -, rfl⟩ := required
      unfold Fleet.afterProcess
      split <;> exact asked
  | wake actor =>
      obtain ⟨copy, job_data, retry_count, -, rfl⟩ := required
      unfold Fleet.afterWake
      split <;> exact asked
  | lpush actor =>
      obtain ⟨copy, text, ⟨-, rfl⟩ | ⟨-, rfl⟩⟩ := required <;> exact asked

/-! ## The way to the end of the loop -/

/-- **Every step of a worker that was signalled leads to the end of its loop.** It pops
only if it was waiting when the signal came. -/
theorem own_step_leads_to_stop (step : fleetNext json fleet label = some after)
    (asked : fleet.shutdown worker = true) (own : label.actor = some worker) :
    (after.phase worker).stepsToStop < (fleet.phase worker).stepsToStop ∧
      (after.phase worker).popsToStop + (if label.isPopBy worker then 1 else 0) ≤
        (fleet.phase worker).popsToStop := by
  have required := fleetNext_cases step
  cases label with
  | enqueue request => cases own
  | signal actor => cases own
  | kill actor => cases own
  | check actor =>
      obtain rfl := Option.some.inj own
      obtain ⟨idle, rfl⟩ := required
      simp [Fleet.setPhase, idle, asked, WorkerPhase.stepsToStop, WorkerPhase.popsToStop,
        FleetStep.isPopBy]
  | brpop actor =>
      obtain rfl := Option.some.inj own
      obtain ⟨waiting, rfl⟩ := required
      unfold Fleet.afterPop
      split <;> simp [Fleet.setPhase, waiting, WorkerPhase.stepsToStop, WorkerPhase.popsToStop,
        FleetStep.isPopBy]
  | process actor outcome =>
      obtain rfl := Option.some.inj own
      obtain ⟨copy, handling, rfl⟩ := required
      unfold Fleet.afterProcess
      split
      · simp [Fleet.setPhase, handling, WorkerPhase.stepsToStop, WorkerPhase.popsToStop,
          FleetStep.isPopBy]
      · simp [Fleet.setPhase, handling, WorkerPhase.stepsToStop, WorkerPhase.popsToStop,
          FleetStep.isPopBy]
      · rename_i attempted
        rcases attemptPhase_cases attempted with
          rfl | ⟨job_data, retry_count, rfl⟩ | ⟨text, rfl⟩ <;>
          simp [Fleet.setPhase, handling, WorkerPhase.stepsToStop, WorkerPhase.popsToStop,
            FleetStep.isPopBy]
  | wake actor =>
      obtain rfl := Option.some.inj own
      obtain ⟨copy, job_data, retry_count, asleep, rfl⟩ := required
      unfold Fleet.afterWake
      split <;> simp [Fleet.setPhase, asleep, WorkerPhase.stepsToStop, WorkerPhase.popsToStop,
        FleetStep.isPopBy]
  | lpush actor =>
      obtain rfl := Option.some.inj own
      obtain ⟨copy, text, ⟨requeueing, rfl⟩ | ⟨deadLettering, rfl⟩⟩ := required
      · simp [Fleet.afterRequeue, Fleet.setPhase, requeueing, WorkerPhase.stepsToStop,
          WorkerPhase.popsToStop, FleetStep.isPopBy]
      · simp [Fleet.afterDeadLetter, Fleet.setPhase, deadLettering, WorkerPhase.stepsToStop,
          WorkerPhase.popsToStop, FleetStep.isPopBy]

/-- A step of somebody else leaves the worker where it is, or ends it. -/
theorem other_step_cases (step : fleetNext json fleet label = some after)
    (other : label.actor ≠ some worker) :
    after.phase worker = fleet.phase worker ∨ ∃ lost, after.phase worker = .dead lost := by
  by_cases killed : label = .kill worker
  · subst killed
    obtain ⟨-, rfl⟩ := fleetNext_cases step
    exact .inr ⟨_, Function.update_self ..⟩
  · exact .inl (fleetNext_other step other killed)

/-- A pop of the worker is one of its own steps. -/
theorem FleetStep.actor_of_isPopBy (pops : label.isPopBy worker) : label.actor = some worker := by
  cases label with
  | brpop other =>
      obtain rfl : other = worker := by simpa [FleetStep.isPopBy] using pops
      rfl
  | _ => cases pops

/-- After the signal the worker takes at most five steps, and pops at most once. -/
theorem steps_after_signal {start finish : Fleet Text Worker}
    {transitions : List (Transition (Fleet Text Worker) (FleetStep Worker))}
    (run : (fleetSystem json).Run start transitions finish)
    (asked : start.shutdown worker = true) :
    transitions.countP (fun step => step.label.isBy worker) +
        (finish.phase worker).stepsToStop ≤ 5 ∧
      transitions.countP (fun step => step.label.isPopBy worker) ≤ 1 := by
  have steps := Run.count_add_rank_le (fun fleet => fleet.shutdown worker = true)
    (fun fleet => (fleet.phase worker).stepsToStop) (FleetStep.isBy worker)
    (fun before label after asked step => shutdown_stays step asked)
    (fun before label after asked step own =>
      (own_step_leads_to_stop step asked (of_decide_eq_true own)).1)
    (fun before label after asked step => by
      by_cases own : label.actor = some worker
      · exact (own_step_leads_to_stop step asked own).1.le
      · rcases other_step_cases step own with same | ⟨lost, died⟩
        · rw [same]
        · rw [died]
          exact Nat.zero_le _)
    asked run
  have pops := Run.count_add_rank_le (fun fleet => fleet.shutdown worker = true)
    (fun fleet => (fleet.phase worker).popsToStop) (FleetStep.isPopBy worker)
    (fun before label after asked step => shutdown_stays step asked)
    (fun before label after asked step pops => by
      have bound := (own_step_leads_to_stop step asked (FleetStep.actor_of_isPopBy pops)).2
      rw [if_pos pops] at bound
      omega)
    (fun before label after asked step => by
      by_cases own : label.actor = some worker
      · exact le_trans (Nat.le_add_right _ _) (own_step_leads_to_stop step asked own).2
      · rcases other_step_cases step own with same | ⟨lost, died⟩
        · rw [same]
        · rw [died]
          exact Nat.zero_le _)
    asked run
  have fewSteps := WorkerPhase.stepsToStop_le (start.phase worker)
  have fewPops := WorkerPhase.popsToStop_le (start.phase worker)
  exact ⟨steps.2.trans fewSteps, by omega⟩

/-- A worker that has not stopped can take its next step. -/
theorem exists_own_step (alive : (fleet.phase worker).alive) :
    ∃ label, label.actor = some worker ∧ ((fleetSystem json).next fleet label).isSome := by
  cases phase : fleet.phase worker with
  | idle => exact ⟨.check worker, rfl, by simp [fleetSystem, fleetNext, phase]⟩
  | waiting => exact ⟨.brpop worker, rfl, by simp [fleetSystem, fleetNext, phase]⟩
  | handling copy => exact ⟨.process worker (.ok ()), rfl, by simp [fleetSystem, fleetNext, phase]⟩
  | backingOff copy job_data retry_count =>
      exact ⟨.wake worker, rfl, by simp [fleetSystem, fleetNext, phase]⟩
  | requeueing copy text => exact ⟨.lpush worker, rfl, by simp [fleetSystem, fleetNext, phase]⟩
  | deadLettering copy text => exact ⟨.lpush worker, rfl, by simp [fleetSystem, fleetNext, phase]⟩
  | stopped => rw [phase] at alive; cases alive
  | dead lost => rw [phase] at alive; cases alive

end System

/-! ## The fleet after the shutdown -/

section Fleet

variable {Text Worker : Type} [DecidableEq Worker]

/-- In a run that ends no worker from outside, no worker dies. -/
theorem noneDead_of_run {codec : JsonCodec Text} {start finish : Fleet Text Worker}
    {transitions : List (Transition (Fleet Text Worker) (FleetStep Worker))}
    (initial : (fleetSystem codec.toJsonModule).initial start)
    (run : (fleetSystem codec.toJsonModule).Run start transitions finish)
    (gentle : ∀ transition ∈ transitions, EndsNoWorker transition) :
    FleetInvariant codec.toJsonModule finish ∧ finish.NoneDead := by
  have startsAlive : start.NoneDead := by
    intro worker lost
    rw [initial.2.2.2 worker]
    simp
  exact (run.invariant (fun fleet => FleetInvariant codec.toJsonModule fleet ∧ fleet.NoneDead)
    (fun transition holds step guarded =>
      ⟨holds.1.step step, holds.2.step (fleetNext_effect transition holds.1 step guarded)⟩)
    ⟨.of_initial initial, startsAlive⟩ gentle).1

/-- **A signal shuts a worker down, and no job with it.** From the signal on, whatever the
others do, the worker takes at most five steps of its own and pops at most one job, and as
long as it has not stopped or died it can take its next step. When all workers have
stopped, and none was ended from outside, every job that was enqueued was processed or is
on one of the lists. -/
theorem shutdown_is_graceful (codec : JsonCodec Text) (start finish : Fleet Text Worker)
    (earlier later : List (Transition (Fleet Text Worker) (FleetStep Worker)))
    (signal : Transition (Fleet Text Worker) (FleetStep Worker)) (worker : Worker)
    (initial : (fleetSystem codec.toJsonModule).initial start)
    (run : (fleetSystem codec.toJsonModule).Run start (earlier ++ signal :: later) finish)
    (signals : signal.label = .signal worker) :
    later.countP (fun step => step.label.isBy worker) + (finish.phase worker).stepsToStop ≤ 5 ∧
    later.countP (fun step => step.label.isPopBy worker) ≤ 1 ∧
    ((finish.phase worker).alive → ∃ label, label.actor = some worker ∧
      ((fleetSystem codec.toJsonModule).next finish label).isSome) ∧
    ((∀ transition ∈ earlier ++ signal :: later, EndsNoWorker transition) →
      (∀ other, (finish.phase other).alive = false) →
        ∀ ticket request, finish.requests[ticket]? = some request →
          ticket ∈ finish.processed ∨
            Fleet.OnList codec.toJsonModule ticket request finish.queue ∨
            Fleet.OnList codec.toJsonModule ticket request finish.dlq) := by
  obtain ⟨-, taken, after⟩ := run.split
  have asked : signal.after.shutdown worker = true := by
    rw [signals] at taken
    rw [← Option.some.inj taken]
    exact Function.update_self ..
  obtain ⟨steps, pops⟩ := steps_after_signal after asked
  refine ⟨steps, pops, exists_own_step, fun gentle ended ticket request enqueued => ?_⟩
  obtain ⟨invariant, noneDead⟩ := noneDead_of_run initial run gentle
  by_cases processed : ticket ∈ finish.processed
  · exact .inl processed
  · rcases invariant.present_or_lost enqueued processed with
      (inQueue | inDlq | ⟨other, alive, -⟩) | ⟨other, lost, died, -⟩
    · exact .inr (.inl inQueue)
    · exact .inr (.inr inDlq)
    · rw [ended other] at alive
      cases alive
    · exact absurd died (noneDead other lost)

end Fleet

/-! ## A worker that is signalled while it has a job -/

def signalledFleet : Fleet Json Unit :=
  { poppedFleet with shutdown := Function.update poppedFleet.shutdown () true }

def finishedFleet : Fleet Json Unit :=
  signalledFleet.afterProcess JsonCodec.ofValues.toJsonModule () ⟨0, scoringJob killedRequest 0⟩
    (.ok ())

def stoppedFleet : Fleet Json Unit := finishedFleet.setPhase () .stopped

/-- The steps after the signal. -/
def lastTransitions : List (Transition (Fleet Json Unit) (FleetStep Unit)) :=
  [⟨signalledFleet, .process () (.ok ()), finishedFleet⟩, ⟨finishedFleet, .check (), stoppedFleet⟩]

theorem shutdown_run :
    (fleetSystem JsonCodec.ofValues.toJsonModule).Run idleFleet
      (popTransitions ++ ⟨poppedFleet, .signal (), signalledFleet⟩ :: lastTransitions)
      stoppedFleet :=
  ((pop_run.snoc rfl).snoc rfl).snoc rfl

/-- The worker processes the job that it has, and stops. -/
theorem signalled_worker_finishes_its_job :
    stoppedFleet.phase () = .stopped ∧ 0 ∈ stoppedFleet.processed ∧
      lastTransitions.countP (fun step => step.label.isBy ()) +
        (stoppedFleet.phase ()).stepsToStop ≤ 5 :=
  ⟨rfl, by decide, (shutdown_is_graceful JsonCodec.ofValues idleFleet stoppedFleet popTransitions
    lastTransitions ⟨poppedFleet, .signal (), signalledFleet⟩ () ⟨rfl, rfl, rfl, fun _ => rfl⟩
    shutdown_run rfl).1⟩

end LlmopsPlatform.Workers
