import LlmopsPlatform.Foundations.Ranking
import LlmopsPlatform.Workers.TuningWorker

/-!
# The loop of the tuning worker

The worker checks the running experiments, sleeps for thirty single seconds, and checks
again, until a signal sets its flag. It tests the flag before each check and before each
second of sleep; between two tests it waits for the database or for the clock.

Whatever the database does, no failure ends the loop, thirty seconds of sleep lie between
two checks, and the log has the lines of all checks in their order
(`tuning_worker_polls`). A signal ends the loop at the next step of the worker.
-/

set_option autoImplicit false

namespace LlmopsPlatform.Workers.TuningWorker

open Foundations Foundations.TransitionSystem Python Tuning PolledDatabase

/-- The seconds between two checks. -/
def POLL_INTERVAL : ℕ := 30

/-- A line that the worker logs while it runs. -/
inductive LoopEvent where
  | check (event : LogEvent)
  | tuningWorkerError

/-- Where the worker waits. While it sleeps, some seconds of the pause remain. -/
inductive LoopPhase where
  | checking
  | pausing (remaining : ℕ)
  | stopped
  | dead (failure : PyException)

structure LoopState where
  shutdown : Bool
  phase : LoopPhase
  log : List LoopEvent

/-- What happens next: a check on the database of the moment ends, a second of sleep is
over, or a signal arrives. -/
inductive LoopStep where
  | checked (database : PolledDatabase)
  | woke
  | signal

/-- `while not _shutdown`. -/
def testLoop (shutdown : Bool) : LoopPhase :=
  if shutdown then .stopped else .checking

/-- The pause, when some of its seconds remain. -/
def pause (shutdown : Bool) : ℕ → LoopPhase
  | 0 => testLoop shutdown
  | remaining + 1 => if shutdown then testLoop shutdown else .pausing remaining

/-- What the loop does with the outcome of a check. -/
def LoopState.afterCheck (state : LoopState) :
    Except PyException Unit × CheckState → LoopState
  | (.ok (), finished) =>
      { state with
        phase := pause state.shutdown POLL_INTERVAL
        log := state.log ++ finished.log.map .check }
  | (.error failure, finished) =>
      if failure.isException then
        { state with
          phase := pause state.shutdown POLL_INTERVAL
          log := state.log ++ finished.log.map .check ++ [.tuningWorkerError] }
      else
        { state with phase := .dead failure, log := state.log ++ finished.log.map .check }

/-- One step of `run_worker`. -/
def loopNext (state : LoopState) : LoopStep → Option LoopState
  | .checked database =>
      match state.phase with
      | .checking => some (state.afterCheck (database.checkRunningExperiments.run .opened))
      | _ => none
  | .woke =>
      match state.phase with
      | .pausing remaining => some { state with phase := pause state.shutdown remaining }
      | _ => none
  | .signal => some { state with shutdown := true }

/-- The tuning worker, from its start. -/
def loopSystem : TransitionSystem LoopState LoopStep where
  initial state := state = ⟨false, .checking, []⟩
  next := loopNext

/-! ## One step -/

/-- The lines that one check leaves in the log. -/
def pollLog (database : PolledDatabase) : List LoopEvent :=
  if database.fails .runningExperiments then [.tuningWorkerError]
  else (database.statusLog database.unaffected ++ failureLog database.affected).map .check

/-- The database of a step that ends a check. -/
def LoopStep.polled : LoopStep → Option PolledDatabase
  | checked database => some database
  | _ => none

def LoopStep.isPoll : LoopStep → Bool
  | checked _ => true
  | _ => false

def LoopStep.isNap : LoopStep → Bool
  | woke => true
  | _ => false

/-- The step is one of the worker's own. -/
def LoopStep.isOwn : LoopStep → Bool
  | signal => false
  | _ => true

/-- The moves of the loop. A check never ends it. -/
inductive LoopMove (before : LoopState) : LoopStep → LoopState → Prop where
  | polled (database : PolledDatabase) (checking : before.phase = .checking) :
      LoopMove before (.checked database)
        { before with
          phase := pause before.shutdown POLL_INTERVAL, log := before.log ++ pollLog database }
  | napped (remaining : ℕ) (pausing : before.phase = .pausing remaining) :
      LoopMove before .woke { before with phase := pause before.shutdown remaining }
  | signalled : LoopMove before .signal { before with shutdown := true }

theorem loopNext_move {before after : LoopState} {label : LoopStep}
    (step : loopNext before label = some after) : LoopMove before label after := by
  cases label with
  | checked database =>
      simp only [loopNext] at step
      split at step
      · rename_i checking
        have moved : ({ before with
            phase := pause before.shutdown POLL_INTERVAL,
            log := before.log ++ pollLog database } : LoopState) = after := by
          rw [← Option.some.inj step]
          cases fails : database.fails .runningExperiments with
          | true =>
              rw [run_checkRunningExperiments_of_fails fails]
              simp [LoopState.afterCheck, pollLog, fails, databaseError, PyException.isException]
          | false =>
              rw [run_checkRunningExperiments fails]
              simp [LoopState.afterCheck, pollLog, fails]
        rw [← moved]
        exact .polled database checking
      · cases step
  | woke =>
      simp only [loopNext] at step
      split at step
      · rename_i remaining pausing
        cases step
        exact .napped remaining pausing
      · cases step
  | signal =>
      cases step
      exact .signalled

/-! ## The pace of the loop -/

/-- How many checks and seconds of sleep there were, by where the worker waits. -/
def Paced (polls naps : ℕ) : LoopPhase → Prop
  | .checking => naps = POLL_INTERVAL * polls
  | .pausing remaining => naps + remaining + 1 = POLL_INTERVAL * polls
  | .stopped => naps ≤ POLL_INTERVAL * polls
  | .dead _ => False

/-- A pause whose seconds remain to be slept is on time. -/
theorem paced_pause {polls naps remaining : ℕ} (shutdown : Bool)
    (onTime : naps + remaining = POLL_INTERVAL * polls) :
    Paced polls naps (pause shutdown remaining) := by
  cases remaining with
  | zero => cases shutdown <;> simp only [pause, testLoop, Paced] <;> simp <;> omega
  | succ further => cases shutdown <;> simp only [pause, testLoop, Paced] <;> simp <;> omega

/-- A step keeps the pace. -/
theorem LoopMove.paced {before after : LoopState} {label : LoopStep} {polls naps : ℕ}
    (move : LoopMove before label after) (paced : Paced polls naps before.phase) :
    Paced (polls + if label.isPoll then 1 else 0) (naps + if label.isNap then 1 else 0)
      after.phase := by
  cases move with
  | polled database checking =>
      rw [checking] at paced
      have onTime : naps = POLL_INTERVAL * polls := paced
      have later : naps + POLL_INTERVAL = POLL_INTERVAL * (polls + 1) := by
        rw [onTime, Nat.mul_add, Nat.mul_one]
      exact paced_pause before.shutdown later
  | napped remaining pausing =>
      rw [pausing] at paced
      have onTime : naps + remaining + 1 = POLL_INTERVAL * polls := paced
      have later : naps + 1 + remaining = POLL_INTERVAL * polls := by omega
      exact paced_pause before.shutdown later
  | signalled => simpa [LoopStep.isPoll, LoopStep.isNap] using paced

/-- A worker that has not stopped needs one more step after a signal. -/
def LoopPhase.stepsToStop : LoopPhase → ℕ
  | stopped | dead _ => 0
  | checking | pausing _ => 1

theorem LoopPhase.stepsToStop_le (phase : LoopPhase) : phase.stepsToStop ≤ 1 := by
  cases phase <;> simp [LoopPhase.stepsToStop]

/-- With the flag set, every pause ends the loop. -/
theorem pause_true (remaining : ℕ) : pause true remaining = .stopped := by
  cases remaining <;> rfl

/-- No step takes the flag back. -/
theorem LoopMove.shutdown {before after : LoopState} {label : LoopStep}
    (move : LoopMove before label after) (asked : before.shutdown = true) :
    after.shutdown = true := by
  cases move with
  | polled database checking => exact asked
  | napped remaining pausing => exact asked
  | signalled => rfl

/-- After a signal the next step of the worker ends the loop. -/
theorem LoopMove.stepsToStop {before after : LoopState} {label : LoopStep}
    (move : LoopMove before label after) (asked : before.shutdown = true) :
    after.phase.stepsToStop + (if label.isOwn then 1 else 0) ≤ before.phase.stepsToStop := by
  cases move with
  | polled database checking =>
      simp [asked, pause_true, checking, LoopPhase.stepsToStop, LoopStep.isOwn]
  | napped remaining pausing =>
      simp [asked, pause_true, pausing, LoopPhase.stepsToStop, LoopStep.isOwn]
  | signalled => simp [LoopStep.isOwn]

/-! ## Whole runs -/

variable {start finish : LoopState} {transitions : List (Transition LoopState LoopStep)}

/-- The pace and the log of a run. -/
theorem paced_and_logged (initial : loopSystem.initial start)
    (run : loopSystem.Run start transitions finish) :
    Paced (transitions.countP fun step => step.label.isPoll)
        (transitions.countP fun step => step.label.isNap) finish.phase ∧
      finish.log = (transitions.filterMap fun step => step.label.polled).flatMap pollLog := by
  induction run with
  | nil =>
      cases initial
      exact ⟨rfl, rfl⟩
  | @snoc earlierTransitions before after label earlier step ih =>
      obtain ⟨paced, logged⟩ := ih
      have move := loopNext_move step
      refine ⟨?_, ?_⟩
      · simpa only [List.countP_append, List.countP_singleton] using move.paced paced
      · rw [List.filterMap_append, List.flatMap_append, ← logged]
        cases move <;> simp [LoopStep.polled]

/-- After a signal the worker takes at most one step. -/
theorem steps_after_loop_signal (run : loopSystem.Run start transitions finish)
    (asked : start.shutdown = true) :
    transitions.countP (fun step => step.label.isOwn) + finish.phase.stepsToStop ≤ 1 := by
  have steps := Run.count_add_rank_le (fun state : LoopState => state.shutdown = true)
    (fun state => state.phase.stepsToStop) LoopStep.isOwn
    (fun before label after asked step => (loopNext_move step).shutdown asked)
    (fun before label after asked step own => by
      have lower := (loopNext_move step).stepsToStop asked
      rw [if_pos own] at lower
      omega)
    (fun before label after asked step => by
      have lower := (loopNext_move step).stepsToStop asked
      omega)
    asked run
  exact steps.2.trans (LoopPhase.stepsToStop_le _)

/-- A worker that has not stopped can take its next step. -/
theorem exists_loop_step {state : LoopState} (running : state.phase.stepsToStop ≠ 0) :
    ∃ label : LoopStep, label.isOwn ∧ (loopSystem.next state label).isSome := by
  cases phase : state.phase with
  | checking => exact ⟨.checked failsOnce, rfl, by simp [loopSystem, loopNext, phase]⟩
  | pausing remaining => exact ⟨.woke, rfl, by simp [loopSystem, loopNext, phase]⟩
  | stopped => simp [phase, LoopPhase.stepsToStop] at running
  | dead failure => simp [phase, LoopPhase.stepsToStop] at running

/-- **The tuning worker polls.** In every run, for every behaviour of the database: no
failure ends the worker; while it checks, it has slept thirty seconds for every check
before, and while it pauses, the seconds that remain make up for the rest; its log has the
lines of all checks in their order, an error for each one that could not read the
experiments; it is never stuck before it stops; and once it was signalled, it takes at most
one more step, and no check begins. -/
theorem tuning_worker_polls (initial : loopSystem.initial start)
    (run : loopSystem.Run start transitions finish) :
    (∀ failure, finish.phase ≠ .dead failure) ∧
    Paced (transitions.countP fun step => step.label.isPoll)
      (transitions.countP fun step => step.label.isNap) finish.phase ∧
    finish.log = (transitions.filterMap fun step => step.label.polled).flatMap pollLog ∧
    (finish.phase.stepsToStop ≠ 0 →
      ∃ label : LoopStep, label.isOwn ∧ (loopSystem.next finish label).isSome) ∧
    ∀ earlier signal later, transitions = earlier ++ signal :: later → signal.label = .signal →
      later.countP (fun step => step.label.isOwn) + finish.phase.stepsToStop ≤ 1 := by
  obtain ⟨paced, logged⟩ := paced_and_logged initial run
  refine ⟨fun failure died => ?_, paced, logged, exists_loop_step, ?_⟩
  · rw [died] at paced
    exact paced
  · rintro earlier signal later rfl signals
    obtain ⟨-, taken, after⟩ := run.split
    refine steps_after_loop_signal after ?_
    rw [signals] at taken
    rw [← Option.some.inj taken]

/-- The worker checks once, is signalled, and wakes up. -/
def signalledPause : List LoopStep := [.checked failsOnce, .signal, .woke]

theorem signalled_pause_stops :
    ∃ (finish : LoopState) (transitions : List (Transition LoopState LoopStep)),
      transitions.map Transition.label = signalledPause ∧ finish.phase = .stopped ∧
        finish.log = (transitions.filterMap fun step => step.label.polled).flatMap pollLog := by
  have polled : loopSystem.next ⟨false, .checking, []⟩ (.checked failsOnce) =
      some ⟨false, .pausing 29, pollLog failsOnce⟩ := by
    have read : failsOnce.fails .runningExperiments = false := rfl
    simp only [loopSystem, loopNext, run_checkRunningExperiments read, LoopState.afterCheck,
      pollLog, read]
    rfl
  have executed : loopSystem.execute signalledPause ⟨false, .checking, []⟩ =
      some ⟨true, .stopped, pollLog failsOnce⟩ := by
    rw [signalledPause, execute_cons polled]
    rfl
  obtain ⟨transitions, run, labels⟩ := exists_run_of_execute executed
  exact ⟨_, transitions, labels, rfl, (tuning_worker_polls rfl run).2.2.1⟩

end LlmopsPlatform.Workers.TuningWorker
