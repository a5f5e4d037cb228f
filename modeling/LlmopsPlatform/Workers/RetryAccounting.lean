import LlmopsPlatform.Foundations.Execution
import LlmopsPlatform.Workers.JobLifecycle
import Mathlib.Data.Prod.Lex

/-!
# How often a job is tried, and where it ends

Along a run in which no worker is ended from outside, the failures that the copy of a job
counts are the failed attempts of the run. So a job is tried at most four times, and ends
either processed or, after four failures, on the dead-letter list.

It does end when the workers keep moving: if every worker that is alive moves again and
one of them stays alive, every job is settled (`bounded_retries`).
-/

set_option autoImplicit false

namespace LlmopsPlatform.Workers

open Foundations Python TransitionSystem

section System

variable {Text Worker : Type} [DecidableEq Worker] (json : JsonModule Text)

/-- A step of a run of the fleet. -/
abbrev FleetTransition (Text Worker : Type) := Transition (Fleet Text Worker) (FleetStep Worker)

/-- The number of attempts on a job that ended in a run, with success or not. -/
def attemptsOn (transitions : List (FleetTransition Text Worker)) (ticket : Nat)
    (succeeded : Bool) : Nat :=
  transitions.countP fun transition =>
    transition.before.attemptOn ticket transition.label = some succeeded

/-- The stages of the jobs agree with the attempts of the run. -/
structure Ledger (fleet : Fleet Text Worker) (transitions : List (FleetTransition Text Worker)) :
    Prop where
  sound : FleetInvariant json fleet
  atStage : ∀ ticket request, fleet.requests[ticket]? = some request →
    ∃ stage, fleet.AtStage json ticket request stage ∧
      stage.failures = attemptsOn transitions ticket false ∧
      stage.successes = attemptsOn transitions ticket true
  fresh : ∀ ticket, fleet.requests.length ≤ ticket →
    ∀ succeeded, attemptsOn transitions ticket succeeded = 0

variable {json} {codec : JsonCodec Text} {fleet after : Fleet Text Worker}
  {transitions : List (FleetTransition Text Worker)} {label : FleetStep Worker} {ticket : Nat}
  {request : ScoringRequest} {stage next : JobStage Worker}

omit [DecidableEq Worker] in
theorem attemptsOn_snoc (succeeded : Bool) :
    attemptsOn (transitions ++ [⟨fleet, label, after⟩]) ticket succeeded =
      attemptsOn transitions ticket succeeded +
        if fleet.attemptOn ticket label = some succeeded then 1 else 0 := by
  simp [attemptsOn, List.countP_append, List.countP_singleton]

omit [DecidableEq Worker] in
/-- The stage that a step leads to counts the attempt that the step ends. -/
theorem Fleet.Advances.counts (advances : fleet.Advances label ticket stage next) :
    (next.failures = stage.failures +
        if fleet.attemptOn ticket label = some false then 1 else 0) ∧
      next.successes = stage.successes +
        if fleet.attemptOn ticket label = some true then 1 else 0 := by
  rcases advances with ⟨rfl, none, -⟩ | move
  · simp [none]
  · exact ⟨JobStage.failures_after move, JobStage.successes_after move⟩

omit [DecidableEq Worker] in
/-- Only enqueued jobs are in the memory of a worker. -/
theorem FleetInvariant.lt_of_holds (sound : FleetInvariant json fleet) {worker : Worker}
    (holds : (fleet.phase worker).Holds ticket) : ticket < fleet.requests.length := by
  obtain ⟨copy, held, rfl⟩ := Option.map_eq_some_iff.mp holds
  obtain ⟨request, requested, -⟩ := (sound.phaseSound worker).genuine held
  exact (List.getElem?_eq_some_iff.mp requested).1

omit [DecidableEq Worker] in
/-- Only enqueued jobs are tried. -/
theorem FleetInvariant.lt_of_attempt (sound : FleetInvariant json fleet) {succeeded : Bool}
    (attempted : fleet.attemptOn ticket label = some succeeded) :
    ticket < fleet.requests.length := by
  cases label with
  | process worker outcome =>
      simp only [Fleet.attemptOn] at attempted
      split at attempted
      · rename_i copy handling
        split at attempted
        · rename_i same
          have holds : (fleet.phase worker).Holds ticket := by simp [handling, same]
          exact sound.lt_of_holds holds
        · cases attempted
      · cases attempted
  | _ => cases attempted

omit [DecidableEq Worker] in
/-- Beyond the enqueued jobs nothing is tried. -/
theorem Ledger.fresh_step (ledger : Ledger json fleet transitions)
    (beyond : fleet.requests.length ≤ ticket) (succeeded : Bool) :
    attemptsOn (transitions ++ [⟨fleet, label, after⟩]) ticket succeeded = 0 := by
  have noAttempt : fleet.attemptOn ticket label ≠ some succeeded := by
    intro attempted
    have inRange := ledger.sound.lt_of_attempt attempted
    omega
  rw [attemptsOn_snoc, ledger.fresh ticket beyond, if_neg noAttempt]

/-- A step enqueues a job, or leaves the requests. -/
theorem FleetEffect.requests (effect : FleetEffect json fleet label after) :
    after.requests = fleet.requests ∨
      ∃ request, label = .enqueue request ∧ after = fleet.afterEnqueue json request := by
  cases effect with
  | enqueued request => exact .inr ⟨request, rfl, rfl⟩
  | _ => exact .inl rfl

omit [DecidableEq Worker] in
/-- A new job is queued, and nowhere else. -/
theorem Ledger.atStage_enqueued (ledger : Ledger codec.toJsonModule fleet transitions)
    (request : ScoringRequest) :
    (fleet.afterEnqueue codec.toJsonModule request).AtStage codec.toJsonModule
      fleet.requests.length request (.queued 0) := by
  have absent : ∀ copies : List (Copy Text),
      (∀ copy ∈ copies, fleet.Genuine codec.toJsonModule copy) →
        copies.filter (fun copy => copy.ticket = fleet.requests.length) = [] := by
    intro copies genuine
    refine List.filter_eq_nil_iff.mpr fun copy member => ?_
    obtain ⟨other, requested, -⟩ := genuine copy member
    have inRange := (List.getElem?_eq_some_iff.mp requested).1
    simpa using inRange.ne
  have notHeld : ∀ worker, ¬ (fleet.phase worker).Holds fleet.requests.length :=
    fun worker holds => absurd (ledger.sound.lt_of_holds holds) (lt_irrefl _)
  constructor
  · have noOther := absent fleet.queue ledger.sound.queueGenuine
    simp [Fleet.queueOf, Fleet.afterEnqueue, noOther, codec.loads_dumps, JobStage.onQueue]
  · have noOther := absent fleet.dlq ledger.sound.dlqGenuine
    simp [Fleet.dlqOf, Fleet.afterEnqueue, noOther, JobStage.onDlq]
  · intro worker
    exact iff_of_false (notHeld worker) (by simp [JobStage.holder])
  · simp [JobStage.holder]

/-- A step keeps the ledger. -/
theorem Ledger.step (ledger : Ledger codec.toJsonModule fleet transitions)
    (effect : FleetEffect codec.toJsonModule fleet label after)
    (sound : FleetInvariant codec.toJsonModule after) :
    Ledger codec.toJsonModule after (transitions ++ [⟨fleet, label, after⟩]) := by
  refine ⟨sound, ?_, ?_⟩
  · intro ticket request requested
    rcases Nat.lt_or_ge ticket fleet.requests.length with earlier | beyond
    · have before : fleet.requests[ticket]? = some request := by
        rcases effect.requests with same | ⟨new, -, rfl⟩
        · rw [← same, requested]
        · rwa [Fleet.afterEnqueue, List.getElem?_append_left earlier] at requested
      obtain ⟨stage, atStage, failures, successes⟩ := ledger.atStage ticket request before
      obtain ⟨next, atNext, advances⟩ := atStage.step effect earlier
      obtain ⟨nextFailures, nextSuccesses⟩ := advances.counts
      exact ⟨next, atNext, by rw [nextFailures, failures, attemptsOn_snoc],
        by rw [nextSuccesses, successes, attemptsOn_snoc]⟩
    · -- Only the job that this step enqueues is beyond the earlier ones.
      have untried : ∀ succeeded,
          attemptsOn (transitions ++ [⟨fleet, label, after⟩]) ticket succeeded = 0 :=
        ledger.fresh_step beyond
      have inRange := (List.getElem?_eq_some_iff.mp requested).1
      rcases effect.requests with same | ⟨new, -, rfl⟩
      · rw [same] at inRange
        omega
      · simp only [Fleet.afterEnqueue, List.length_append, List.length_singleton] at inRange
        obtain rfl : ticket = fleet.requests.length := by omega
        obtain rfl : new = request := by simpa [Fleet.afterEnqueue] using requested
        exact ⟨.queued 0, ledger.atStage_enqueued new, (untried false).symm, (untried true).symm⟩
  · intro ticket beyond
    refine ledger.fresh_step (le_trans ?_ beyond)
    rcases effect.requests with same | ⟨new, -, rfl⟩
    · rw [same]
    · simp [Fleet.afterEnqueue]

variable {start finish : Fleet Text Worker}

/-- **The ledger of a run.** -/
theorem Ledger.of_run (initial : (fleetSystem codec.toJsonModule).initial start)
    (run : (fleetSystem codec.toJsonModule).Run start transitions finish)
    (gentle : ∀ transition ∈ transitions, EndsNoWorker transition) :
    Ledger codec.toJsonModule finish transitions := by
  induction run with
  | nil =>
      have noRequests : start.requests = [] := initial.2.2.1
      exact ⟨.of_initial initial, by simp [noRequests], fun _ _ _ => rfl⟩
  | snoc earlier step ih =>
      have ledger := ih fun transition member => gentle transition (List.mem_append_left _ member)
      exact ledger.step
        (fleetNext_effect ⟨_, _, _⟩ ledger.sound step
          (gentle _ (List.mem_append_right _ (List.mem_singleton.mpr rfl))))
        (ledger.sound.step step)

/-! ## One copy, and one destination -/

namespace Fleet

variable (fleet : Fleet Text Worker) (ticket : Nat)

/-- A worker that is alive has a copy of the job in memory. -/
def InFlight (worker : Worker) : Prop :=
  (fleet.phase worker).alive ∧ (fleet.phase worker).Holds ticket

/-- There is exactly one copy of the job on the queue and in flight. -/
def OneCopy : Prop :=
  ∃ holder : Option Worker, (∀ worker, fleet.InFlight ticket worker ↔ holder = some worker) ∧
    (fleet.queueOf ticket).length + holder.toList.length = 1

/-- There is no copy of the job on the queue or in flight. -/
def NoCopy : Prop := fleet.queueOf ticket = [] ∧ ∀ worker, ¬ fleet.InFlight ticket worker

/-- The job was processed successfully, or it is on the dead-letter list. -/
def Settled (transitions : List (FleetTransition Text Worker)) : Prop :=
  attemptsOn transitions ticket true ≠ 0 ∨ fleet.dlqOf ticket ≠ []

end Fleet

variable (json) in
/-- The account of a job that was enqueued, after a run. -/
structure Accounted (fleet : Fleet Text Worker) (transitions : List (FleetTransition Text Worker))
    (ticket : Nat) (request : ScoringRequest) : Prop where
  unsettled : ¬ fleet.Settled ticket transitions → fleet.OneCopy ticket
  queued : ∀ copy ∈ fleet.queueOf ticket,
    (attemptsOn transitions ticket false : Int) ≤ MAX_RETRIES ∧
      json.loads copy.text = .ok (scoringJob request (attemptsOn transitions ticket false))
  attempts : (attemptsOn transitions ticket false + attemptsOn transitions ticket true : Int) ≤
    MAX_RETRIES + 1
  settled : fleet.Settled ticket transitions → fleet.NoCopy ticket ∧
    (attemptsOn transitions ticket true = 1 ∧ fleet.dlqOf ticket = [] ∨
      (fleet.dlqOf ticket).length = 1 ∧ attemptsOn transitions ticket true = 0 ∧
        (attemptsOn transitions ticket false : Int) = MAX_RETRIES + 1)

omit [DecidableEq Worker] in
/-- The worker that has the copy of a job is alive. -/
theorem Fleet.AtStage.inFlight_iff (atStage : fleet.AtStage json ticket request stage)
    (worker : Worker) : fleet.InFlight ticket worker ↔ stage.holder = some worker := by
  constructor
  · rintro ⟨-, holds⟩
    exact (atStage.memory worker).mp holds
  · intro held
    exact ⟨(atStage.phase worker held).alive, (atStage.memory worker).mpr held⟩

omit [DecidableEq Worker] in
/-- The numbers of copies on the two lists, by the stage. -/
theorem Fleet.AtStage.lengths (atStage : fleet.AtStage json ticket request stage) :
    (fleet.queueOf ticket).length = (stage.onQueue request).length ∧
      (fleet.dlqOf ticket).length = (stage.onDlq request).length :=
  ⟨by simpa using congrArg List.length atStage.queue,
    by simpa using congrArg List.length atStage.dlq⟩

omit [DecidableEq Worker] in
theorem Fleet.AtStage.noCopy_iff (atStage : fleet.AtStage json ticket request stage) :
    fleet.NoCopy ticket ↔ stage.holder = none ∧ stage.onQueue request = [] := by
  rw [Fleet.NoCopy, ← List.length_eq_zero_iff, atStage.lengths.1, List.length_eq_zero_iff, and_comm]
  refine and_congr_left fun _ => ?_
  simp only [atStage.inFlight_iff]
  exact Option.eq_none_iff_forall_ne_some.symm

omit [DecidableEq Worker] in
/-- A job is settled exactly when there is no copy of it left. -/
theorem Fleet.AtStage.settled_iff (atStage : fleet.AtStage json ticket request stage)
    (successes : stage.successes = attemptsOn transitions ticket true) :
    fleet.Settled ticket transitions ↔ fleet.NoCopy ticket := by
  have dlqLength := atStage.lengths.2
  rw [Fleet.Settled, ← successes, ← List.length_pos_iff_ne_nil, dlqLength, atStage.noCopy_iff]
  cases stage <;> simp [JobStage.successes, JobStage.onDlq, JobStage.holder, JobStage.onQueue]

omit [DecidableEq Worker] in
/-- The account of a job follows from its stage. -/
theorem Fleet.AtStage.accounted (atStage : fleet.AtStage json ticket request stage)
    (failures : stage.failures = attemptsOn transitions ticket false)
    (successes : stage.successes = attemptsOn transitions ticket true) :
    Accounted json fleet transitions ticket request := by
  obtain ⟨queueLength, dlqLength⟩ := atStage.lengths
  have settled := atStage.settled_iff successes
  constructor
  · intro unsettled
    rw [settled, atStage.noCopy_iff] at unsettled
    exact ⟨stage.holder, atStage.inFlight_iff,
      by rw [queueLength, JobStage.oneCopy request unsettled]⟩
  · intro copy member
    have decoded := List.mem_map_of_mem (f := fun copy : Copy Text => json.loads copy.text) member
    rw [atStage.queue] at decoded
    rw [← failures]
    cases stage with
    | queued count =>
        have few := count.isLt
        simp only [JobStage.onQueue, List.map_cons, List.map_nil, List.mem_singleton] at decoded
        refine ⟨?_, decoded⟩
        simp only [JobStage.failures, MAX_RETRIES]
        omega
    | _ => simp [JobStage.onQueue] at decoded
  · rw [← failures, ← successes]
    cases stage <;> simp only [JobStage.failures, JobStage.successes, MAX_RETRIES] <;> omega
  · intro isSettled
    have noCopy := settled.mp isSettled
    obtain ⟨free, notQueued⟩ := atStage.noCopy_iff.mp noCopy
    refine ⟨noCopy, ?_⟩
    rw [← failures, ← successes, ← List.length_eq_zero_iff, dlqLength]
    rcases JobStage.of_noCopy request free notQueued with succeeded | ⟨dead, never, failed⟩
    · exact .inl succeeded
    · exact .inr ⟨dead, never, by rw [failed]; rfl⟩

/-! ## Every job is settled -/

/-- How many steps of its own a worker is away from popping. -/
def WorkerPhase.stepsToPop : WorkerPhase Text → Nat
  | waiting | stopped | dead _ => 0
  | idle => 1
  | requeueing _ _ | deadLettering _ _ => 2
  | backingOff _ _ _ => 3
  | handling _ => 4

/-- Only the worker that takes a step changes its phase. -/
theorem FleetEffect.phase_eq (effect : FleetEffect json fleet label after) {worker : Worker}
    (idle : label.actor ≠ some worker) : after.phase worker = fleet.phase worker := by
  cases effect with
  | enqueued request => rfl
  | signalled other => rfl
  | _ => exact Function.update_of_ne (fun same => idle (congrArg some same.symm)) _ _

/-- A step pops the last copy of the queue, or only adds copies in front. -/
theorem FleetEffect.queue (effect : FleetEffect json fleet label after) :
    (∃ added, after.queue = added ++ fleet.queue) ∨
      ∃ popped, fleet.queue = after.queue ++ [popped] := by
  cases effect with
  | enqueued request => exact .inl ⟨[_], rfl⟩
  | requeued worker copy text requeueing => exact .inl ⟨[_], rfl⟩
  | popped worker rest copy waiting queue => exact .inr ⟨copy, queue⟩
  | _ => exact .inl ⟨[], rfl⟩

/-- A worker that takes a step and stays alive comes closer to popping, or pops. -/
theorem FleetEffect.stepsToPop_lt (effect : FleetEffect json fleet label after) {worker : Worker}
    (acts : label.actor = some worker) (alive : (after.phase worker).alive)
    (queued : fleet.queue ≠ []) :
    (after.phase worker).stepsToPop < (fleet.phase worker).stepsToPop ∨
      ∃ popped, fleet.queue = after.queue ++ [popped] := by
  cases effect with
  | enqueued request => cases acts
  | signalled other => cases acts
  | popped other rest copy waiting queue => exact .inr ⟨copy, queue⟩
  | timedOut other waiting empty => exact absurd empty queued
  | checked other phase idle next =>
      obtain rfl := Option.some.inj acts
      by_cases asked : fleet.shutdown other
      · simp [Fleet.setPhase, next, asked, WorkerPhase.alive] at alive
      · simp [Fleet.setPhase, next, asked, idle, WorkerPhase.stepsToPop]
  | succeeded other copy handling =>
      obtain rfl := Option.some.inj acts
      simp [Fleet.setPhase, handling, WorkerPhase.stepsToPop]
  | failed other copy failure request retries handling decoded few =>
      obtain rfl := Option.some.inj acts
      simp [Fleet.setPhase, handling, WorkerPhase.stepsToPop]
  | exhausted other copy failure request retries handling decoded many =>
      obtain rfl := Option.some.inj acts
      simp [Fleet.setPhase, handling, WorkerPhase.stepsToPop]
  | woke other copy request retries asleep =>
      obtain rfl := Option.some.inj acts
      simp [Fleet.setPhase, asleep, WorkerPhase.stepsToPop]
  | requeued other copy text requeueing =>
      obtain rfl := Option.some.inj acts
      simp [Fleet.afterRequeue, Fleet.setPhase, requeueing, WorkerPhase.stepsToPop]
  | buried other copy text deadLettering =>
      obtain rfl := Option.some.inj acts
      simp [Fleet.afterDeadLetter, Fleet.setPhase, deadLettering, WorkerPhase.stepsToPop]

variable (json) in
/-- The moves of the job that are left, then the copies behind it on the queue, then the
steps until the worker that stays alive pops. Next to act is the worker that has the copy,
or the one that stays alive. -/
def Fleet.Waits (fleet : Fleet Text Worker) (ticket : Nat) (request : ScoringRequest)
    (survivor : Worker) (rank : ℕ ×ₗ ℕ ×ₗ ℕ) (actor : Worker) : Prop :=
  ∃ stage, fleet.AtStage json ticket request stage ∧
    (stage.holder = some actor ∧ rank = toLex (stage.movesLeft, toLex (0, 0)) ∨
      actor = survivor ∧ stage.holder = none ∧ ∃ front copy behind,
        fleet.queue = front ++ copy :: behind ∧ copy.ticket = ticket ∧
          rank = toLex (stage.movesLeft,
            toLex (behind.length, (fleet.phase survivor).stepsToPop)))

omit [DecidableEq Worker] in
/-- A job that has a copy left is waited for. -/
theorem Fleet.AtStage.exists_waits (atStage : fleet.AtStage json ticket request stage)
    (unsettled : ¬ fleet.NoCopy ticket) (survivor : Worker) :
    ∃ rest actor,
      fleet.Waits json ticket request survivor (toLex (stage.movesLeft, rest)) actor := by
  rw [atStage.noCopy_iff] at unsettled
  cases held : stage.holder with
  | some worker => exact ⟨_, worker, stage, atStage, .inl ⟨held, rfl⟩⟩
  | none =>
      have queued : fleet.queueOf ticket ≠ [] := by
        rw [← List.length_pos_iff_ne_nil, atStage.lengths.1, List.length_pos_iff_ne_nil]
        exact fun empty => unsettled ⟨held, empty⟩
      obtain ⟨copy, member⟩ := List.exists_mem_of_ne_nil _ queued
      obtain ⟨inQueue, isJob⟩ := List.mem_filter.mp member
      obtain ⟨front, behind, queue⟩ := List.append_of_mem inQueue
      exact ⟨_, survivor, stage, atStage,
        .inr ⟨rfl, held, front, copy, behind, queue, by simpa using isJob, rfl⟩⟩

omit [DecidableEq Worker] in
/-- The copy that is popped while the job stays queued is that of another job. -/
theorem Fleet.AtStage.popped_ne (atStage : fleet.AtStage json ticket request stage)
    (still : after.AtStage json ticket request stage) {popped : Copy Text}
    (queue : fleet.queue = after.queue ++ [popped]) : popped.ticket ≠ ticket := by
  intro same
  have oneLess : (fleet.queueOf ticket).length = (after.queueOf ticket).length + 1 := by
    simp [Fleet.queueOf, queue, same]
  rw [atStage.lengths.1, still.lengths.1] at oneLess
  omega

omit [DecidableEq Worker] in
/-- The worker that acts next is alive. -/
theorem Fleet.Waits.alive {survivor actor : Worker} {rank : ℕ ×ₗ ℕ ×ₗ ℕ}
    (waits : fleet.Waits json ticket request survivor rank actor)
    (alive : (fleet.phase survivor).alive) : (fleet.phase actor).alive := by
  obtain ⟨stage, atStage, ⟨held, -⟩ | ⟨rfl, -⟩⟩ := waits
  · exact (atStage.phase actor held).alive
  · exact alive

/-- A step brings the job closer to its end, or leaves it as it is and is none of the
worker that acts next. -/
theorem Fleet.Waits.step {survivor actor : Worker} {rank : ℕ ×ₗ ℕ ×ₗ ℕ}
    (waits : fleet.Waits codec.toJsonModule ticket request survivor rank actor)
    (effect : FleetEffect codec.toJsonModule fleet label after)
    (enqueued : ticket < fleet.requests.length) (alive : (after.phase survivor).alive) :
    after.NoCopy ticket ∨
      (∃ lower other, lower < rank ∧
        after.Waits codec.toJsonModule ticket request survivor lower other) ∨
      after.Waits codec.toJsonModule ticket request survivor rank actor ∧
        label.actor ≠ some actor := by
  obtain ⟨stage, atStage, place⟩ := waits
  obtain ⟨next, atNext, advances⟩ := atStage.step effect enqueued
  rcases advances with ⟨rfl, -, notHolder⟩ | move
  · rcases place with ⟨held, rfl⟩ | ⟨rfl, free, front, copy, behind, queue, isJob, rfl⟩
    · exact .inr (.inr ⟨⟨next, atNext, .inl ⟨held, rfl⟩⟩, notHolder actor held⟩)
    · rcases effect.queue with ⟨added, grown⟩ | ⟨popped, shrunk⟩
      · have nowQueue : after.queue = (added ++ front) ++ copy :: behind := by
          rw [grown, queue, List.append_assoc]
        by_cases acts : label.actor = some actor
        · rcases effect.stepsToPop_lt acts alive (by simp [queue]) with closer | ⟨popped, shrunk⟩
          · refine .inr (.inl ⟨_, actor, ?_, next, atNext,
              .inr ⟨rfl, free, _, copy, behind, nowQueue, isJob, rfl⟩⟩)
            simp [Prod.Lex.toLex_lt_toLex, closer]
          · have lengths := congrArg List.length shrunk
            rw [grown] at lengths
            simp at lengths
            omega
        · refine .inr (.inr ⟨⟨next, atNext,
            .inr ⟨rfl, free, _, copy, behind, nowQueue, isJob, ?_⟩⟩, acts⟩)
          rw [effect.phase_eq acts]
      · have other := atStage.popped_ne atNext shrunk
        rcases List.eq_nil_or_concat behind with rfl | ⟨rest, last, rfl⟩
        · obtain ⟨-, same⟩ := List.append_inj' (queue.symm.trans shrunk) rfl
          rw [← List.singleton_inj.mp same] at other
          exact absurd isJob other
        · rw [List.concat_eq_append, ← List.cons_append, ← List.append_assoc, shrunk] at queue
          obtain ⟨nowQueue, -⟩ := List.append_inj' queue rfl
          refine .inr (.inl ⟨_, actor, ?_, next, atNext,
            .inr ⟨rfl, free, front, copy, rest, nowQueue, isJob, rfl⟩⟩)
          simp [Prod.Lex.toLex_lt_toLex]
  · by_cases settled : after.NoCopy ticket
    · exact .inl settled
    · obtain ⟨rest, other, waitsNow⟩ := atNext.exists_waits settled survivor
      refine .inr (.inl ⟨_, other, ?_, waitsNow⟩)
      have fewer := JobStage.movesLeft_lt move
      rcases place with ⟨-, rfl⟩ | ⟨-, -, front, copy, behind, -, -, rfl⟩ <;>
        simp [Prod.Lex.toLex_lt_toLex, fewer]

variable (Worker json) in
/-- An infinite sequence of steps of a fleet. -/
abbrev FleetExecution :=
  Execution (fleetSystem json : TransitionSystem (Fleet Text Worker) (FleetStep Worker))

/-- No worker is ended from outside, every worker that is alive takes another step, and
one worker stays alive. -/
structure Persists (execution : FleetExecution Worker json) : Prop where
  gentle : ∀ moment, EndsNoWorker (execution.transition moment)
  moves : ∀ moment worker, ((execution.state moment).phase worker).alive →
    ∃ later, moment ≤ later ∧ (execution.label later).actor = some worker
  survives : ∃ survivor, ∀ moment, ((execution.state moment).phase survivor).alive

section Executions

variable {execution : FleetExecution Worker codec.toJsonModule}

/-- The ledger at every moment of an execution that continues a run. -/
theorem Persists.ledger (persists : Persists execution)
    (initial : (fleetSystem codec.toJsonModule).initial start)
    (run : (fleetSystem codec.toJsonModule).Run start transitions (execution.state 0))
    (gentle : ∀ transition ∈ transitions, EndsNoWorker transition) (moment : ℕ) :
    Ledger codec.toJsonModule (execution.state moment) (transitions ++ execution.taken moment) := by
  refine .of_run initial (Execution.run run moment) fun transition member => ?_
  rcases List.mem_append.mp member with before | within
  · exact gentle transition before
  · obtain ⟨earlier, rfl⟩ := Execution.mem_taken within
    exact persists.gentle earlier

/-- **Every job is settled** in an execution in which the workers keep moving. -/
theorem Persists.eventually_settled (persists : Persists execution)
    (initial : (fleetSystem codec.toJsonModule).initial start)
    (run : (fleetSystem codec.toJsonModule).Run start transitions (execution.state 0))
    (gentle : ∀ transition ∈ transitions, EndsNoWorker transition)
    (enqueued : (execution.state 0).requests[ticket]? = some request) :
    ∃ moment, (execution.state moment).Settled ticket (transitions ++ execution.taken moment) := by
  have ledger := persists.ledger initial run gentle
  have effect (moment : ℕ) : FleetEffect codec.toJsonModule (execution.state moment)
      (execution.label moment) (execution.state (moment + 1)) :=
    fleetNext_effect (execution.transition moment) (ledger moment).sound (execution.step moment)
      (persists.gentle moment)
  have requested (moment : ℕ) : (execution.state moment).requests[ticket]? = some request := by
    induction moment with
    | zero => exact enqueued
    | succ moment ih =>
        rcases (effect moment).requests with same | ⟨new, -, next⟩
        · rw [same, ih]
        · rw [next, Fleet.afterEnqueue,
            List.getElem?_append_left (List.getElem?_eq_some_iff.mp ih).1, ih]
  -- The job is settled once there is no copy of it left.
  obtain ⟨moment, noCopy⟩ : ∃ moment, (execution.state moment).NoCopy ticket := by
    by_cases settled : (execution.state 0).NoCopy ticket
    · exact ⟨0, settled⟩
    · obtain ⟨survivor, alive⟩ := persists.survives
      obtain ⟨stage, atStage, -⟩ := (ledger 0).atStage ticket request enqueued
      obtain ⟨rest, actor, waits⟩ := atStage.exists_waits settled survivor
      obtain ⟨later, -, noCopy⟩ := eventually_of_rank
        (fun moment => (execution.state moment).Waits codec.toJsonModule ticket request survivor)
        (fun moment actor => (execution.label moment).actor = some actor)
        (fun moment => (execution.state moment).NoCopy ticket)
        (fun moment rank actor waits => waits.step (effect moment)
          (List.getElem?_eq_some_iff.mp (requested moment)).1 (alive (moment + 1)))
        (fun moment rank actor waits => persists.moves moment actor (waits.alive (alive moment)))
        waits
      exact ⟨later, noCopy⟩
  obtain ⟨stage, atStage, -, successes⟩ := (ledger moment).atStage ticket request (requested moment)
  exact ⟨moment, (atStage.settled_iff successes).mpr noCopy⟩

end Executions

/-- **Bounded retries and one destination.** After every run in which no worker is ended
from outside, every enqueued job is accounted for: it has one copy until it is settled,
the copy counts its failed attempts, it is tried at most four times, and it is processed
once or is once on the dead-letter list after four failures. It is settled in every
continuation in which the workers keep moving. -/
theorem bounded_retries (codec : JsonCodec Text) (start finish : Fleet Text Worker)
    (transitions : List (FleetTransition Text Worker))
    (initial : (fleetSystem codec.toJsonModule).initial start)
    (run : (fleetSystem codec.toJsonModule).Run start transitions finish)
    (gentle : ∀ transition ∈ transitions, EndsNoWorker transition)
    (ticket : Nat) (request : ScoringRequest)
    (enqueued : finish.requests[ticket]? = some request) :
    Accounted codec.toJsonModule finish transitions ticket request ∧
      ∀ execution : FleetExecution Worker codec.toJsonModule,
        execution.state 0 = finish → Persists execution →
          ∃ moment, (execution.state moment).Settled ticket
            (transitions ++ execution.taken moment) := by
  constructor
  · obtain ⟨stage, atStage, failures, successes⟩ :=
      (Ledger.of_run initial run gentle).atStage ticket request enqueued
    exact atStage.accounted failures successes
  · rintro execution rfl persists
    exact persists.eventually_settled initial run gentle enqueued

end System

/-! ## A worker that retries a job -/

/-- One worker in some phase, after one request. -/
def lone (queue : List (Copy Json)) (phase : WorkerPhase Json) (processed : List Nat) :
    Fleet Json Unit where
  queue := queue
  dlq := []
  phase _ := phase
  shutdown _ := false
  requests := [killedRequest]
  processed := processed

@[simp] theorem lone_setPhase (queue : List (Copy Json)) (phase later : WorkerPhase Json)
    (processed : List Nat) :
    (lone queue phase processed).setPhase () later = lone queue later processed := by
  simp only [lone, Fleet.setPhase, Fleet.mk.injEq, true_and, and_true]
  funext worker
  rfl

/-- The copy of the job after some failures. -/
def failedCopy (retries : Nat) : Copy Json := ⟨0, scoringJob killedRequest retries⟩

section Lone

variable (queue : List (Copy Json)) (copy : Copy Json) (processed : List Nat)

theorem lone_check : fleetNext JsonCodec.ofValues.toJsonModule (lone queue .idle processed)
    (.check ()) = some (lone queue .waiting processed) :=
  congrArg some (lone_setPhase queue .idle .waiting processed)

theorem lone_pop : fleetNext JsonCodec.ofValues.toJsonModule (lone [copy] .waiting processed)
    (.brpop ()) = some (lone [] (.handling copy) processed) :=
  congrArg some (lone_setPhase [] .waiting (.handling copy) processed)

theorem lone_timeout : fleetNext JsonCodec.ofValues.toJsonModule (lone [] .waiting processed)
    (.brpop ()) = some (lone [] .idle processed) :=
  congrArg some (lone_setPhase [] .waiting .idle processed)

theorem lone_process (retries : Nat) (outcome : Except PyException Unit) :
    fleetNext JsonCodec.ofValues.toJsonModule
        (lone queue (.handling (failedCopy retries)) processed) (.process () outcome) =
      some ((lone queue (.handling (failedCopy retries)) processed).afterProcess
        JsonCodec.ofValues.toJsonModule () (failedCopy retries) outcome) := rfl

end Lone

/-- The first attempt fails, and the job is pushed back. -/
def retryTransitions : List (FleetTransition Json Unit) :=
  [⟨idleFleet, .enqueue killedRequest, lone [failedCopy 0] .idle []⟩,
    ⟨lone [failedCopy 0] .idle [], .check (), lone [failedCopy 0] .waiting []⟩,
    ⟨lone [failedCopy 0] .waiting [], .brpop (), lone [] (.handling (failedCopy 0)) []⟩,
    ⟨lone [] (.handling (failedCopy 0)) [], .process () (.error (.exception "TimeoutError")),
      lone [] (.backingOff (failedCopy 0) (scoringJob killedRequest 0) (.int 1)) []⟩,
    ⟨lone [] (.backingOff (failedCopy 0) (scoringJob killedRequest 0) (.int 1)) [], .wake (),
      lone [] (.requeueing (failedCopy 0) (scoringJob killedRequest 1)) []⟩,
    ⟨lone [] (.requeueing (failedCopy 0) (scoringJob killedRequest 1)) [], .lpush (),
      lone [failedCopy 1] .idle []⟩]

theorem retry_run : (fleetSystem JsonCodec.ofValues.toJsonModule).Run idleFleet retryTransitions
    (lone [failedCopy 1] .idle []) := by
  have decoded : JsonCodec.ofValues.loads (failedCopy 0).text = .ok (scoringJob killedRequest 0) :=
    rfl
  have failed := attemptPhase_eq decoded (.error (.exception "TimeoutError"))
  have processed : fleetNext JsonCodec.ofValues.toJsonModule
      (lone [] (.handling (failedCopy 0)) []) (.process () (.error (.exception "TimeoutError"))) =
        some (lone [] (.backingOff (failedCopy 0) (scoringJob killedRequest 0) (.int 1)) []) := by
    rw [lone_process, Fleet.afterProcess, failed]
    exact congrArg some (lone_setPhase _ _ _ _)
  exact (((((Run.nil.snoc rfl).snoc (lone_check _ _)).snoc (lone_pop _ _)).snoc processed).snoc
    (congrArg some (lone_setPhase _ _ _ _))).snoc (congrArg some (lone_setPhase _ _ _ _))

/-- The second attempt succeeds, and then the worker finds the queue empty, over and
over. -/
def servedState : ℕ → Fleet Json Unit
  | 0 => lone [failedCopy 1] .idle []
  | 1 => lone [failedCopy 1] .waiting []
  | 2 => lone [] (.handling (failedCopy 1)) []
  | moment + 3 => lone [] (if moment % 2 = 0 then .idle else .waiting) [0]

def servedLabel : ℕ → FleetStep Unit
  | 0 => .check ()
  | 1 => .brpop ()
  | 2 => .process () (.ok ())
  | moment + 3 => if moment % 2 = 0 then .check () else .brpop ()

def served : FleetExecution Unit JsonCodec.ofValues.toJsonModule where
  state := servedState
  label := servedLabel
  step
    | 0 => lone_check _ _
    | 1 => lone_pop _ _
    | 2 => by
        have decoded : JsonCodec.ofValues.loads (failedCopy 1).text =
            .ok (scoringJob killedRequest 1) := rfl
        have succeeded := attemptPhase_eq decoded (.ok ())
        refine (lone_process _ _ _ _).trans ?_
        rw [Fleet.afterProcess, succeeded]
        exact congrArg some (lone_setPhase [] _ _ [0])
    | moment + 3 => by
        rcases Nat.mod_two_eq_zero_or_one moment with even | odd
        · have next : (moment + 1) % 2 = 1 := by omega
          simp only [servedState, servedLabel, even, next, if_true, Nat.one_ne_zero, if_false]
          exact lone_check [] [0]
        · have next : (moment + 1) % 2 = 0 := by omega
          simp only [servedState, servedLabel, odd, next, if_true, Nat.one_ne_zero, if_false]
          exact lone_timeout [0]

theorem served_persists : Persists served where
  gentle
    | 0 | 1 | 2 => trivial
    | moment + 3 => by
        by_cases even : moment % 2 = 0 <;>
          simp [Execution.transition, served, servedLabel, even, EndsNoWorker]
  moves moment _ _ := by
    refine ⟨moment, le_rfl, ?_⟩
    match moment with
    | 0 | 1 | 2 => rfl
    | moment + 3 =>
        by_cases even : moment % 2 = 0 <;> simp [served, servedLabel, even, FleetStep.actor]
  survives := ⟨(), fun moment => by
    match moment with
    | 0 | 1 | 2 => rfl
    | moment + 3 =>
        by_cases even : moment % 2 = 0 <;>
          simp [served, servedState, lone, even, WorkerPhase.alive]⟩

/-- The job that was retried is accounted for, and it is settled later on. -/
theorem retried_job_is_settled :
    Accounted JsonCodec.ofValues.toJsonModule (lone [failedCopy 1] .idle []) retryTransitions 0
        killedRequest ∧
      ∃ moment, (served.state moment).Settled 0 (retryTransitions ++ served.taken moment) := by
  have gentle : ∀ transition ∈ retryTransitions, EndsNoWorker transition := by
    simp [retryTransitions, EndsNoWorker, PyException.isException]
  have account := bounded_retries JsonCodec.ofValues idleFleet (lone [failedCopy 1] .idle [])
    retryTransitions ⟨rfl, rfl, rfl, fun _ => rfl⟩ retry_run gentle 0 killedRequest rfl
  exact ⟨account.1, account.2 served rfl served_persists⟩

end LlmopsPlatform.Workers
