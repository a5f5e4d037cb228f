import LlmopsPlatform.Workers.JobConservation

/-!
# The life of one job

A job that was enqueued is queued, handled, and after a failure asleep, pushed back and
queued again, until it succeeds or is buried on the dead-letter list. At every stage
there is one copy of it, which is in one place and counts the failures (`JobStage`,
`JobMove`).

While no worker is ended from outside, the fleet has every job at a stage
(`Fleet.AtStage`), and a step of the fleet leaves the stage of a job or moves it on
(`Fleet.AtStage.step`).
-/

set_option autoImplicit false

namespace LlmopsPlatform.Workers

open Foundations Python TransitionSystem

/-! ## Stages -/

/-- Where the copy of a job is. The number is that of the failed attempts. A job that is
not settled has at most three. -/
inductive JobStage (Worker : Type) where
  | queued (failures : Fin 4)
  | handling (worker : Worker) (failures : Fin 4)
  | backingOff (worker : Worker) (failures : Fin 4)
  | requeueing (worker : Worker) (failures : Fin 4)
  | deadLettering (worker : Worker)
  | succeeded (failures : Fin 4)
  | dead

/-- The moves from stage to stage. A move that ends an attempt says whether it
succeeded. -/
inductive JobMove {Worker : Type} : JobStage Worker → Option Bool → JobStage Worker → Prop where
  | popped (worker : Worker) (failures : Fin 4) :
      JobMove (.queued failures) none (.handling worker failures)
  | succeeded (worker : Worker) (failures : Fin 4) :
      JobMove (.handling worker failures) (some true) (.succeeded failures)
  | failed (worker : Worker) (failures : Fin 4) (few : failures.val + 1 < 4) :
      JobMove (.handling worker failures) (some false) (.backingOff worker ⟨failures + 1, few⟩)
  | exhausted (worker : Worker) : JobMove (.handling worker 3) (some false) (.deadLettering worker)
  | woke (worker : Worker) (failures : Fin 4) :
      JobMove (.backingOff worker failures) none (.requeueing worker failures)
  | requeued (worker : Worker) (failures : Fin 4) :
      JobMove (.requeueing worker failures) none (.queued failures)
  | buried (worker : Worker) : JobMove (.deadLettering worker) none .dead

namespace JobStage

variable {Worker : Type}

def failures : JobStage Worker → Nat
  | queued failures | handling _ failures | backingOff _ failures | requeueing _ failures
  | succeeded failures => failures
  | deadLettering _ | dead => 4

def successes : JobStage Worker → Nat
  | succeeded _ => 1
  | _ => 0

/-- The worker that has the copy in memory. -/
def holder : JobStage Worker → Option Worker
  | handling worker _ | backingOff worker _ | requeueing worker _ | deadLettering worker =>
      some worker
  | queued _ | succeeded _ | dead => none

/-- The jobs on the queue at this stage. -/
def onQueue (request : ScoringRequest) : JobStage Worker → List Json
  | queued failures => [scoringJob request failures]
  | _ => []

/-- The jobs on the dead-letter list at this stage. -/
def onDlq (request : ScoringRequest) : JobStage Worker → List Json
  | dead => [scoringJob request 3]
  | _ => []

/-- An upper bound for the number of moves that are left. -/
def movesLeft : JobStage Worker → Nat
  | queued failures => 16 - 4 * failures
  | handling _ failures => 15 - 4 * failures
  | backingOff _ failures => 18 - 4 * failures
  | requeueing _ failures => 17 - 4 * failures
  | deadLettering _ => 2
  | succeeded _ | dead => 0

variable {before after : JobStage Worker} {attempt : Option Bool}

theorem movesLeft_lt (move : JobMove before attempt after) :
    after.movesLeft < before.movesLeft := by
  cases move <;> simp only [movesLeft] <;> omega

/-- A move counts the failure of the attempt that it ends. -/
theorem failures_after (move : JobMove before attempt after) :
    after.failures = before.failures + if attempt = some false then 1 else 0 := by
  cases move <;> rfl

/-- A job with no copy on the queue or in memory has succeeded or is dead. -/
theorem of_noCopy {stage : JobStage Worker} (request : ScoringRequest) (free : stage.holder = none)
    (notQueued : stage.onQueue request = []) :
    stage.successes = 1 ∧ (stage.onDlq request).length = 0 ∨
      (stage.onDlq request).length = 1 ∧ stage.successes = 0 ∧ stage.failures = 4 := by
  cases stage <;> simp_all [holder, onQueue, onDlq, successes, failures]

/-- Any other job has one copy. -/
theorem oneCopy {stage : JobStage Worker} (request : ScoringRequest)
    (unsettled : ¬ (stage.holder = none ∧ stage.onQueue request = [])) :
    (stage.onQueue request).length + stage.holder.toList.length = 1 := by
  cases stage <;> simp_all [holder, onQueue]

theorem successes_after (move : JobMove before attempt after) :
    after.successes = before.successes + if attempt = some true then 1 else 0 := by
  cases move <;> rfl

end JobStage

/-! ## Stages in the fleet -/

section System

variable {Text Worker : Type} [DecidableEq Worker] (json : JsonModule Text)

/-- The worker that takes the step. -/
def FleetStep.actor : FleetStep Worker → Option Worker
  | check worker | brpop worker | process worker _ | wake worker | lpush worker => some worker
  | enqueue _ | signal _ | kill _ => none

namespace Fleet

variable (fleet : Fleet Text Worker) (ticket : Nat) (request : ScoringRequest)

/-- The copies of a job on the queue. -/
def queueOf : List (Copy Text) := fleet.queue.filter fun copy => copy.ticket = ticket

/-- The copies of a job on the dead-letter list. -/
def dlqOf : List (Copy Text) := fleet.dlq.filter fun copy => copy.ticket = ticket

end Fleet

/-- The phase has a copy of the job in memory. -/
def WorkerPhase.Holds (ticket : Nat) (phase : WorkerPhase Text) : Prop :=
  phase.held.map Copy.ticket = some ticket

section Holds

variable {ticket : Nat} {copy : Copy Text} {job_data retry_count : Json} {text : Text}

@[simp] theorem WorkerPhase.holds_idle : ¬ (idle : WorkerPhase Text).Holds ticket := by
  simp [Holds, held]

@[simp] theorem WorkerPhase.holds_waiting : ¬ (waiting : WorkerPhase Text).Holds ticket := by
  simp [Holds, held]

@[simp] theorem WorkerPhase.holds_stopped : ¬ (stopped : WorkerPhase Text).Holds ticket := by
  simp [Holds, held]

@[simp] theorem WorkerPhase.holds_handling :
    (handling copy).Holds ticket ↔ copy.ticket = ticket := by
  simp [Holds, held]

@[simp] theorem WorkerPhase.holds_backingOff :
    (backingOff copy job_data retry_count).Holds ticket ↔ copy.ticket = ticket := by
  simp [Holds, held]

@[simp] theorem WorkerPhase.holds_requeueing :
    (requeueing copy text).Holds ticket ↔ copy.ticket = ticket := by
  simp [Holds, held]

@[simp] theorem WorkerPhase.holds_deadLettering :
    (deadLettering copy text).Holds ticket ↔ copy.ticket = ticket := by
  simp [Holds, held]

end Holds

/-- What the worker that has the copy is doing with it. -/
inductive JobStage.InMemory (ticket : Nat) (request : ScoringRequest) :
    JobStage Worker → WorkerPhase Text → Prop where
  | handling {worker : Worker} {failures : Fin 4} {text : Text}
      (decoded : json.loads text = .ok (scoringJob request failures)) :
      InMemory ticket request (.handling worker failures) (.handling ⟨ticket, text⟩)
  | backingOff {worker : Worker} {failures : Fin 4} {text : Text} {retries : Nat}
      (counted : failures.val = retries + 1) :
      InMemory ticket request (.backingOff worker failures)
        (.backingOff ⟨ticket, text⟩ (scoringJob request retries) (.int (retries + 1 : Nat)))
  | requeueing {worker : Worker} {failures : Fin 4} {handled text : Text}
      (decoded : json.loads text = .ok (scoringJob request failures)) :
      InMemory ticket request (.requeueing worker failures) (.requeueing ⟨ticket, handled⟩ text)
  | deadLettering {worker : Worker} {handled text : Text}
      (decoded : json.loads text = .ok (scoringJob request 3)) :
      InMemory ticket request (.deadLettering worker) (.deadLettering ⟨ticket, handled⟩ text)

variable {json} in
omit [DecidableEq Worker] in
theorem JobStage.InMemory.alive {ticket : Nat} {request : ScoringRequest} {stage : JobStage Worker}
    {phase : WorkerPhase Text} (inMemory : stage.InMemory json ticket request phase) :
    phase.alive := by
  cases inMemory <;> rfl

variable {json} in
omit [DecidableEq Worker] in
theorem JobStage.InMemory.holds {ticket : Nat} {request : ScoringRequest} {stage : JobStage Worker}
    {phase : WorkerPhase Text} (inMemory : stage.InMemory json ticket request phase) :
    phase.Holds ticket := by
  cases inMemory <;> rfl

/-- The fleet has exactly the copy of the job that belongs to its stage. -/
structure Fleet.AtStage (fleet : Fleet Text Worker) (ticket : Nat) (request : ScoringRequest)
    (stage : JobStage Worker) : Prop where
  queue : (fleet.queueOf ticket).map (fun copy => json.loads copy.text) =
    (stage.onQueue request).map .ok
  dlq : (fleet.dlqOf ticket).map (fun copy => json.loads copy.text) =
    (stage.onDlq request).map .ok
  memory : ∀ worker, (fleet.phase worker).Holds ticket ↔ stage.holder = some worker
  phase : ∀ worker, stage.holder = some worker →
    stage.InMemory json ticket request (fleet.phase worker)

/-- How the step ends an attempt on the job, if it does. -/
def Fleet.attemptOn (fleet : Fleet Text Worker) (ticket : Nat) : FleetStep Worker → Option Bool
  | .process worker outcome =>
      match fleet.phase worker with
      | .handling copy => if copy.ticket = ticket then some outcome.isOk else none
      | _ => none
  | _ => none

omit [DecidableEq Worker] in
theorem Fleet.attemptOn_process {fleet : Fleet Text Worker} {worker : Worker} {copy : Copy Text}
    (handling : fleet.phase worker = .handling copy) (ticket : Nat)
    (outcome : Except PyException Unit) :
    fleet.attemptOn ticket (.process worker outcome) =
      if copy.ticket = ticket then some outcome.isOk else none := by
  simp only [attemptOn, handling]

/-- A step leaves the job at its stage, and is none of the worker that has the copy, or
moves the job on. -/
def Fleet.Advances (fleet : Fleet Text Worker) (label : FleetStep Worker) (ticket : Nat)
    (stage next : JobStage Worker) : Prop :=
  (next = stage ∧ fleet.attemptOn ticket label = none ∧
      ∀ worker, stage.holder = some worker → label.actor ≠ some worker) ∨
    JobMove stage (fleet.attemptOn ticket label) next

variable {json} {fleet after : Fleet Text Worker} {ticket : Nat} {request : ScoringRequest}
  {stage : JobStage Worker} {worker : Worker} {phase : WorkerPhase Text}

namespace Fleet.AtStage

/-- A worker moves a job from a stage to another. -/
theorem move (atStage : fleet.AtStage json ticket request stage)
    (phases : after.phase = Function.update fleet.phase worker phase) {next : JobStage Worker}
    (wasHeld : ∀ other, stage.holder = some other → other = worker)
    (isHeld : ∀ other, next.holder = some other → other = worker)
    (holds : phase.Holds ticket ↔ next.holder = some worker)
    (content : next.holder = some worker → next.InMemory json ticket request phase)
    (queue : (after.queueOf ticket).map (fun copy => json.loads copy.text) =
      (next.onQueue request).map .ok)
    (dlq : (after.dlqOf ticket).map (fun copy => json.loads copy.text) =
      (next.onDlq request).map .ok) :
    after.AtStage json ticket request next where
  queue := queue
  dlq := dlq
  memory := by
    intro other
    rw [phases]
    by_cases same : other = worker
    · rw [same, Function.update_self]
      exact holds
    · rw [Function.update_of_ne same, atStage.memory other]
      exact iff_of_false (fun held => same (wasHeld other held))
        (fun held => same (isHeld other held))
  phase := by
    intro other held
    obtain rfl := isHeld other held
    rw [phases, Function.update_self]
    exact content held

/-- A worker has the copy of a job after a step, and no other worker had it before. -/
theorem hold (atStage : fleet.AtStage json ticket request stage)
    (phases : after.phase = Function.update fleet.phase worker phase) {next : JobStage Worker}
    (wasHeld : stage.holder = none ∨ stage.holder = some worker)
    (isHeld : next.holder = some worker) (content : next.InMemory json ticket request phase)
    (queue : (after.queueOf ticket).map (fun copy => json.loads copy.text) =
      (next.onQueue request).map .ok)
    (dlq : (after.dlqOf ticket).map (fun copy => json.loads copy.text) =
      (next.onDlq request).map .ok) :
    after.AtStage json ticket request next := by
  refine atStage.move phases ?_ ?_ ?_ (fun _ => content) queue dlq
  · intro other held
    rcases wasHeld with free | mine
    · rw [free] at held
      cases held
    · exact Option.some.inj (held.symm.trans mine)
  · intro other held
    exact Option.some.inj (held.symm.trans isHeld)
  · exact iff_of_true content.holds isHeld

/-- A worker gives the copy of a job away. -/
theorem release (atStage : fleet.AtStage json ticket request stage)
    (phases : after.phase = Function.update fleet.phase worker .idle) {next : JobStage Worker}
    (wasHeld : stage.holder = some worker) (free : next.holder = none)
    (queue : (after.queueOf ticket).map (fun copy => json.loads copy.text) =
      (next.onQueue request).map .ok)
    (dlq : (after.dlqOf ticket).map (fun copy => json.loads copy.text) =
      (next.onDlq request).map .ok) :
    after.AtStage json ticket request next := by
  refine atStage.move phases ?_ ?_ ?_ ?_ queue dlq
  · intro other held
    exact Option.some.inj (held.symm.trans wasHeld)
  · intro other held
    rw [free] at held
    cases held
  · simp [free]
  · intro held
    rw [free] at held
    cases held

omit [DecidableEq Worker] in
/-- A step of workers that have no copy of the job leaves its stage. -/
theorem keep (atStage : fleet.AtStage json ticket request stage)
    (phases : ∀ worker, after.phase worker = fleet.phase worker ∨
      ¬ (fleet.phase worker).Holds ticket ∧ ¬ (after.phase worker).Holds ticket)
    (queue : after.queueOf ticket = fleet.queueOf ticket)
    (dlq : after.dlqOf ticket = fleet.dlqOf ticket) :
    after.AtStage json ticket request stage where
  queue := by rw [queue, atStage.queue]
  dlq := by rw [dlq, atStage.dlq]
  memory := by
    intro worker
    rw [← atStage.memory worker]
    rcases phases worker with same | ⟨before, still⟩
    · rw [same]
    · exact iff_of_false still before
  phase := by
    intro worker held
    rcases phases worker with same | ⟨before, -⟩
    · rw [same]
      exact atStage.phase worker held
    · exact absurd ((atStage.memory worker).mpr held) before

omit [DecidableEq Worker] in
/-- What a worker does that has the copy of the job. -/
theorem inMemory (atStage : fleet.AtStage json ticket request stage) {phase : WorkerPhase Text}
    (inPhase : fleet.phase worker = phase) (holds : phase.Holds ticket) :
    stage.holder = some worker ∧ stage.InMemory json ticket request phase := by
  subst inPhase
  have held := (atStage.memory worker).mp holds
  exact ⟨held, atStage.phase worker held⟩

end Fleet.AtStage

omit [DecidableEq Worker] in
theorem Fleet.AtStage.not_actor (atStage : fleet.AtStage json ticket request stage)
    {label : FleetStep Worker} (acts : label.actor = some worker)
    (free : ¬ (fleet.phase worker).Holds ticket) :
    ∀ other, stage.holder = some other → label.actor ≠ some other := by
  intro other held same
  obtain rfl := Option.some.inj (acts.symm.trans same)
  exact free ((atStage.memory worker).mpr held)

/-- A worker that changes only its phase, and has no copy of the job before and after,
leaves its stage. -/
theorem Fleet.AtStage.keep_setPhase (atStage : fleet.AtStage json ticket request stage)
    (free : ¬ (fleet.phase worker).Holds ticket) (still : ¬ phase.Holds ticket)
    (phases : after.phase = Function.update fleet.phase worker phase)
    (queue : after.queueOf ticket = fleet.queueOf ticket)
    (dlq : after.dlqOf ticket = fleet.dlqOf ticket) :
    after.AtStage json ticket request stage := by
  refine atStage.keep (fun other => ?_) queue dlq
  rw [phases]
  by_cases same : other = worker
  · rw [same, Function.update_self]
    exact .inr ⟨free, still⟩
  · exact .inl (Function.update_of_ne same _ _)

/-- The fields of a job, with another count. -/
theorem scoringJob_congr {one other : ScoringRequest} {first second : Nat}
    (same : scoringJob one first = scoringJob other second) :
    first = second ∧ ∀ retries, scoringJob one retries = scoringJob other retries := by
  constructor
  · have counts := getMethod_retry_count one first .null
    rw [same, getMethod_retry_count] at counts
    simpa using counts.symm
  · intro retries
    have updated := setItem_retry_count one first retries
    rw [same, setItem_retry_count] at updated
    exact (Except.ok.inj updated).symm

/-! ## The stage of a job whose copy is at a place -/

namespace Fleet.AtStage

variable {copy : Copy Text} {text : Text}

omit [DecidableEq Worker] in
/-- A job whose copy is on the queue is queued, and has no other copy there. -/
theorem of_queue (atStage : fleet.AtStage json ticket request stage) {rest : List (Copy Text)}
    (queue : fleet.queue = rest ++ [copy]) (same : copy.ticket = ticket) :
    ∃ failures, stage = .queued failures ∧ rest.filter (fun other => other.ticket = ticket) = [] ∧
      json.loads copy.text = .ok (scoringJob request failures) := by
  have onQueue := atStage.queue
  simp only [Fleet.queueOf, queue, List.filter_append, List.map_append] at onQueue
  have mine : [copy].filter (fun other => other.ticket = ticket) = [copy] := by simp [same]
  rw [mine] at onQueue
  cases stage with
  | queued failures =>
      have onlyThis : _ ++ [json.loads copy.text] = [] ++ [.ok (scoringJob request failures)] :=
        onQueue
      obtain ⟨noOthers, texts⟩ := List.append_inj' onlyThis rfl
      exact ⟨failures, rfl, List.map_eq_nil_iff.mp noOthers, List.singleton_inj.mp texts⟩
  | _ => simp [JobStage.onQueue] at onQueue

omit [DecidableEq Worker] in
theorem of_handling (atStage : fleet.AtStage json ticket request stage)
    (handling : fleet.phase worker = .handling copy) (same : copy.ticket = ticket) :
    ∃ failures, stage = .handling worker failures ∧
      json.loads copy.text = .ok (scoringJob request failures) := by
  obtain ⟨held, content⟩ := atStage.inMemory handling (congrArg some same)
  cases content with
  | handling decoded =>
      obtain rfl := Option.some.inj held
      exact ⟨_, rfl, decoded⟩

omit [DecidableEq Worker] in
/-- The job that the handler decoded is the one of the stage. -/
theorem of_decoded (atStage : fleet.AtStage json ticket request stage)
    (handling : fleet.phase worker = .handling copy) (same : copy.ticket = ticket)
    {other : ScoringRequest} {retries : Nat}
    (decoded : json.loads copy.text = .ok (scoringJob other retries)) :
    ∃ failures : Fin 4, stage = .handling worker failures ∧ failures = retries ∧
      scoringJob other retries = scoringJob request failures := by
  obtain ⟨failures, rfl, isJob⟩ := atStage.of_handling handling same
  have sameJob := Except.ok.inj (decoded.symm.trans isJob)
  exact ⟨failures, rfl, (scoringJob_congr sameJob).1.symm, sameJob⟩

omit [DecidableEq Worker] in
theorem of_backingOff (atStage : fleet.AtStage json ticket request stage) {other : ScoringRequest}
    {retries : Nat}
    (asleep : fleet.phase worker =
      .backingOff copy (scoringJob other retries) (.int (retries + 1 : Nat)))
    (same : copy.ticket = ticket) :
    ∃ failures, stage = .backingOff worker failures ∧
      scoringJob other (retries + 1) = scoringJob request failures := by
  obtain ⟨held, content⟩ := atStage.inMemory asleep (congrArg some same)
  generalize sameJob : scoringJob other retries = job at content
  generalize Json.int (retries + 1 : Nat) = counted at content
  cases content with
  | @backingOff _ failures text found isCount =>
      obtain rfl := Option.some.inj held
      obtain ⟨rfl, fields⟩ := scoringJob_congr sameJob
      exact ⟨failures, rfl, by rw [fields, isCount]⟩

omit [DecidableEq Worker] in
theorem of_requeueing (atStage : fleet.AtStage json ticket request stage)
    (requeueing : fleet.phase worker = .requeueing copy text) (same : copy.ticket = ticket) :
    ∃ failures, stage = .requeueing worker failures ∧
      json.loads text = .ok (scoringJob request failures) := by
  obtain ⟨held, content⟩ := atStage.inMemory requeueing (congrArg some same)
  cases content with
  | requeueing decoded =>
      obtain rfl := Option.some.inj held
      exact ⟨_, rfl, decoded⟩

omit [DecidableEq Worker] in
theorem of_deadLettering (atStage : fleet.AtStage json ticket request stage)
    (deadLettering : fleet.phase worker = .deadLettering copy text) (same : copy.ticket = ticket) :
    stage = .deadLettering worker ∧ json.loads text = .ok (scoringJob request 3) := by
  obtain ⟨held, content⟩ := atStage.inMemory deadLettering (congrArg some same)
  cases content with
  | deadLettering decoded =>
      obtain rfl := Option.some.inj held
      exact ⟨rfl, decoded⟩

end Fleet.AtStage

/-! ## Steps -/

section Steps

variable {codec : JsonCodec Text} {label : FleetStep Worker}

/-- A step of a worker that has no copy of the job before and after. -/
theorem Fleet.AtStage.unmoved (atStage : fleet.AtStage json ticket request stage)
    (acts : label.actor = some worker) (free : ¬ (fleet.phase worker).Holds ticket)
    (still : ¬ phase.Holds ticket) (phases : after.phase = Function.update fleet.phase worker phase)
    (queue : after.queueOf ticket = fleet.queueOf ticket)
    (dlq : after.dlqOf ticket = fleet.dlqOf ticket)
    (noAttempt : fleet.attemptOn ticket label = none) :
    ∃ next, after.AtStage json ticket request next ∧ fleet.Advances label ticket stage next :=
  ⟨stage, atStage.keep_setPhase free still phases queue dlq,
    .inl ⟨rfl, noAttempt, atStage.not_actor acts free⟩⟩

/-- **A step and the stage of a job.** A step that ends no worker leaves every job at its
stage or moves it on. -/
theorem Fleet.AtStage.step (atStage : fleet.AtStage codec.toJsonModule ticket request stage)
    (effect : FleetEffect codec.toJsonModule fleet label after)
    (enqueued : ticket < fleet.requests.length) :
    ∃ next, after.AtStage codec.toJsonModule ticket request next ∧
      fleet.Advances label ticket stage next := by
  cases effect with
  | enqueued newRequest =>
      have other : fleet.requests.length ≠ ticket := by omega
      exact ⟨stage, atStage.keep (fun _ => .inl rfl)
        (by simp [Fleet.queueOf, Fleet.afterEnqueue, other]) rfl,
        .inl ⟨rfl, rfl, by simp [FleetStep.actor]⟩⟩
  | signalled worker =>
      exact ⟨stage, atStage.keep (fun _ => .inl rfl) rfl rfl,
        .inl ⟨rfl, rfl, by simp [FleetStep.actor]⟩⟩
  | checked worker phase idle next =>
      refine atStage.unmoved rfl (by simp [idle]) ?_ rfl rfl rfl rfl
      by_cases asked : fleet.shutdown worker <;> simp [next, asked]
  | timedOut worker waiting empty =>
      exact atStage.unmoved rfl (by simp [waiting]) WorkerPhase.holds_idle rfl rfl rfl rfl
  | popped worker rest copy waiting queue =>
      by_cases same : copy.ticket = ticket
      · obtain ⟨failures, rfl, noOthers, decoded⟩ := atStage.of_queue queue same
        subst same
        refine ⟨.handling worker failures, ?_, .inr (.popped worker failures)⟩
        exact atStage.hold rfl (.inl rfl) rfl (.handling decoded)
          (by simp [Fleet.queueOf, Fleet.setPhase, noOthers, JobStage.onQueue]) atStage.dlq
      · exact atStage.unmoved rfl (by simp [waiting]) (by simp [same]) rfl
          (by simp [Fleet.queueOf, Fleet.setPhase, queue, same]) rfl rfl
  | succeeded worker copy handling =>
      by_cases same : copy.ticket = ticket
      · obtain ⟨failures, rfl, -⟩ := atStage.of_handling handling same
        have attempted : fleet.attemptOn ticket (.process worker (.ok ())) = some true :=
          (Fleet.attemptOn_process handling ticket _).trans (if_pos same)
        exact ⟨.succeeded failures, atStage.release rfl rfl rfl atStage.queue atStage.dlq,
          .inr (attempted ▸ .succeeded worker failures)⟩
      · exact atStage.unmoved rfl (by simp [handling, same]) WorkerPhase.holds_idle rfl rfl rfl
          ((Fleet.attemptOn_process handling ticket _).trans (if_neg same))
  | failed worker copy failure other retries handling decoded few =>
      by_cases same : copy.ticket = ticket
      · obtain ⟨failures, rfl, rfl, sameJob⟩ := atStage.of_decoded handling same decoded
        have attempted : fleet.attemptOn ticket (.process worker (.error failure)) = some false :=
          (Fleet.attemptOn_process handling ticket _).trans (if_pos same)
        subst same
        refine ⟨.backingOff worker ⟨failures + 1, Nat.succ_lt_succ few⟩, ?_,
          .inr (attempted ▸ .failed worker failures _)⟩
        refine atStage.hold rfl (.inr rfl) rfl ?_ atStage.queue atStage.dlq
        rw [sameJob]
        exact .backingOff rfl
      · exact atStage.unmoved rfl (by simp [handling, same]) (by simp [same]) rfl rfl rfl
          ((Fleet.attemptOn_process handling ticket _).trans (if_neg same))
  | exhausted worker copy failure other retries handling decoded many =>
      by_cases same : copy.ticket = ticket
      · obtain ⟨failures, rfl, rfl, sameJob⟩ := atStage.of_decoded handling same decoded
        have attempted : fleet.attemptOn ticket (.process worker (.error failure)) = some false :=
          (Fleet.attemptOn_process handling ticket _).trans (if_pos same)
        obtain rfl : failures = 3 := Fin.ext (show failures.val = 3 by omega)
        subst same
        refine ⟨.deadLettering worker, ?_, .inr (attempted ▸ .exhausted worker)⟩
        refine atStage.hold rfl (.inr rfl) rfl ?_ atStage.queue atStage.dlq
        rw [sameJob]
        exact .deadLettering (codec.loads_dumps _)
      · exact atStage.unmoved rfl (by simp [handling, same]) (by simp [same]) rfl rfl rfl
          ((Fleet.attemptOn_process handling ticket _).trans (if_neg same))
  | woke worker copy other retries asleep =>
      by_cases same : copy.ticket = ticket
      · obtain ⟨failures, rfl, sameJob⟩ := atStage.of_backingOff asleep same
        subst same
        refine ⟨.requeueing worker failures, ?_, .inr (.woke worker failures)⟩
        refine atStage.hold rfl (.inr rfl) rfl ?_ atStage.queue atStage.dlq
        rw [sameJob]
        exact .requeueing (codec.loads_dumps _)
      · exact atStage.unmoved rfl (by simp [asleep, same]) (by simp [same]) rfl rfl rfl rfl
  | requeued worker copy text requeueing =>
      by_cases same : copy.ticket = ticket
      · obtain ⟨failures, rfl, decoded⟩ := atStage.of_requeueing requeueing same
        have noneQueued : fleet.queueOf ticket = [] := List.map_eq_nil_iff.mp atStage.queue
        refine ⟨.queued failures, ?_, .inr (.requeued worker failures)⟩
        refine atStage.release rfl rfl rfl ?_ atStage.dlq
        rw [Fleet.queueOf] at noneQueued
        simp [Fleet.queueOf, Fleet.afterRequeue, Fleet.setPhase, same, noneQueued, decoded,
          JobStage.onQueue]
      · exact atStage.unmoved rfl (by simp [requeueing, same]) WorkerPhase.holds_idle rfl
          (by simp [Fleet.queueOf, Fleet.afterRequeue, Fleet.setPhase, same]) rfl rfl
  | buried worker copy text deadLettering =>
      by_cases same : copy.ticket = ticket
      · obtain ⟨rfl, decoded⟩ := atStage.of_deadLettering deadLettering same
        have noneBuried : fleet.dlqOf ticket = [] := List.map_eq_nil_iff.mp atStage.dlq
        refine ⟨.dead, ?_, .inr (.buried worker)⟩
        refine atStage.release rfl rfl rfl atStage.queue ?_
        rw [Fleet.dlqOf] at noneBuried
        simp [Fleet.dlqOf, Fleet.afterDeadLetter, Fleet.setPhase, same, noneBuried, decoded,
          JobStage.onDlq]
      · exact atStage.unmoved rfl (by simp [deadLettering, same]) WorkerPhase.holds_idle rfl rfl
          (by simp [Fleet.dlqOf, Fleet.afterDeadLetter, Fleet.setPhase, same]) rfl

end Steps

end System

end LlmopsPlatform.Workers
