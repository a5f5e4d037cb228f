import LlmopsPlatform.Workers.GracefulShutdown

/-!
# The order in which jobs are started

Jobs are pushed at the left end of the queue and popped at the right end, and a job that is
retried is pushed at the left end again. So a retry waits behind every job that was enqueued
before it, and no job overtakes another before its first attempt: the jobs that were popped
at least once are always the first ones that were enqueued, whatever workers do and however
they end. And a job is started after at most as many pops as there were copies on the queue
when it came (`jobs_start_in_order`).
-/

set_option autoImplicit false

namespace LlmopsPlatform.Workers

open Foundations Python TransitionSystem

section System

variable {Text Worker : Type} [DecidableEq Worker] {json : JsonModule Text}
  {fleet after start finish : Fleet Text Worker} {label : FleetStep Worker}
  {transitions : List (Transition (Fleet Text Worker) (FleetStep Worker))} {started : ℕ}

/-- The job that a step pops. -/
def poppedTicket (step : Transition (Fleet Text Worker) (FleetStep Worker)) : Option ℕ :=
  match step.label with
  | .brpop _ => step.before.queue.getLast?.map Copy.ticket
  | _ => none

/-- The jobs that are popped in a run, in this order. -/
def poppedTickets (transitions : List (Transition (Fleet Text Worker) (FleetStep Worker))) :
    List ℕ :=
  transitions.filterMap poppedTicket

omit [DecidableEq Worker] in
theorem poppedTickets_snoc (step : Transition (Fleet Text Worker) (FleetStep Worker)) :
    poppedTickets (transitions ++ [step]) =
      poppedTickets transitions ++ (poppedTicket step).toList := by
  rw [poppedTickets, List.filterMap_append, poppedTickets]
  cases popped : poppedTicket step <;> simp [popped]

/-! ## The queue -/

/-- A step pops the copy at the right end, or leaves what is on the queue and may push
something at the left end. -/
theorem queue_cases (step : fleetNext json fleet label = some after) :
    (∃ copy, poppedTicket ⟨fleet, label, after⟩ = some copy.ticket ∧
        fleet.queue = after.queue ++ [copy]) ∨
      (poppedTicket ⟨fleet, label, after⟩ = none ∧
        ∃ added, after.queue = added ++ fleet.queue) := by
  have required := fleetNext_cases step
  cases label with
  | enqueue request =>
      rw [show after = _ from required]
      exact .inr ⟨rfl, [_], rfl⟩
  | signal worker =>
      rw [show after = _ from required]
      exact .inr ⟨rfl, [], rfl⟩
  | kill worker =>
      obtain ⟨-, rfl⟩ := required
      exact .inr ⟨rfl, [], rfl⟩
  | check worker =>
      obtain ⟨-, rfl⟩ := required
      exact .inr ⟨rfl, [], rfl⟩
  | brpop worker =>
      obtain ⟨-, rfl⟩ := required
      simp only [poppedTicket, Fleet.afterPop]
      cases last : fleet.queue.getLast? with
      | none => exact .inr ⟨rfl, [], rfl⟩
      | some copy =>
          obtain ⟨rest, queue⟩ := List.getLast?_eq_some_iff.mp last
          exact .inl ⟨copy, rfl, by simp [Fleet.setPhase, queue]⟩
  | process worker outcome =>
      obtain ⟨copy, -, rfl⟩ := required
      refine .inr ⟨rfl, [], ?_⟩
      unfold Fleet.afterProcess
      split <;> rfl
  | wake worker =>
      obtain ⟨copy, job_data, retry_count, -, rfl⟩ := required
      refine .inr ⟨rfl, [], ?_⟩
      unfold Fleet.afterWake
      split <;> rfl
  | lpush worker =>
      obtain ⟨copy, text, ⟨-, rfl⟩ | ⟨-, rfl⟩⟩ := required
      · exact .inr ⟨rfl, [_], rfl⟩
      · exact .inr ⟨rfl, [], rfl⟩

/-- **Waiting on the queue.** A copy stays on the queue until the copies behind it were
popped, and then it is popped. -/
theorem popped_or_waits {ticket : ℕ} {front behind : List (Copy Text)} {copy : Copy Text}
    (isJob : copy.ticket = ticket) (queue : start.queue = front ++ copy :: behind)
    (run : (fleetSystem json).Run start transitions finish) :
    ticket ∈ poppedTickets transitions ∨ ∃ front rest, finish.queue = front ++ copy :: rest ∧
      rest.length + (poppedTickets transitions).length = behind.length := by
  induction run with
  | nil => exact .inr ⟨front, behind, queue, rfl⟩
  | @snoc earlierTransitions before after label earlier step ih =>
      rw [poppedTickets_snoc, List.mem_append, List.length_append]
      rcases ih with popped | ⟨ahead, rest, stillQueued, count⟩
      · exact .inl (.inl popped)
      · rcases queue_cases step with ⟨last, popped, shrunk⟩ | ⟨none, added, grown⟩
        · rcases List.eq_nil_or_concat rest with rfl | ⟨fewer, other, rfl⟩
          · obtain ⟨-, same⟩ := List.append_inj' (stillQueued.symm.trans shrunk) rfl
            obtain rfl := List.singleton_inj.mp same
            exact .inl (.inr (by simp [popped, isJob]))
          · rw [List.concat_eq_append, ← List.cons_append, ← List.append_assoc,
              shrunk] at stillQueued
            obtain ⟨nowQueued, -⟩ := List.append_inj' stillQueued rfl
            refine .inr ⟨ahead, fewer, nowQueued, ?_⟩
            simp only [List.concat_eq_append, List.length_append, List.length_singleton] at count
            simp only [popped, Option.toList_some, List.length_singleton]
            omega
        · refine .inr ⟨added ++ ahead, rest, ?_, by simpa [none] using count⟩
          rw [grown, stillQueued, List.append_assoc]

/-! ## The jobs that were started -/

/-- The jobs from some number on wait on the queue in their order, and no worker has had one
of them in memory. -/
structure StartedBelow (fleet : Fleet Text Worker) (started : ℕ) : Prop where
  within : started ≤ fleet.requests.length
  waiting : (fleet.queue.filter fun copy => started ≤ copy.ticket).map Copy.ticket =
    (List.range' started (fleet.requests.length - started)).reverse
  held : ∀ worker copy, (fleet.phase worker).held = some copy → copy.ticket < started

/-- A worker changes its phase, and the jobs that were not started stay where they are. -/
theorem StartedBelow.ofWorkerStep (order : StartedBelow fleet started) {worker : Worker}
    {phase : WorkerPhase Text} (requests : after.requests = fleet.requests)
    (phases : after.phase = Function.update fleet.phase worker phase)
    (queue : (after.queue.filter fun copy => started ≤ copy.ticket) =
      fleet.queue.filter fun copy => started ≤ copy.ticket)
    (held : ∀ copy, phase.held = some copy → copy.ticket < started) :
    StartedBelow after started where
  within := requests ▸ order.within
  waiting := by rw [queue, requests, order.waiting]
  held other copy inMemory := by
    rw [phases] at inMemory
    by_cases same : other = worker
    · rw [same, Function.update_self] at inMemory
      exact held copy inMemory
    · rw [Function.update_of_ne same] at inMemory
      exact order.held other copy inMemory

omit [DecidableEq Worker] in
/-- A new job is the last one. -/
theorem StartedBelow.afterEnqueue (order : StartedBelow fleet started) (request : ScoringRequest) :
    StartedBelow (fleet.afterEnqueue json request) started where
  within := by
    have within := order.within
    simp only [Fleet.afterEnqueue, List.length_append, List.length_singleton]
    omega
  waiting := by
    have within := order.within
    have next : fleet.requests.length + 1 - started = fleet.requests.length - started + 1 := by
      omega
    have last : started + (fleet.requests.length - started) = fleet.requests.length := by omega
    simp only [Fleet.afterEnqueue, List.length_append, List.length_singleton, next,
      List.range'_1_concat, last, List.reverse_append, List.reverse_singleton]
    rw [List.filter_cons_of_pos (by simpa using within), List.map_cons, order.waiting]
    rfl
  held := order.held

/-- The copy at the right end of the queue is one of a job that was started, or of the next
one. -/
theorem StartedBelow.afterPop (order : StartedBelow fleet started) {worker : Worker}
    {rest : List (Copy Text)} {copy : Copy Text} (queue : fleet.queue = rest ++ [copy]) :
    copy.ticket < started ∧
        StartedBelow ({ fleet with queue := rest }.setPhase worker (.handling copy)) started ∨
      copy.ticket = started ∧
        StartedBelow ({ fleet with queue := rest }.setPhase worker (.handling copy))
          (started + 1) := by
  by_cases known : copy.ticket < started
  · refine .inl ⟨known, order.ofWorkerStep rfl rfl ?_ fun other held => ?_⟩
    · have dropped : ¬ started ≤ copy.ticket := by omega
      simp [Fleet.setPhase, queue, dropped]
    · cases held
      exact known
  · have waiting := order.waiting
    have keeps : [copy].filter (fun copy => started ≤ copy.ticket) = [copy] := by
      simp [not_lt.mp known]
    rw [queue, List.filter_append, keeps, List.map_append, List.map_singleton] at waiting
    -- There is a job that was not started, and the first of them is the last on the queue.
    obtain ⟨count, isCount⟩ : ∃ count, fleet.requests.length - started = count + 1 := by
      refine Nat.exists_eq_succ_of_ne_zero fun none => ?_
      simp [none] at waiting
    rw [isCount, List.range'_succ, List.reverse_cons] at waiting
    obtain ⟨others, isNext⟩ := List.append_inj' waiting rfl
    have isStarted : copy.ticket = started := List.singleton_inj.mp isNext
    have later : (rest.filter fun copy => started + 1 ≤ copy.ticket) =
        rest.filter fun copy => started ≤ copy.ticket := by
      refine List.filter_congr fun other member => ?_
      by_cases waits : started ≤ other.ticket
      · have listed : other.ticket ∈ (rest.filter fun copy => started ≤ copy.ticket).map
            Copy.ticket := List.mem_map_of_mem (List.mem_filter.mpr ⟨member, by simpa using waits⟩)
        rw [others, List.mem_reverse, List.mem_range'_1] at listed
        simp [waits, listed.1]
      · have notLater : ¬ started + 1 ≤ other.ticket := by omega
        simp [waits, notLater]
    have remaining : fleet.requests.length - (started + 1) = count := by omega
    refine .inr ⟨isStarted, ⟨?_, ?_, ?_⟩⟩
    · have within := order.within
      simp only [Fleet.setPhase]
      omega
    · simp only [Fleet.setPhase]
      rw [later, others, remaining]
    · intro other held inMemory
      by_cases same : other = worker
      · subst same
        simp only [Fleet.setPhase, Function.update_self, WorkerPhase.held, Option.some.injEq]
          at inMemory
        rw [← inMemory, isStarted]
        exact Nat.lt_succ_self _
      · simp only [Fleet.setPhase, Function.update_of_ne same] at inMemory
        exact (order.held other held inMemory).trans (Nat.lt_succ_self _)

/-- **Steps and the jobs that were started.** A step pops a job that was started before, or
the next one, or none. -/
theorem StartedBelow.step (order : StartedBelow fleet started)
    (step : fleetNext json fleet label = some after) :
    StartedBelow after started ∧
        (∀ ticket, poppedTicket ⟨fleet, label, after⟩ = some ticket → ticket < started) ∨
      StartedBelow after (started + 1) ∧ poppedTicket ⟨fleet, label, after⟩ = some started := by
  have required := fleetNext_cases step
  have mine : ∀ {worker : Worker} {phase : WorkerPhase Text} {copy : Copy Text},
      fleet.phase worker = phase → phase.held = some copy → copy.ticket < started := by
    rintro worker phase copy rfl held
    exact order.held worker copy held
  cases label with
  | enqueue request =>
      rw [show after = _ from required]
      exact .inl ⟨order.afterEnqueue request, by simp [poppedTicket]⟩
  | signal worker =>
      rw [show after = _ from required]
      exact .inl ⟨⟨order.within, order.waiting, order.held⟩, by simp [poppedTicket]⟩
  | kill worker =>
      obtain ⟨-, rfl⟩ := required
      refine .inl ⟨order.ofWorkerStep rfl rfl rfl fun copy held => ?_, by simp [poppedTicket]⟩
      exact order.held worker copy held
  | check worker =>
      obtain ⟨-, rfl⟩ := required
      refine .inl ⟨order.ofWorkerStep rfl rfl rfl fun copy held => ?_, by simp [poppedTicket]⟩
      split at held <;> cases held
  | brpop worker =>
      obtain ⟨-, rfl⟩ := required
      simp only [poppedTicket, Fleet.afterPop]
      cases last : fleet.queue.getLast? with
      | none =>
          refine .inl ⟨order.ofWorkerStep rfl rfl rfl fun copy held => ?_, by simp⟩
          cases held
      | some copy =>
          obtain ⟨rest, queue⟩ := List.getLast?_eq_some_iff.mp last
          have isRest : fleet.queue.dropLast = rest := by rw [queue, List.dropLast_concat]
          rw [isRest]
          rcases order.afterPop queue with ⟨known, keeps⟩ | ⟨isNext, keeps⟩
          · exact .inl ⟨keeps, by rintro ticket ⟨⟩; exact known⟩
          · exact .inr ⟨keeps, congrArg some isNext⟩
  | process worker outcome =>
      obtain ⟨copy, handling, rfl⟩ := required
      have isMine := mine handling rfl
      refine .inl ⟨?_, by simp [poppedTicket]⟩
      unfold Fleet.afterProcess
      split
      · refine order.ofWorkerStep rfl rfl rfl fun other held => ?_
        cases held
        exact isMine
      · refine order.ofWorkerStep rfl rfl rfl fun other held => ?_
        cases held
      · rename_i attempted
        refine order.ofWorkerStep rfl rfl rfl fun other held => ?_
        rcases attemptPhase_cases attempted with
          rfl | ⟨job_data, retry_count, rfl⟩ | ⟨text, rfl⟩ <;> cases held
        · exact isMine
        · exact isMine
  | wake worker =>
      obtain ⟨copy, job_data, retry_count, asleep, rfl⟩ := required
      have isMine := mine asleep rfl
      refine .inl ⟨?_, by simp [poppedTicket]⟩
      unfold Fleet.afterWake
      split <;>
      · refine order.ofWorkerStep rfl rfl rfl fun other held => ?_
        cases held
        exact isMine
  | lpush worker =>
      obtain ⟨copy, text, ⟨requeueing, rfl⟩ | ⟨deadLettering, rfl⟩⟩ := required
      · have isMine := mine requeueing rfl
        refine .inl ⟨order.ofWorkerStep rfl rfl ?_ fun other held => ?_, by simp [poppedTicket]⟩
        · have known : ¬ started ≤ copy.ticket := not_le.mpr isMine
          simp [Fleet.afterRequeue, Fleet.setPhase, known]
        · cases held
      · refine .inl ⟨order.ofWorkerStep rfl rfl rfl fun other held => ?_, by simp [poppedTicket]⟩
        cases held

/-- The jobs that a run has popped are the first ones. -/
theorem exists_startedBelow (initial : (fleetSystem json).initial start)
    (run : (fleetSystem json).Run start transitions finish) :
    ∃ started, StartedBelow finish started ∧
      ∀ ticket, ticket ∈ poppedTickets transitions ↔ ticket < started := by
  induction run with
  | nil =>
      obtain ⟨emptyQueue, -, noRequests, idle⟩ := initial
      refine ⟨0, ⟨Nat.zero_le _, by simp [emptyQueue, noRequests], ?_⟩, by simp [poppedTickets]⟩
      intro worker copy held
      rw [idle worker] at held
      cases held
  | @snoc earlierTransitions before after label earlier step ih =>
      obtain ⟨started, order, popped⟩ := ih
      rcases order.step step with ⟨keeps, known⟩ | ⟨keeps, isNext⟩
      · refine ⟨started, keeps, fun ticket => ?_⟩
        rw [poppedTickets_snoc, List.mem_append, popped, Option.mem_toList]
        exact or_iff_left_of_imp (known ticket)
      · refine ⟨started + 1, keeps, fun ticket => ?_⟩
        rw [poppedTickets_snoc, List.mem_append, popped, isNext, Option.mem_toList,
          Option.some.injEq]
        omega

/-- **Jobs are started in the order in which they were enqueued.** In every run of the
fleet, with any interleaving, any failures and any workers that are killed, the jobs that
were popped at least once are the first ones that were enqueued. And a job is popped before
more pops have happened than there were copies on the queue when it was enqueued, since
later jobs and retries wait behind it. -/
theorem jobs_start_in_order (json : JsonModule Text) (start finish : Fleet Text Worker)
    (transitions : List (Transition (Fleet Text Worker) (FleetStep Worker)))
    (initial : (fleetSystem json).initial start)
    (run : (fleetSystem json).Run start transitions finish) :
    (∃ started ≤ finish.requests.length,
      ∀ ticket, ticket ∈ poppedTickets transitions ↔ ticket < started) ∧
    ∀ earlier enqueue later request, transitions = earlier ++ enqueue :: later →
      enqueue.label = .enqueue request →
        enqueue.before.queue.length < (poppedTickets later).length →
          enqueue.before.requests.length ∈ poppedTickets later := by
  constructor
  · obtain ⟨started, order, popped⟩ := exists_startedBelow initial run
    exact ⟨started, order.within, popped⟩
  · rintro earlier enqueue later request rfl enqueues many
    obtain ⟨-, taken, after⟩ := run.split
    rw [enqueues] at taken
    have queue : enqueue.after.queue = [] ++
        ⟨enqueue.before.requests.length, json.dumps (scoringJob request 0)⟩ ::
          enqueue.before.queue := by
      rw [← Option.some.inj taken]
      rfl
    rcases popped_or_waits rfl queue after with popped | ⟨front, rest, -, count⟩
    · exact popped
    · omega

end System

/-! ## A job that is popped -/

theorem popped_job_was_first :
    (∃ started ≤ poppedFleet.requests.length,
      ∀ ticket, ticket ∈ poppedTickets popTransitions ↔ ticket < started) ∧
    ∀ earlier enqueue later request, popTransitions = earlier ++ enqueue :: later →
      enqueue.label = .enqueue request →
        enqueue.before.queue.length < (poppedTickets later).length →
          enqueue.before.requests.length ∈ poppedTickets later :=
  jobs_start_in_order JsonCodec.ofValues.toJsonModule idleFleet poppedFleet popTransitions
    ⟨rfl, rfl, rfl, fun _ => rfl⟩ pop_run

end LlmopsPlatform.Workers
