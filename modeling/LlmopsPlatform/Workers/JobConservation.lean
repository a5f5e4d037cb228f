import LlmopsPlatform.Workers.ScoringFleet

/-!
# Where the jobs of a fleet are

A job that is popped leaves Redis, and until it is settled it is only in the memory of
its worker. So every job that was not processed is on a list, in the memory of a worker
that is alive, or was in the memory of a worker when that worker died; and while no
worker is killed or stopped by an exception outside `Exception`, none is lost
(`no_job_vanishes`). A worker that is killed after the pop loses its job
(`killed_worker_loses_its_job`).
-/

set_option autoImplicit false

namespace LlmopsPlatform.Workers

open Foundations Python TransitionSystem

section System

variable {Text Worker : Type} [DecidableEq Worker] (json : JsonModule Text)

/-! ## Where a job is -/

/-- The copy is one of this request's job, after some number of failed attempts. -/
def Copy.Carries (request : ScoringRequest) (copy : Copy Text) : Prop :=
  ∃ retries, json.loads copy.text = .ok (scoringJob request retries)

namespace Fleet

variable (fleet : Fleet Text Worker) (ticket : Nat) (request : ScoringRequest)

/-- A list has a copy of the job. -/
def OnList (copies : List (Copy Text)) : Prop :=
  ∃ copy ∈ copies, copy.ticket = ticket ∧ copy.Carries json request

/-- A worker has a copy of the job in memory, or had it when it died. -/
def InMemory (worker : Worker) : Prop :=
  ∃ copy, (fleet.phase worker).held = some copy ∧ copy.ticket = ticket ∧
    copy.Carries json request

/-- The job is on a list or in the memory of a worker that is alive. -/
def Present : Prop :=
  OnList json ticket request fleet.queue ∨ OnList json ticket request fleet.dlq ∨
    ∃ worker, (fleet.phase worker).alive ∧ fleet.InMemory json ticket request worker

/-- A worker died with the job in its memory. -/
def LostInMemory : Prop :=
  ∃ worker lost, fleet.phase worker = .dead lost ∧ fleet.InMemory json ticket request worker

end Fleet

/-- A step that ends no worker from outside: none is killed, and processing a job
raises nothing but subclasses of `Exception`. -/
def EndsNoWorker (transition : Transition (Fleet Text Worker) (FleetStep Worker)) : Prop :=
  match transition.label with
  | .kill _ => False
  | .process _ (.error failure) => failure.isException
  | _ => True

/-! ## The invariant -/

namespace Fleet

variable (fleet : Fleet Text Worker)

/-- The copy carries the job that its ticket names. -/
def Genuine (copy : Copy Text) : Prop :=
  ∃ request, fleet.requests[copy.ticket]? = some request ∧ copy.Carries json request

/-- What a worker has in memory is what the handler computes from a genuine copy. -/
def Sound : WorkerPhase Text → Prop
  | .handling copy | .dead (some copy) => fleet.Genuine json copy
  | .backingOff copy job_data retry_count =>
      ∃ request retries, fleet.requests[copy.ticket]? = some request ∧
        json.loads copy.text = .ok (scoringJob request retries) ∧
        job_data = scoringJob request retries ∧ retry_count = .int (retries + 1 : Nat)
  | .requeueing copy text | .deadLettering copy text =>
      fleet.Genuine json copy ∧ fleet.Genuine json ⟨copy.ticket, text⟩
  | .idle | .waiting | .stopped | .dead none => True

/-- Some place has a copy with this ticket, or the job was processed. -/
def Located (ticket : Nat) : Prop :=
  ticket ∈ fleet.processed ∨ ticket ∈ fleet.queue.map Copy.ticket ∨
    ticket ∈ fleet.dlq.map Copy.ticket ∨
    ∃ worker copy, (fleet.phase worker).held = some copy ∧ copy.ticket = ticket

end Fleet

structure FleetInvariant (fleet : Fleet Text Worker) : Prop where
  queueGenuine : ∀ copy ∈ fleet.queue, fleet.Genuine json copy
  dlqGenuine : ∀ copy ∈ fleet.dlq, fleet.Genuine json copy
  phaseSound : ∀ worker, fleet.Sound json (fleet.phase worker)
  located : ∀ ticket < fleet.requests.length, fleet.Located ticket

variable {json} {fleet : Fleet Text Worker}

omit [DecidableEq Worker] in
/-- A sound phase holds a genuine copy. -/
theorem Fleet.Sound.genuine {phase : WorkerPhase Text} (sound : fleet.Sound json phase)
    {copy : Copy Text} (held : phase.held = some copy) : fleet.Genuine json copy := by
  cases phase with
  | handling other => cases held; exact sound
  | backingOff other job_data retry_count =>
      cases held
      obtain ⟨request, retries, requested, decoded, -, -⟩ := sound
      exact ⟨request, requested, retries, decoded⟩
  | requeueing other text => cases held; exact sound.1
  | deadLettering other text => cases held; exact sound.1
  | dead lost =>
      obtain rfl : lost = some copy := held
      exact sound
  | idle => cases held
  | waiting => cases held
  | stopped => cases held

omit [DecidableEq Worker] in
/-- Later requests do not change what is genuine or sound. -/
theorem Fleet.Genuine.append {other : Fleet Text Worker} {further : List ScoringRequest}
    (extended : other.requests = fleet.requests ++ further) {copy : Copy Text}
    (genuine : fleet.Genuine json copy) : other.Genuine json copy := by
  obtain ⟨request, requested, carries⟩ := genuine
  refine ⟨request, ?_, carries⟩
  rw [extended, List.getElem?_append_left (List.getElem?_eq_some_iff.mp requested).1]
  exact requested

omit [DecidableEq Worker] in
theorem Fleet.Sound.append {other : Fleet Text Worker} {further : List ScoringRequest}
    (extended : other.requests = fleet.requests ++ further) {phase : WorkerPhase Text}
    (sound : fleet.Sound json phase) : other.Sound json phase := by
  cases phase with
  | handling copy => exact Fleet.Genuine.append extended sound
  | backingOff copy job_data retry_count =>
      obtain ⟨request, retries, requested, computed⟩ := sound
      refine ⟨request, retries, ?_, computed⟩
      rw [extended, List.getElem?_append_left (List.getElem?_eq_some_iff.mp requested).1]
      exact requested
  | requeueing copy text => exact ⟨sound.1.append extended, sound.2.append extended⟩
  | deadLettering copy text => exact ⟨sound.1.append extended, sound.2.append extended⟩
  | dead lost =>
      cases lost with
      | none => trivial
      | some copy => exact Fleet.Genuine.append extended sound
  | idle => trivial
  | waiting => trivial
  | stopped => trivial

/-- A step of one worker keeps the invariant if the lists it leaves are genuine, its
new phase is sound, and what it had in memory is still located. -/
theorem FleetInvariant.ofWorkerStep (invariant : FleetInvariant json fleet)
    {after : Fleet Text Worker} {worker : Worker} {phase : WorkerPhase Text}
    (requests : after.requests = fleet.requests)
    (phases : after.phase = Function.update fleet.phase worker phase)
    (queue : ∀ copy ∈ after.queue, fleet.Genuine json copy)
    (dlq : ∀ copy ∈ after.dlq, fleet.Genuine json copy)
    (sound : fleet.Sound json phase)
    (kept : ∀ ticket, fleet.Located ticket → after.Located ticket) :
    FleetInvariant json after := by
  have extended : after.requests = fleet.requests ++ [] := by rw [requests, List.append_nil]
  refine
    { queueGenuine := fun copy member => (queue copy member).append extended
      dlqGenuine := fun copy member => (dlq copy member).append extended
      phaseSound := ?_
      located := ?_ }
  · intro other
    rw [phases]
    by_cases same : other = worker
    · rw [same, Function.update_self]
      exact sound.append extended
    · rw [Function.update_of_ne same]
      exact (invariant.phaseSound other).append extended
  · intro ticket inRange
    rw [requests] at inRange
    exact kept ticket (invariant.located ticket inRange)

/-- A ticket stays located when a worker moves, if the lists grow and the copy that the
worker had in memory is located afterwards. -/
theorem Fleet.Located.ofWorkerStep {after : Fleet Text Worker} {worker : Worker}
    {phase : WorkerPhase Text} {ticket : Nat} (located : fleet.Located ticket)
    (phases : after.phase = Function.update fleet.phase worker phase)
    (processed : fleet.processed ⊆ after.processed) (queue : fleet.queue ⊆ after.queue)
    (dlq : fleet.dlq ⊆ after.dlq)
    (moved : ∀ copy, (fleet.phase worker).held = some copy →
      phase.held = some copy ∨ after.Located copy.ticket) :
    after.Located ticket := by
  rcases located with done | inQueue | inDlq | ⟨other, copy, held, ticketed⟩
  · exact .inl (processed done)
  · exact .inr (.inl (List.map_subset _ queue inQueue))
  · exact .inr (.inr (.inl (List.map_subset _ dlq inDlq)))
  · by_cases same : other = worker
    · subst same
      rcases moved copy held with still | placed
      · refine .inr (.inr (.inr ⟨other, copy, ?_, ticketed⟩))
        rw [phases, Function.update_self]
        exact still
      · exact ticketed ▸ placed
    · refine .inr (.inr (.inr ⟨other, copy, ?_, ticketed⟩))
      rw [phases, Function.update_of_ne same]
      exact held

/-! ## Steps -/

/-- The next phase of a worker that handles a copy of an enqueued job. -/
theorem attemptPhase_eq {copy : Copy Text} {request : ScoringRequest} {retries : Nat}
    (decoded : json.loads copy.text = .ok (scoringJob request retries))
    (outcome : Except PyException Unit) :
    attemptPhase json copy outcome =
      match outcome with
      | .ok _ => .ok .idle
      | .error failure =>
          if failure.isException then
            if retries < 3 then
              .ok (.backingOff copy (scoringJob request retries) (.int (retries + 1 : Nat)))
            else .ok (.deadLettering copy (json.dumps (scoringJob request retries)))
          else .error failure := by
  cases outcome with
  | ok done =>
      simp [attemptPhase, decoded, getMethod_retry_count, bind, Except.bind, pure, Except.pure]
  | error failure =>
      by_cases caught : failure.isException
      · by_cases few : retries < 3 <;>
          simp [attemptPhase, decoded, getMethod_retry_count, failedAttempt_retries, caught,
            few, bind, Except.bind, pure, Except.pure]
      · simp [attemptPhase, decoded, getMethod_retry_count, caught, bind, Except.bind, throw,
          throwThe, MonadExceptOf.throw]

namespace FleetInvariant

variable {worker : Worker}

/-- A worker moves to a sound phase and keeps in memory what it had. -/
theorem setPhase (invariant : FleetInvariant json fleet) {phase : WorkerPhase Text}
    (sound : fleet.Sound json phase) (same : (fleet.phase worker).held = phase.held) :
    FleetInvariant json (fleet.setPhase worker phase) := by
  refine invariant.ofWorkerStep rfl rfl invariant.queueGenuine invariant.dlqGenuine sound ?_
  intro ticket located
  refine located.ofWorkerStep rfl (List.Subset.refl _) (List.Subset.refl _) (List.Subset.refl _) ?_
  intro copy held
  exact .inl (same ▸ held)

omit [DecidableEq Worker] in
/-- The text of a new job is the one its ticket names. -/
theorem afterEnqueue {codec : JsonCodec Text} (invariant : FleetInvariant codec.toJsonModule fleet)
    (request : ScoringRequest) :
    FleetInvariant codec.toJsonModule (fleet.afterEnqueue codec.toJsonModule request) := by
  have extended : (fleet.afterEnqueue codec.toJsonModule request).requests =
      fleet.requests ++ [request] := rfl
  refine
    { queueGenuine := ?_
      dlqGenuine := fun copy member => (invariant.dlqGenuine copy member).append extended
      phaseSound := fun worker => (invariant.phaseSound worker).append extended
      located := ?_ }
  · intro copy member
    rcases List.mem_cons.mp member with rfl | earlier
    · exact ⟨request, by simp [extended], 0, codec.loads_dumps _⟩
    · exact (invariant.queueGenuine copy earlier).append extended
  · intro ticket inRange
    rw [extended, List.length_append, List.length_singleton] at inRange
    rcases Nat.lt_succ_iff_lt_or_eq.mp inRange with earlier | rfl
    · rcases invariant.located ticket earlier with done | inQueue | inDlq | inMemory
      · exact .inl done
      · exact .inr (.inl (List.mem_cons_of_mem _ inQueue))
      · exact .inr (.inr (.inl inDlq))
      · exact .inr (.inr (.inr inMemory))
    · exact .inr (.inl List.mem_cons_self)

/-- The copy that is popped is the one that leaves the queue. -/
theorem afterPop (invariant : FleetInvariant json fleet) (waiting : fleet.phase worker = .waiting) :
    FleetInvariant json (fleet.afterPop worker) := by
  rw [Fleet.afterPop]
  split
  · exact invariant.setPhase trivial (by rw [waiting]; rfl)
  · rename_i copy last
    obtain ⟨rest, queue⟩ := List.getLast?_eq_some_iff.mp last
    have isRest : fleet.queue.dropLast = rest := by rw [queue, List.dropLast_concat]
    rw [isRest]
    refine invariant.ofWorkerStep rfl rfl ?_ invariant.dlqGenuine
      (invariant.queueGenuine copy (by simp [queue])) ?_
    · intro other inRest
      exact invariant.queueGenuine other (queue ▸ List.mem_append_left _ inRest)
    · intro ticket located
      rcases located with done | inQueue | inDlq | ⟨other, held, inMemory, ticketed⟩
      · exact .inl done
      · rw [queue, List.map_append] at inQueue
        rcases List.mem_append.mp inQueue with inRest | popped
        · exact .inr (.inl inRest)
        · -- The popped copy is now in the memory of the worker.
          refine .inr (.inr (.inr ⟨worker, copy, ?_, (List.mem_singleton.mp popped).symm⟩))
          simp [Fleet.setPhase, WorkerPhase.held]
      · exact .inr (.inr (.inl inDlq))
      · have different : other ≠ worker := by
          rintro rfl
          rw [waiting] at inMemory
          cases inMemory
        refine .inr (.inr (.inr ⟨other, held, ?_, ticketed⟩))
        simpa [Fleet.setPhase, Function.update_of_ne different] using inMemory

/-- Processing a copy records its ticket, or leaves the copy in memory. -/
theorem afterProcess {codec : JsonCodec Text} (invariant : FleetInvariant codec.toJsonModule fleet)
    {copy : Copy Text} (handling : fleet.phase worker = .handling copy)
    (outcome : Except PyException Unit) :
    FleetInvariant codec.toJsonModule
      (fleet.afterProcess codec.toJsonModule worker copy outcome) := by
  have genuine : fleet.Genuine codec.toJsonModule copy := by
    have sound := invariant.phaseSound worker
    rwa [handling] at sound
  obtain ⟨request, requested, retries, decoded⟩ := genuine
  rw [Fleet.afterProcess, attemptPhase_eq decoded]
  cases outcome with
  | ok done =>
      refine invariant.ofWorkerStep rfl rfl invariant.queueGenuine invariant.dlqGenuine trivial ?_
      intro ticket located
      refine located.ofWorkerStep rfl (List.subset_cons_self _ _) (List.Subset.refl _)
        (List.Subset.refl _) ?_
      intro other held
      rw [handling] at held
      cases held
      exact .inr (.inl List.mem_cons_self)
  | error failure =>
      by_cases caught : failure.isException
      · by_cases few : retries < 3
        · simp only [if_pos caught, if_pos few]
          exact invariant.setPhase ⟨request, retries, requested, decoded, rfl, rfl⟩
            (by rw [handling]; rfl)
        · simp only [if_pos caught, if_neg few]
          exact invariant.setPhase
            ⟨⟨request, requested, retries, decoded⟩, request, requested, retries,
              codec.loads_dumps _⟩
            (by rw [handling]; rfl)
      · simp only [if_neg caught]
        exact invariant.setPhase ⟨request, requested, retries, decoded⟩ (by rw [handling]; rfl)

/-- After the sleep the text to push is the next copy of the job. -/
theorem afterWake {codec : JsonCodec Text} (invariant : FleetInvariant codec.toJsonModule fleet)
    {copy : Copy Text} {job_data retry_count : Json}
    (asleep : fleet.phase worker = .backingOff copy job_data retry_count) :
    FleetInvariant codec.toJsonModule
      (fleet.afterWake codec.toJsonModule worker copy job_data retry_count) := by
  have sound := invariant.phaseSound worker
  rw [asleep] at sound
  obtain ⟨request, retries, requested, decoded, rfl, rfl⟩ := sound
  rw [Fleet.afterWake, setItem_retry_count]
  exact invariant.setPhase
    ⟨⟨request, requested, retries, decoded⟩, request, requested, retries + 1, codec.loads_dumps _⟩
    (by rw [asleep]; rfl)

/-- The copy that is pushed back has the ticket of the one in memory. -/
theorem afterRequeue (invariant : FleetInvariant json fleet) {copy : Copy Text} {text : Text}
    (requeueing : fleet.phase worker = .requeueing copy text) :
    FleetInvariant json (fleet.afterRequeue worker copy text) := by
  have sound := invariant.phaseSound worker
  rw [requeueing] at sound
  refine invariant.ofWorkerStep rfl rfl ?_ invariant.dlqGenuine trivial ?_
  · exact List.forall_mem_cons.mpr ⟨sound.2, invariant.queueGenuine⟩
  · intro ticket located
    refine located.ofWorkerStep rfl (List.Subset.refl _) (List.subset_cons_self _ _)
      (List.Subset.refl _) ?_
    intro other held
    rw [requeueing] at held
    cases held
    exact .inr (.inr (.inl List.mem_cons_self))

theorem afterDeadLetter (invariant : FleetInvariant json fleet) {copy : Copy Text} {text : Text}
    (deadLettering : fleet.phase worker = .deadLettering copy text) :
    FleetInvariant json (fleet.afterDeadLetter worker copy text) := by
  have sound := invariant.phaseSound worker
  rw [deadLettering] at sound
  refine invariant.ofWorkerStep rfl rfl invariant.queueGenuine ?_ trivial ?_
  · exact List.forall_mem_cons.mpr ⟨sound.2, invariant.dlqGenuine⟩
  · intro ticket located
    refine located.ofWorkerStep rfl (List.Subset.refl _) (List.Subset.refl _)
      (List.subset_cons_self _ _) ?_
    intro other held
    rw [deadLettering] at held
    cases held
    exact .inr (.inr (.inr (.inl List.mem_cons_self)))

/-- Every step keeps the invariant. -/
theorem step {codec : JsonCodec Text} (invariant : FleetInvariant codec.toJsonModule fleet)
    {label : FleetStep Worker} {after : Fleet Text Worker}
    (step : fleetNext codec.toJsonModule fleet label = some after) :
    FleetInvariant codec.toJsonModule after := by
  have required := fleetNext_cases step
  cases label with
  | enqueue request =>
      rw [show after = _ from required]
      exact invariant.afterEnqueue request
  | check worker =>
      obtain ⟨idle, rfl⟩ := required
      by_cases asked : fleet.shutdown worker <;>
        exact invariant.setPhase (by simp [asked, Fleet.Sound])
          (by simp [idle, asked, WorkerPhase.held])
  | brpop worker =>
      obtain ⟨waiting, rfl⟩ := required
      exact invariant.afterPop waiting
  | process worker outcome =>
      obtain ⟨copy, handling, rfl⟩ := required
      exact invariant.afterProcess handling outcome
  | wake worker =>
      obtain ⟨copy, job_data, retry_count, asleep, rfl⟩ := required
      exact invariant.afterWake asleep
  | lpush worker =>
      obtain ⟨copy, text, ⟨requeueing, rfl⟩ | ⟨deadLettering, rfl⟩⟩ := required
      · exact invariant.afterRequeue requeueing
      · exact invariant.afterDeadLetter deadLettering
  | signal worker =>
      rw [show after = _ from required]
      exact ⟨invariant.queueGenuine, invariant.dlqGenuine, invariant.phaseSound, invariant.located⟩
  | kill worker =>
      obtain ⟨-, rfl⟩ := required
      refine invariant.setPhase ?_ rfl
      cases held : (fleet.phase worker).held with
      | none => trivial
      | some copy => exact (invariant.phaseSound worker).genuine held

theorem of_initial (initial : (fleetSystem json).initial fleet) : FleetInvariant json fleet := by
  obtain ⟨emptyQueue, emptyDlq, noRequests, idle⟩ := initial
  constructor <;> simp [emptyQueue, emptyDlq, noRequests, idle, Fleet.Sound]

omit [DecidableEq Worker] in
/-- A job that was enqueued and not processed is where the invariant says. -/
theorem present_or_lost (invariant : FleetInvariant json fleet) {ticket : Nat}
    {request : ScoringRequest} (enqueued : fleet.requests[ticket]? = some request)
    (unprocessed : ticket ∉ fleet.processed) :
    fleet.Present json ticket request ∨ fleet.LostInMemory json ticket request := by
  -- A genuine copy with the ticket carries the request.
  have carried : ∀ copy : Copy Text, fleet.Genuine json copy → copy.ticket = ticket →
      copy.Carries json request := by
    rintro copy ⟨other, requested, carries⟩ rfl
    rw [enqueued] at requested
    cases requested
    exact carries
  have inRange := (List.getElem?_eq_some_iff.mp enqueued).1
  rcases invariant.located ticket inRange with
    done | inQueue | inDlq | ⟨worker, copy, held, ticketed⟩
  · exact absurd done unprocessed
  · obtain ⟨copy, member, ticketed⟩ := List.mem_map.mp inQueue
    have carries := carried copy (invariant.queueGenuine copy member) ticketed
    exact .inl (.inl ⟨copy, member, ticketed, carries⟩)
  · obtain ⟨copy, member, ticketed⟩ := List.mem_map.mp inDlq
    have carries := carried copy (invariant.dlqGenuine copy member) ticketed
    exact .inl (.inr (.inl ⟨copy, member, ticketed, carries⟩))
  · have carries := carried copy ((invariant.phaseSound worker).genuine held) ticketed
    have inMemory : fleet.InMemory json ticket request worker := ⟨copy, held, ticketed, carries⟩
    cases phase : fleet.phase worker with
    | dead lost => exact .inr ⟨worker, lost, phase, inMemory⟩
    | stopped => rw [phase] at held; cases held
    | _ => exact .inl (.inr (.inr ⟨worker, by rw [phase]; rfl, inMemory⟩))

end FleetInvariant

/-! ## Steps that end no worker -/

variable (json) in
/-- What a step does that ends no worker from outside. -/
inductive FleetEffect (fleet : Fleet Text Worker) :
    FleetStep Worker → Fleet Text Worker → Prop where
  | enqueued (request : ScoringRequest) :
      FleetEffect fleet (.enqueue request) (fleet.afterEnqueue json request)
  | checked (worker : Worker) (phase : WorkerPhase Text) (idle : fleet.phase worker = .idle)
      (next : phase = if fleet.shutdown worker then .stopped else .waiting) :
      FleetEffect fleet (.check worker) (fleet.setPhase worker phase)
  | timedOut (worker : Worker) (waiting : fleet.phase worker = .waiting)
      (empty : fleet.queue = []) :
      FleetEffect fleet (.brpop worker) (fleet.setPhase worker .idle)
  | popped (worker : Worker) (rest : List (Copy Text)) (copy : Copy Text)
      (waiting : fleet.phase worker = .waiting) (queue : fleet.queue = rest ++ [copy]) :
      FleetEffect fleet (.brpop worker)
        ({ fleet with queue := rest }.setPhase worker (.handling copy))
  | succeeded (worker : Worker) (copy : Copy Text)
      (handling : fleet.phase worker = .handling copy) :
      FleetEffect fleet (.process worker (.ok ()))
        ({ fleet with processed := copy.ticket :: fleet.processed }.setPhase worker .idle)
  | failed (worker : Worker) (copy : Copy Text) (failure : PyException)
      (request : ScoringRequest) (retries : Nat) (handling : fleet.phase worker = .handling copy)
      (decoded : json.loads copy.text = .ok (scoringJob request retries)) (few : retries < 3) :
      FleetEffect fleet (.process worker (.error failure))
        (fleet.setPhase worker
          (.backingOff copy (scoringJob request retries) (.int (retries + 1 : Nat))))
  | exhausted (worker : Worker) (copy : Copy Text) (failure : PyException)
      (request : ScoringRequest) (retries : Nat) (handling : fleet.phase worker = .handling copy)
      (decoded : json.loads copy.text = .ok (scoringJob request retries)) (many : ¬ retries < 3) :
      FleetEffect fleet (.process worker (.error failure))
        (fleet.setPhase worker (.deadLettering copy (json.dumps (scoringJob request retries))))
  | woke (worker : Worker) (copy : Copy Text) (request : ScoringRequest) (retries : Nat)
      (asleep : fleet.phase worker =
        .backingOff copy (scoringJob request retries) (.int (retries + 1 : Nat))) :
      FleetEffect fleet (.wake worker)
        (fleet.setPhase worker
          (.requeueing copy (json.dumps (scoringJob request (retries + 1)))))
  | requeued (worker : Worker) (copy : Copy Text) (text : Text)
      (requeueing : fleet.phase worker = .requeueing copy text) :
      FleetEffect fleet (.lpush worker) (fleet.afterRequeue worker copy text)
  | buried (worker : Worker) (copy : Copy Text) (text : Text)
      (deadLettering : fleet.phase worker = .deadLettering copy text) :
      FleetEffect fleet (.lpush worker) (fleet.afterDeadLetter worker copy text)
  | signalled (worker : Worker) :
      FleetEffect fleet (.signal worker)
        { fleet with shutdown := Function.update fleet.shutdown worker true }

/-- Processing an enqueued job that ends no worker: the text decodes, and the retry
count is one the handler can compute with. -/
theorem effect_of_process {worker : Worker} {copy : Copy Text} (genuine : fleet.Genuine json copy)
    (handling : fleet.phase worker = .handling copy) {outcome : Except PyException Unit}
    (gentle : ∀ failure, outcome = .error failure → failure.isException) :
    FleetEffect json fleet (.process worker outcome)
      (fleet.afterProcess json worker copy outcome) := by
  obtain ⟨request, -, retries, decoded⟩ := genuine
  rw [Fleet.afterProcess, attemptPhase_eq decoded]
  cases outcome with
  | ok done => exact .succeeded worker copy handling
  | error failure =>
      have caught := gentle failure rfl
      by_cases few : retries < 3
      · simp only [if_pos caught, if_pos few]
        exact .failed worker copy failure request retries handling decoded few
      · simp only [if_pos caught, if_neg few]
        exact .exhausted worker copy failure request retries handling decoded few

/-- **Every step that ends no worker has one of these effects.** -/
theorem fleetNext_effect (transition : Transition (Fleet Text Worker) (FleetStep Worker))
    (invariant : FleetInvariant json transition.before)
    (step : fleetNext json transition.before transition.label = some transition.after)
    (gentle : EndsNoWorker transition) :
    FleetEffect json transition.before transition.label transition.after := by
  obtain ⟨before, label, after⟩ := transition
  dsimp only at invariant step ⊢
  have required := fleetNext_cases step
  cases label with
  | enqueue request =>
      rw [show after = _ from required]
      exact .enqueued request
  | check worker =>
      obtain ⟨idle, rfl⟩ := required
      exact .checked worker _ idle rfl
  | brpop worker =>
      obtain ⟨waiting, rfl⟩ := required
      rw [Fleet.afterPop]
      split
      · rename_i last
        exact .timedOut worker waiting (List.getLast?_eq_none_iff.mp last)
      · rename_i copy last
        obtain ⟨rest, queue⟩ := List.getLast?_eq_some_iff.mp last
        have isRest : before.queue.dropLast = rest := by rw [queue, List.dropLast_concat]
        rw [isRest]
        exact .popped worker rest copy waiting queue
  | process worker outcome =>
      obtain ⟨copy, handling, rfl⟩ := required
      have sound := invariant.phaseSound worker
      rw [handling] at sound
      refine effect_of_process sound handling ?_
      rintro failure rfl
      exact gentle
  | wake worker =>
      obtain ⟨copy, job_data, retry_count, asleep, rfl⟩ := required
      have sound := invariant.phaseSound worker
      rw [asleep] at sound
      obtain ⟨request, retries, -, -, rfl, rfl⟩ := sound
      rw [Fleet.afterWake, setItem_retry_count]
      exact .woke worker _ request retries asleep
  | lpush worker =>
      obtain ⟨copy, text, ⟨requeueing, rfl⟩ | ⟨deadLettering, rfl⟩⟩ := required
      · exact .requeued worker _ _ requeueing
      · exact .buried worker _ _ deadLettering
  | signal worker =>
      rw [show after = _ from required]
      exact .signalled worker
  | kill worker => exact gentle.elim

/-! ## Workers that stay alive -/

/-- No worker has died. -/
def Fleet.NoneDead (fleet : Fleet Text Worker) : Prop :=
  ∀ worker lost, fleet.phase worker ≠ .dead lost

theorem Fleet.NoneDead.setPhase (noneDead : fleet.NoneDead) {worker : Worker}
    (phase : WorkerPhase Text) (survives : ∀ lost, phase ≠ .dead lost)
    {after : Fleet Text Worker}
    (phases : after.phase = Function.update fleet.phase worker phase) : after.NoneDead := by
  intro other lost
  rw [phases]
  by_cases same : other = worker
  · rw [same, Function.update_self]
    exact survives lost
  · rw [Function.update_of_ne same]
    exact noneDead other lost

/-- No worker dies in a step that ends none from outside. -/
theorem Fleet.NoneDead.step {label : FleetStep Worker} {after : Fleet Text Worker}
    (noneDead : fleet.NoneDead) (effect : FleetEffect json fleet label after) : after.NoneDead := by
  cases effect with
  | enqueued request => exact noneDead
  | signalled worker => exact noneDead
  | checked worker phase idle next =>
      refine noneDead.setPhase phase ?_ rfl
      by_cases asked : fleet.shutdown worker <;> simp [next, asked]
  | timedOut worker waiting empty => exact noneDead.setPhase .idle (by simp) rfl
  | popped worker rest copy waiting queue => exact noneDead.setPhase (.handling copy) (by simp) rfl
  | succeeded worker copy handling => exact noneDead.setPhase .idle (by simp) rfl
  | failed worker copy failure request retries handling decoded few =>
      exact noneDead.setPhase _ (by simp) rfl
  | exhausted worker copy failure request retries handling decoded many =>
      exact noneDead.setPhase _ (by simp) rfl
  | woke worker copy request retries asleep => exact noneDead.setPhase _ (by simp) rfl
  | requeued worker copy text requeueing => exact noneDead.setPhase .idle (by simp) rfl
  | buried worker copy text deadLettering => exact noneDead.setPhase .idle (by simp) rfl

/-! ## Whole runs -/

/-- **No job vanishes.** A job that was enqueued and not processed is on a list or in
the memory of a living worker, or a worker died with it; and the last does not happen
in a run in which no worker is ended from outside. -/
theorem no_job_vanishes (codec : JsonCodec Text) {start finish : Fleet Text Worker}
    {transitions : List (Transition (Fleet Text Worker) (FleetStep Worker))}
    (initial : (fleetSystem codec.toJsonModule).initial start)
    (run : (fleetSystem codec.toJsonModule).Run start transitions finish)
    (ticket : Nat) (request : ScoringRequest) (enqueued : finish.requests[ticket]? = some request)
    (unprocessed : ticket ∉ finish.processed) :
    (finish.Present codec.toJsonModule ticket request ∨
        finish.LostInMemory codec.toJsonModule ticket request) ∧
      ((∀ transition ∈ transitions, EndsNoWorker transition) →
        finish.Present codec.toJsonModule ticket request) := by
  have invariant : FleetInvariant codec.toJsonModule finish := by
    refine TransitionSystem.Reachable.induction (fun _ => FleetInvariant.of_initial) ?_
      ⟨start, transitions, initial, run⟩
    intro before label after _ holds step
    exact holds.step step
  have placed := invariant.present_or_lost enqueued unprocessed
  refine ⟨placed, ?_⟩
  intro gentle
  have noneDead : finish.NoneDead := by
    have startsAlive : start.NoneDead := by
      intro worker lost
      rw [initial.2.2.2 worker]
      simp
    have kept := run.invariant
      (fun fleet => FleetInvariant codec.toJsonModule fleet ∧ fleet.NoneDead)
      (fun transition holds step guarded =>
        ⟨holds.1.step step, holds.2.step (fleetNext_effect transition holds.1 step guarded)⟩)
      ⟨.of_initial initial, startsAlive⟩ gentle
    exact kept.1.2
  rcases placed with present | ⟨worker, lost, died, -⟩
  · exact present
  · exact absurd died (noneDead worker lost)

end System

/-! ## A worker that is killed -/

/-- One worker before it begins. -/
def idleFleet : Fleet Json Unit where
  queue := []
  dlq := []
  phase _ := .idle
  shutdown _ := false
  requests := []
  processed := []

/-- The request of the runs below. -/
def killedRequest : ScoringRequest where
  trace_id := "trace-1"
  pipeline_id := "pipe-1"
  input_text := "input"
  output_text := "output"
  reference_text := none
  scorers_config := []

/-- The job is on the queue, and the worker waits for it. -/
def waitingFleet : Fleet Json Unit :=
  (idleFleet.afterEnqueue JsonCodec.ofValues.toJsonModule killedRequest).setPhase () .waiting

/-- The worker popped the job. -/
def poppedFleet : Fleet Json Unit := waitingFleet.afterPop ()

/-- The steps up to the pop. -/
def popTransitions : List (Transition (Fleet Json Unit) (FleetStep Unit)) :=
  let queued := idleFleet.afterEnqueue JsonCodec.ofValues.toJsonModule killedRequest
  [⟨idleFleet, .enqueue killedRequest, queued⟩, ⟨queued, .check (), waitingFleet⟩,
    ⟨waitingFleet, .brpop (), poppedFleet⟩]

theorem pop_run :
    (fleetSystem JsonCodec.ofValues.toJsonModule).Run idleFleet popTransitions poppedFleet :=
  ((TransitionSystem.Run.nil.snoc rfl).snoc rfl).snoc rfl

/-- The popped job is in the memory of the worker. -/
theorem no_job_vanishes_after_pop :
    (poppedFleet.Present JsonCodec.ofValues.toJsonModule 0 killedRequest ∨
        poppedFleet.LostInMemory JsonCodec.ofValues.toJsonModule 0 killedRequest) ∧
      ((∀ transition ∈ popTransitions, EndsNoWorker transition) →
        poppedFleet.Present JsonCodec.ofValues.toJsonModule 0 killedRequest) :=
  no_job_vanishes JsonCodec.ofValues ⟨rfl, rfl, rfl, fun _ => rfl⟩ pop_run 0 killedRequest rfl
    (List.not_mem_nil)

/-- **A worker that is killed after the pop loses its job.** The job is on no list and
no living worker has it. -/
theorem killed_worker_loses_its_job :
    ¬ ∀ (Text Worker : Type) (_ : DecidableEq Worker) (codec : JsonCodec Text)
        (fleet : Fleet Text Worker), (fleetSystem codec.toJsonModule).Reachable fleet →
        ∀ ticket request, fleet.requests[ticket]? = some request → ticket ∉ fleet.processed →
          fleet.Present codec.toJsonModule ticket request := by
  intro always
  let killed := poppedFleet.setPhase () (.dead (poppedFleet.phase ()).held)
  have run : (fleetSystem JsonCodec.ofValues.toJsonModule).Run idleFleet
      (popTransitions ++ [⟨poppedFleet, .kill (), killed⟩]) killed := pop_run.snoc rfl
  have reachable : (fleetSystem JsonCodec.ofValues.toJsonModule).Reachable killed :=
    ⟨idleFleet, _, ⟨rfl, rfl, rfl, fun _ => rfl⟩, run⟩
  rcases always Json Unit _ JsonCodec.ofValues killed reachable 0 killedRequest rfl
    List.not_mem_nil with inQueue | inDlq | ⟨worker, alive, -⟩
  · obtain ⟨copy, member, -⟩ := inQueue
    cases member
  · obtain ⟨copy, member, -⟩ := inDlq
    cases member
  · cases alive

end LlmopsPlatform.Workers
