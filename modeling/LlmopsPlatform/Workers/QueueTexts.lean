import LlmopsPlatform.Python.JsonRoundTrip
import LlmopsPlatform.Workers.JobConservation

/-!
# The texts on the queue

The fleet passes its jobs on as JSON texts, and every worker decodes and encodes them again.
Told with the values instead of their texts, the fleet takes the same steps, as long as the
jobs that workers handle are read back from their texts (`fleetNext_write`).

A job changes its retry count only, so with the `json` module this holds in every run in
which the requests can be written as JSON at all: the texts of the fleet are the texts of a
fleet of values, and each text on a list decodes to the job that its ticket names, with at
most three failures counted (`texts_refine_values`).
-/

set_option autoImplicit false

namespace LlmopsPlatform.Workers

open Foundations Python TransitionSystem

section System

variable {Text Worker : Type}

/-! ## From values to texts -/

/-- The functions on values that are their own texts. -/
abbrev valueModule : JsonModule Json := JsonCodec.ofValues.toJsonModule

def Copy.write (dumps : Json → Text) (copy : Copy Json) : Copy Text :=
  ⟨copy.ticket, dumps copy.text⟩

def WorkerPhase.write (dumps : Json → Text) : WorkerPhase Json → WorkerPhase Text
  | .idle => .idle
  | .waiting => .waiting
  | .handling copy => .handling (copy.write dumps)
  | .backingOff copy job_data retry_count => .backingOff (copy.write dumps) job_data retry_count
  | .requeueing copy text => .requeueing (copy.write dumps) (dumps text)
  | .deadLettering copy text => .deadLettering (copy.write dumps) (dumps text)
  | .stopped => .stopped
  | .dead lost => .dead (lost.map (Copy.write dumps))

/-- The fleet with the texts of its values. -/
def Fleet.write (dumps : Json → Text) (fleet : Fleet Json Worker) : Fleet Text Worker where
  queue := fleet.queue.map (Copy.write dumps)
  dlq := fleet.dlq.map (Copy.write dumps)
  phase worker := (fleet.phase worker).write dumps
  shutdown := fleet.shutdown
  requests := fleet.requests
  processed := fleet.processed

variable [DecidableEq Worker] {dumps : Json → Text} {json : JsonModule Text}
  {fleet : Fleet Json Worker} {worker : Worker}

theorem Fleet.write_setPhase (fleet : Fleet Json Worker) (worker : Worker)
    (phase : WorkerPhase Json) :
    (fleet.setPhase worker phase).write dumps =
      (fleet.write dumps).setPhase worker (phase.write dumps) := by
  have phases : (fun other => (Function.update fleet.phase worker phase other).write dumps) =
      Function.update (fun other => (fleet.phase other).write dumps) worker
        (phase.write dumps) := by
    funext other
    by_cases same : other = worker
    · rw [same, Function.update_self, Function.update_self]
    · rw [Function.update_of_ne same, Function.update_of_ne same]
  exact congrArg (fun phase => { fleet.write dumps with phase }) phases

theorem Fleet.write_afterPop (fleet : Fleet Json Worker) (worker : Worker) :
    (fleet.afterPop worker).write dumps = (fleet.write dumps).afterPop worker := by
  have last : (fleet.write dumps).queue.getLast? = fleet.queue.getLast?.map (Copy.write dumps) :=
    List.getLast?_map
  rw [Fleet.afterPop, Fleet.afterPop, last]
  cases fleet.queue.getLast? with
  | none => exact Fleet.write_setPhase fleet worker .idle
  | some copy =>
      have dropped : (fleet.write dumps).queue.dropLast =
          fleet.queue.dropLast.map (Copy.write dumps) := List.map_dropLast.symm
      rw [Option.map_some, dropped]
      exact Fleet.write_setPhase _ worker (.handling copy)

omit [DecidableEq Worker] in
/-- A worker that handles a text that reads back goes on as with the value. -/
theorem attemptPhase_write {copy : Copy Json}
    (readable : json.loads (json.dumps copy.text) = .ok copy.text)
    (outcome : Except PyException Unit) :
    attemptPhase json (copy.write json.dumps) outcome =
      (attemptPhase valueModule copy outcome).map (WorkerPhase.write json.dumps) := by
  have sameValue : valueModule.loads copy.text = .ok copy.text := rfl
  have sameText : json.loads (copy.write json.dumps).text = .ok copy.text := readable
  unfold attemptPhase
  rw [sameValue, sameText]
  simp only [bind, Except.bind]
  cases copy.text.getMethod "_retry_count" (.int 0) with
  | error failure => rfl
  | ok retry_count =>
      cases outcome with
      | ok done => rfl
      | error failure =>
          dsimp only
          split
          · cases failedAttempt retry_count with
            | error raised => rfl
            | ok decision => cases decision <;> rfl
          · rfl

theorem Fleet.write_afterProcess {copy : Copy Json}
    (readable : json.loads (json.dumps copy.text) = .ok copy.text)
    (outcome : Except PyException Unit) :
    (fleet.afterProcess valueModule worker copy outcome).write json.dumps =
      (fleet.write json.dumps).afterProcess json worker (copy.write json.dumps) outcome := by
  rw [Fleet.afterProcess, Fleet.afterProcess, attemptPhase_write readable]
  cases attemptPhase valueModule copy outcome with
  | error failure => exact Fleet.write_setPhase fleet worker _
  | ok phase =>
      cases phase with
      | idle => exact Fleet.write_setPhase _ worker .idle
      | _ => exact Fleet.write_setPhase fleet worker _

theorem Fleet.write_afterWake (copy : Copy Json) (job_data retry_count : Json) :
    (fleet.afterWake valueModule worker copy job_data retry_count).write json.dumps =
      (fleet.write json.dumps).afterWake json worker (copy.write json.dumps) job_data
        retry_count := by
  rw [Fleet.afterWake, Fleet.afterWake]
  cases job_data.setItem "_retry_count" retry_count with
  | error failure => exact Fleet.write_setPhase fleet worker _
  | ok retried => exact Fleet.write_setPhase fleet worker _

/-- **The fleet of texts takes the steps of the fleet of values**, if the jobs that workers
handle are read back. -/
theorem fleetNext_write (label : FleetStep Worker)
    (readable : ∀ worker copy, fleet.phase worker = .handling copy →
      json.loads (json.dumps copy.text) = .ok copy.text) :
    fleetNext json (fleet.write json.dumps) label =
      (fleetNext valueModule fleet label).map (Fleet.write json.dumps) := by
  have phaseOf : ∀ worker, (fleet.write json.dumps).phase worker =
      (fleet.phase worker).write json.dumps := fun _ => rfl
  cases label with
  | enqueue request => rfl
  | signal worker => rfl
  | check worker =>
      simp only [fleetNext, phaseOf]
      cases fleet.phase worker with
      | idle =>
          change some _ = some _
          rw [Fleet.write_setPhase]
          cases isSet : fleet.shutdown worker <;> simp [Fleet.write, isSet, WorkerPhase.write]
      | _ => rfl
  | brpop worker =>
      simp only [fleetNext, phaseOf]
      cases fleet.phase worker with
      | waiting => exact congrArg some (Fleet.write_afterPop fleet worker).symm
      | _ => rfl
  | process worker outcome =>
      simp only [fleetNext, phaseOf]
      cases isPhase : fleet.phase worker with
      | handling copy =>
          exact congrArg some (Fleet.write_afterProcess (readable worker copy isPhase) outcome).symm
      | _ => rfl
  | wake worker =>
      simp only [fleetNext, phaseOf]
      cases fleet.phase worker with
      | backingOff copy job_data retry_count =>
          exact congrArg some (Fleet.write_afterWake copy job_data retry_count).symm
      | _ => rfl
  | lpush worker =>
      simp only [fleetNext, phaseOf]
      cases fleet.phase worker with
      | requeueing copy text =>
          let pushed := { fleet with queue := ⟨copy.ticket, text⟩ :: fleet.queue }
          exact congrArg some (Fleet.write_setPhase pushed worker .idle).symm
      | deadLettering copy text =>
          let pushed := { fleet with dlq := ⟨copy.ticket, text⟩ :: fleet.dlq }
          exact congrArg some (Fleet.write_setPhase pushed worker .idle).symm
      | _ => rfl
  | kill worker =>
      simp only [fleetNext, phaseOf]
      have alive : ((fleet.phase worker).write json.dumps).alive = (fleet.phase worker).alive := by
        cases fleet.phase worker <;> rfl
      have held : ((fleet.phase worker).write json.dumps).held =
          (fleet.phase worker).held.map (Copy.write json.dumps) := by
        cases fleet.phase worker <;> rfl
      rw [alive, held]
      split
      · exact congrArg some (Fleet.write_setPhase fleet worker (.dead _)).symm
      · rfl

/-! ## The jobs of a fleet of values -/

/-- A value is the job with its ticket, which counts at most three failures. -/
def IsJob (requests : List ScoringRequest) (copy : Copy Json) : Prop :=
  ∃ request, requests[copy.ticket]? = some request ∧
    ∃ retries ≤ 3, copy.text = scoringJob request retries

/-- What a worker is about to process or to push is such a job. -/
def HasJob (requests : List ScoringRequest) : WorkerPhase Json → Prop
  | .handling copy => IsJob requests copy
  | .backingOff copy job_data retry_count =>
      ∃ request, requests[copy.ticket]? = some request ∧
        ∃ retries < 3, job_data = scoringJob request retries ∧
          retry_count = .int (retries + 1 : Nat)
  | .requeueing copy text | .deadLettering copy text => IsJob requests ⟨copy.ticket, text⟩
  | .idle | .waiting | .stopped | .dead _ => True

/-- There is nothing but jobs. -/
structure JobsOnly (fleet : Fleet Json Worker) : Prop where
  queue : ∀ copy ∈ fleet.queue, IsJob fleet.requests copy
  dlq : ∀ copy ∈ fleet.dlq, IsJob fleet.requests copy
  phase : ∀ worker, HasJob fleet.requests (fleet.phase worker)

variable {after : Fleet Json Worker} {requests further : List ScoringRequest}

theorem IsJob.append {copy : Copy Json} (isJob : IsJob requests copy) :
    IsJob (requests ++ further) copy := by
  obtain ⟨request, requested, counted⟩ := isJob
  refine ⟨request, ?_, counted⟩
  rw [List.getElem?_append_left (List.getElem?_eq_some_iff.mp requested).1, requested]

theorem HasJob.append {phase : WorkerPhase Json} (hasJob : HasJob requests phase) :
    HasJob (requests ++ further) phase := by
  cases phase with
  | handling copy => exact IsJob.append hasJob
  | backingOff copy job_data retry_count =>
      obtain ⟨request, requested, counted⟩ := hasJob
      refine ⟨request, ?_, counted⟩
      rw [List.getElem?_append_left (List.getElem?_eq_some_iff.mp requested).1, requested]
  | requeueing copy text => exact IsJob.append hasJob
  | deadLettering copy text => exact IsJob.append hasJob
  | _ => trivial

namespace JobsOnly

/-- A worker moves on with a job, or without one. -/
theorem setPhase (jobs : JobsOnly fleet) {phase : WorkerPhase Json}
    (hasJob : HasJob fleet.requests phase) :
    JobsOnly (fleet.setPhase worker phase) where
  queue := jobs.queue
  dlq := jobs.dlq
  phase other := by
    by_cases same : other = worker
    · simpa [Fleet.setPhase, same] using hasJob
    · simpa [Fleet.setPhase, same] using jobs.phase other

/-- The next phase of a worker that handles a job. -/
theorem afterProcess (jobs : JobsOnly fleet) {copy : Copy Json}
    (handling : fleet.phase worker = .handling copy) (outcome : Except PyException Unit) :
    JobsOnly (fleet.afterProcess valueModule worker copy outcome) := by
  have isJob := jobs.phase worker
  rw [handling] at isJob
  obtain ⟨request, requested, retries, few, text⟩ := isJob
  have decoded : valueModule.loads copy.text = .ok (scoringJob request retries) :=
    congrArg Except.ok text
  rw [Fleet.afterProcess, attemptPhase_eq decoded]
  cases outcome with
  | ok done =>
      have recorded : JobsOnly { fleet with processed := copy.ticket :: fleet.processed } :=
        ⟨jobs.queue, jobs.dlq, jobs.phase⟩
      exact recorded.setPhase trivial
  | error failure =>
      by_cases caught : failure.isException
      · by_cases again : retries < 3
        · simp only [if_pos caught, if_pos again]
          exact jobs.setPhase ⟨request, requested, retries, again, rfl, rfl⟩
        · simp only [if_pos caught, if_neg again]
          exact jobs.setPhase ⟨request, requested, retries, few, rfl⟩
      · simp only [if_neg caught]
        exact jobs.setPhase trivial

/-- Every step leaves nothing but jobs. -/
theorem step (jobs : JobsOnly fleet) {label : FleetStep Worker}
    (step : fleetNext valueModule fleet label = some after) : JobsOnly after := by
  have required := fleetNext_cases step
  cases label with
  | enqueue request =>
      rw [show after = _ from required]
      refine ⟨?_, fun copy member => (jobs.dlq copy member).append,
        fun worker => (jobs.phase worker).append⟩
      intro copy member
      rcases List.mem_cons.mp member with rfl | earlier
      · exact ⟨request, by simp [Fleet.afterEnqueue], 0, by decide, rfl⟩
      · exact (jobs.queue copy earlier).append
  | check worker =>
      obtain ⟨-, rfl⟩ := required
      cases fleet.shutdown worker
      · exact jobs.setPhase trivial
      · exact jobs.setPhase trivial
  | brpop worker =>
      obtain ⟨-, rfl⟩ := required
      rw [Fleet.afterPop]
      split
      · exact jobs.setPhase trivial
      · rename_i copy last
        have shorter : JobsOnly { fleet with queue := fleet.queue.dropLast } :=
          ⟨fun other member => jobs.queue other (List.dropLast_subset _ member), jobs.dlq,
            jobs.phase⟩
        exact shorter.setPhase (jobs.queue copy (List.mem_of_getLast? last))
  | process worker outcome =>
      obtain ⟨copy, handling, rfl⟩ := required
      exact jobs.afterProcess handling outcome
  | wake worker =>
      obtain ⟨copy, job_data, retry_count, asleep, rfl⟩ := required
      have hasJob := jobs.phase worker
      rw [asleep] at hasJob
      obtain ⟨request, requested, retries, few, rfl, rfl⟩ := hasJob
      rw [Fleet.afterWake, setItem_retry_count]
      exact jobs.setPhase ⟨request, requested, retries + 1, few, rfl⟩
  | lpush worker =>
      obtain ⟨copy, text, ⟨requeueing, rfl⟩ | ⟨deadLettering, rfl⟩⟩ := required
      · have isJob := jobs.phase worker
        rw [requeueing] at isJob
        have pushed : JobsOnly { fleet with queue := ⟨copy.ticket, text⟩ :: fleet.queue } :=
          ⟨List.forall_mem_cons.mpr ⟨isJob, jobs.queue⟩, jobs.dlq, jobs.phase⟩
        exact pushed.setPhase trivial
      · have isJob := jobs.phase worker
        rw [deadLettering] at isJob
        have pushed : JobsOnly { fleet with dlq := ⟨copy.ticket, text⟩ :: fleet.dlq } :=
          ⟨jobs.queue, List.forall_mem_cons.mpr ⟨isJob, jobs.dlq⟩, jobs.phase⟩
        exact pushed.setPhase trivial
  | signal worker =>
      rw [show after = _ from required]
      exact ⟨jobs.queue, jobs.dlq, jobs.phase⟩
  | kill worker =>
      obtain ⟨-, rfl⟩ := required
      exact jobs.setPhase trivial

end JobsOnly

/-! ## The texts of the `json` module -/

variable (floats : FloatFormat)

/-- The configuration of the scorers can be written as JSON. The other arguments are texts. -/
def ScoringRequest.Writable (request : ScoringRequest) : Prop :=
  ∀ config ∈ request.scorers_config, config.Writable floats

variable {floats}

theorem ScoringRequest.Writable.scoringJob {request : ScoringRequest}
    (writable : request.Writable floats) {retries : Nat} (few : retries ≤ 3) :
    (scoringJob request retries).Writable floats := by
  have short : (retries : ℤ).natAbs < 10 ^ maxStrDigits := by
    refine lt_of_lt_of_le ?_ (Nat.pow_le_pow_right (by decide) (show 1 ≤ maxStrDigits by decide))
    omega
  have reference : ((request.reference_text.map Json.str).getD .null).Writable floats := by
    cases request.reference_text with
    | none => exact .null
    | some text => exact .str text
  have distinct : ["trace_id", "pipeline_id", "input_text", "output_text", "reference_text",
      "scorers_config", "_retry_count"].Nodup := by decide
  refine .dict _ distinct fun entry member => ?_
  simp only [List.mem_cons, List.not_mem_nil, or_false] at member
  rcases member with rfl | rfl | rfl | rfl | rfl | rfl | rfl
  · exact .str _
  · exact .str _
  · exact .str _
  · exact .str _
  · exact reference
  · exact .list _ writable
  · exact .int _ short

/-- A step enqueues a request, or leaves the requests. -/
theorem requests_cases {fleet after : Fleet Text Worker} {label : FleetStep Worker}
    (step : fleetNext json fleet label = some after) :
    after.requests = fleet.requests ∨
      ∃ request, label = .enqueue request ∧ after.requests = fleet.requests ++ [request] := by
  have required := fleetNext_cases step
  cases label with
  | enqueue request =>
      rw [show after = _ from required]
      exact .inr ⟨request, rfl, rfl⟩
  | check worker =>
      obtain ⟨-, rfl⟩ := required
      exact .inl rfl
  | brpop worker =>
      obtain ⟨-, rfl⟩ := required
      unfold Fleet.afterPop
      split <;> exact .inl rfl
  | process worker outcome =>
      obtain ⟨copy, -, rfl⟩ := required
      unfold Fleet.afterProcess
      split <;> exact .inl rfl
  | wake worker =>
      obtain ⟨copy, job_data, retry_count, -, rfl⟩ := required
      unfold Fleet.afterWake
      split <;> exact .inl rfl
  | lpush worker =>
      obtain ⟨copy, text, ⟨-, rfl⟩ | ⟨-, rfl⟩⟩ := required
      · exact .inl rfl
      · exact .inl rfl
  | signal worker =>
      rw [show after = _ from required]
      exact .inl rfl
  | kill worker =>
      obtain ⟨-, rfl⟩ := required
      exact .inl rfl

/-- The requests that a step enqueues can be written. -/
def EnqueuesWritable (floats : FloatFormat)
    (transition : Transition (Fleet Text Worker) (FleetStep Worker)) : Prop :=
  ∀ request, transition.label = .enqueue request → request.Writable floats

/-- The run of values and the run of texts, step by step. -/
theorem exists_value_run {start finish : Fleet String Worker}
    {transitions : List (Transition (Fleet String Worker) (FleetStep Worker))}
    (initial : (fleetSystem (jsonModule floats)).initial start)
    (run : (fleetSystem (jsonModule floats)).Run start transitions finish)
    (writable : ∀ transition ∈ transitions, EnqueuesWritable floats transition) :
    (∃ first last values, (fleetSystem valueModule).initial first ∧
      (fleetSystem valueModule).Run first values last ∧
        values.map Transition.label = transitions.map Transition.label ∧
          finish = last.write (jsonModule floats).dumps ∧ JobsOnly last) ∧
      ∀ request ∈ finish.requests, request.Writable floats := by
  induction run with
  | nil =>
      obtain ⟨noQueue, noDlq, noRequests, idle⟩ := initial
      let first : Fleet Json Worker := ⟨[], [], fun _ => .idle, start.shutdown, [], start.processed⟩
      refine ⟨⟨first, first, [], ⟨rfl, rfl, rfl, fun _ => rfl⟩, .nil, rfl, ?_, by simp [first],
        by simp [first], fun _ => trivial⟩, by simp [noRequests]⟩
      obtain ⟨queue, dlq, phase, shutdown, requests, processed⟩ := start
      have phases : phase = fun _ => .idle := funext idle
      simp_all [Fleet.write, WorkerPhase.write, first]
  | @snoc earlier before after label shorter step ih =>
      obtain ⟨earlierWritable, lastWritable⟩ := List.forall_mem_append.mp writable
      obtain ⟨⟨first, last, values, isInitial, valueRun, labels, rfl, jobs⟩, all⟩ :=
        ih earlierWritable
      have readable : ∀ worker copy, last.phase worker = .handling copy →
          (jsonModule floats).loads ((jsonModule floats).dumps copy.text) = .ok copy.text := by
        intro worker copy handling
        have isJob := jobs.phase worker
        rw [handling] at isJob
        obtain ⟨request, requested, retries, few, text⟩ := isJob
        rw [text]
        exact loads_dumps ((all request (List.mem_of_getElem? requested)).scoringJob few)
      have stepped :
          (fleetNext valueModule last label).map (Fleet.write (jsonModule floats).dumps) =
            some after := (fleetNext_write label readable).symm.trans step
      have allAfter : ∀ request ∈ after.requests, request.Writable floats := by
        rcases requests_cases step with same | ⟨request, isLabel, grown⟩
        · rw [same]
          exact all
        · rw [grown]
          refine List.forall_mem_append.mpr ⟨all, List.forall_mem_singleton.mpr ?_⟩
          exact lastWritable _ (List.mem_singleton.mpr rfl) request isLabel
      obtain ⟨next, valueStep, rfl⟩ := Option.map_eq_some_iff.mp stepped
      refine ⟨⟨first, next, _, isInitial, valueRun.snoc valueStep, ?_, rfl, jobs.step valueStep⟩,
        allAfter⟩
      rw [List.map_append, List.map_append, labels]
      rfl

/-- **Texts refine values.** A run of the fleet with the `json` module, in which all requests
can be written, is a run on values with the same labels. Every text on a list is that of the
job of its ticket, with at most three failures, and it is read back as this job. -/
theorem texts_refine_values (floats : FloatFormat) {start finish : Fleet String Worker}
    {transitions : List (Transition (Fleet String Worker) (FleetStep Worker))}
    (initial : (fleetSystem (jsonModule floats)).initial start)
    (run : (fleetSystem (jsonModule floats)).Run start transitions finish)
    (writable : ∀ transition ∈ transitions, EnqueuesWritable floats transition) :
    (∃ first last values, (fleetSystem valueModule).initial first ∧
      (fleetSystem valueModule).Run first values last ∧
        values.map Transition.label = transitions.map Transition.label ∧
          finish = last.write (jsonModule floats).dumps) ∧
      ∀ copy ∈ finish.queue ++ finish.dlq, ∃ request,
        finish.requests[copy.ticket]? = some request ∧ ∃ retries ≤ 3,
          copy.text = (jsonModule floats).dumps (scoringJob request retries) ∧
            (jsonModule floats).loads copy.text = .ok (scoringJob request retries) := by
  obtain ⟨⟨first, last, values, isInitial, valueRun, labels, rfl, jobs⟩, all⟩ :=
    exists_value_run initial run writable
  refine ⟨⟨first, last, values, isInitial, valueRun, labels, rfl⟩, ?_⟩
  intro copy member
  have isWritten : ∃ value, copy = value.write (jsonModule floats).dumps ∧
      IsJob last.requests value := by
    rcases List.mem_append.mp member with queued | dead
    · obtain ⟨value, isValue, rfl⟩ := List.mem_map.mp queued
      exact ⟨value, rfl, jobs.queue value isValue⟩
    · obtain ⟨value, isValue, rfl⟩ := List.mem_map.mp dead
      exact ⟨value, rfl, jobs.dlq value isValue⟩
  obtain ⟨value, rfl, request, requested, retries, few, text⟩ := isWritten
  have isText : (value.write (jsonModule floats).dumps).text =
      (jsonModule floats).dumps (scoringJob request retries) := by rw [← text]; rfl
  refine ⟨request, requested, retries, few, isText, ?_⟩
  rw [isText]
  exact loads_dumps ((all request (List.mem_of_getElem? requested)).scoringJob few)

end System

/-! ## A job that is tried twice -/

/-- A float type that knows one half. -/
def halfFloats : FloatFormat where
  repr value := if value = 1 / 2 then ['0', '.', '5'] else ['0', '.', '0']
  ofLiteral text := if text = ['0', '.', '5'] then .finite (1 / 2) else .nan

theorem halfFloats_readsBack : halfFloats.ReadsBack (1 / 2) where
  literal := by
    have valid : NumberText.Valid ⟨false, ['0'], ['.', '5'], []⟩ :=
      { whole := .inl rfl
        fraction := .inr ⟨['5'], rfl, List.cons_ne_nil _ _, List.forall_mem_singleton.mpr rfl⟩
        exponent := .inl rfl }
    exact ⟨_, valid, .inl (List.cons_ne_nil _ _), (if_pos rfl).symm⟩
  inverts := by
    have half : halfFloats.repr (1 / 2) = ['0', '.', '5'] := if_pos rfl
    rw [half]
    rfl

/-- A request whose texts need escapes, and a scorer with a weight. -/
def weightedRequest : ScoringRequest where
  trace_id := "t1"
  pipeline_id := "p1"
  input_text := "a \"quoted\" word"
  output_text := "two\nlines"
  reference_text := none
  scorers_config := [.dict [("strategy", .str "rule_based"), ("weight", .float (.finite (1 / 2)))]]

theorem weightedRequest_writable : weightedRequest.Writable halfFloats := by
  intro config member
  obtain rfl := List.mem_singleton.mp member
  refine .dict _ (by decide) fun entry member => ?_
  simp only [List.mem_cons, List.not_mem_nil, or_false] at member
  rcases member with rfl | rfl
  · exact .str _
  · exact .finite _ halfFloats_readsBack

/-- The job fails once and is pushed back. -/
def triedSteps : List (FleetStep Unit) :=
  [.enqueue weightedRequest, .check (), .brpop (), .process () (.error .typeError), .wake (),
    .lpush ()]

/-- No job was enqueued. -/
def quietFleet : Fleet String Unit := ⟨[], [], fun _ => .idle, fun _ => false, [], []⟩

theorem retried_text_is_read_back :
    ∃ (transitions : List (Transition (Fleet String Unit) (FleetStep Unit)))
      (finish : Fleet String Unit), transitions.map Transition.label = triedSteps ∧
        (∃ first last values, (fleetSystem valueModule).initial first ∧
          (fleetSystem valueModule).Run first values last ∧
            values.map Transition.label = transitions.map Transition.label ∧
              finish = last.write (jsonModule halfFloats).dumps) ∧
        ∀ copy ∈ finish.queue ++ finish.dlq, ∃ request,
          finish.requests[copy.ticket]? = some request ∧ ∃ retries ≤ 3,
            copy.text = (jsonModule halfFloats).dumps (scoringJob request retries) ∧
              (jsonModule halfFloats).loads copy.text = .ok (scoringJob request retries) := by
  have enabled : ((fleetSystem (jsonModule halfFloats)).execute triedSteps quietFleet).isSome := by
    decide +kernel
  obtain ⟨finish, executed⟩ := Option.isSome_iff_exists.mp enabled
  obtain ⟨transitions, run, labels⟩ := exists_run_of_execute executed
  refine ⟨transitions, finish, labels,
    texts_refine_values halfFloats ⟨rfl, rfl, rfl, fun _ => rfl⟩ run ?_⟩
  intro transition member request enqueues
  have isLabel : transition.label ∈ triedSteps := labels ▸ List.mem_map_of_mem member
  rw [enqueues] at isLabel
  obtain rfl : request = weightedRequest := by simpa [triedSteps] using isLabel
  exact weightedRequest_writable

end LlmopsPlatform.Workers
