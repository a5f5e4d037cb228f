import LlmopsPlatform.Api.BackgroundScoring
import LlmopsPlatform.Foundations.TransitionSystem

/-!
# Pipelines, evaluations and results

Clients create pipelines, have texts evaluated by them and ask for the results of a trace,
while workers store results of their own. An evaluation loads its pipeline, runs it, commits a
row and submits the scores, and other requests are served in between.

The results of a trace are the rows that were stored for it. An evaluation stores one row at
most, and one that was answered has stored exactly one, with the scores of its answer; they are
those of the scorers in the request that created its pipeline (`results_account_for_evaluations`).
An evaluation that fails while it submits its scores has stored its row, too.
-/

set_option autoImplicit false

namespace LlmopsPlatform.Api

open Foundations Python Database Scoring Workers TransitionSystem

/-! ## The parts of an evaluation -/

/-- The observability backend and the pipeline that a request needs. -/
def openPipeline (services : Services) (table : PipelineTable) (req : EvaluateRequest) :
    Except PyException ScoringPipelineModel := do
  services.observability
  loadPipeline table req.pipeline_id

/-- The pipeline is built and run. -/
def scoreRequest (services : Services) (pipeline_model : ScoringPipelineModel)
    (req : EvaluateRequest) : Except PyException PipelineResult := do
  let scorer_configs ← storedConfigs services.scorerConfig pipeline_model
  services.construct scorer_configs
  services.runPipeline scorer_configs (.str req.input_text) (.str req.output_text)
    (optionalText req.reference_text)

/-- The row that is added. -/
def scoreRecord (pipeline_model : ScoringPipelineModel) (req : EvaluateRequest)
    (pipeline_result : PipelineResult) : ScoreResultModel where
  pipeline_id := .str pipeline_model.id
  trace_id := .str req.trace_id
  input_text := .str req.input_text
  output_text := .str req.output_text
  reference_text := optionalText req.reference_text
  aggregate_score := pipeline_result.aggregate_score
  individual_scores := pipeline_result.individual_scores

def evaluateResponse (req : EvaluateRequest) (pipeline_id : String)
    (pipeline_result : PipelineResult) : EvaluateResponse where
  trace_id := req.trace_id
  pipeline_id
  aggregate_score := pipeline_result.aggregate_score
  individual_scores := pipeline_result.individual_scores.map fun s =>
    ⟨s.name, s.value, s.comment, s.metadata⟩

/-- The part after the commit. -/
def submitResult (services : Services) (pipeline_model : ScoringPipelineModel)
    (req : EvaluateRequest) (pipeline_result : PipelineResult) :
    Effectful ScoringBackend PyException EvaluateResponse := do
  submitScores services (.str req.trace_id) 0 pipeline_result.individual_scores
  let aggregate : ScoreSubmission :=
    { trace_id := .str req.trace_id
      name := "aggregate"
      value := pipeline_result.aggregate_score
      comment := some ("Pipeline: " ++ pipeline_model.name) }
  .ofExcept (services.score pipeline_result.individual_scores.length aggregate)
  .modify fun backend => { backend with submissions := backend.submissions ++ [aggregate] }
  pure (evaluateResponse req pipeline_model.id pipeline_result)

/-- The part from the commit on. -/
def storeResult (services : Services) (pipeline_model : ScoringPipelineModel)
    (req : EvaluateRequest) (pipeline_result : PipelineResult) :
    Effectful ScoringBackend PyException EvaluateResponse := do
  let score_record := scoreRecord pipeline_model req pipeline_result
  .ofExcept (services.commit score_record)
  .modify fun backend => { backend with score_results := backend.score_results ++ [score_record] }
  submitResult services pipeline_model req pipeline_result

/-- `evaluate` is made of these parts. -/
theorem run_evaluate_eq (services : Services) (table : PipelineTable) (req : EvaluateRequest)
    (backend : ScoringBackend) :
    (evaluate services table req).run backend =
      (do
        let pipeline_model ← .ofExcept (openPipeline services table req)
        let pipeline_result ← .ofExcept (scoreRequest services pipeline_model req)
        storeResult services pipeline_model req pipeline_result :
        Effectful ScoringBackend PyException EvaluateResponse).run backend := by
  unfold evaluate openPipeline
  cases observed : services.observability with
  | error failure => simp [bind, Except.bind]
  | ok done =>
  cases loaded : loadPipeline table req.pipeline_id with
  | error failure => simp [bind, Except.bind]
  | ok pipeline_model =>
  cases configs : storedConfigs services.scorerConfig pipeline_model with
  | error failure => simp [scoreRequest, configs, bind, Except.bind]
  | ok scorer_configs =>
  cases constructed : services.construct scorer_configs with
  | error failure => simp [scoreRequest, configs, constructed, bind, Except.bind]
  | ok done =>
  cases ran : services.runPipeline scorer_configs (.str req.input_text) (.str req.output_text)
      (optionalText req.reference_text) with
  | error failure => simp [scoreRequest, configs, constructed, ran, bind, Except.bind]
  | ok pipeline_result =>
      simp [scoreRequest, configs, constructed, ran, bind, Except.bind]
      rfl

/-! ## Requests in between -/

/-- How far an evaluation has come. -/
inductive EvaluatePhase where
  | waiting
  | loaded (pipeline_model : ScoringPipelineModel)
  | scored (pipeline_model : ScoringPipelineModel) (pipeline_result : PipelineResult)
  | stored (pipeline_model : ScoringPipelineModel) (pipeline_result : PipelineResult)
  | answered (response : EvaluateResponse)
  | failed (failure : PyException)

/-- The two tables and the observability backend, and the evaluations. -/
structure ScoringState (Request : Type) where
  table : PipelineTable
  backend : ScoringBackend
  phase : Request → EvaluatePhase

/-- A step of one request. A worker's attempt at a job is one step. -/
inductive ScoringStep (Request : Type) where
  | create (id : String) (now : Timestamp) (req : CreatePipelineRequest)
  | load (request : Request)
  | score (request : Request)
  | commit (request : Request)
  | submit (request : Request)
  | work (services : Services) (job_data : Json)

namespace ScoringState

variable {Request : Type} [DecidableEq Request]

def setPhase (state : ScoringState Request) (request : Request) (phase : EvaluatePhase) :
    ScoringState Request :=
  { state with phase := Function.update state.phase request phase }

/-- Go on with the result of a part, or end with its exception. -/
def advance {Result : Type} (state : ScoringState Request) (request : Request)
    (outcome : Except PyException Result) (next : Result → EvaluatePhase) :
    ScoringState Request :=
  match outcome with
  | .ok result => state.setPhase request (next result)
  | .error failure => state.setPhase request (.failed failure)

/-- Add a row. -/
def store (state : ScoringState Request) (record : ScoreResultModel) : ScoringState Request :=
  { state with backend :=
      { state.backend with score_results := state.backend.score_results ++ [record] } }

def withBackend (state : ScoringState Request) (backend : ScoringBackend) :
    ScoringState Request :=
  { state with backend }

end ScoringState

section System

variable {Request : Type} [DecidableEq Request] (registry : Registry) (pydantic : Pydantic)
  (req : Request → EvaluateRequest) (services : Request → Services)

def scoringNext (state : ScoringState Request) :
    ScoringStep Request → Option (ScoringState Request)
  | .create id now created =>
      match createPipeline registry pydantic state.table id now created with
      | .ok (_, committed) => some { state with table := committed }
      | .error _ => some state
  | .load request =>
      match state.phase request with
      | .waiting => some (state.advance request
          (openPipeline (services request) state.table (req request)) .loaded)
      | _ => none
  | .score request =>
      match state.phase request with
      | .loaded pipeline_model => some (state.advance request
          (scoreRequest (services request) pipeline_model (req request)) (.scored pipeline_model))
      | _ => none
  | .commit request =>
      match state.phase request with
      | .scored pipeline_model pipeline_result =>
          let record := scoreRecord pipeline_model (req request) pipeline_result
          match (services request).commit record with
          | .ok _ =>
              some ((state.store record).setPhase request (.stored pipeline_model pipeline_result))
          | .error failure => some (state.setPhase request (.failed failure))
      | _ => none
  | .submit request =>
      match state.phase request with
      | .stored pipeline_model pipeline_result =>
          let submitted := (submitResult (services request) pipeline_model (req request)
            pipeline_result).run state.backend
          some ((state.withBackend submitted.2).advance request submitted.1 .answered)
      | _ => none
  | .work services job_data =>
      some (state.withBackend ((processJob services job_data).run state.backend).2)

/-- At the start there is no pipeline and no result. -/
def scoringSystem : TransitionSystem (ScoringState Request) (ScoringStep Request) where
  initial state := state.table.rows = [] ∧ state.backend.score_results = [] ∧
    ∀ request, state.phase request = .waiting
  next := scoringNext registry pydantic req services

/-! ## What is written -/

/-- The row that is there after a commit, if it succeeds. -/
def committedRows (services : Services) (record : ScoreResultModel) : List ScoreResultModel :=
  if (services.commit record).isOk then [record] else []

/-- The row that an attempt of a worker stores, if any. -/
def workerRows (services : Services) (job_data : Json) : List ScoreResultModel :=
  match scoreJob services job_data with
  | .ok record => committedRows services record
  | .error _ => []

/-- The pipeline that a step creates, with the request that it was created for. -/
def createdBy (step : Transition (ScoringState Request) (ScoringStep Request)) :
    List (String × CreatePipelineRequest) :=
  match step.label with
  | .create id now created =>
      if (createPipeline registry pydantic step.before.table id now created).isOk then
        [(id, created)]
      else []
  | _ => []

/-- The row that a step stores, with the request that it is for, if it is not a worker's. -/
def storedBy (step : Transition (ScoringState Request) (ScoringStep Request)) :
    List (Option Request × ScoreResultModel) :=
  match step.label with
  | .commit request =>
      match step.before.phase request with
      | .scored pipeline_model pipeline_result =>
          (committedRows (services request)
            (scoreRecord pipeline_model (req request) pipeline_result)).map (some request, ·)
      | _ => []
  | .work services job_data => (workerRows services job_data).map (none, ·)
  | _ => []

end System

/-! ## Results -/

/-- One of the results of a trace. -/
structure ListedResult where
  pipeline_id : Json
  aggregate_score : Double
  individual_scores : List ScoreResult

/-- The answer of `get_results`, for the rows that its query returns. -/
structure ListedResults where
  trace_id : String
  results : List ListedResult

def listedResult (r : ScoreResultModel) : ListedResult :=
  ⟨r.pipeline_id, r.aggregate_score, r.individual_scores⟩

/-- The row is a result of the trace. -/
def isOfTrace (trace_id : String) (r : ScoreResultModel) : Bool :=
  match r.trace_id with
  | .str text => text = trace_id
  | _ => false

/-- `get_results`. The database returns the rows in an order of its own. -/
def getResults (arrange : List ScoreResultModel → List ScoreResultModel)
    (backend : ScoringBackend) (trace_id : String) : ListedResults where
  trace_id
  results := (arrange (backend.score_results.filter (isOfTrace trace_id))).map listedResult

/-! ## What is known of a state -/

section History

variable {Request : Type} [DecidableEq Request] {registry : Registry} {pydantic : Pydantic}
  {req : Request → EvaluateRequest} {services : Request → Services}

/-- The rows that were stored for a request. -/
def rowsOf (request : Request) (stored : List (Option Request × ScoreResultModel)) :
    List ScoreResultModel :=
  (stored.filter fun entry => entry.1 = some request).map Prod.snd

/-- The row is as some request created it. -/
def IsCreated (created : List (String × CreatePipelineRequest)) (row : ScoringPipelineModel) :
    Prop :=
  ∃ creation, (row.id, creation) ∈ created ∧
    row.scorers_config = creation.scorers.map modelDump

/-- An evaluation ran the scorers of the pipeline that it names. -/
structure Evaluated (created : List (String × CreatePipelineRequest)) (services : Services)
    (req : EvaluateRequest) (pipeline_model : ScoringPipelineModel)
    (pipeline_result : PipelineResult) : Prop where
  named : pipeline_model.id = req.pipeline_id
  created : IsCreated created pipeline_model
  ran : scoreRequest services pipeline_model req = .ok pipeline_result

/-- What is known of an evaluation from its phase, with the rows that were stored for it. -/
def EvaluatePhase.Explained (created : List (String × CreatePipelineRequest))
    (services : Services) (req : EvaluateRequest) (rows : List ScoreResultModel) :
    EvaluatePhase → Prop
  | .waiting => rows = []
  | .loaded pipeline_model =>
      rows = [] ∧ pipeline_model.id = req.pipeline_id ∧ IsCreated created pipeline_model
  | .scored pipeline_model pipeline_result =>
      rows = [] ∧ Evaluated created services req pipeline_model pipeline_result
  | .stored pipeline_model pipeline_result =>
      rows = [scoreRecord pipeline_model req pipeline_result] ∧
        Evaluated created services req pipeline_model pipeline_result
  | .answered response => ∃ pipeline_model pipeline_result,
      rows = [scoreRecord pipeline_model req pipeline_result] ∧
        Evaluated created services req pipeline_model pipeline_result ∧
        response = evaluateResponse req pipeline_model.id pipeline_result
  | .failed _ => rows.length ≤ 1

variable (req services) in
/-- What is known of a state from the pipelines that were created and the rows that were
stored. -/
structure ScoringHistory (created : List (String × CreatePipelineRequest))
    (stored : List (Option Request × ScoreResultModel)) (state : ScoringState Request) : Prop where
  pipelines : ∀ row ∈ state.table.rows, IsCreated created row
  results : state.backend.score_results = stored.map Prod.snd
  phases : ∀ request, (state.phase request).Explained created (services request) (req request)
    (rowsOf request stored)

variable {created more : List (String × CreatePipelineRequest)}
  {stored : List (Option Request × ScoreResultModel)} {state : ScoringState Request}

theorem IsCreated.mono {row : ScoringPipelineModel} (isCreated : IsCreated created row) :
    IsCreated (created ++ more) row := by
  obtain ⟨creation, member, scorers⟩ := isCreated
  exact ⟨creation, List.mem_append_left _ member, scorers⟩

theorem Evaluated.mono {services : Services} {req : EvaluateRequest}
    {pipeline_model : ScoringPipelineModel} {pipeline_result : PipelineResult}
    (evaluated : Evaluated created services req pipeline_model pipeline_result) :
    Evaluated (created ++ more) services req pipeline_model pipeline_result :=
  ⟨evaluated.named, evaluated.created.mono, evaluated.ran⟩

theorem EvaluatePhase.Explained.mono {services : Services} {req : EvaluateRequest}
    {rows : List ScoreResultModel} {phase : EvaluatePhase}
    (explained : phase.Explained created services req rows) :
    phase.Explained (created ++ more) services req rows := by
  cases phase with
  | waiting => exact explained
  | loaded pipeline_model => exact ⟨explained.1, explained.2.1, explained.2.2.mono⟩
  | scored pipeline_model pipeline_result => exact ⟨explained.1, explained.2.mono⟩
  | stored pipeline_model pipeline_result => exact ⟨explained.1, explained.2.mono⟩
  | answered response =>
      obtain ⟨pipeline_model, pipeline_result, rows, evaluated, same⟩ := explained
      exact ⟨pipeline_model, pipeline_result, rows, evaluated.mono, same⟩
  | failed failure => exact explained

theorem rowsOf_append (request : Request)
    (first second : List (Option Request × ScoreResultModel)) :
    rowsOf request (first ++ second) = rowsOf request first ++ rowsOf request second := by
  rw [rowsOf, List.filter_append, List.map_append]
  rfl

/-- The loaded row is in the table under the name that was asked for. -/
theorem openPipeline_eq_ok {services : Services} {table : PipelineTable} {req : EvaluateRequest}
    {row : ScoringPipelineModel} (opened : openPipeline services table req = .ok row) :
    row ∈ table.rows ∧ row.id = req.pipeline_id := by
  unfold openPipeline at opened
  cases observed : services.observability with
  | error failure =>
      rw [observed] at opened
      cases opened
  | ok done =>
      rw [observed] at opened
      have loaded : loadPipeline table req.pipeline_id = .ok row := opened
      rcases scalarOneOrNone_filter_key table.idUnique req.pipeline_id with
        ⟨found, member, named, query⟩ | ⟨-, query⟩
      · rw [loadPipeline, query] at loaded
        cases loaded
        exact ⟨member, named⟩
      · rw [loadPipeline, query] at loaded
        cases loaded

/-- An attempt of a worker adds its row. -/
theorem score_results_processJob (services : Services) (job_data : Json)
    (backend : ScoringBackend) :
    ((processJob services job_data).run backend).2.score_results =
      backend.score_results ++ workerRows services job_data := by
  unfold processJob workerRows committedRows
  cases scoreJob services job_data with
  | error failure => exact (List.append_nil _).symm
  | ok record =>
      dsimp only
      cases committed : services.commit record with
      | error failure =>
          rw [if_neg (by simp [Except.isOk, Except.toBool]), List.append_nil]
          simp [committed]
      | ok done =>
          have stores : (Except.ok done : Except PyException Unit).isOk = true := rfl
          rw [if_pos stores]
          simp only [Effectful.run_ofExcept_ok_bind, committed, Effectful.run_modify_bind]
          exact submitRecord_keeps record _

/-- The submissions store no row, and their answer has the scores. -/
theorem run_submitResult (services : Services) (pipeline_model : ScoringPipelineModel)
    (req : EvaluateRequest) (pipeline_result : PipelineResult) (backend : ScoringBackend) :
    ((submitResult services pipeline_model req pipeline_result).run backend).2.score_results =
        backend.score_results ∧
      ∀ response,
        ((submitResult services pipeline_model req pipeline_result).run backend).1 =
            .ok response →
          response = evaluateResponse req pipeline_model.id pipeline_result := by
  constructor
  · have keeps : (submitResult services pipeline_model req pipeline_result).Keeps
        ScoringBackend.score_results := by
      apply Effectful.Keeps.bind (submitScores_keeps _ _ _)
      intro _
      apply Effectful.Keeps.bind (.ofExcept _)
      intro _
      apply Effectful.Keeps.bind
      · exact .modify fun _ => rfl
      intro _
      exact .pure _
    exact keeps backend
  · intro response isOk
    unfold submitResult at isOk
    rw [Effectful.run_bind] at isOk
    split at isOk
    · dsimp only at isOk
      cases scored : services.score pipeline_result.individual_scores.length
          { trace_id := .str req.trace_id
            name := "aggregate"
            value := pipeline_result.aggregate_score
            comment := some ("Pipeline: " ++ pipeline_model.name) } with
      | error failure =>
          rw [scored] at isOk
          cases isOk
      | ok done =>
          rw [scored] at isOk
          cases isOk
          rfl
    · cases isOk

namespace ScoringHistory

/-- An evaluation comes to a phase that explains its rows. -/
theorem setPhase (history : ScoringHistory req services created stored state) {request : Request}
    {phase : EvaluatePhase}
    (explained : phase.Explained created (services request) (req request)
      (rowsOf request stored)) :
    ScoringHistory req services created stored (state.setPhase request phase) where
  pipelines := history.pipelines
  results := history.results
  phases other := by
    change ((Function.update state.phase request phase) other).Explained _ _ _ _
    by_cases same : other = request
    · subst same
      rw [Function.update_self]
      exact explained
    · rw [Function.update_of_ne same]
      exact history.phases other

/-- A part ends with a result that explains the rows, or with an exception. -/
theorem advance {Result : Type} (history : ScoringHistory req services created stored state)
    {request : Request} {outcome : Except PyException Result} {next : Result → EvaluatePhase}
    (few : (rowsOf request stored).length ≤ 1)
    (explained : ∀ result, outcome = .ok result →
      (next result).Explained created (services request) (req request) (rowsOf request stored)) :
    ScoringHistory req services created stored (state.advance request outcome next) := by
  cases outcome with
  | error failure => exact history.setPhase few
  | ok result => exact history.setPhase (explained result rfl)

/-- Rows that the backend keeps are still those that were stored. -/
theorem withBackend (history : ScoringHistory req services created stored state)
    {backend : ScoringBackend} (kept : backend.score_results = state.backend.score_results) :
    ScoringHistory req services created stored (state.withBackend backend) where
  pipelines := history.pipelines
  results := kept.trans history.results
  phases := history.phases

/-- A row of a worker is not for any request. -/
theorem work (history : ScoringHistory req services created stored state)
    (worker : Services) (job_data : Json) :
    ScoringHistory req services created
      (stored ++ storedBy req services
        ⟨state, .work worker job_data,
          state.withBackend ((processJob worker job_data).run state.backend).2⟩)
      (state.withBackend ((processJob worker job_data).run state.backend).2) := by
  have others (request : Request) (rows : List ScoreResultModel) :
      rowsOf request (stored ++ rows.map (none, ·)) = rowsOf request stored := by
    rw [rowsOf_append]
    induction rows with
    | nil => exact List.append_nil _
    | cons row rest ih => simp [rowsOf]
  refine ⟨history.pipelines, ?_, fun request => ?_⟩
  · change ((processJob worker job_data).run state.backend).2.score_results = _
    rw [score_results_processJob, history.results, List.map_append]
    simp [storedBy, Function.comp_def]
  · rw [storedBy, others]
    exact history.phases request

/-- A commit stores the row of its evaluation, or raises. -/
theorem commit (history : ScoringHistory req services created stored state) {request : Request}
    {pipeline_model : ScoringPipelineModel} {pipeline_result : PipelineResult}
    (scored : state.phase request = .scored pipeline_model pipeline_result)
    {after : ScoringState Request}
    (taken : scoringNext registry pydantic req services state (.commit request) = some after) :
    ScoringHistory req services created
      (stored ++ storedBy req services ⟨state, .commit request, after⟩) after := by
  have explained := history.phases request
  rw [scored] at explained
  obtain ⟨noRows, evaluated⟩ := explained
  simp only [scoringNext, scored] at taken
  simp only [storedBy, scored, committedRows]
  cases committed : (services request).commit
      (scoreRecord pipeline_model (req request) pipeline_result) with
  | error failure =>
      simp only [committed] at taken
      cases taken
      simp only [Except.isOk, Except.toBool, Bool.false_eq_true, if_false, List.map_nil,
        List.append_nil]
      refine history.setPhase ?_
      rw [noRows]
      exact Nat.zero_le 1
  | ok done =>
      simp only [committed] at taken
      cases taken
      simp only [Except.isOk, Except.toBool, if_true, List.map_singleton]
      refine ⟨history.pipelines, ?_, fun other => ?_⟩
      · rw [List.map_append, ← history.results]
        rfl
      · rw [rowsOf_append]
        change ((Function.update state.phase request _) other).Explained _ _ _ _
        by_cases same : other = request
        · subst same
          rw [Function.update_self, noRows]
          refine ⟨?_, evaluated⟩
          simp [rowsOf]
        · have different : request ≠ other := fun eq => same eq.symm
          have nothing : rowsOf other [(some request,
              scoreRecord pipeline_model (req request) pipeline_result)] = [] := by
            simp [rowsOf, different]
          rw [Function.update_of_ne same, nothing, List.append_nil]
          exact history.phases other

theorem of_initial
    (initial : (scoringSystem registry pydantic req services).initial state) :
    ScoringHistory req services [] [] state := by
  obtain ⟨noPipelines, noResults, waiting⟩ := initial
  refine ⟨?_, noResults, fun request => ?_⟩
  · rw [noPipelines]
    exact fun row member => absurd member List.not_mem_nil
  · rw [waiting request]
    rfl

/-- A pipeline is created, or the tables stay as they are. -/
theorem create (history : ScoringHistory req services created stored state) {id : String}
    {now : Timestamp} {creation : CreatePipelineRequest} {after : ScoringState Request}
    (taken : scoringNext registry pydantic req services state (.create id now creation) =
      some after) :
    ScoringHistory req services
      (created ++ createdBy registry pydantic ⟨state, .create id now creation, after⟩) stored
      after := by
  simp only [scoringNext] at taken
  simp only [createdBy]
  cases inserted : createPipeline registry pydantic state.table id now creation with
  | error failure =>
      simp only [inserted] at taken
      cases taken
      simp only [Except.isOk, Except.toBool, Bool.false_eq_true, if_false, List.append_nil]
      exact history
  | ok outcome =>
      obtain ⟨response, committed⟩ := outcome
      simp only [inserted] at taken
      cases taken
      simp only [Except.isOk, Except.toBool, if_true]
      obtain ⟨-, row, rows, isId, -, scorers⟩ := createPipeline_eq_ok inserted
      refine ⟨fun other member => ?_, history.results, fun request => (history.phases request).mono⟩
      change other ∈ committed.rows at member
      rw [rows] at member
      rcases List.mem_append.mp member with earlier | isRow
      · exact (history.pipelines other earlier).mono
      · obtain rfl := List.mem_singleton.mp isRow
        exact ⟨creation, List.mem_append_right _ (by rw [isId]; exact List.mem_singleton_self _),
          scorers⟩

/-- A step of an evaluation that is neither its commit nor any write. -/
theorem evaluate (history : ScoringHistory req services created stored state)
    {label : ScoringStep Request} {request : Request} {after : ScoringState Request}
    (part : label = .load request ∨ label = .score request ∨ label = .submit request)
    (taken : scoringNext registry pydantic req services state label = some after) :
    ScoringHistory req services created stored after := by
  have explained := history.phases request
  rcases part with rfl | rfl | rfl
  · cases phase : state.phase request with
    | waiting =>
        simp only [scoringNext, phase, Option.some.injEq] at taken
        subst taken
        rw [phase] at explained
        have noRows : rowsOf request stored = [] := explained
        refine history.advance (by simp [noRows]) fun pipeline_model loaded => ?_
        obtain ⟨member, named⟩ := openPipeline_eq_ok loaded
        exact ⟨noRows, named, history.pipelines pipeline_model member⟩
    | loaded | scored | stored | answered | failed => simp [scoringNext, phase] at taken
  · cases phase : state.phase request with
    | loaded pipeline_model =>
        simp only [scoringNext, phase, Option.some.injEq] at taken
        subst taken
        rw [phase] at explained
        obtain ⟨noRows, named, isCreated⟩ := explained
        exact history.advance (by simp [noRows]) fun pipeline_result ran =>
          ⟨noRows, named, isCreated, ran⟩
    | waiting | scored | stored | answered | failed => simp [scoringNext, phase] at taken
  · cases phase : state.phase request with
    | stored pipeline_model pipeline_result =>
        simp only [scoringNext, phase, Option.some.injEq] at taken
        subst taken
        rw [phase] at explained
        obtain ⟨row, evaluated⟩ := explained
        obtain ⟨kept, answer⟩ := run_submitResult (services request) pipeline_model (req request)
          pipeline_result state.backend
        exact (history.withBackend kept).advance (by simp [row]) fun response isOk =>
          ⟨pipeline_model, pipeline_result, row, evaluated, answer response isOk⟩
    | waiting | loaded | scored | answered | failed => simp [scoringNext, phase] at taken

theorem step (transition : Transition (ScoringState Request) (ScoringStep Request))
    (history : ScoringHistory req services created stored transition.before)
    (taken : scoringNext registry pydantic req services transition.before transition.label =
      some transition.after) :
    ScoringHistory req services (created ++ createdBy registry pydantic transition)
      (stored ++ storedBy req services transition) transition.after := by
  obtain ⟨before, label, after⟩ := transition
  dsimp only at history taken ⊢
  cases label with
  | create id now creation =>
      rw [storedBy, List.append_nil]
      exact history.create taken
  | load request =>
      rw [createdBy, storedBy, List.append_nil, List.append_nil]
      exact history.evaluate (.inl rfl) taken
  | score request =>
      rw [createdBy, storedBy, List.append_nil, List.append_nil]
      exact history.evaluate (.inr (.inl rfl)) taken
  | submit request =>
      rw [createdBy, storedBy, List.append_nil, List.append_nil]
      exact history.evaluate (.inr (.inr rfl)) taken
  | commit request =>
      rw [createdBy, List.append_nil]
      cases phase : before.phase request with
      | scored pipeline_model pipeline_result => exact history.commit phase taken
      | waiting | loaded | stored | answered | failed => simp [scoringNext, phase] at taken
  | work worker job_data =>
      rw [createdBy, List.append_nil]
      cases taken
      exact history.work worker job_data

theorem of_run {start finish : ScoringState Request}
    {transitions : List (Transition (ScoringState Request) (ScoringStep Request))}
    (initial : (scoringSystem registry pydantic req services).initial start)
    (run : (scoringSystem registry pydantic req services).Run start transitions finish) :
    ScoringHistory req services (transitions.flatMap (createdBy registry pydantic))
      (transitions.flatMap (storedBy req services)) finish := by
  induction run with
  | nil => exact .of_initial initial
  | snoc earlier taken ih =>
      rw [List.flatMap_append, List.flatMap_append, List.flatMap_singleton,
        List.flatMap_singleton]
      exact ih.step ⟨_, _, _⟩ taken

end ScoringHistory

/-- The scorers of a row that a request created are those of the request. -/
theorem storedConfigs_of_created {creation : CreatePipelineRequest} {row : ScoringPipelineModel}
    (scorers : row.scorers_config = creation.scorers.map modelDump) :
    storedConfigs (ScorerConfig.validate pydantic) row = .ok creation.scorers := by
  rw [storedConfigs, scorers]
  exact mapM_scorerConfigOf_modelDump creation.scorers

end History

/-! ## What is listed -/

section Listing

variable {Request : Type} [DecidableEq Request] {registry : Registry} {pydantic : Pydantic}
  {req : Request → EvaluateRequest} {services : Request → Services}

/-- The result of an evaluation was computed with the scorers of a request. -/
def RanScorers (services : Services) (creation : CreatePipelineRequest) (req : EvaluateRequest)
    (pipeline_result : PipelineResult) : Prop :=
  services.runPipeline creation.scorers (.str req.input_text) (.str req.output_text)
    (optionalText req.reference_text) = .ok pipeline_result

/-- A listing has the stored rows of its trace. -/
theorem results_perm {created : List (String × CreatePipelineRequest)}
    {stored : List (Option Request × ScoreResultModel)} {state : ScoringState Request}
    (history : ScoringHistory req services created stored state)
    {arrange : List ScoreResultModel → List ScoreResultModel}
    (arranged : ∀ rows, (arrange rows).Perm rows) (trace_id : String) :
    (getResults arrange state.backend trace_id).results.Perm
      (((stored.map Prod.snd).filter (isOfTrace trace_id)).map listedResult) := by
  rw [← history.results]
  exact (arranged _).map listedResult

/-- The rows of a request are among those that were stored. -/
theorem mem_of_mem_rowsOf {request : Request}
    {stored : List (Option Request × ScoreResultModel)} {row : ScoreResultModel}
    (member : row ∈ rowsOf request stored) : row ∈ stored.map Prod.snd := by
  obtain ⟨entry, listed, same⟩ := List.mem_map.mp member
  exact List.mem_map.mpr ⟨entry, List.mem_of_mem_filter listed, same⟩

/-- An evaluation has stored one row at most. -/
theorem EvaluatePhase.Explained.length_le {created : List (String × CreatePipelineRequest)}
    {services : Services} {req : EvaluateRequest} {rows : List ScoreResultModel}
    {phase : EvaluatePhase} (explained : phase.Explained created services req rows) :
    rows.length ≤ 1 := by
  cases phase with
  | waiting =>
      have noRows : rows = [] := explained
      simp [noRows]
  | loaded pipeline_model => simp [explained.1]
  | scored pipeline_model pipeline_result => simp [explained.1]
  | stored pipeline_model pipeline_result => simp [explained.1]
  | answered response =>
      obtain ⟨pipeline_model, pipeline_result, row, -, -⟩ := explained
      simp [row]
  | failed failure => exact explained

/-- An evaluation that ran the pipeline of a request ran its scorers. -/
theorem Evaluated.ranScorers {created : List (String × CreatePipelineRequest)}
    {services : Services} {req : EvaluateRequest} {pipeline_model : ScoringPipelineModel}
    {pipeline_result : PipelineResult}
    (evaluated : Evaluated created services req pipeline_model pipeline_result)
    (validates : services.scorerConfig = ScorerConfig.validate pydantic)
    {creation : CreatePipelineRequest}
    (scorers : pipeline_model.scorers_config = creation.scorers.map modelDump) :
    RanScorers services creation req pipeline_result := by
  have ran := evaluated.ran
  unfold scoreRequest at ran
  rw [validates, storedConfigs_of_created scorers] at ran
  cases constructed : services.construct creation.scorers with
  | error failure =>
      simp only [Bind.bind, Except.bind, constructed] at ran
      cases ran
  | ok done =>
      simp only [Bind.bind, Except.bind, constructed] at ran
      exact ran

/-- **Results account for evaluations.** Whatever pipelines are created, however evaluations
interleave, whichever of their parts fail and whatever workers store: the results of a trace are
the rows that were stored for it, an evaluation stores one row at most, and one that was
answered has stored one, which is listed with the scores it answered. Its pipeline was created by
a request, and it ran the scorers of this request. -/
theorem results_account_for_evaluations {start finish : ScoringState Request}
    {transitions : List (Transition (ScoringState Request) (ScoringStep Request))}
    (validates : ∀ request, (services request).scorerConfig = ScorerConfig.validate pydantic)
    (initial : (scoringSystem registry pydantic req services).initial start)
    (run : (scoringSystem registry pydantic req services).Run start transitions finish)
    {arrange : List ScoreResultModel → List ScoreResultModel}
    (arranged : ∀ rows, (arrange rows).Perm rows) :
    (∀ trace_id, (getResults arrange finish.backend trace_id).results.Perm
      ((((transitions.flatMap (storedBy req services)).map Prod.snd).filter
        (isOfTrace trace_id)).map listedResult)) ∧
    (∀ request, (rowsOf request (transitions.flatMap (storedBy req services))).length ≤ 1) ∧
    ∀ request response, finish.phase request = .answered response →
      ∃ creation pipeline_result row,
        response = evaluateResponse (req request) response.pipeline_id pipeline_result ∧
        (response.pipeline_id, creation) ∈ transitions.flatMap (createdBy registry pydantic) ∧
        response.pipeline_id = (req request).pipeline_id ∧
        RanScorers (services request) creation (req request) pipeline_result ∧
        rowsOf request (transitions.flatMap (storedBy req services)) = [row] ∧
        listedResult row = ⟨.str response.pipeline_id, response.aggregate_score,
          pipeline_result.individual_scores⟩ ∧
        listedResult row ∈ (getResults arrange finish.backend response.trace_id).results := by
  have history := ScoringHistory.of_run initial run
  refine ⟨results_perm history arranged, fun request => (history.phases request).length_le, ?_⟩
  intro request response answered
  have explained := history.phases request
  rw [answered] at explained
  obtain ⟨pipeline_model, pipeline_result, rows, evaluated, rfl⟩ := explained
  obtain ⟨creation, member, scorers⟩ := evaluated.created
  have isRow : scoreRecord pipeline_model (req request) pipeline_result ∈
      rowsOf request (transitions.flatMap (storedBy req services)) := by
    rw [rows]
    exact List.mem_singleton_self _
  refine ⟨creation, pipeline_result, _, rfl, member, evaluated.named,
    evaluated.ranScorers (validates request) scorers, rows, rfl, ?_⟩
  refine (results_perm history arranged _).mem_iff.mpr (List.mem_map_of_mem ?_)
  refine List.mem_filter.mpr ⟨mem_of_mem_rowsOf isRow, ?_⟩
  simp [isOfTrace, scoreRecord, evaluateResponse]

end Listing

/-! ## An evaluation on its own -/

section Alone

variable {Request : Type} [DecidableEq Request] {registry : Registry} {pydantic : Pydantic}
  {req : Request → EvaluateRequest} {services : Request → Services}

@[simp] theorem ScoringState.phase_setPhase (state : ScoringState Request) (request : Request)
    (phase : EvaluatePhase) : (state.setPhase request phase).phase request = phase :=
  Function.update_self _ _ _

/-- The phase in which an evaluation ends. -/
def endPhase : Except PyException EvaluateResponse → EvaluatePhase
  | .ok response => .answered response
  | .error failure => .failed failure

variable (registry pydantic req services) in
/-- Steps of the evaluation bring it to an end, with this outcome and this backend. -/
def CanEnd (state : ScoringState Request) (request : Request)
    (outcome : Except PyException EvaluateResponse × ScoringBackend) : Prop :=
  ∃ steps after, (scoringSystem registry pydantic req services).execute steps state = some after ∧
    after.table = state.table ∧ after.backend = outcome.2 ∧
    after.phase request = endPhase outcome.1

variable {state after : ScoringState Request} {request : Request}
  {pipeline_model : ScoringPipelineModel} {pipeline_result : PipelineResult}

theorem canEnd_of_phase {outcome : Except PyException EvaluateResponse}
    (phase : state.phase request = endPhase outcome) :
    CanEnd registry pydantic req services state request (outcome, state.backend) :=
  ⟨[], state, rfl, rfl, rfl, phase⟩

theorem canEnd_of_step {label : ScoringStep Request}
    {outcome : Except PyException EvaluateResponse × ScoringBackend}
    (step : scoringNext registry pydantic req services state label = some after)
    (table : after.table = state.table)
    (rest : CanEnd registry pydantic req services after request outcome) :
    CanEnd registry pydantic req services state request outcome := by
  obtain ⟨steps, finish, executed, same, backend, phase⟩ := rest
  exact ⟨label :: steps, finish, (execute_cons step).trans executed, same.trans table, backend,
    phase⟩

theorem canEnd_of_stored (stored : state.phase request = .stored pipeline_model pipeline_result) :
    CanEnd registry pydantic req services state request
      ((submitResult (services request) pipeline_model (req request) pipeline_result).run
        state.backend) := by
  have submit : scoringNext registry pydantic req services state (.submit request) =
      let submitted := (submitResult (services request) pipeline_model (req request)
        pipeline_result).run state.backend
      some ((state.withBackend submitted.2).advance request submitted.1 .answered) := by
    simp only [scoringNext, stored]
  generalize (submitResult (services request) pipeline_model (req request)
    pipeline_result).run state.backend = submitted at submit ⊢
  obtain ⟨outcome, backend⟩ := submitted
  cases outcome with
  | ok response =>
      exact canEnd_of_step submit rfl (canEnd_of_phase (ScoringState.phase_setPhase _ _ _))
  | error failure =>
      exact canEnd_of_step submit rfl (canEnd_of_phase (ScoringState.phase_setPhase _ _ _))

theorem canEnd_of_scored (scored : state.phase request = .scored pipeline_model pipeline_result) :
    CanEnd registry pydantic req services state request
      ((storeResult (services request) pipeline_model (req request) pipeline_result).run
        state.backend) := by
  unfold storeResult
  cases committed : (services request).commit
      (scoreRecord pipeline_model (req request) pipeline_result) with
  | error failure =>
      have commit : scoringNext registry pydantic req services state (.commit request) =
          some (state.setPhase request (.failed failure)) := by
        simp only [scoringNext, scored, committed]
      simp only [committed]
      exact canEnd_of_step commit rfl (canEnd_of_phase (ScoringState.phase_setPhase _ _ _))
  | ok done =>
      have commit : scoringNext registry pydantic req services state (.commit request) =
          some ((state.store (scoreRecord pipeline_model (req request) pipeline_result)).setPhase
            request (.stored pipeline_model pipeline_result)) := by
        simp only [scoringNext, scored, committed]
      simp only [committed]
      exact canEnd_of_step commit rfl (canEnd_of_stored (ScoringState.phase_setPhase _ _ _))

theorem canEnd_of_loaded (loaded : state.phase request = .loaded pipeline_model) :
    CanEnd registry pydantic req services state request
      ((do
        let pipeline_result ← .ofExcept
          (scoreRequest (services request) pipeline_model (req request))
        storeResult (services request) pipeline_model (req request) pipeline_result :
        Effectful ScoringBackend PyException EvaluateResponse).run state.backend) := by
  have score : scoringNext registry pydantic req services state (.score request) =
      some (state.advance request (scoreRequest (services request) pipeline_model (req request))
        (.scored pipeline_model)) := by
    simp only [scoringNext, loaded]
  cases ran : scoreRequest (services request) pipeline_model (req request) with
  | error failure =>
      rw [ran] at score
      exact canEnd_of_step score rfl (canEnd_of_phase (ScoringState.phase_setPhase _ _ _))
  | ok pipeline_result =>
      rw [ran] at score
      exact canEnd_of_step score rfl (canEnd_of_scored (ScoringState.phase_setPhase _ _ _))

/-- **An evaluation that is alone** ends as `evaluate` does. -/
theorem canEnd_of_waiting (waiting : state.phase request = .waiting) :
    CanEnd registry pydantic req services state request
      ((evaluate (services request) state.table (req request)).run state.backend) := by
  rw [run_evaluate_eq]
  have load : scoringNext registry pydantic req services state (.load request) =
      some (state.advance request (openPipeline (services request) state.table (req request))
        .loaded) := by
    simp only [scoringNext, waiting]
  cases opened : openPipeline (services request) state.table (req request) with
  | error failure =>
      rw [opened] at load
      exact canEnd_of_step load rfl (canEnd_of_phase (ScoringState.phase_setPhase _ _ _))
  | ok pipeline_model =>
      rw [opened] at load
      exact canEnd_of_step load rfl (canEnd_of_loaded (ScoringState.phase_setPhase _ _ _))

end Alone

/-! ## An evaluation among others -/

def otherRequest : CreatePipelineRequest := { ruleRequest with name := "other" }

/-- The stored scorer of the pipeline. -/
def ruleScorer : Json := modelDump (⟨"rule_based", .rounded 1, []⟩ : ScorerConfig)

/-- The job of a worker, on the same trace. -/
def ruleJob : Json :=
  scoringJob ⟨"trace", "1", "question", "answer", none, [ruleScorer]⟩ 0

def quietStore : ScoringState Unit := ⟨noPipelines, emptyBackend, fun _ => .waiting⟩

/-- Another pipeline is created while the evaluation runs, and a worker stores a row. -/
def busySteps : List (ScoringStep Unit) := [
  .create "1" 0 ruleRequest, .load (), .create "2" 0 otherRequest, .score (),
  .work (pipelineServices defaultRegistry plainPydantic firstPerfect) ruleJob, .commit (),
  .submit ()]

def busySystem : TransitionSystem (ScoringState Unit) (ScoringStep Unit) :=
  scoringSystem defaultRegistry plainPydantic (fun _ => ruleEvaluation)
    (fun _ => pipelineServices defaultRegistry plainPydantic firstPerfect)

/-- Whether the evaluation is answered. -/
def EvaluatePhase.isAnswered : EvaluatePhase → Bool
  | .answered _ => true
  | _ => false

theorem exists_busy_run :
    ∃ transitions finish response, busySystem.Run quietStore transitions finish ∧
      finish.phase () = .answered response := by
  have phases : (busySystem.execute busySteps quietStore).map
      (fun state => (state.phase ()).isAnswered) = some true := by decide +kernel
  obtain ⟨finish, executed, answered⟩ := Option.map_eq_some_iff.mp phases
  obtain ⟨transitions, run, -⟩ := exists_run_of_execute executed
  cases phase : finish.phase () with
  | answered response => exact ⟨transitions, finish, response, run, phase⟩
  | _ =>
      rw [phase] at answered
      cases answered

/-- The evaluation is answered, with the scores of a row that was stored for it. -/
theorem busy_evaluation_is_accounted :
    ∃ transitions finish response, busySystem.Run quietStore transitions finish ∧
      finish.phase () = .answered response ∧
      listedResult <$> rowsOf () (transitions.flatMap (storedBy (fun _ => ruleEvaluation)
        (fun _ => pipelineServices defaultRegistry plainPydantic firstPerfect))) ⊆
          (getResults List.reverse finish.backend response.trace_id).results := by
  obtain ⟨transitions, finish, response, run, phase⟩ := exists_busy_run
  have accounted := results_account_for_evaluations (fun _ => rfl) ⟨rfl, rfl, fun _ => rfl⟩ run
    List.reverse_perm
  obtain ⟨creation, pipeline_result, row, -, -, -, -, rows, -, listed⟩ :=
    accounted.2.2 () response phase
  refine ⟨transitions, finish, response, run, phase, ?_⟩
  rw [rows]
  simpa using listed

end LlmopsPlatform.Api
