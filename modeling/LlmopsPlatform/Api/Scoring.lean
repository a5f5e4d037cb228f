import LlmopsPlatform.Database.Query
import LlmopsPlatform.Scoring.Composite
import LlmopsPlatform.Workers.ProcessJob

/-!
# The scoring endpoints

`create_pipeline` checks the strategies of a request and stores its scorers as JSON.
`evaluate` loads a stored pipeline, builds it, runs it, stores the result and submits the
scores. Both return the response that is sent, or raise.

The row that is stored can be loaded again as it was requested, from the table it is in and
from every later one (`load_of_created`).
-/

set_option autoImplicit false

namespace LlmopsPlatform.Api

open Foundations Python Database Scoring Workers

/-- `HTTPException(status_code=…, detail=…)`. -/
def httpException (status_code : Nat) (detail : String) : PyException :=
  .exception ("HTTPException(" ++ toString status_code ++ ", '" ++ detail ++ "')")

/-- The model has the fields of `ScorerConfig`. -/
abbrev ScorerConfigRequest (Number : Type := Double) := ScorerConfig Number

structure CreatePipelineRequest (Number : Type := Double) where
  name : String
  description : String
  scorers : List (ScorerConfigRequest Number)

structure PipelineResponse (Number : Type := Double) where
  id : String
  name : String
  description : String
  scorers : List (ScorerConfigRequest Number)
  is_active : Bool
  created_at : Timestamp

/-- A row of the table `scoring_pipelines`. -/
structure ScoringPipelineModel where
  id : String
  name : String
  description : String
  scorers_config : List Json
  is_active : Bool
  created_at : Timestamp

/-- The table `scoring_pipelines`, with its constraints. -/
structure PipelineTable where
  rows : List ScoringPipelineModel
  idUnique : UniqueKey ScoringPipelineModel.id rows
  nameUnique : UniqueKey ScoringPipelineModel.name rows

namespace PipelineTable

/-- `INSERT INTO scoring_pipelines`. -/
def insert (table : PipelineTable) (row : ScoringPipelineModel) :
    Except PyException PipelineTable :=
  if fresh : row.id ∉ table.rows.map ScoringPipelineModel.id ∧
      row.name ∉ table.rows.map ScoringPipelineModel.name then
    .ok {
      rows := table.rows ++ [row]
      idUnique := table.idUnique.append_fresh fresh.1
      nameUnique := table.nameUnique.append_fresh fresh.2 }
  else .error integrityError

/-- The table has the rows of an earlier one, and more. -/
def Extends (later table : PipelineTable) : Prop := ∃ more, later.rows = table.rows ++ more

end PipelineTable

variable {Number : Type} [Arithmetic Number] (registry : Registry) (pydantic : Pydantic Number)

/-- `s.model_dump()`. -/
def modelDump (s : ScorerConfigRequest Number) : Json :=
  .dict [("strategy", .str s.strategy), ("weight", .float (Arithmetic.float s.weight)),
    ("config", .dict s.config)]

/-- `_pipeline_to_response`. -/
def pipelineToResponse (p : ScoringPipelineModel) :
    Except PyException (PipelineResponse Number) := do
  let scorers ← p.scorers_config.mapM (scorerConfigOf pydantic)
  pure {
    id := p.id
    name := p.name
    description := p.description
    scorers
    is_active := p.is_active
    created_at := p.created_at }

/-- The loop that checks the strategies of a request. -/
def checkStrategies (available : Registry) :
    List (ScorerConfigRequest Number) → Except PyException Unit
  | [] => pure ()
  | s :: rest =>
      if s.strategy ∉ available then
        throw (httpException 400 ("Unknown strategy '" ++ s.strategy ++ "'. Available: " ++
          ("[" ++ ", ".intercalate (available.map fun key => "'" ++ key ++ "'") ++ "]")))
      else checkStrategies available rest

/-- `create_pipeline`, with the identifier and the time that the database gives the row. -/
def createPipeline (table : PipelineTable) (id : String) (now : Timestamp)
    (req : CreatePipelineRequest Number) :
    Except PyException (PipelineResponse Number × PipelineTable) := do
  checkStrategies registry req.scorers
  let pipeline : ScoringPipelineModel :=
    { id
      name := req.name
      description := req.description
      scorers_config := req.scorers.map modelDump
      is_active := true
      created_at := now }
  let committed ← table.insert pipeline
  let response ← pipelineToResponse pydantic pipeline
  pure (response, committed)

structure EvaluateRequest where
  trace_id : String
  pipeline_id : String
  input_text : String
  output_text : String
  reference_text : Option String

structure ScoreResultResponse where
  name : String
  value : Double
  comment : Option String
  metadata : List (String × Json)

structure EvaluateResponse where
  trace_id : String
  pipeline_id : String
  aggregate_score : Double
  individual_scores : List ScoreResultResponse

/-- The pipeline that a request names. -/
def loadPipeline (table : PipelineTable) (pipeline_id : String) :
    Except PyException ScoringPipelineModel := do
  match ← scalarOneOrNone (table.rows.filter fun row => row.id = pipeline_id) with
  | none => throw (httpException 404 "Pipeline not found")
  | some pipeline_model => pure pipeline_model

/-- The scorer configurations of a stored pipeline. -/
def storedConfigs (validate : Json → Json → Json → Except PyException (ScorerConfig Number))
    (pipeline_model : ScoringPipelineModel) : Except PyException (List (ScorerConfig Number)) :=
  pipeline_model.scorers_config.mapM fun s => do
    let strategy ← s.item "strategy"
    let weight ← s.getMethod "weight" (.float (.finite 1))
    let config ← s.getMethod "config" (.dict [])
    validate strategy weight config

/-- A text that may be missing. -/
def optionalText (text : Option String) : Json := (text.map Json.str).getD .null

/-- `evaluate`. -/
def evaluate (services : Services) (table : PipelineTable) (req : EvaluateRequest) :
    Effectful ScoringBackend PyException EvaluateResponse := do
  .ofExcept services.observability
  let pipeline_model ← .ofExcept (loadPipeline table req.pipeline_id)
  let scorer_configs ← .ofExcept (storedConfigs services.scorerConfig pipeline_model)
  .ofExcept (services.construct scorer_configs)
  let pipeline_result ← .ofExcept (services.runPipeline scorer_configs (.str req.input_text)
    (.str req.output_text) (optionalText req.reference_text))
  let score_record : ScoreResultModel :=
    { pipeline_id := .str pipeline_model.id
      trace_id := .str req.trace_id
      input_text := .str req.input_text
      output_text := .str req.output_text
      reference_text := optionalText req.reference_text
      aggregate_score := pipeline_result.aggregate_score
      individual_scores := pipeline_result.individual_scores }
  .ofExcept (services.commit score_record)
  .modify fun backend => { backend with score_results := backend.score_results ++ [score_record] }
  submitScores services (.str req.trace_id) 0 pipeline_result.individual_scores
  let aggregate : ScoreSubmission :=
    { trace_id := .str req.trace_id
      name := "aggregate"
      value := pipeline_result.aggregate_score
      comment := some ("Pipeline: " ++ pipeline_model.name) }
  .ofExcept (services.score pipeline_result.individual_scores.length aggregate)
  .modify fun backend => { backend with submissions := backend.submissions ++ [aggregate] }
  pure {
    trace_id := req.trace_id
    pipeline_id := pipeline_model.id
    aggregate_score := pipeline_result.aggregate_score
    individual_scores := pipeline_result.individual_scores.map fun s =>
      ⟨s.name, s.value, s.comment, s.metadata⟩ }

/-! ## Stored pipelines -/

variable {registry pydantic} {table committed later : PipelineTable} {id : String}
  {now : Timestamp} {req : CreatePipelineRequest Number}

omit [Arithmetic Number] in
/-- The check passes exactly when the strategy of every scorer is available. It does not
look into the configurations. -/
theorem checkStrategies_eq_ok_iff {available : Registry}
    {scorers : List (ScorerConfigRequest Number)} :
    checkStrategies available scorers = .ok () ↔ ∀ s ∈ scorers, s.strategy ∈ available := by
  induction scorers with
  | nil => simp [checkStrategies, pure, Except.pure]
  | cons s rest ih =>
      rw [checkStrategies, List.forall_mem_cons]
      by_cases known : s.strategy ∈ available
      · rw [if_neg (not_not.mpr known), ih]
        exact (and_iff_right known).symm
      · rw [if_pos known]
        simp [known, throw, throwThe, MonadExceptOf.throw]

theorem scorerConfigOf_modelDump (s : ScorerConfigRequest Number) :
    scorerConfigOf pydantic (modelDump s) = .ok s := by
  have validated : ScorerConfig.validate pydantic (.str s.strategy)
      (.float (Arithmetic.float s.weight)) (.dict s.config) = .ok s := by
    simp only [ScorerConfig.validate, pydantic.float_of_float]
  exact validated

/-- The scorers of a request can be read from the row that stores them. -/
theorem mapM_scorerConfigOf_modelDump (scorers : List (ScorerConfigRequest Number)) :
    (scorers.map modelDump).mapM (scorerConfigOf pydantic) = .ok scorers := by
  induction scorers with
  | nil => rfl
  | cons s rest ih =>
      rw [List.map_cons, List.mapM_cons, scorerConfigOf_modelDump, ih]
      rfl

theorem PipelineTable.insert_of_fresh (row : ScoringPipelineModel)
    (freshId : row.id ∉ table.rows.map ScoringPipelineModel.id)
    (freshName : row.name ∉ table.rows.map ScoringPipelineModel.name) :
    ∃ after : PipelineTable, table.insert row = .ok after ∧ after.rows = table.rows ++ [row] :=
  ⟨_, dif_pos ⟨freshId, freshName⟩, rfl⟩

theorem PipelineTable.insert_eq_ok {row : ScoringPipelineModel}
    (inserted : table.insert row = .ok committed) : committed.rows = table.rows ++ [row] := by
  unfold PipelineTable.insert at inserted
  split at inserted
  · cases inserted
    rfl
  · cases inserted

/-- What `create_pipeline` has done when it accepted a request. -/
theorem createPipeline_eq_ok {response : PipelineResponse Number}
    (created : createPipeline registry pydantic table id now req = .ok (response, committed)) :
    (∀ s ∈ req.scorers, s.strategy ∈ registry) ∧
      ∃ row, committed.rows = table.rows ++ [row] ∧ row.id = id ∧ row.name = req.name ∧
        row.scorers_config = req.scorers.map modelDump := by
  unfold createPipeline at created
  cases checked : checkStrategies registry req.scorers with
  | error failure =>
      simp only [checked, bind, Except.bind] at created
      cases created
  | ok done =>
      simp only [checked, bind, Except.bind] at created
      split at created
      · cases created
      · rename_i after inserted
        split at created
        · cases created
        · cases created
          exact ⟨checkStrategies_eq_ok_iff.mp checked, _, PipelineTable.insert_eq_ok inserted, rfl,
            rfl, rfl⟩

/-- **Acceptance.** With a new name and identifier a request is accepted exactly when the
check of its strategies passes. -/
theorem createPipeline_accepts_iff (freshId : id ∉ table.rows.map ScoringPipelineModel.id)
    (freshName : req.name ∉ table.rows.map ScoringPipelineModel.name) :
    (∃ result, createPipeline registry pydantic table id now req = .ok result) ↔
      ∀ s ∈ req.scorers, s.strategy ∈ registry := by
  constructor
  · rintro ⟨⟨response, after⟩, created⟩
    exact (createPipeline_eq_ok created).1
  · intro registered
    obtain ⟨after, inserted, -⟩ := PipelineTable.insert_of_fresh
      ⟨id, req.name, req.description, req.scorers.map modelDump, true, now⟩ freshId freshName
    unfold createPipeline
    rw [checkStrategies_eq_ok_iff.mpr registered]
    simp only [bind, Except.bind, inserted, pipelineToResponse, mapM_scorerConfigOf_modelDump]
    exact ⟨_, rfl⟩

/-- **A stored pipeline is loaded as it was requested**, from every later table. -/
theorem load_of_created {response : PipelineResponse Number}
    (created : createPipeline registry pydantic table id now req = .ok (response, committed))
    (extended : later.Extends committed) :
    ∃ row, loadPipeline later id = .ok row ∧ row.id = id ∧
      storedConfigs (ScorerConfig.validate pydantic) row = .ok req.scorers := by
  obtain ⟨-, row, rows, rfl, -, stored⟩ := createPipeline_eq_ok created
  obtain ⟨more, laterRows⟩ := extended
  have member : row ∈ later.rows := by
    rw [laterRows, rows]
    simp
  refine ⟨row, ?_, rfl, ?_⟩
  · rw [loadPipeline, later.idUnique.filter_eq_singleton member]
    rfl
  · rw [storedConfigs, stored]
    exact mapM_scorerConfigOf_modelDump req.scorers

end LlmopsPlatform.Api
