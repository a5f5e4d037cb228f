import LlmopsPlatform.Scoring.ScoreRange
import LlmopsPlatform.Scoring.Strategies
import LlmopsPlatform.Workers.ScoringWorker

/-!
# Scoring on request and in the background

The endpoint and the worker run the same pipeline on the same texts and store the same
row. The endpoint then submits the aggregate after the individual scores, and the worker
does not. No scorer returns a score with the name of the aggregate, so the two never
submit the same set of scores (`submissions_never_agree`).
-/

set_option autoImplicit false

namespace LlmopsPlatform.Api

open Foundations Python Database Scoring Workers ScoringPipeline

/-- Every scorer gives its result the name under which it is registered. -/
def NamesOwnResult (leaf : LeafAnswers) : Prop :=
  ∀ path scorer input config result, leaf path scorer input config = .ok result →
    result.name = scorer.strategy

/-- The strategies of the registry do so. -/
theorem namesOwnResult_strategyAnswers {K : Type} [Field K] [DecidableEq K] [LinearOrder K]
    [FloorRing K] (runtime : StrategyRuntime K) : NamesOwnResult (strategyAnswers runtime) :=
  fun _ _ _ _ _ => name_of_strategyAnswers runtime

/-- Services that run the scoring pipelines, on scorers with these answers. Nothing else
fails. -/
structure RunsPipelines (services : Services) (registry : Registry) (pydantic : Pydantic)
    (leaf : LeafAnswers) : Prop where
  validates : services.scorerConfig = ScorerConfig.validate pydantic
  constructs : ∀ scorer_configs,
    services.construct scorer_configs = (init registry scorer_configs).map fun _ => ()
  runs : ∀ scorer_configs pipeline input_text output_text reference,
    init registry scorer_configs = .ok pipeline →
    services.runPipeline scorer_configs (.str input_text) (.str output_text)
        (optionalText reference) =
      .ok (pipeline.run (nestedAnswers registry pydantic leaf [])
        ⟨input_text, output_text, reference, none⟩)
  commits : ∀ record, services.commit record = .ok ()
  delivers : services.Delivers

/-- The identification, name and value of a submitted score. -/
def submitted (submission : ScoreSubmission) : Json × String × Double :=
  (submission.trace_id, submission.name, submission.value)

/-- What was stored and submitted since an earlier state is the same in two states. -/
structure SameEffects (before first second : ScoringBackend) : Prop where
  records : first.score_results.drop before.score_results.length =
    second.score_results.drop before.score_results.length
  submissions :
    {score | score ∈ (first.submissions.drop before.submissions.length).map submitted} =
      {score | score ∈ (second.submissions.drop before.submissions.length).map submitted}

/-- The job that is enqueued for a stored pipeline and the texts of a request. -/
def jobRequest (pipeline_model : ScoringPipelineModel) (req : EvaluateRequest) :
    ScoringRequest where
  trace_id := req.trace_id
  pipeline_id := req.pipeline_id
  input_text := req.input_text
  output_text := req.output_text
  reference_text := req.reference_text
  scorers_config := pipeline_model.scorers_config

section Effects

variable {services : Services} {registry : Registry} {pydantic : Pydantic} {leaf : LeafAnswers}
  {table : PipelineTable} {row : ScoringPipelineModel} {req : EvaluateRequest}
  {scorer_configs : List ScorerConfig} {pipeline : ScoringPipeline} {before : ScoringBackend}

/-- The row that both store. -/
def recordOf (req : EvaluateRequest) (result : PipelineResult) : ScoreResultModel where
  pipeline_id := .str req.pipeline_id
  trace_id := .str req.trace_id
  input_text := .str req.input_text
  output_text := .str req.output_text
  reference_text := optionalText req.reference_text
  aggregate_score := result.aggregate_score
  individual_scores := result.individual_scores

/-- The individual scores that both submit. -/
def submissionsOf (req : EvaluateRequest) (result : PipelineResult) : List ScoreSubmission :=
  result.individual_scores.map fun score =>
    ⟨.str req.trace_id, score.name, score.value, score.comment⟩

/-- The pipeline of both procedures is constructed, and it gives the result. -/
theorem RunsPipelines.runPipeline_eq (runs : RunsPipelines services registry pydantic leaf)
    (built : init registry scorer_configs = .ok pipeline) {result : PipelineResult}
    (isResult : pipeline.run (nestedAnswers registry pydantic leaf [])
      ⟨req.input_text, req.output_text, req.reference_text, none⟩ = result) :
    services.construct scorer_configs = .ok () ∧
      services.runPipeline scorer_configs (.str req.input_text) (.str req.output_text)
        (optionalText req.reference_text) = .ok result := by
  constructor
  · rw [runs.constructs, built]
    rfl
  · rw [runs.runs scorer_configs pipeline req.input_text req.output_text req.reference_text built,
      isResult]

/-- **The endpoint** stores the row and submits the individual scores and the aggregate. -/
theorem run_evaluate (runs : RunsPipelines services registry pydantic leaf)
    (loaded : loadPipeline table req.pipeline_id = .ok row) (isRow : row.id = req.pipeline_id)
    (stored : storedConfigs (ScorerConfig.validate pydantic) row = .ok scorer_configs)
    (built : init registry scorer_configs = .ok pipeline) {result : PipelineResult}
    (isResult : pipeline.run (nestedAnswers registry pydantic leaf [])
      ⟨req.input_text, req.output_text, req.reference_text, none⟩ = result) :
    ((evaluate services table req).run before).2 =
      { before with
        score_results := before.score_results ++ [recordOf req result]
        submissions := before.submissions ++ submissionsOf req result ++
          [⟨.str req.trace_id, "aggregate", result.aggregate_score,
            some ("Pipeline: " ++ row.name)⟩] } := by
  obtain ⟨constructed, ran⟩ := runs.runPipeline_eq built isResult
  unfold evaluate
  simp only [runs.delivers.observability, loaded, runs.validates, stored, constructed, ran,
    runs.commits, Effectful.run_ofExcept_ok_bind, Effectful.run_modify_bind]
  rw [Effectful.run_bind_of_ok _ (run_submitScores runs.delivers _ _ _ _)]
  simp only [runs.delivers.score, Effectful.run_ofExcept_ok_bind, Effectful.run_modify_bind,
    Effectful.run_pure, isRow]
  rfl

/-- **The worker** stores the row and submits the individual scores. -/
theorem run_processJob_of_request (runs : RunsPipelines services registry pydantic leaf)
    (stored : storedConfigs (ScorerConfig.validate pydantic) row = .ok scorer_configs)
    (built : init registry scorer_configs = .ok pipeline) {result : PipelineResult}
    (isResult : pipeline.run (nestedAnswers registry pydantic leaf [])
      ⟨req.input_text, req.output_text, req.reference_text, none⟩ = result) :
    ((processJob services (scoringJob (jobRequest row req) 0)).run before).2 =
      { score_results := before.score_results ++ [recordOf req result]
        submissions := before.submissions ++ submissionsOf req result
        flushes := before.flushes + 1 } := by
  obtain ⟨constructed, ran⟩ := runs.runPipeline_eq built isResult
  have read : scorerConfigs services (scoringJob (jobRequest row req) 0) = .ok scorer_configs := by
    rw [← stored, ← runs.validates]
    rfl
  have scored : scoreJob services (scoringJob (jobRequest row req) 0) =
      .ok (recordOf req result) := by
    unfold scoreJob
    simp only [read, bind, Except.bind, constructed]
    change (services.runPipeline scorer_configs (.str req.input_text) (.str req.output_text)
      (optionalText req.reference_text)).bind _ = _
    rw [ran]
    rfl
  unfold processJob submitRecord
  simp only [scored, runs.commits, runs.delivers.observability, Effectful.run_ofExcept_ok_bind,
    Effectful.run_modify_bind]
  rw [Effectful.run_bind_of_ok _ (run_submitScores runs.delivers _ _ _ _)]
  simp only [runs.delivers.flush, Effectful.run_ofExcept_ok_bind, Effectful.run_modify]
  rfl

/-- Every scorer, composite or not, returns a score with the name of its strategy. -/
theorem name_of_nestedAnswers (names : NamesOwnResult leaf) {path : List Nat} {position : Nat}
    {scorer : Scorer} {input : ScoringInput} {config : Config} {score : ScoreResult}
    (returned : nestedAnswers registry pydantic leaf path position scorer input config =
      .ok score) :
    score.name = scorer.strategy := by
  rw [nestedAnswers_eq] at returned
  split at returned
  · rename_i composite
    rw [CompositeScorer.score_eq] at returned
    cases read : subConfigs pydantic config with
    | error failure =>
        rw [read] at returned
        cases returned
    | ok subs =>
        rw [read, Except.bind] at returned
        cases made : init registry subs with
        | error failure =>
            rw [made] at returned
            cases returned
        | ok pipeline =>
            rw [made] at returned
            cases returned
            exact composite.symm
  · exact names _ _ _ _ _ returned

/-- No score of a run has the name of the aggregate, which is not a strategy. -/
theorem name_ne_aggregate (names : NamesOwnResult leaf) (unnamed : "aggregate" ∉ registry)
    (built : init registry scorer_configs = .ok pipeline) {input : ScoringInput}
    {score : ScoreResult}
    (member : score ∈
      (pipeline.run (nestedAnswers registry pydantic leaf []) input).individual_scores) :
    score.name ≠ "aggregate" := by
  rcases init_cases registry scorer_configs with ⟨registered, made⟩ | ⟨sc, -, -, failed⟩
  · rw [made] at built
    cases built
    rw [run_individual_scores, entries_ofConfigs] at member
    obtain ⟨⟨weighted, answer⟩, isEntry, isScore⟩ := List.mem_filterMap.mp member
    obtain ⟨position, inRange, isAnswer⟩ := List.mem_mapIdx.mp isEntry
    obtain ⟨rfl, returned⟩ := Prod.mk.inj isAnswer
    cases answer with
    | error failure => cases isScore
    | ok _ =>
    cases isScore
    have named := name_of_nestedAnswers names returned
    intro isAggregate
    rw [isAggregate] at named
    apply unnamed
    rw [named]
    exact registered _ (List.getElem_mem inRange)
  · rw [failed] at built
    cases built

/-- **The submissions differ.** After the individual scores the endpoint submits the
aggregate, and the worker does not. -/
theorem not_sameEffects (names : NamesOwnResult leaf) (unnamed : "aggregate" ∉ registry)
    (runs : RunsPipelines services registry pydantic leaf)
    (loaded : loadPipeline table req.pipeline_id = .ok row) (isRow : row.id = req.pipeline_id)
    (stored : storedConfigs (ScorerConfig.validate pydantic) row = .ok scorer_configs)
    (built : init registry scorer_configs = .ok pipeline) :
    ¬ SameEffects before ((evaluate services table req).run before).2
      ((processJob services (scoringJob (jobRequest row req) 0)).run before).2 := by
  rintro ⟨-, same⟩
  rw [run_evaluate runs loaded isRow stored built rfl,
    run_processJob_of_request runs stored built rfl] at same
  simp only [List.append_assoc, List.drop_left] at same
  -- The aggregate would have to be one of the individual scores.
  have submits : ∃ value, (.str req.trace_id, "aggregate", value) ∈
      {score | score ∈ (submissionsOf req (pipeline.run (nestedAnswers registry pydantic leaf [])
        ⟨req.input_text, req.output_text, req.reference_text, none⟩)).map submitted} := by
    rw [← same]
    exact ⟨_, List.mem_map.mpr ⟨_, List.mem_append_right _ (List.mem_singleton_self _), rfl⟩⟩
  obtain ⟨value, member⟩ := submits
  obtain ⟨submission, isSubmission, isAggregate⟩ := List.mem_map.mp member
  obtain ⟨score, isScore, rfl⟩ := List.mem_map.mp isSubmission
  exact name_ne_aggregate names unnamed built isScore (Prod.mk.inj (Prod.mk.inj isAggregate).2).1

/-- The strategies of the default registry never make the submissions agree. -/
theorem strategies_not_sameEffects {K : Type} [Field K] [DecidableEq K] [LinearOrder K]
    [FloorRing K] (runtime : StrategyRuntime K)
    (runs : RunsPipelines services defaultRegistry pydantic (strategyAnswers runtime))
    (loaded : loadPipeline table req.pipeline_id = .ok row) (isRow : row.id = req.pipeline_id)
    (stored : storedConfigs (ScorerConfig.validate pydantic) row = .ok scorer_configs)
    (built : init defaultRegistry scorer_configs = .ok pipeline) :
    ¬ SameEffects before ((evaluate services table req).run before).2
      ((processJob services (scoringJob (jobRequest row req) 0)).run before).2 :=
  not_sameEffects (namesOwnResult_strategyAnswers runtime) (by decide) runs loaded isRow stored
    built

end Effects

/-- **The two paths agree on the row and never on the submissions.** For every stored
pipeline, all texts and all answers of the scorers, the endpoint and the worker, on the job
that is enqueued for the same request, store the same row and submit different sets of
scores. -/
theorem submissions_never_agree {Text : Type} (codec : JsonCodec Text) (pydantic : Pydantic)
    (table committed later : PipelineTable) (id : String) (now : Timestamp)
    (create : CreatePipelineRequest) (response : PipelineResponse)
    (created : createPipeline defaultRegistry pydantic table id now create =
      .ok (response, committed))
    (extended : later.Extends committed) (leaf : LeafAnswers) (names : NamesOwnResult leaf)
    (services : Services) (runs : RunsPipelines services defaultRegistry pydantic leaf)
    (req : EvaluateRequest) (names_pipeline : req.pipeline_id = id) (before : ScoringBackend) :
    ∃ row text job, loadPipeline later id = .ok row ∧
      (∀ world : World Text ScoringBackend,
        (enqueueScoringJob codec.toJsonModule (jobRequest row req)).run world =
          (.ok (), world.lpushQueue text)) ∧
      codec.loads text = .ok job ∧
      ((evaluate services later req).run before).2.score_results =
        ((processJob services job).run before).2.score_results ∧
      ¬ SameEffects before ((evaluate services later req).run before).2
        ((processJob services job).run before).2 := by
  obtain ⟨row, loaded, isRow, stored⟩ := load_of_created created extended
  have built := init_of_registered (createPipeline_eq_ok created).1
  subst names_pipeline
  refine ⟨row, codec.dumps (scoringJob (jobRequest row req) 0), scoringJob (jobRequest row req) 0,
    loaded, fun world => rfl, codec.loads_dumps _, ?_, ?_⟩
  · rw [run_evaluate runs loaded isRow stored built rfl,
      run_processJob_of_request runs stored built rfl]
  · exact not_sameEffects names (by decide) runs loaded isRow stored built

/-! ## One scorer -/

/-- The text in a JSON value. -/
def textOf : Json → Option String
  | .str text => some text
  | _ => none

/-- Services that run the pipelines and accept every row and every score. -/
def pipelineServices (registry : Registry) (pydantic : Pydantic) (leaf : LeafAnswers) :
    Services where
  scorerConfig := ScorerConfig.validate pydantic
  construct scorer_configs := (init registry scorer_configs).map fun _ => ()
  runPipeline scorer_configs input_text output_text reference :=
    match textOf input_text, textOf output_text with
    | some input_text, some output_text =>
        (init registry scorer_configs).map fun pipeline =>
          pipeline.run (nestedAnswers registry pydantic leaf [])
            ⟨input_text, output_text, textOf reference, none⟩
    | _, _ => .error .typeError
  commit _ := .ok ()
  observability := .ok ()
  score _ _ := .ok ()
  flush := .ok ()

theorem pipelineServices_runsPipelines (registry : Registry) (pydantic : Pydantic)
    (leaf : LeafAnswers) :
    RunsPipelines (pipelineServices registry pydantic leaf) registry pydantic leaf where
  validates := rfl
  constructs _ := rfl
  runs scorer_configs pipeline input_text output_text reference built := by
    cases reference <;> simp [pipelineServices, textOf, optionalText, built, Except.map]
  commits _ := rfl
  delivers := ⟨rfl, fun _ _ => rfl, rfl⟩

/-- A request for a pipeline with one scorer. -/
def ruleRequest : CreatePipelineRequest := ⟨"rules", "", [⟨"rule_based", .rounded 1, []⟩]⟩

theorem ruleRequest_created :
    ∃ response committed,
      createPipeline defaultRegistry plainPydantic noPipelines "1" 0 ruleRequest =
        .ok (response, committed) :=
  exists_created ruleRequest (by simp [ruleRequest, defaultRegistry])

def ruleEvaluation : EvaluateRequest := ⟨"trace", "1", "question", "answer", none⟩

theorem namesOwnResult_firstPerfect : NamesOwnResult firstPerfect := by
  intro path scorer input config result answered
  cases answered
  rfl

/-- What a backend has before anything was scored. -/
def emptyBackend : ScoringBackend := ⟨[], [], 0⟩

/-- The pipeline with one scorer, evaluated in both ways. -/
theorem rule_submissions_never_agree :
    ∃ response committed,
      createPipeline defaultRegistry plainPydantic noPipelines "1" 0 ruleRequest =
          .ok (response, committed) ∧
        ∃ row text job, loadPipeline committed "1" = .ok row ∧
          (∀ world : World Json ScoringBackend,
            (enqueueScoringJob JsonCodec.ofValues.toJsonModule (jobRequest row ruleEvaluation)).run
              world = (.ok (), world.lpushQueue text)) ∧
          JsonCodec.ofValues.loads text = .ok job ∧
          ((evaluate (pipelineServices defaultRegistry plainPydantic firstPerfect) committed
              ruleEvaluation).run emptyBackend).2.score_results =
            ((processJob (pipelineServices defaultRegistry plainPydantic firstPerfect) job).run
              emptyBackend).2.score_results ∧
          ¬ SameEffects emptyBackend
            ((evaluate (pipelineServices defaultRegistry plainPydantic firstPerfect) committed
              ruleEvaluation).run emptyBackend).2
            ((processJob (pipelineServices defaultRegistry plainPydantic firstPerfect) job).run
              emptyBackend).2 := by
  obtain ⟨response, committed, created⟩ := ruleRequest_created
  exact ⟨response, committed, created, submissions_never_agree JsonCodec.ofValues plainPydantic
    noPipelines committed committed "1" 0 ruleRequest response created
    ⟨[], (List.append_nil _).symm⟩ firstPerfect namesOwnResult_firstPerfect _
    (pipelineServices_runsPipelines _ _ _) ruleEvaluation rfl emptyBackend⟩

/-- **The worker does not submit the aggregate.** For the pipeline with one scorer the
endpoint submits one score more. -/
theorem worker_omits_aggregate :
    ¬ ∀ (pydantic : Pydantic) (table committed later : PipelineTable) (id : String)
        (now : Timestamp) (create : CreatePipelineRequest) (response : PipelineResponse),
      createPipeline defaultRegistry pydantic table id now create = .ok (response, committed) →
      later.Extends committed →
      ∀ (leaf : LeafAnswers) (services : Services), NamesOwnResult leaf →
        RunsPipelines services defaultRegistry pydantic leaf →
        ∀ (req : EvaluateRequest) (before : ScoringBackend) (row : ScoringPipelineModel),
          req.pipeline_id = id → loadPipeline later id = .ok row →
          SameEffects before ((evaluate services later req).run before).2
            ((processJob services (scoringJob (jobRequest row req) 0)).run before).2 := by
  intro always
  have runs := pipelineServices_runsPipelines defaultRegistry plainPydantic firstPerfect
  obtain ⟨response, committed, created⟩ := ruleRequest_created
  have extended : committed.Extends committed := ⟨[], (List.append_nil _).symm⟩
  obtain ⟨row, loaded, isRow, stored⟩ := load_of_created created extended
  have built := init_of_registered (createPipeline_eq_ok created).1
  exact not_sameEffects namesOwnResult_firstPerfect (by decide) runs loaded isRow stored built
    (always plainPydantic noPipelines committed committed "1" 0 ruleRequest response created
      extended firstPerfect _ namesOwnResult_firstPerfect runs ruleEvaluation emptyBackend row rfl
      loaded)

end LlmopsPlatform.Api
