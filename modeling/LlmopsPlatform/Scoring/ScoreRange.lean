import LlmopsPlatform.Api.Scoring
import LlmopsPlatform.Scoring.Flattening

/-!
# The range of aggregate scores

A pipeline whose weights are finite and not negative takes averages, so scores between
zero and one stay there, at every level of nesting (`scores_in_range`). The endpoint does
not look at the weights. When some are negative and their total is positive, the others
are more than one after normalization, and an aggregate can be two. An infinite weight
is divided by itself, and the aggregate is not a number
(`negative_and_infinite_weights_leave_range`).
-/

set_option autoImplicit false

namespace LlmopsPlatform.Scoring

open Foundations Python Database Api ScoringPipeline

/-- **Scores stay in range.** Every pipeline that is accepted, whose weights are finite and not
negative at every level where their total is positive, can be built from every later table,
and on every run of it the aggregate and the values of all composite scorers inside are
between zero and one. -/
theorem scores_in_range (registry : Registry) (pydantic : Pydantic)
    (table committed later : PipelineTable) (id : String) (now : Timestamp)
    (req : CreatePipelineRequest) (response : PipelineResponse)
    (created : createPipeline registry pydantic table id now req = .ok (response, committed))
    (extended : later.Extends committed)
    (shares : AllSharesNonneg registry pydantic req.scorers)
    (leaf : LeafAnswers) (input : ScoringInput) (leaves : LeavesInRange leaf) :
    ∃ row pipeline, loadPipeline later id = .ok row ∧
      storedConfigs (ScorerConfig.validate pydantic) row = .ok req.scorers ∧
      init registry req.scorers = .ok pipeline ∧
      InUnit (pipeline.run (nestedAnswers registry pydantic leaf []) input).aggregate_score ∧
      ∀ path level position sc result, PipelineAt registry pydantic req.scorers path level →
        level[position]? = some sc → sc.strategy = "composite" →
        nestedAnswers registry pydantic leaf path position ⟨sc.strategy⟩ input sc.config =
          .ok result →
        InUnit result.value := by
  obtain ⟨row, loaded, -, stored⟩ := load_of_created created extended
  have built := init_of_registered (createPipeline_eq_ok created).1
  refine ⟨row, _, loaded, stored, built, level_inUnit shares leaves .outermost, ?_⟩
  intro path level position sc result within found _ returned
  exact nested_inUnit shares leaves within found returned

/-- The table before the first request. -/
def noPipelines : PipelineTable := ⟨[], List.nodup_nil, List.nodup_nil⟩

/-- A request for a pipeline with a pipeline inside. -/
def nestedRequest : CreatePipelineRequest := ⟨"quality", "", nestedScorers⟩

/-- A first request whose strategies are registered is accepted. -/
theorem exists_created (req : CreatePipelineRequest)
    (registered : ∀ sc ∈ req.scorers, sc.strategy ∈ defaultRegistry) :
    ∃ response committed,
      createPipeline defaultRegistry plainPydantic noPipelines "1" 0 req =
        .ok (response, committed) := by
  have freshId : "1" ∉ noPipelines.rows.map ScoringPipelineModel.id := List.not_mem_nil
  have freshName : req.name ∉ noPipelines.rows.map ScoringPipelineModel.name := List.not_mem_nil
  obtain ⟨⟨response, committed⟩, created⟩ :=
    (createPipeline_accepts_iff freshId freshName).mpr registered
  exact ⟨response, committed, created⟩

/-- The pipeline with a pipeline inside stays in range. -/
theorem nested_scores_in_range :
    ∃ response committed,
      createPipeline defaultRegistry plainPydantic noPipelines "1" 0 nestedRequest =
          .ok (response, committed) ∧
        ∃ row pipeline, loadPipeline committed "1" = .ok row ∧
          storedConfigs (ScorerConfig.validate plainPydantic) row = .ok nestedScorers ∧
          init defaultRegistry nestedScorers = .ok pipeline ∧
          InUnit (pipeline.run (nestedAnswers defaultRegistry plainPydantic thirds [])
            ⟨"question", "answer", none, none⟩).aggregate_score ∧
          ∀ path level position sc result,
            PipelineAt defaultRegistry plainPydantic nestedScorers path level →
            level[position]? = some sc → sc.strategy = "composite" →
            nestedAnswers defaultRegistry plainPydantic thirds path position ⟨sc.strategy⟩
              ⟨"question", "answer", none, none⟩ sc.config = .ok result →
            InUnit result.value := by
  obtain ⟨response, committed, created⟩ := exists_created nestedRequest
    (by simp [nestedRequest, nestedScorers, defaultRegistry])
  exact ⟨response, committed, created, scores_in_range defaultRegistry plainPydantic noPipelines
    committed committed "1" 0 nestedRequest response created ⟨[], (List.append_nil _).symm⟩
    (nestedScorers_weighable.sharesNonneg (by decide)) thirds ⟨"question", "answer", none, none⟩
    leavesInRange_thirds⟩

/-! ## Weights that are not validated -/

/-- A penalty beside a scorer of twice its weight. -/
def penaltyScorers : List ScorerConfig :=
  [⟨"rule_based", .rounded 2, []⟩, ⟨"embedding", .rounded (-1), []⟩]

/-- A composite scorer with a sub-scorer of infinite weight. -/
def infiniteScorers : List ScorerConfig :=
  [⟨"composite", .rounded 1, [("scorers", .list [
    .dict [("strategy", .str "rule_based"), ("weight", .str "inf")]])]⟩]

/-- The first scorer returns one, and the others return zero. -/
def firstPerfect : LeafAnswers := fun path scorer _ _ =>
  .ok ⟨scorer.strategy, .rounded (if path = [0] then 1 else 0), .numeric, none, []⟩

theorem leavesInRange_firstPerfect : LeavesInRange firstPerfect := by
  have one := Double.value_rounded_one
  have zero := Double.value_rounded_zero
  intro path scorer input config result answered
  cases answered
  by_cases first : path = [0]
  · exact ⟨1, by simp [first, one], zero_le_one, le_rfl⟩
  · exact ⟨0, by simp [first, zero], le_rfl, zero_le_one⟩

/-- All pipelines that are accepted with such scorers have aggregates in range. -/
def AggregatesInRange (scorers : List ScorerConfig) : Prop :=
  ∀ (registry : Registry) (pydantic : Pydantic) (table committed later : PipelineTable)
      (id : String) (now : Timestamp) (name description : String) (response : PipelineResponse),
    createPipeline registry pydantic table id now ⟨name, description, scorers⟩ =
      .ok (response, committed) →
    later.Extends committed →
    ∀ (leaf : LeafAnswers) (input : ScoringInput), LeavesInRange leaf →
      ∀ row pipeline, loadPipeline later id = .ok row →
        storedConfigs (ScorerConfig.validate pydantic) row = .ok scorers →
        init registry scorers = .ok pipeline →
        InUnit (pipeline.run (nestedAnswers registry pydantic leaf []) input).aggregate_score

/-- A pipeline of registered scorers that leaves the range on one run. -/
theorem not_aggregatesInRange {scorers : List ScorerConfig}
    (registered : ∀ sc ∈ scorers, sc.strategy ∈ defaultRegistry)
    (outside : ¬InUnit ((ofConfigs scorers).run
      (nestedAnswers defaultRegistry plainPydantic firstPerfect [])
      ⟨"question", "answer", none, none⟩).aggregate_score) :
    ¬AggregatesInRange scorers := by
  intro always
  obtain ⟨response, committed, created⟩ := exists_created ⟨"penalty", "", scorers⟩ registered
  have extended : committed.Extends committed := ⟨[], (List.append_nil _).symm⟩
  obtain ⟨row, loaded, -, stored⟩ := load_of_created created extended
  exact outside (always defaultRegistry plainPydantic noPipelines committed committed "1" 0
    "penalty" "" response created extended firstPerfect ⟨"question", "answer", none, none⟩
    leavesInRange_firstPerfect row (ofConfigs scorers) loaded stored
    (init_of_registered registered))

/-- **Two aggregates out of range.** With the weights two and minus one, the values one and
zero give the aggregate two. In a composite scorer the text of infinity is accepted as a
weight, its share is not a number, and neither is the aggregate. -/
theorem negative_and_infinite_weights_leave_range :
    ¬AggregatesInRange penaltyScorers ∧ ¬AggregatesInRange infiniteScorers := by
  constructor
  · apply not_aggregatesInRange (by simp [penaltyScorers, defaultRegistry])
    have two : ((ofConfigs penaltyScorers).run
        (nestedAnswers defaultRegistry plainPydantic firstPerfect [])
        ⟨"question", "answer", none, none⟩).aggregate_score.value? = some 2 := by
      decide +kernel
    rintro ⟨value, isValue, inRange⟩
    rw [two] at isValue
    cases isValue
    exact absurd inRange.2 (by norm_num)
  · apply not_aggregatesInRange (by simp [infiniteScorers, defaultRegistry])
    have undefined : ((ofConfigs infiniteScorers).run
        (nestedAnswers defaultRegistry plainPydantic firstPerfect [])
        ⟨"question", "answer", none, none⟩).aggregate_score.value? = none := by
      decide +kernel
    rintro ⟨value, isValue, -⟩
    rw [undefined] at isValue
    cases isValue

end LlmopsPlatform.Scoring
