import LlmopsPlatform.Scoring.Composite
import LlmopsPlatform.Scoring.Embedding
import LlmopsPlatform.Scoring.LLMJudge
import LlmopsPlatform.Scoring.RuleBased

/-!
# The registered strategies

`get_scorer` returns a new scorer of the class that is registered under a name. The
composite scorer runs a pipeline of others; the other three are modelled on their own, and
a pipeline takes the value of each of their results as a float.

The name of a result is the name under which its strategy is registered
(`name_of_strategyAnswers`).
-/

set_option autoImplicit false

namespace LlmopsPlatform.Scoring

open Foundations Python

/-- The float that a value of `float` is. -/
def floatOf : PyFloat → Double
  | .finite value => .rounded value
  | .posInf => .posInf
  | .negInf => .negInf
  | .nan => .nan

/-- The result with another representation of its value. -/
def ScoreResult.mapValue {Value Other : Type} (represent : Value → Other)
    (result : ScoreResult Value) : ScoreResult Other where
  name := result.name
  value := represent result.value
  data_type := result.data_type
  comment := result.comment
  metadata := result.metadata

/-- What the strategies call. The model that judges may answer differently in each place of a
nested pipeline. -/
structure StrategyRuntime (K : Type) where
  rules : RuleRuntime
  judge : JudgeRuntime
  calls : List ℕ → LLMJudgeScorer.JudgeCalls
  lowercase : Lowercase
  sqrt : K → K
  str : Json → String

section Answers

variable {K : Type} [Field K] [DecidableEq K] [LinearOrder K] [FloorRing K]
  (runtime : StrategyRuntime K)

/-- What the scorers of the registry return that are not composite. -/
def strategyAnswers : LeafAnswers := fun path scorer input config =>
  match scorer.strategy with
  | "rule_based" =>
      (RuleBasedScorer.score runtime.rules input.output_text config).map
        (ScoreResult.mapValue .rounded)
  | "llm_judge" =>
      (LLMJudgeScorer.score runtime.judge (runtime.calls path) input config).map
        (ScoreResult.mapValue floatOf)
  | "embedding" =>
      (EmbeddingSimilarityScorer.score runtime.lowercase runtime.sqrt runtime.str
        input.output_text input.reference config).map (ScoreResult.mapValue .rounded)
  | _ => .error (.exception "ValueError")

/-- A result keeps its name when its value is represented as a float. -/
theorem exists_of_map_mapValue {Value : Type} {represent : Value → Double}
    {returned : Except PyException (ScoreResult Value)} {result : ScoreResult}
    (same : returned.map (ScoreResult.mapValue represent) = .ok result) :
    ∃ original, returned = .ok original ∧ result.name = original.name := by
  cases returned with
  | error failure => cases same
  | ok original =>
      cases same
      exact ⟨original, rfl, rfl⟩

/-- **Every strategy names its own result.** -/
theorem name_of_strategyAnswers {path : List ℕ} {scorer : Scorer} {input : ScoringInput}
    {config : Config} {result : ScoreResult}
    (returned : strategyAnswers runtime path scorer input config = .ok result) :
    result.name = scorer.strategy := by
  unfold strategyAnswers at returned
  split at returned
  · rename_i strategy
    obtain ⟨original, scored, same⟩ := exists_of_map_mapValue returned
    rw [same, RuleBasedScorer.name_of_score _ _ scored, strategy]
  · rename_i strategy
    obtain ⟨original, scored, same⟩ := exists_of_map_mapValue returned
    rw [same, LLMJudgeScorer.name_of_score _ scored, strategy]
  · rename_i strategy
    obtain ⟨original, scored, same⟩ := exists_of_map_mapValue returned
    rw [same, EmbeddingSimilarityScorer.name_of_score _ _ _ scored, strategy]
  · cases returned

end Answers

end LlmopsPlatform.Scoring
