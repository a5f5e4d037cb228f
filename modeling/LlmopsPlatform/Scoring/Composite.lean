import LlmopsPlatform.Foundations.WeightedTree
import LlmopsPlatform.Scoring.Pipeline

/-!
# Composite scorers

A composite scorer finds the configurations of its sub-scorers in its own configuration,
builds a pipeline from them and returns the aggregate of the pipeline. Its configuration
is only looked at when it runs: what is wrong with it is raised there, and the pipeline
around the composite scorer skips it.

The scorers that are not composite answer by a parameter, for each path of positions from
the outermost pipeline to the scorer.
-/

set_option autoImplicit false

namespace LlmopsPlatform.Scoring

open Foundations Python

/-- The exception of a pydantic model that does not accept its fields. -/
def validationError : PyException := .exception "ValidationError"

/-- The validation of a float by pydantic. It converts some values that are not floats. -/
structure Pydantic (Number : Type := Double) [Arithmetic Number] where
  float : Json → Option Number
  float_of_float : ∀ value, float (.float (Arithmetic.float value)) = some value

variable {Number : Type} [Arithmetic Number] (registry : Registry) (pydantic : Pydantic Number)

/-- `ScorerConfig(strategy=…, weight=…, config=…)`. -/
def ScorerConfig.validate (strategy weight config : Json) :
    Except PyException (ScorerConfig Number) :=
  match strategy, pydantic.float weight, config with
  | .str strategy, some weight, .dict config => .ok { strategy, weight, config }
  | _, _, _ => .error validationError

/-- The configuration that is made of one dictionary. -/
def scorerConfigOf (s : Json) : Except PyException (ScorerConfig Number) := do
  let strategy ← s.item "strategy"
  let weight ← s.getMethod "weight" (.float (.finite 1))
  let config ← s.getMethod "config" (.dict [])
  ScorerConfig.validate pydantic strategy weight config

/-- The list of configurations that is made of a list of dictionaries. -/
def scorerConfigsOf (dicts : Json) : Except PyException (List (ScorerConfig Number)) := do
  (← dicts.iterate).mapM (scorerConfigOf pydantic)

/-- `score.model_dump()`. -/
def ScoreResult.modelDump (score : ScoreResult Number) : Json :=
  let data_type := match score.data_type with
    | .numeric => "numeric"
    | .categorical => "categorical"
    | .boolean => "boolean"
  .dict [
    ("name", .str score.name),
    ("value", .float (Arithmetic.float score.value)),
    ("data_type", .str data_type),
    ("comment", (score.comment.map Json.str).getD .null),
    ("metadata", .dict score.metadata)]

namespace CompositeScorer

/-- `config.get("scorers", [])`. -/
def scorerDicts (config : Config) : Json := (OrderedDict.find "scorers" config).getD (.list [])

/-- `CompositeScorer.score`, for sub-scorers that answer `answers`. -/
def score (answers : ScorerAnswers Number) (input : ScoringInput) (config : Config) :
    Except PyException (ScoreResult Number) := do
  if (scorerDicts config).isTruthy = false then
    pure {
      name := "composite"
      value := Arithmetic.zero
      data_type := .numeric
      comment := some "No sub-scorers configured in composite"
      metadata := [] }
  else
    let scorer_configs ← scorerConfigsOf pydantic (scorerDicts config)
    let pipeline ← ScoringPipeline.init registry scorer_configs
    let result := pipeline.run answers input
    pure {
      name := "composite"
      value := result.aggregate_score
      data_type := .numeric
      comment := some ("Composite of " ++ toString scorer_configs.length ++ " scorers")
      metadata := [("sub_scores", .list (result.individual_scores.map ScoreResult.modelDump))] }

end CompositeScorer

/-- What the scorers that are not composite return or raise, by their path. -/
abbrev LeafAnswers (Number : Type := Double) :=
  List Nat → Scorer → ScoringInput → Config → Except PyException (ScoreResult Number)

variable (leaf : LeafAnswers Number)

/-- The scorers of the pipeline at a path, where pipelines may be nested further to some
depth. -/
def answersWithin : Nat → List Nat → ScorerAnswers Number
  | 0, _ => fun _ _ _ _ => .error (.exception "RecursionError")
  | further + 1, path => fun position scorer input config =>
      if scorer.strategy = "composite" then
        CompositeScorer.score registry pydantic (answersWithin further (path ++ [position])) input
          config
      else leaf (path ++ [position]) scorer input config

/-- The scorers of the pipeline at a path. -/
def nestedAnswers (path : List Nat) : ScorerAnswers Number := fun position scorer input config =>
  answersWithin registry pydantic leaf (Json.depthOfEntries config + 1) path position scorer input
    config

/-! ## Configurations inside configurations -/

/-- The configurations of the sub-scorers of a composite scorer. -/
def subConfigs (config : Config) : Except PyException (List (ScorerConfig Number)) :=
  if (CompositeScorer.scorerDicts config).isTruthy = false then .ok []
  else scorerConfigsOf pydantic (CompositeScorer.scorerDicts config)

variable {registry pydantic leaf} {answers : ScorerAnswers Number} {input : ScoringInput}
  {config : Config} {scorer_configs : List (ScorerConfig Number)}

/-- What a configuration keeps of the dictionary it is made of. -/
theorem scorerConfigOf_eq_ok {s : Json} {sc : ScorerConfig Number}
    (made : scorerConfigOf pydantic s = .ok sc) :
    ∃ entries, s = .dict entries ∧ OrderedDict.find "strategy" entries = some (.str sc.strategy) ∧
      (OrderedDict.find "config" entries).getD (.dict []) = .dict sc.config := by
  cases s with
  | dict entries =>
      rw [scorerConfigOf, Json.item] at made
      cases named : OrderedDict.find "strategy" entries with
      | none =>
          rw [named] at made
          cases made
      | some strategy =>
          simp only [named, Json.getMethod, bind, Except.bind, ScorerConfig.validate] at made
          split at made
          · rename_i isText weighted isDict
            cases made
            exact ⟨entries, rfl, named, isDict⟩
          · cases made
  | _ => cases made

/-- Every configuration of a sub-scorer is made of an item of the list of scorers. -/
theorem exists_of_mem_scorerConfigsOf {dicts : Json}
    (made : scorerConfigsOf pydantic dicts = .ok scorer_configs) {sc : ScorerConfig Number}
    (member : sc ∈ scorer_configs) :
    ∃ items, dicts = .list items ∧ ∃ s ∈ items, scorerConfigOf pydantic s = .ok sc := by
  rw [scorerConfigsOf] at made
  cases visited : dicts.iterate with
  | error failure =>
      rw [visited] at made
      cases made
  | ok items =>
      rw [visited] at made
      obtain ⟨s, isItem, isConfig⟩ := exists_item_of_mapM_ok made member
      rcases Json.iterate_eq_ok visited with rfl | texts
      · exact ⟨items, rfl, s, isItem, isConfig⟩
      · obtain ⟨text, rfl⟩ := texts s isItem
        cases isConfig

theorem exists_of_mem_subConfigs (found : subConfigs pydantic config = .ok scorer_configs)
    {sc : ScorerConfig Number} (member : sc ∈ scorer_configs) :
    ∃ items, CompositeScorer.scorerDicts config = .list items ∧
      ∃ s ∈ items, scorerConfigOf pydantic s = .ok sc := by
  rw [subConfigs] at found
  split at found
  · cases found
    cases member
  · exact exists_of_mem_scorerConfigsOf found member

/-- The configurations of sub-scorers are nested less deep. -/
theorem depth_lt_of_mem_subConfigs (found : subConfigs pydantic config = .ok scorer_configs)
    {sc : ScorerConfig Number} (member : sc ∈ scorer_configs) :
    Json.depthOfEntries sc.config < Json.depthOfEntries config := by
  obtain ⟨items, isList, s, isItem, isConfig⟩ := exists_of_mem_subConfigs found member
  obtain ⟨entries, rfl, -, ownConfig⟩ := scorerConfigOf_eq_ok isConfig
  have itemDepth := Json.depth_le_of_mem isItem
  have listDepth : Json.depthOfItems items + 1 ≤ Json.depthOfEntries config := by
    cases named : OrderedDict.find "scorers" config with
    | none =>
        rw [CompositeScorer.scorerDicts, named] at isList
        cases isList
        cases isItem
    | some dicts =>
        rw [CompositeScorer.scorerDicts, named] at isList
        cases isList
        exact Json.depth_le_of_find named
  rw [Json.depth] at itemDepth
  cases own : OrderedDict.find "config" entries with
  | none =>
      rw [own] at ownConfig
      have empty : [] = sc.config := Json.dict.inj ownConfig
      rw [← empty, Json.depthOfEntries]
      omega
  | some value =>
      rw [own, Option.getD_some] at ownConfig
      subst ownConfig
      have ownDepth := Json.depth_le_of_find own
      rw [Json.depth] at ownDepth
      omega

/-! ## What a composite scorer returns -/

namespace CompositeScorer

/-- The result of a composite scorer whose pipeline was run. -/
def resultOf (config : Config) (scorer_configs : List (ScorerConfig Number))
    (result : PipelineResult Number) : ScoreResult Number where
  name := "composite"
  value := result.aggregate_score
  data_type := .numeric
  comment := some (
    if (scorerDicts config).isTruthy = false then "No sub-scorers configured in composite"
    else "Composite of " ++ toString scorer_configs.length ++ " scorers")
  metadata :=
    if (scorerDicts config).isTruthy = false then []
    else [("sub_scores", .list (result.individual_scores.map ScoreResult.modelDump))]

/-- **A composite scorer** returns the result of the pipeline of its sub-scorers. Without
sub-scorers this is the empty pipeline. -/
theorem score_eq (answers : ScorerAnswers Number) (input : ScoringInput) (config : Config) :
    score registry pydantic answers input config =
      (subConfigs pydantic config).bind fun scorer_configs =>
        (ScoringPipeline.init registry scorer_configs).map fun pipeline =>
          resultOf config scorer_configs (pipeline.run answers input) := by
  by_cases empty : (scorerDicts config).isTruthy = false
  · simp only [score, subConfigs, if_pos empty, resultOf, Except.bind]
    rw [ScoringPipeline.init_of_registered (by simp)]
    simp [ScoringPipeline.run, ScoringPipeline.ofConfigs, ScoringPipeline.gather,
      Arithmetic.round_zero, pure, Except.pure, Except.map]
  · simp only [score, subConfigs, if_neg empty, resultOf]
    cases scorerConfigsOf pydantic (scorerDicts config) with
    | error failure => rfl
    | ok scorer_configs =>
        cases built : ScoringPipeline.init registry scorer_configs <;>
          simp [built, bind, Except.bind, Except.map, pure, Except.pure]

/-- The answer of a composite scorer depends on the answers of its sub-scorers. -/
theorem score_congr {answers others : ScorerAnswers Number}
    (same : ∀ scorer_configs, subConfigs pydantic config = .ok scorer_configs →
      ∀ sc ∈ scorer_configs, ∀ position, answers position ⟨sc.strategy⟩ input sc.config =
        others position ⟨sc.strategy⟩ input sc.config) :
    score registry pydantic answers input config =
      score registry pydantic others input config := by
  rw [score_eq, score_eq]
  cases found : subConfigs pydantic config with
  | error failure => rfl
  | ok scorer_configs =>
      have entries : (ScoringPipeline.ofConfigs scorer_configs).entries answers input =
          (ScoringPipeline.ofConfigs scorer_configs).entries others input := by
        rw [ScoringPipeline.entries_ofConfigs, ScoringPipeline.entries_ofConfigs]
        apply List.ext_getElem
        · simp
        · intro position inRange _
          simp only [List.getElem_mapIdx]
          rw [same scorer_configs found _ (List.getElem_mem _)]
      rcases ScoringPipeline.init_cases registry scorer_configs with ⟨-, built⟩ | ⟨sc, -, -, failed⟩
      · simp only [Except.bind, built, Except.map, ScoringPipeline.run_congr input entries]
      · simp only [Except.bind, failed, Except.map]

end CompositeScorer

/-! ## Nesting -/

/-- How deep pipelines may be nested does not matter, as long as it is deep enough. -/
theorem answersWithin_eq {first second : Nat} {path : List Nat} {position : Nat} {scorer : Scorer}
    (firstEnough : Json.depthOfEntries config < first)
    (secondEnough : Json.depthOfEntries config < second) :
    answersWithin registry pydantic leaf first path position scorer input config =
      answersWithin registry pydantic leaf second path position scorer input config := by
  induction first generalizing second path position scorer config with
  | zero => cases firstEnough
  | succ further ih =>
      obtain ⟨others, rfl⟩ := Nat.exists_eq_succ_of_ne_zero (Nat.ne_of_gt
        ((Nat.zero_le _).trans_lt secondEnough))
      simp only [answersWithin]
      by_cases composite : scorer.strategy = "composite"
      · rw [if_pos composite, if_pos composite]
        apply CompositeScorer.score_congr
        intro scorer_configs found sc member below
        have deeper := depth_lt_of_mem_subConfigs found member
        exact ih (by omega) (by omega)
      · rw [if_neg composite, if_neg composite]

/-- **The scorers of nested pipelines.** A composite scorer runs `CompositeScorer.score`
on the scorers one level below, to any depth. -/
theorem nestedAnswers_eq (path : List Nat) (position : Nat) (scorer : Scorer)
    (input : ScoringInput) (config : Config) :
    nestedAnswers registry pydantic leaf path position scorer input config =
      if scorer.strategy = "composite" then
        CompositeScorer.score registry pydantic
          (nestedAnswers registry pydantic leaf (path ++ [position])) input config
      else leaf (path ++ [position]) scorer input config := by
  rw [nestedAnswers]
  simp only [answersWithin]
  by_cases composite : scorer.strategy = "composite"
  · rw [if_pos composite, if_pos composite]
    apply CompositeScorer.score_congr
    intro scorer_configs found sc member below
    exact answersWithin_eq (depth_lt_of_mem_subConfigs found member) (Nat.lt_succ_self _)
  · rw [if_neg composite, if_neg composite]

end LlmopsPlatform.Scoring
