import LlmopsPlatform.Foundations.RelativeWeights
import LlmopsPlatform.Scoring.NestedTree

/-!
# Trees of scorers and their relative weights

A tree of scorers is written as the configuration of a pipeline: a leaf is the configuration
of a scorer that is not composite, and a node is a composite scorer with the list of its
sub-scorers. Each leaf has an outcome, which the scorer returns or raises at its place.

In exact arithmetic the aggregate that the pipeline returns is the value of the tree with
relative weights, rounded at every level (`aggregate_eq_relativeValue`). So it only depends
on relative weights and is monotone in the outcomes (`aggregate_relative_and_monotone`).
-/

set_option autoImplicit false

namespace LlmopsPlatform.Scoring

open Foundations Python ScoringPipeline WeightedTree

/-- A registered scorer that is not composite, with what it returns or raises. -/
structure LeafScorer (registry : Registry) where
  strategy : String
  config : Config
  outcome : Except PyException (ScoreResult ℚ)
  simple : strategy ≠ "composite"
  registered : strategy ∈ registry

/-- A scorer, or a composite scorer with the weights of its sub-scorers. -/
abbrev ScorerTree (registry : Registry) := WeightedTree ℚ (LeafScorer registry)

/-- The scorers of one level with their weights. -/
abbrev ScorerLevel (registry : Registry) := List (ℚ × ScorerTree registry)

variable {registry : Registry}

namespace ScorerTree

def strategy : ScorerTree registry → String
  | .leaf item => item.strategy
  | .node _ => "composite"

mutual
/-- The configuration of a scorer. That of a composite scorer lists its sub-scorers. -/
def config : ScorerTree registry → Config
  | .leaf item => item.config
  | .node children => [("scorers", .list (scorerItems children))]

def scorerItems : ScorerLevel registry → List Json
  | [] => []
  | (weight, child) :: rest =>
      .dict [("strategy", .str (strategy child)), ("weight", .float (.finite weight)),
        ("config", .dict (config child))] :: scorerItems rest
end

/-- The entry of a scorer in the configuration of its pipeline. -/
def scorerConfig (weighted : ℚ × ScorerTree registry) : ScorerConfig ℚ :=
  ⟨strategy weighted.2, weighted.1, config weighted.2⟩

/-- The leaf at a path of positions. -/
def leafAt : List Nat → ScorerTree registry → Option (LeafScorer registry)
  | [], .leaf item => some item
  | position :: path, .node children => children[position]?.bind fun child => leafAt path child.2
  | _, _ => none

/-- The value of a leaf. One that raises counts as zero. -/
def leafScore (item : LeafScorer registry) : ℚ := answerValue item.outcome

end ScorerTree

open ScorerTree

/-- Every leaf answers with its outcome. -/
def outcomes (level : ScorerLevel registry) : LeafAnswers ℚ := fun path _ _ _ =>
  match leafAt path (.node level) with
  | some item => item.outcome
  | none => .error (.exception "no scorer")

/-- The aggregate of the pipeline of a level, if the pipeline can be built. -/
def aggregate (pydantic : Pydantic ℚ) (input : ScoringInput) (level : ScorerLevel registry) :
    Except PyException ℚ :=
  (init registry (level.map scorerConfig)).map fun pipeline =>
    (pipeline.run (nestedAnswers registry pydantic (outcomes level) []) input).aggregate_score

/-! ## Configurations -/

section Configurations

variable (pydantic : Pydantic ℚ)

/-- The configuration that is made of the entry of a scorer. -/
theorem scorerConfigsOf_scorerItems (children : ScorerLevel registry) :
    scorerConfigsOf pydantic (.list (scorerItems children)) =
      .ok (children.map scorerConfig) := by
  change (scorerItems children).mapM (scorerConfigOf pydantic) = _
  induction children with
  | nil => rfl
  | cons child rest ih =>
      obtain ⟨weight, tree⟩ := child
      have first : scorerConfigOf pydantic (.dict
          [("strategy", .str (strategy tree)), ("weight", .float (.finite weight)),
            ("config", .dict (config tree))]) = .ok (scorerConfig (weight, tree)) := by
        have accepted : pydantic.float (.float (.finite weight)) = some weight :=
          pydantic.float_of_float weight
        simp [scorerConfigOf, Json.item, Json.getMethod, OrderedDict.find, ScorerConfig.validate,
          accepted, bind, Except.bind, scorerConfig]
      rw [scorerItems, List.mapM_cons, first, ih]
      rfl

theorem subConfigs_node (children : ScorerLevel registry) :
    subConfigs pydantic (config (.node children)) = .ok (children.map scorerConfig) := by
  have dicts : CompositeScorer.scorerDicts (config (.node children)) =
      .list (scorerItems children) := by
    simp [config, CompositeScorer.scorerDicts, OrderedDict.find]
  rw [subConfigs, dicts, scorerConfigsOf_scorerItems]
  cases children with
  | nil => rfl
  | cons child rest => rfl

/-- All scorers of a level are registered. -/
theorem strategy_mem (known : "composite" ∈ registry) (tree : ScorerTree registry) :
    strategy tree ∈ registry := by
  cases tree with
  | leaf item => exact item.registered
  | node children => exact known

/-- A composite scorer builds the pipeline of its sub-scorers. -/
theorem builtConfigs_node (known : "composite" ∈ registry) (children : ScorerLevel registry) :
    builtConfigs registry pydantic (config (.node children)) =
      some (children.map scorerConfig) := by
  refine builtConfigs_eq_some.mpr ⟨subConfigs_node pydantic children, ?_⟩
  intro sc member
  obtain ⟨child, -, rfl⟩ := List.mem_map.mp member
  exact strategy_mem known child.2

end Configurations

/-! ## Values -/

section Values

variable {pydantic : Pydantic ℚ} {input : ScoringInput} {leaf : LeafAnswers ℚ}

theorem exactShare_scorerConfig (children : ScorerLevel registry)
    (child : ℚ × ScorerTree registry) :
    exactShare (children.map scorerConfig) (scorerConfig child) =
      relativeWeight children child := by
  have total : totalWeight exactWeight (children.map scorerConfig) =
      totalWeight Prod.fst children := by
    rw [totalWeight, totalWeight, List.map_map]
    rfl
  rw [exactShare, relativeWeight, total]
  rfl

/-- The children of a node at a path evaluate to those of the tree with relative weights. -/
theorem eval_childrenOf {path : List Nat} {children : ScorerLevel registry}
    (same : ∀ position child, children[position]? = some child →
      (treeOf registry pydantic (path ++ [position]) (scorerConfig child)).eval (roundDecimals 4)
          (leafValue leaf input) =
        relativeValue (roundDecimals 4) leafScore child.2) :
    WeightedTree.eval (roundDecimals 4) (leafValue leaf input)
        (.node (childrenOf registry pydantic path (children.map scorerConfig))) =
      relativeValue (roundDecimals 4) leafScore (.node children) := by
  rw [eval_node, relativeValue_node, weightedSum, weightedSum]
  congr 2
  apply List.ext_getElem
  · simp [childrenOf]
  · intro position _ inRange
    have inChildren : position < children.length := by simpa using inRange
    have here := same position children[position] (List.getElem?_eq_getElem inChildren)
    simp only [childrenOf, List.getElem_map, List.getElem_mapIdx]
    rw [here, exactShare_scorerConfig]

/-- **A scorer in a pipeline** has the value of its tree with relative weights. -/
theorem eval_treeOf (known : "composite" ∈ registry) (tree : ScorerTree registry) (weight : ℚ)
    (path : List Nat)
    (answers : ∀ rest item, leafAt rest tree = some item →
      leaf (path ++ rest) ⟨item.strategy⟩ input item.config = item.outcome) :
    (treeOf registry pydantic path (scorerConfig (weight, tree))).eval (roundDecimals 4)
        (leafValue leaf input) =
      relativeValue (roundDecimals 4) leafScore tree := by
  induction nesting : tree.depth using Nat.strong_induction_on
    generalizing tree weight path with
  | h nesting ih =>
      cases tree with
      | leaf item =>
          have answer := answers [] item rfl
          rw [List.append_nil] at answer
          rw [treeOf_of_leaf item.simple, WeightedTree.eval, relativeValue_leaf, leafValue]
          exact congrArg answerValue answer
      | node children =>
          have composite : (scorerConfig (weight, .node children)).strategy = "composite" := rfl
          rw [treeOf_of_built composite (builtConfigs_node pydantic known children)]
          apply eval_childrenOf
          intro position child isChild
          have member := List.mem_of_getElem? isChild
          refine ih _ (nesting ▸ depth_lt_of_mem member) child.2 child.1 _ ?_ rfl
          intro rest item found
          rw [List.append_assoc]
          refine answers (position :: rest) item ?_
          rw [leafAt, isChild]
          exact found

/-- **The aggregate of a pipeline** is the value of its tree with relative weights. -/
theorem aggregate_eq_relativeValue (known : "composite" ∈ registry)
    (level : ScorerLevel registry) :
    aggregate pydantic input level =
      .ok (relativeValue (roundDecimals 4) leafScore (.node level)) := by
  have registered : ∀ sc ∈ level.map scorerConfig, sc.strategy ∈ registry := by
    intro sc member
    obtain ⟨child, -, rfl⟩ := List.mem_map.mp member
    exact strategy_mem known child.2
  rw [aggregate, init_of_registered registered, Except.map,
    run_aggregate_eq_eval (init_of_registered registered), pipelineTree]
  refine congrArg Except.ok (eval_childrenOf fun position child isChild => ?_)
  refine eval_treeOf known child.2 child.1 _ fun rest item found => ?_
  have here : leafAt (position :: rest) (.node level) = some item := by
    rw [leafAt, isChild]
    exact found
  rw [List.nil_append, List.singleton_append, outcomes, here]

end Values

/-! ## Relative weights and monotonicity -/

/-- One outcome is better than another: its value is not lower, or it is not negative where
the other one is a failure. -/
inductive Better : Except PyException (ScoreResult ℚ) → Except PyException (ScoreResult ℚ) → Prop
  | raised {result other : ScoreResult ℚ} (le : result.value ≤ other.value) :
      Better (.ok result) (.ok other)
  | recovered {failure : PyException} {other : ScoreResult ℚ} (nonneg : 0 ≤ other.value) :
      Better (.error failure) (.ok other)

/-- A leaf has a better outcome. -/
inductive BetterLeaf : ScorerTree registry → ScorerTree registry → Prop
  | leaf {item : LeafScorer registry} {outcome : Except PyException (ScoreResult ℚ)}
      (better : Better item.outcome outcome) :
      BetterLeaf (.leaf item) (.leaf { item with outcome })

/-- A better outcome has no smaller value. -/
theorem Better.answerValue_le {one other : Except PyException (ScoreResult ℚ)}
    (better : Better one other) : answerValue one ≤ answerValue other := by
  cases better with
  | raised le => exact le
  | recovered nonneg => exact nonneg

/-- **Relative weights and monotonicity.** For every tree of composite and leaf scorers: the
aggregate stays the same when the weights of one level are multiplied by a positive constant,
when its scorers are permuted with their outcomes, and when a scorer of weight zero is added.
When no weight is negative it does not fall when the outcome of one leaf gets better. -/
theorem aggregate_relative_and_monotone (registry : Registry) (pydantic : Pydantic ℚ)
    (input : ScoringInput) (known : "composite" ∈ registry) (level other : ScorerLevel registry) :
    (AtSubtree SameRelativeWeights (.node level) (.node other) →
      aggregate pydantic input level = aggregate pydantic input other) ∧
    (NonnegWeights (.node level) → AtSubtree BetterLeaf (.node level) (.node other) →
      ∃ lower upper, aggregate pydantic input level = .ok lower ∧
        aggregate pydantic input other = .ok upper ∧ lower ≤ upper) := by
  rw [aggregate_eq_relativeValue known, aggregate_eq_relativeValue known]
  constructor
  · intro same
    rw [relativeValue_eq_of_same same]
  · intro nonneg better
    refine ⟨_, _, rfl, rfl, relativeValue_le_of_raised (fun _ _ => roundDecimals_mono 4) ?_ nonneg
      better⟩
    rintro _ _ ⟨outcome⟩
    rw [relativeValue_leaf, relativeValue_leaf]
    exact outcome.answerValue_le

/-- The validation of exact numbers that need no parsing. -/
def exactPydantic : Pydantic ℚ where
  float
    | .float (.finite value) => some value
    | .int value => some value
    | .bool truth => some truth.toNat
    | _ => none
  float_of_float _ := rfl

/-- A scorer of the default registry that has a score of its own. -/
def scoredLeaf (strategy : String) (outcome : Except PyException (ScoreResult ℚ))
    (simple : strategy ≠ "composite") (registered : strategy ∈ defaultRegistry) :
    ScorerTree defaultRegistry :=
  .leaf ⟨strategy, [], outcome, simple, registered⟩

/-- Rules that pass, and a composite scorer of a judge that answers or fails. -/
def rulesAndJudge (judged : Except PyException (ScoreResult ℚ)) : ScorerLevel defaultRegistry :=
  [(1, scoredLeaf "rule_based" (.ok ⟨"rule_based", 1, .numeric, none, []⟩) (by decide) (by decide)),
    (3, .node [(2, scoredLeaf "llm_judge" judged (by decide) (by decide))])]

/-- They can be reversed, and the judge can recover from a failure. -/
theorem rulesAndJudge_relative_and_monotone :
    aggregate exactPydantic ⟨"hi", "hello", none, none⟩ (rulesAndJudge (.error .typeError)) =
        aggregate exactPydantic ⟨"hi", "hello", none, none⟩
          (rulesAndJudge (.error .typeError)).reverse ∧
      ∃ lower upper, aggregate exactPydantic ⟨"hi", "hello", none, none⟩
          (rulesAndJudge (.error .typeError)) = .ok lower ∧
        aggregate exactPydantic ⟨"hi", "hello", none, none⟩
          (rulesAndJudge (.ok ⟨"llm_judge", 1 / 2, .numeric, none, []⟩)) = .ok upper ∧
        lower ≤ upper := by
  refine ⟨(aggregate_relative_and_monotone defaultRegistry exactPydantic
    ⟨"hi", "hello", none, none⟩ (by decide) _ _).1
      (.here (.permuted (List.reverse_perm _).symm)), ?_⟩
  refine (aggregate_relative_and_monotone defaultRegistry exactPydantic
    ⟨"hi", "hello", none, none⟩ (by decide) _ _).2 ?_ ?_
  · refine .node (by simp [rulesAndJudge]) fun child member => ?_
    rcases List.mem_pair.mp member with rfl | rfl
    · exact .leaf _
    · exact .node (by simp) (by simpa using .leaf _)
  · refine .deeper [_] [] 3 (.deeper [] [] 2 (.here (.leaf (.recovered ?_))))
    norm_num

end LlmopsPlatform.Scoring
