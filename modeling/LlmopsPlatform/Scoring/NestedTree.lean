import LlmopsPlatform.Scoring.Composite

/-!
# The tree of a nested pipeline

A pipeline with composite scorers is a tree of weighted sums: a pipeline is a node over
its scorers with their normalized weights, and a scorer that is not composite is a leaf.
A composite scorer that raises while it builds its pipeline is a node without children,
like one that has no sub-scorers, and a leaf that raises has the value zero. The weights
of the tree are normalized exactly.

In exact arithmetic the aggregate of a run is the value of this tree when every node is
rounded to four decimals (`run_aggregate_eq_eval`).
-/

set_option autoImplicit false

namespace LlmopsPlatform.Scoring

open Foundations Python ScoringPipeline

variable {Number : Type} [Arithmetic Number] (registry : Registry) (pydantic : Pydantic Number)

/-- The configurations of the pipeline that a composite scorer builds, if it does. -/
def builtConfigs (config : Config) : Option (List (ScorerConfig Number)) :=
  match subConfigs pydantic config with
  | .error _ => none
  | .ok scorer_configs =>
      if ∀ sc ∈ scorer_configs, sc.strategy ∈ registry then some scorer_configs else none

variable {registry pydantic} {config : Config} {scorer_configs : List (ScorerConfig Number)}

theorem builtConfigs_eq_some :
    builtConfigs registry pydantic config = some scorer_configs ↔
      subConfigs pydantic config = .ok scorer_configs ∧
        ∀ sc ∈ scorer_configs, sc.strategy ∈ registry := by
  rw [builtConfigs]
  cases subConfigs pydantic config with
  | error failure => simp
  | ok found =>
      by_cases registered : ∀ sc ∈ found, sc.strategy ∈ registry
      · simp only [if_pos registered, Option.some.injEq, Except.ok.injEq]
        constructor
        · rintro rfl
          exact ⟨rfl, registered⟩
        · exact fun same => same.1
      · simp only [if_neg registered, reduceCtorEq, Except.ok.injEq, false_iff]
        rintro ⟨rfl, others⟩
        exact registered others

theorem depth_lt_of_mem_builtConfigs
    (built : builtConfigs registry pydantic config = some scorer_configs) {sc : ScorerConfig Number}
    (member : sc ∈ scorer_configs) :
    Json.depthOfEntries sc.config < Json.depthOfEntries config :=
  depth_lt_of_mem_subConfigs (builtConfigs_eq_some.mp built).1 member

/-- The rational number that a finite number is. -/
def exactValue (number : Number) : ℚ :=
  match Arithmetic.float number with
  | .finite value => value
  | _ => 0

def exactWeight (sc : ScorerConfig Number) : ℚ := exactValue sc.weight

/-- The weight of a scorer divided by the total of all weights, without rounding. -/
def exactShare (scorer_configs : List (ScorerConfig Number)) (sc : ScorerConfig Number) : ℚ :=
  if 0 < totalWeight exactWeight scorer_configs then
    exactWeight sc / totalWeight exactWeight scorer_configs
  else 0

variable (registry pydantic)

/-- The tree of the scorer at a path. -/
def treeOf (path : List Nat) (sc : ScorerConfig Number) :
    WeightedTree ℚ (List Nat × ScorerConfig Number) :=
  if sc.strategy = "composite" then
    match _ : builtConfigs registry pydantic sc.config with
    | none => .node []
    | some scorer_configs =>
        .node (scorer_configs.attach.mapIdx fun position sub =>
          (exactShare scorer_configs sub.1, treeOf (path ++ [position]) sub.1))
  else .leaf (path, sc)
termination_by Json.depthOfEntries sc.config
decreasing_by exact depth_lt_of_mem_builtConfigs ‹_› sub.2

/-- The scorers of the pipeline at a path, with their normalized weights. -/
def childrenOf (path : List Nat) (scorer_configs : List (ScorerConfig Number)) :
    List (ℚ × WeightedTree ℚ (List Nat × ScorerConfig Number)) :=
  scorer_configs.mapIdx fun position sc =>
    (exactShare scorer_configs sc, treeOf registry pydantic (path ++ [position]) sc)

/-- The tree of a pipeline. -/
def pipelineTree (scorer_configs : List (ScorerConfig Number)) :
    WeightedTree ℚ (List Nat × ScorerConfig Number) :=
  .node (childrenOf registry pydantic [] scorer_configs)

/-- The pipelines that are built inside a pipeline, by their path. -/
inductive PipelineAt (outermost : List (ScorerConfig Number)) :
    List Nat → List (ScorerConfig Number) → Prop
  | outermost : PipelineAt outermost [] outermost
  | nested {path : List Nat} {position : Nat} {scorer_configs subs : List (ScorerConfig Number)}
      {sc : ScorerConfig Number} (above : PipelineAt outermost path scorer_configs)
      (found : scorer_configs[position]? = some sc) (composite : sc.strategy = "composite")
      (built : builtConfigs registry pydantic sc.config = some subs) :
      PipelineAt outermost (path ++ [position]) subs

variable {registry pydantic} {path : List Nat} {sc : ScorerConfig Number}

theorem treeOf_of_leaf (simple : sc.strategy ≠ "composite") :
    treeOf registry pydantic path sc = .leaf (path, sc) := by
  rw [treeOf, if_neg simple]

theorem treeOf_of_failing (composite : sc.strategy = "composite")
    (failing : builtConfigs registry pydantic sc.config = none) :
    treeOf registry pydantic path sc = .node [] := by
  rw [treeOf, if_pos composite]
  split
  · rfl
  · rename_i built
    rw [failing] at built
    cases built

theorem treeOf_of_built (composite : sc.strategy = "composite")
    (built : builtConfigs registry pydantic sc.config = some scorer_configs) :
    treeOf registry pydantic path sc =
      .node (childrenOf registry pydantic path scorer_configs) := by
  rw [treeOf, if_pos composite]
  split
  · rename_i failing
    rw [failing] at built
    cases built
  · rename_i found same
    rw [built] at same
    cases same
    congr 1
    apply List.ext_getElem
    · simp [childrenOf]
    · intro position _ _
      simp [childrenOf]

/-! ## Normalized weights -/

variable (registry pydantic) in
theorem share_nonneg
    (nonneg : 0 < totalWeight exactWeight scorer_configs →
      ∀ sc ∈ scorer_configs, 0 ≤ exactWeight sc) (member : sc ∈ scorer_configs) :
    0 ≤ exactShare scorer_configs sc := by
  unfold exactShare
  split
  · rename_i positive
    exact div_nonneg (nonneg positive sc member) positive.le
  · exact le_rfl

theorem totalWeight_share_eq_one (positive : 0 < totalWeight exactWeight scorer_configs) :
    totalWeight (exactShare scorer_configs) scorer_configs = 1 := by
  have normalized : exactShare scorer_configs =
      fun sc => exactWeight sc * (totalWeight exactWeight scorer_configs)⁻¹ := by
    funext sc
    rw [exactShare, if_pos positive, div_eq_mul_inv]
  rw [normalized, totalWeight, List.sum_map_mul_right]
  exact mul_inv_cancel₀ positive.ne'

/-- The normalized weights add up to one, or they are all zero. -/
theorem totalWeight_share_le_one (scorer_configs : List (ScorerConfig Number)) :
    totalWeight (exactShare scorer_configs) scorer_configs ≤ 1 := by
  by_cases positive : 0 < totalWeight exactWeight scorer_configs
  · exact (totalWeight_share_eq_one positive).le
  · have normalized : exactShare scorer_configs = fun _ => 0 := by
      funext sc
      rw [exactShare, if_neg positive]
    simp [totalWeight, normalized]

/-! ## Answers -/

/-- The value of an answer. An exception counts as zero. -/
def answerValue (answer : Except PyException (ScoreResult Number)) : ℚ :=
  match answer with
  | .error _ => 0
  | .ok result => exactValue result.value

/-- The value of a leaf on a run. -/
def leafValue (leaf : LeafAnswers Number) (input : ScoringInput)
    (item : List Nat × ScorerConfig Number) : ℚ :=
  answerValue (leaf item.1 ⟨item.2.strategy⟩ input item.2.config)

variable {leaf : LeafAnswers Number} {input : ScoringInput}

/-- A composite scorer that cannot build its pipeline raises. -/
theorem exists_score_eq_error (answers : ScorerAnswers Number)
    (unbuilt : builtConfigs registry pydantic config = none) :
    ∃ failure, CompositeScorer.score registry pydantic answers input config = .error failure := by
  rw [CompositeScorer.score_eq]
  cases found : subConfigs pydantic config with
  | error failure => exact ⟨failure, rfl⟩
  | ok scorer_configs =>
      rcases init_cases registry scorer_configs with ⟨registered, -⟩ | ⟨sub, -, -, failed⟩
      · rw [builtConfigs_eq_some.mpr ⟨found, registered⟩] at unbuilt
        cases unbuilt
      · exact ⟨_, by simp only [Except.bind, failed]; rfl⟩

/-- One that builds its pipeline returns the aggregate of a run. -/
theorem score_of_built (answers : ScorerAnswers Number)
    (built : builtConfigs registry pydantic config = some scorer_configs) :
    CompositeScorer.score registry pydantic answers input config =
      .ok (CompositeScorer.resultOf config scorer_configs
        ((ofConfigs scorer_configs).run answers input)) := by
  obtain ⟨found, registered⟩ := builtConfigs_eq_some.mp built
  rw [CompositeScorer.score_eq, found, Except.bind, init_of_registered registered]
  rfl

/-! ## Runs are evaluations -/

section Exact

variable {pydantic : Pydantic ℚ} {scorer_configs : List (ScorerConfig ℚ)} {leaf : LeafAnswers ℚ}

/-- The aggregate is the rounded weighted sum of all answers. -/
theorem run_aggregate_exact (answers : ScorerAnswers ℚ) (scorer_configs : List (ScorerConfig ℚ)) :
    ((ofConfigs scorer_configs).run answers input).aggregate_score =
      roundDecimals 4 (scorer_configs.mapIdx fun position sc =>
        answerValue (answers position ⟨sc.strategy⟩ input sc.config) *
          exactShare scorer_configs sc).sum := by
  rw [run_ofConfigs, ← sum_results answers input
    (fun outcome => answerValue outcome.2 * exactShare scorer_configs outcome.1) scorer_configs
    fun _ _ _ _ _ => zero_mul _, List.sum_eq_foldl]
  rfl

/-- A pipeline evaluates its node, if its scorers evaluate the children. -/
theorem run_eq_eval
    (same : ∀ sc ∈ scorer_configs, ∀ position,
      answerValue (nestedAnswers registry pydantic leaf path position ⟨sc.strategy⟩ input
          sc.config) =
        (treeOf registry pydantic (path ++ [position]) sc).eval (roundDecimals 4)
          (leafValue leaf input)) :
    ((ofConfigs scorer_configs).run (nestedAnswers registry pydantic leaf path)
        input).aggregate_score =
      WeightedTree.eval (roundDecimals 4) (leafValue leaf input)
        (.node (childrenOf registry pydantic path scorer_configs)) := by
  rw [run_aggregate_exact, WeightedTree.eval_node, weightedSum]
  congr 2
  apply List.ext_getElem
  · simp [childrenOf]
  · intro position inAnswers _
    have inRange : position < scorer_configs.length := by simpa using inAnswers
    simp [childrenOf, same scorer_configs[position] (List.getElem_mem _) position]

/-- **A scorer evaluates its tree.** -/
theorem answerValue_nestedAnswers (path : List Nat) (position : Nat) (sc : ScorerConfig ℚ) :
    answerValue (nestedAnswers registry pydantic leaf path position ⟨sc.strategy⟩ input
        sc.config) =
      (treeOf registry pydantic (path ++ [position]) sc).eval (roundDecimals 4)
        (leafValue leaf input) := by
  -- The sub-scorers of a composite scorer are nested less deep.
  induction nesting : Json.depthOfEntries sc.config using Nat.strong_induction_on
    generalizing path position sc with
  | h nesting ih =>
      rw [nestedAnswers_eq]
      by_cases composite : sc.strategy = "composite"
      · rw [if_pos composite]
        cases built : builtConfigs registry pydantic sc.config with
        | some scorer_configs =>
            rw [treeOf_of_built composite built, ← run_eq_eval, score_of_built _ built]
            · rfl
            · intro sub member below
              have deeper := depth_lt_of_mem_builtConfigs built member
              exact ih _ (nesting ▸ deeper) _ _ _ rfl
        | none =>
            have zero : roundDecimals 4 (0 : ℚ) = 0 := by decide +kernel
            obtain ⟨failure, raised⟩ := exists_score_eq_error
              (nestedAnswers registry pydantic leaf (path ++ [position])) built
            rw [treeOf_of_failing composite built, raised, answerValue, WeightedTree.eval,
              WeightedTree.evalSum, zero]
      · rw [if_neg composite, treeOf_of_leaf composite]
        rfl

/-- **A run evaluates the tree of its pipeline.** -/
theorem run_aggregate_eq_eval {pipeline : ScoringPipeline ℚ}
    (built : init registry scorer_configs = .ok pipeline) :
    (pipeline.run (nestedAnswers registry pydantic leaf []) input).aggregate_score =
      (pipelineTree registry pydantic scorer_configs).eval (roundDecimals 4)
        (leafValue leaf input) := by
  rcases init_cases registry scorer_configs with ⟨-, isBuilt⟩ | ⟨sc, -, -, failed⟩
  · rw [isBuilt] at built
    cases built
    exact run_eq_eval fun sc _ position => answerValue_nestedAnswers [] position sc
  · rw [failed] at built
    cases built

end Exact

end LlmopsPlatform.Scoring
