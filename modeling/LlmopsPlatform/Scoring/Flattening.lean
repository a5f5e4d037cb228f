import LlmopsPlatform.Scoring.FloatPipeline

/-!
# Flattening nested pipelines

The exact aggregate of a nested pipeline is one weighted sum over the scorers that are not
composite and return, each with the product of the normalized weights on its path. Every
pipeline inside computes in floats and rounds its own aggregate to four decimals. So the
aggregate of a run differs from the exact one by at most one rounding and one float error
for each level of nesting (`run_near_flattened`).
-/

set_option autoImplicit false

namespace LlmopsPlatform.Scoring

open Foundations Python ScoringPipeline

section Flattening

variable (registry : Registry) (pydantic : Pydantic) (leaf : LeafAnswers) (input : ScoringInput)
  (scorer_configs : List ScorerConfig)

/-- The scorers that are not composite, by their paths, each with the product of the
normalized weights on its path. -/
def flattening : List (ℚ × (List Nat × ScorerConfig)) :=
  (pipelineTree registry pydantic scorer_configs).leaves

/-- Whether the scorer returns. -/
def leafSucceeds (entry : ℚ × (List Nat × ScorerConfig)) : Bool :=
  (leaf entry.2.1 ⟨entry.2.2.strategy⟩ input entry.2.2.config).isOk

/-- The exact sum over the scorers that return. -/
def flattenedScore : ℚ :=
  weightedSum Prod.fst (fun entry => leafValue leaf input entry.2)
    ((flattening registry pydantic scorer_configs).filter (leafSucceeds leaf input))

/-- The number of pipelines with scorers that are nested in each other. The outermost
counts as one. -/
def nestingDepth : Nat := (pipelineTree registry pydantic scorer_configs).depth

/-- In every pipeline inside there are at most so many scorers, and their weights are finite
and not negative and have a total that does not overflow. -/
def AllWeighable (count : ℕ) : Prop :=
  ∀ path level, PipelineAt registry pydantic scorer_configs path level →
    level.length ≤ count ∧
      (∀ sc ∈ level, ∃ weight, sc.weight.value? = some weight ∧ 0 ≤ weight) ∧
      totalWeight exactWeight level ≤ 2 ^ 1023

variable {registry pydantic leaf input scorer_configs}

/-- Without roundings the tree has the value of its flattening. -/
theorem eval_id_pipelineTree :
    (pipelineTree registry pydantic scorer_configs).eval id (leafValue leaf input) =
      flattenedScore registry pydantic leaf input scorer_configs := by
  rw [WeightedTree.eval_id, flattenedScore, weightedSum_filter_eq]
  · rfl
  · intro entry _ raised
    rw [leafSucceeds] at raised
    rw [leafValue]
    cases answer : leaf entry.2.1 ⟨entry.2.2.strategy⟩ input entry.2.2.config with
    | error failure => rfl
    | ok result =>
        rw [answer] at raised
        cases raised

end Flattening

/-! ## Errors -/

section Errors

variable {registry : Registry} {pydantic : Pydantic} {leaf : LeafAnswers} {input : ScoringInput}
  {outermost level : List ScorerConfig} {path : List Nat} {count : ℕ}

/-- The error of one pipeline with at most so many scorers: half a unit in the fourth decimal,
and the error of the floats. -/
def levelError (count : ℕ) : ℚ := 5 / 100000 + (count + 1) / 2 ^ 47

theorem levelError_nonneg (count : ℕ) : 0 ≤ levelError count := by
  have nonneg : (0 : ℚ) ≤ count := Nat.cast_nonneg count
  rw [levelError]
  positivity

theorem AllWeighable.weighable (all : AllWeighable registry pydantic outermost count)
    (few : count ≤ 2 ^ 30) (within : PipelineAt registry pydantic outermost path level) :
    Weighable level :=
  ⟨(all path level within).2.1, (all path level within).1.trans few⟩

theorem AllWeighable.sharesNonneg (all : AllWeighable registry pydantic outermost count)
    (few : count ≤ 2 ^ 30) : AllSharesNonneg registry pydantic outermost :=
  fun _ _ within _ => all.weighable few within

/-- Weighted sums over positions are close when the values at every position are. -/
theorem abs_sum_mapIdx_sub_le (weighable : Weighable level) {value exact : Nat → ScorerConfig → ℚ}
    {error : ℚ} (error_nonneg : 0 ≤ error)
    (close : ∀ position sc, level[position]? = some sc →
      |value position sc - exact position sc| ≤ error) :
    |(level.mapIdx fun position sc => value position sc * exactShare level sc).sum -
        (level.mapIdx fun position sc => exact position sc * exactShare level sc).sum| ≤ error := by
  have asWeighted (numbers : Nat → ScorerConfig → ℚ) :
      (level.mapIdx fun position sc => numbers position sc * exactShare level sc).sum =
        weightedSum (fun item => exactShare level item.2) (fun item => numbers item.1 item.2)
          (level.mapIdx Prod.mk) := by
    rw [weightedSum]
    congr 1
    apply List.ext_getElem
    · simp
    · simp
  have found : ∀ item ∈ level.mapIdx Prod.mk, level[item.1]? = some item.2 := by
    intro item member
    obtain ⟨position, inRange, rfl⟩ := List.mem_mapIdx.mp member
    exact List.getElem?_eq_getElem inRange
  have total : totalWeight (fun item : ℕ × ScorerConfig => exactShare level item.2)
      (level.mapIdx Prod.mk) ≤ 1 := by
    have shares : (level.mapIdx Prod.mk).map (fun item => exactShare level item.2) =
        level.map (exactShare level) := by
      apply List.ext_getElem
      · simp
      · simp
    rw [totalWeight, shares]
    exact totalWeight_share_le_one level
  have nonneg : ∀ item ∈ level.mapIdx Prod.mk, 0 ≤ exactShare level item.2 := by
    intro item member
    exact weighable.exactShare_nonneg (List.mem_of_getElem? (found item member))
  have near : ∀ item ∈ level.mapIdx Prod.mk,
      |value item.1 item.2 - exact item.1 item.2| ≤ error := by
    intro item member
    exact close item.1 item.2 (found item member)
  rw [asWeighted value, asWeighted exact]
  calc
    |weightedSum (fun item => exactShare level item.2) (fun item => value item.1 item.2)
          (level.mapIdx Prod.mk) -
        weightedSum (fun item => exactShare level item.2) (fun item => exact item.1 item.2)
          (level.mapIdx Prod.mk)| ≤
        error * totalWeight (fun item => exactShare level item.2) (level.mapIdx Prod.mk) :=
      abs_weightedSum_sub_le nonneg near
    _ ≤ error := mul_le_of_le_one_right error_nonneg total

/-- A pipeline whose scorers answer close to other values has an aggregate close to their
exact weighted sum. -/
theorem abs_level_sub_le (weighable : Weighable level) (few : level.length ≤ count)
    (total_le : totalWeight exactWeight level ≤ 2 ^ 1023) {answers : ScorerAnswers}
    (returns : ReturnsWithin answers input level 1) {exact : Nat → ScorerConfig → ℚ} {error : ℚ}
    (error_nonneg : 0 ≤ error)
    (close : ∀ position sc, level[position]? = some sc →
      |answerValue (answers position ⟨sc.strategy⟩ input sc.config) - exact position sc| ≤ error) :
    ∃ aggregate, ((ofConfigs level).run answers input).aggregate_score.value? = some aggregate ∧
      |aggregate - (level.mapIdx fun position sc => exact position sc * exactShare level sc).sum| ≤
        error + levelError count := by
  obtain ⟨aggregate, isAggregate, near⟩ := weighable.aggregate_near
    (weighable.total_ne_posInf total_le) zero_le_one (one_le_pow₀ one_le_two) returns
  have answered : exactAggregate answers input level =
      (level.mapIdx fun position sc =>
        answerValue (answers position ⟨sc.strategy⟩ input sc.config) * exactShare level sc).sum :=
    sum_results answers input (fun outcome => answerValue outcome.2 * exactShare level outcome.1)
      level fun _ _ _ _ _ => zero_mul _
  have sums := abs_sum_mapIdx_sub_le weighable error_nonneg close
  rw [← answered] at sums
  have here : aggregateError level.length 1 ≤ levelError count := by
    have cast : (level.length : ℚ) ≤ count := Nat.cast_le.mpr few
    rw [aggregateError, levelError]
    linarith
  have whole := abs_sub_le aggregate (exactAggregate answers input level)
    (level.mapIdx fun position sc => exact position sc * exactShare level sc).sum
  exact ⟨aggregate, isAggregate, by linarith⟩

/-- A node without roundings is the exact weighted sum of its children. -/
theorem eval_id_childrenOf :
    WeightedTree.eval id (leafValue leaf input)
        (.node (childrenOf registry pydantic path level)) =
      (level.mapIdx fun position sc =>
        (treeOf registry pydantic (path ++ [position]) sc).eval id (leafValue leaf input) *
          exactShare level sc).sum := by
  rw [WeightedTree.eval_node, weightedSum, id]
  congr 1
  apply List.ext_getElem
  · simp [childrenOf]
  · simp [childrenOf]

theorem depth_lt_of_found {position : Nat} {sc : ScorerConfig}
    (found : level[position]? = some sc) :
    (treeOf registry pydantic (path ++ [position]) sc).depth <
      WeightedTree.depth (.node (childrenOf registry pydantic path level)) := by
  obtain ⟨inRange, rfl⟩ := List.getElem?_eq_some_iff.mp found
  have member : (exactShare level level[position],
      treeOf registry pydantic (path ++ [position]) level[position]) ∈
        childrenOf registry pydantic path level :=
    List.mem_mapIdx.mpr ⟨position, inRange, rfl⟩
  exact WeightedTree.depth_lt_of_mem member

/-- A pipeline inside is close to its node when its scorers are close to the children. -/
theorem level_near (all : AllWeighable registry pydantic outermost count) (few : count ≤ 2 ^ 30)
    (leaves : LeavesInRange leaf) (within : PipelineAt registry pydantic outermost path level)
    (close : ∀ position sc, level[position]? = some sc →
      |answerValue (nestedAnswers registry pydantic leaf path position ⟨sc.strategy⟩ input
          sc.config) -
        (treeOf registry pydantic (path ++ [position]) sc).eval id (leafValue leaf input)| ≤
      (treeOf registry pydantic (path ++ [position]) sc).depth * levelError count) :
    ∃ aggregate, ((ofConfigs level).run (nestedAnswers registry pydantic leaf path)
        input).aggregate_score.value? = some aggregate ∧
      |aggregate - WeightedTree.eval id (leafValue leaf input)
          (.node (childrenOf registry pydantic path level))| ≤
        WeightedTree.depth (.node (childrenOf registry pydantic path level)) *
          levelError count := by
  have returns : ReturnsWithin (nestedAnswers registry pydantic leaf path) input level 1 := by
    intro position sc result found returned
    obtain ⟨value, isValue, unit⟩ :=
      nested_inUnit (all.sharesNonneg few) leaves within found returned
    exact ⟨value, isValue, abs_le.mpr ⟨by linarith [unit.1], unit.2⟩⟩
  by_cases empty : level = []
  · subst empty
    refine ⟨0, ?_, by simp [childrenOf, WeightedTree.eval, WeightedTree.evalSum,
      WeightedTree.depth, WeightedTree.childDepth]⟩
    rw [aggregate_of_no_shares (by simp) returns]
    rfl
  · have positive : 0 < WeightedTree.depth (.node (childrenOf registry pydantic path level)) := by
      have found : level[0]? = some (level.head empty) := by
        rw [List.head_eq_getElem]
        exact List.getElem?_eq_getElem _
      exact (Nat.zero_le _).trans_lt (depth_lt_of_found found)
    have nonneg := levelError_nonneg count
    obtain ⟨aggregate, isAggregate, near⟩ := abs_level_sub_le (all.weighable few within)
      (all path level within).1 (all path level within).2.2 returns
      (mul_nonneg (Nat.cast_nonneg _) nonneg) fun position sc found =>
        (close position sc found).trans (mul_le_mul_of_nonneg_right
          (Nat.cast_le.mpr (Nat.le_sub_one_of_lt (depth_lt_of_found found))) nonneg)
    refine ⟨aggregate, isAggregate, ?_⟩
    rw [eval_id_childrenOf]
    refine near.trans (le_of_eq ?_)
    rw [Nat.cast_sub positive, Nat.cast_one]
    ring

/-- **A scorer is close to its tree.** -/
theorem nested_near (all : AllWeighable registry pydantic outermost count)
    (few : count ≤ 2 ^ 30) (leaves : LeavesInRange leaf)
    (within : PipelineAt registry pydantic outermost path level) {position : Nat}
    {sc : ScorerConfig} (found : level[position]? = some sc) :
    |answerValue (nestedAnswers registry pydantic leaf path position ⟨sc.strategy⟩ input
        sc.config) -
      (treeOf registry pydantic (path ++ [position]) sc).eval id (leafValue leaf input)| ≤
    (treeOf registry pydantic (path ++ [position]) sc).depth * levelError count := by
  -- The sub-scorers of a composite scorer are nested less deep.
  induction nesting : Json.depthOfEntries sc.config using Nat.strong_induction_on
    generalizing path level position sc with
  | h nesting ih =>
      rw [nestedAnswers_eq]
      by_cases composite : sc.strategy = "composite"
      · rw [if_pos composite]
        cases built : builtConfigs registry pydantic sc.config with
        | none =>
            obtain ⟨failure, raised⟩ := exists_score_eq_error
              (nestedAnswers registry pydantic leaf (path ++ [position])) built
            rw [treeOf_of_failing composite built, raised]
            simp [answerValue, WeightedTree.eval, WeightedTree.evalSum, WeightedTree.depth,
              WeightedTree.childDepth]
        | some subs =>
            have inside := PipelineAt.nested within found composite built
            obtain ⟨aggregate, isAggregate, near⟩ := level_near all few leaves inside
              fun subPosition sub subFound => by
                have deeper := depth_lt_of_mem_builtConfigs built (List.mem_of_getElem? subFound)
                exact ih _ (nesting ▸ deeper) inside subFound rfl
            rw [treeOf_of_built composite built, score_of_built _ built, answerValue]
            have isValue := exactValue_of_value isAggregate
            exact isValue ▸ near
      · rw [if_neg composite, treeOf_of_leaf composite]
        simp [WeightedTree.eval, leafValue, WeightedTree.depth]

end Errors

/-- **A nested pipeline is close to its flattening.** When in every pipeline inside there are at
most so many scorers with finite weights that are not negative and do not overflow, and the
scorers that are not composite return values between zero and one, the aggregate is finite
and differs from the exact sum by at most one error of `levelError` for each level. -/
theorem run_near_flattened (registry : Registry) (pydantic : Pydantic) (leaf : LeafAnswers)
    (input : ScoringInput) (scorer_configs : List ScorerConfig) (pipeline : ScoringPipeline)
    (count : ℕ) (built : init registry scorer_configs = .ok pipeline)
    (all : AllWeighable registry pydantic scorer_configs count) (few : count ≤ 2 ^ 30)
    (leaves : LeavesInRange leaf) :
    ∃ aggregate,
      (pipeline.run (nestedAnswers registry pydantic leaf []) input).aggregate_score.value? =
        some aggregate ∧
      |aggregate - flattenedScore registry pydantic leaf input scorer_configs| ≤
        nestingDepth registry pydantic scorer_configs * levelError count := by
  rw [← eval_id_pipelineTree]
  rcases init_cases registry scorer_configs with ⟨-, isBuilt⟩ | ⟨sc, -, -, failed⟩
  · rw [isBuilt] at built
    cases built
    exact level_near all few leaves .outermost fun position sc found =>
      nested_near all few leaves .outermost found
  · rw [failed] at built
    cases built

/-! ## A pipeline with a pipeline inside -/

/-- The validation of floats, of the integers that are floats, and of the text of infinity. -/
def plainPydantic : Pydantic where
  float
    | .float (.finite value) =>
        if isDouble : IsDouble value then some (.finite value isDouble) else none
    | .float .posInf => some .posInf
    | .float .negInf => some .negInf
    | .float .nan => some .nan
    | .int value => if isDouble : IsDouble value then some (.finite value isDouble) else none
    | .bool truth => some (.rounded truth.toNat)
    | .str "inf" => some .posInf
    | _ => none
  float_of_float value := by
    cases value with
    | finite value isDouble => exact dif_pos isDouble
    | _ => rfl

theorem plainPydantic_float {value : ℚ} (isDouble : IsDouble value) :
    plainPydantic.float (.float (.finite value)) = some (.rounded value) := by
  rw [Double.rounded_of_isDouble isDouble]
  exact dif_pos isDouble

theorem plainPydantic_int {value : ℤ} (isDouble : IsDouble value) :
    plainPydantic.float (.int value) = some (.rounded value) := by
  rw [Double.rounded_of_isDouble isDouble]
  exact dif_pos isDouble

/-- The scorers inside the composite scorer. -/
def innerScorers : List ScorerConfig :=
  [⟨"rule_based", .rounded 1, []⟩, ⟨"embedding", .rounded 3, []⟩]

/-- The configuration of the composite scorer. -/
def innerConfig : Config := [("scorers", .list [
  .dict [("strategy", .str "rule_based")],
  .dict [("strategy", .str "embedding"), ("weight", .int 3)]])]

/-- A composite scorer and a further scorer. -/
def nestedScorers : List ScorerConfig :=
  [⟨"composite", .rounded 1, innerConfig⟩, ⟨"embedding", .rounded 1, []⟩]

theorem nestedScorers_built :
    init defaultRegistry nestedScorers = .ok (ofConfigs nestedScorers) :=
  init_of_registered (by simp [nestedScorers, defaultRegistry])

theorem innerConfig_built :
    builtConfigs defaultRegistry plainPydantic innerConfig = some innerScorers := by
  have first := plainPydantic_float isDouble_one
  have second := plainPydantic_int (isDouble_intCast (n := 3) (by norm_num))
  apply builtConfigs_eq_some.mpr
  constructor
  · simp [innerConfig, innerScorers, subConfigs, CompositeScorer.scorerDicts, OrderedDict.find,
      Json.isTruthy, scorerConfigsOf, Json.iterate, scorerConfigOf, Json.item, Json.getMethod,
      ScorerConfig.validate, first, second, bind, Except.bind, pure, Except.pure]
  · simp [innerScorers, defaultRegistry]

/-- There are no other pipelines inside. -/
theorem pipelineAt_nestedScorers {path : List Nat} {level : List ScorerConfig}
    (within : PipelineAt defaultRegistry plainPydantic nestedScorers path level) :
    level = nestedScorers ∨ level = innerScorers := by
  induction within with
  | outermost => exact .inl rfl
  | @nested path position level subs sc _ found composite built ih =>
      have member := List.mem_of_getElem? found
      rcases ih with rfl | rfl
      · right
        simp only [nestedScorers, List.mem_cons, List.not_mem_nil, or_false] at member
        rcases member with rfl | rfl
        · exact Option.some.inj (built.symm.trans innerConfig_built)
        · simp at composite
      · simp only [innerScorers, List.mem_cons, List.not_mem_nil, or_false] at member
        rcases member with rfl | rfl <;> simp at composite

theorem nestedScorers_weighable :
    AllWeighable defaultRegistry plainPydantic nestedScorers 2 := by
  have one := Double.value_rounded_one
  have three : (Double.rounded 3).value? = some 3 :=
    Double.value_rounded_of_isDouble (isDouble_intCast (n := 3) (by norm_num))
  have outer : totalWeight exactWeight nestedScorers = 2 := by
    norm_num [totalWeight, nestedScorers, exactWeight, exactValue_of_value one]
  have inner : totalWeight exactWeight innerScorers = 4 := by
    norm_num [totalWeight, innerScorers, exactWeight, exactValue_of_value one,
      exactValue_of_value three]
  have four_le : (4 : ℚ) ≤ 2 ^ 1023 := by
    have four : (4 : ℚ) = 2 ^ 2 := by norm_num
    rw [four]
    exact pow_le_pow_right₀ one_le_two (by norm_num)
  have two_le : (2 : ℚ) ≤ 2 ^ 1023 := le_trans (by norm_num) four_le
  intro path level within
  rcases pipelineAt_nestedScorers within with rfl | rfl
  · refine ⟨le_rfl, fun sc member => ?_, outer.trans_le two_le⟩
    simp only [nestedScorers, List.mem_cons, List.not_mem_nil, or_false] at member
    rcases member with rfl | rfl <;> exact ⟨1, one, zero_le_one⟩
  · refine ⟨le_rfl, fun sc member => ?_, inner.trans_le four_le⟩
    simp only [innerScorers, List.mem_cons, List.not_mem_nil, or_false] at member
    rcases member with rfl | rfl
    · exact ⟨1, one, zero_le_one⟩
    · exact ⟨3, three, by norm_num⟩

/-- The last scorer raises, and the others return a third. -/
def thirds : LeafAnswers := fun path scorer _ _ =>
  if path = [1] then .error .typeError
  else .ok ⟨scorer.strategy, .rounded (1 / 3), .numeric, none, []⟩

theorem leavesInRange_thirds : LeavesInRange thirds := by
  have third : (Double.rounded (1 / 3)).value? = some (6004799503160661 / 2 ^ 54) := by
    decide +kernel
  intro path scorer input config result answered
  unfold thirds at answered
  split at answered
  · cases answered
  · cases answered
    exact ⟨_, third, by norm_num, by norm_num⟩

/-- The pipeline with a pipeline inside is close to its flattening. -/
theorem nestedScorers_near_flattened :
    ∃ aggregate,
      ((ofConfigs nestedScorers).run (nestedAnswers defaultRegistry plainPydantic thirds [])
          ⟨"question", "answer", none, none⟩).aggregate_score.value? = some aggregate ∧
      |aggregate - flattenedScore defaultRegistry plainPydantic thirds
          ⟨"question", "answer", none, none⟩ nestedScorers| ≤
        nestingDepth defaultRegistry plainPydantic nestedScorers * levelError 2 :=
  run_near_flattened defaultRegistry plainPydantic thirds ⟨"question", "answer", none, none⟩
    nestedScorers (ofConfigs nestedScorers) 2 nestedScorers_built nestedScorers_weighable
    (by decide) leavesInRange_thirds

/-! ## One scorer -/

/-- A pipeline with one scorer. -/
def oneScorer : List ScorerConfig := [⟨"rule_based", .rounded 1, []⟩]

/-- The scorer returns 0.00005. -/
def halfUnit : LeafAnswers := fun _ scorer _ _ =>
  .ok ⟨scorer.strategy, .rounded (1 / 20000), .numeric, none, []⟩

/-- There is no pipeline inside. -/
theorem pipelineAt_oneScorer {path : List Nat} {level : List ScorerConfig}
    (within : PipelineAt defaultRegistry plainPydantic oneScorer path level) :
    level = oneScorer := by
  induction within with
  | outermost => rfl
  | nested _ found composite _ ih =>
      subst ih
      have member := List.mem_of_getElem? found
      rw [oneScorer, List.mem_singleton] at member
      subst member
      simp at composite

theorem treeOf_oneScorer :
    pipelineTree defaultRegistry plainPydantic oneScorer =
      .node [(1, .leaf ([0], ⟨"rule_based", .rounded 1, []⟩))] := by
  have share : exactShare oneScorer ⟨"rule_based", .rounded 1, []⟩ = 1 := by
    norm_num [exactShare, oneScorer, totalWeight, exactWeight,
      exactValue_of_value Double.value_rounded_one]
  have tree : treeOf defaultRegistry plainPydantic [0] ⟨"rule_based", .rounded 1, []⟩ =
      .leaf ([0], ⟨"rule_based", .rounded 1, []⟩) := treeOf_of_leaf (by simp)
  rw [oneScorer] at share
  simp [pipelineTree, childrenOf, oneScorer, share, tree]

/-- **Floats exceed the roundings.** The float 0.00005 is rounded to 0.0001, and the floats of
the two differ by more than half a unit in the fourth decimal. -/
theorem half_unit_exceeds_one_rounding :
    ¬ ∀ (registry : Registry) (pydantic : Pydantic) (leaf : LeafAnswers) (input : ScoringInput)
        (scorer_configs : List ScorerConfig) (pipeline : ScoringPipeline),
      init registry scorer_configs = .ok pipeline →
      (∀ path level, PipelineAt registry pydantic scorer_configs path level →
        ∀ sc ∈ level, ∃ weight, sc.weight.value? = some weight ∧ 0 ≤ weight) →
      LeavesInRange leaf →
      ∃ aggregate,
        (pipeline.run (nestedAnswers registry pydantic leaf []) input).aggregate_score.value? =
          some aggregate ∧
        |aggregate - flattenedScore registry pydantic leaf input scorer_configs| ≤
          nestingDepth registry pydantic scorer_configs * (5 / 100000) := by
  intro always
  have one := Double.value_rounded_one
  have small : (Double.rounded (1 / 20000)).value? = some (7378697629483821 / 2 ^ 67) := by
    decide +kernel
  have weights : ∀ path level, PipelineAt defaultRegistry plainPydantic oneScorer path level →
      ∀ sc ∈ level, ∃ weight, sc.weight.value? = some weight ∧ 0 ≤ weight := by
    intro path level within sc member
    rw [pipelineAt_oneScorer within, oneScorer, List.mem_singleton] at member
    subst member
    exact ⟨1, one, zero_le_one⟩
  have leaves : LeavesInRange halfUnit := by
    intro path scorer input config result answered
    cases answered
    exact ⟨_, small, by norm_num, by norm_num⟩
  have flat : flattenedScore defaultRegistry plainPydantic halfUnit
      ⟨"question", "answer", none, none⟩ oneScorer = 7378697629483821 / 2 ^ 67 := by
    have isValue := exactValue_of_value small
    rw [← eval_id_pipelineTree, treeOf_oneScorer]
    simpa [WeightedTree.eval, WeightedTree.evalSum, leafValue, answerValue, halfUnit] using isValue
  have depth : nestingDepth defaultRegistry plainPydantic oneScorer = 1 := by
    rw [nestingDepth, treeOf_oneScorer]
    rfl
  obtain ⟨aggregate, isAggregate, near⟩ := always defaultRegistry plainPydantic halfUnit
    ⟨"question", "answer", none, none⟩ oneScorer (ofConfigs oneScorer)
    (init_of_registered (by simp [oneScorer, defaultRegistry])) weights leaves
  have same : ((ofConfigs oneScorer).run (nestedAnswers defaultRegistry plainPydantic halfUnit [])
      ⟨"question", "answer", none, none⟩).aggregate_score.value? =
        some (7378697629483821 / 2 ^ 66) := by decide +kernel
  rw [isAggregate] at same
  cases same
  rw [flat, depth] at near
  norm_num [abs_of_pos] at near

end LlmopsPlatform.Scoring
