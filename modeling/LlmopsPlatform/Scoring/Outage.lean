import LlmopsPlatform.Scoring.FloatPipeline

/-!
# The aggregate when scorers raise

The weights are normalized over all configurations before it is known which scorers raise.
When no scorer of positive weight raises, the aggregate lies between the smallest and the
largest value that is reported, up to the rounding to four decimals and the error of the
floats (`aggregate_between_reported`). Otherwise the scorers that raised pull it towards
zero, and the float error alone can exceed half a unit in the fourth decimal
(`outage_and_rounding_leave_the_range`).
-/

set_option autoImplicit false

namespace LlmopsPlatform.Scoring

open Foundations Python ScoringPipeline

/-- The finite values that a run reports. -/
def reportedValues (result : PipelineResult) : Set ℚ :=
  {value | ∃ score ∈ result.individual_scores, score.value.value? = some value}

/-- The aggregate is finite and lies between the smallest and the largest reported value, up
to an error. -/
def AggregateBetween (error : ℚ) (result : PipelineResult) : Prop :=
  ∃ aggregate, result.aggregate_score.value? = some aggregate ∧
    (∀ smallest, IsLeast (reportedValues result) smallest → smallest - error ≤ aggregate) ∧
    ∀ largest, IsGreatest (reportedValues result) largest → aggregate ≤ largest + error

section Run

variable {registry : Registry} {scorer_configs : List ScorerConfig}
  {pipeline : ScoringPipeline} {answers : ScorerAnswers} {input : ScoringInput}

/-- Only scorers of weight zero raise on a run. -/
def OnlyWeightlessRaise (answers : ScorerAnswers) (input : ScoringInput)
    (scorer_configs : List ScorerConfig) : Prop :=
  ∀ position sc failure, scorer_configs[position]? = some sc →
    answers position ⟨sc.strategy⟩ input sc.config = .error failure → exactWeight sc = 0

/-- Then the normalized weights of the others add up to one. -/
theorem totalWeight_results (positive : 0 < totalWeight exactWeight scorer_configs)
    (weightless : OnlyWeightlessRaise answers input scorer_configs) :
    totalWeight (fun result => exactShare scorer_configs result.1)
      (results answers input scorer_configs) = 1 := by
  have all := sum_results answers input (fun outcome => exactShare scorer_configs outcome.1)
    scorer_configs fun position sc failure found raised => by
      rw [exactShare, weightless position sc failure found raised, zero_div, ite_self]
  have shares : (scorer_configs.mapIdx fun _ sc => exactShare scorer_configs sc) =
      scorer_configs.map (exactShare scorer_configs) := by
    apply List.ext_getElem
    · simp
    · simp
  rw [totalWeight, all, shares]
  exact totalWeight_share_eq_one positive

/-- The value of a result is reported. -/
theorem exactValue_reported {bound : ℚ} (returns : ReturnsWithin answers input scorer_configs bound)
    {result : ScorerConfig × ScoreResult}
    (member : result ∈ results answers input scorer_configs) :
    exactValue result.2.value ∈ reportedValues ((ofConfigs scorer_configs).run answers input) := by
  obtain ⟨value, isValue, -⟩ := returns.results.values result member
  refine ⟨result.2, ?_, ?_⟩
  · rw [run_ofConfigs]
    exact List.mem_map_of_mem member
  · rw [exactValue_of_value isValue]
    exact isValue

/-- The exact weighted sum is an average of the reported values. -/
theorem exactAggregate_between {bound : ℚ} (weighable : Weighable scorer_configs)
    (positive : 0 < totalWeight exactWeight scorer_configs)
    (returns : ReturnsWithin answers input scorer_configs bound)
    (weightless : OnlyWeightlessRaise answers input scorer_configs) :
    (∀ smallest ∈ lowerBounds (reportedValues ((ofConfigs scorer_configs).run answers input)),
      smallest ≤ exactAggregate answers input scorer_configs) ∧
    ∀ largest ∈ upperBounds (reportedValues ((ofConfigs scorer_configs).run answers input)),
      exactAggregate answers input scorer_configs ≤ largest := by
  have whole := totalWeight_results positive weightless
  have nonneg : ∀ result ∈ results answers input scorer_configs,
      0 ≤ exactShare scorer_configs result.1 := by
    intro result member
    exact weighable.exactShare_nonneg
      (returns.results.sublist.subset (List.mem_map_of_mem member))
  constructor
  · intro smallest least
    have above := le_weightedSum nonneg fun result member =>
      least (exactValue_reported returns member)
    rwa [whole, mul_one] at above
  · intro largest greatest
    have below := weightedSum_le nonneg fun result member =>
      greatest (exactValue_reported returns member)
    rwa [whole, mul_one] at below

end Run

/-- **The aggregate is an average.** When the weights are finite and not negative, their total
is positive and not too large, and no scorer of positive weight raises, the aggregate lies
between the smallest and the largest reported value, up to the error of `aggregateError`. -/
theorem aggregate_between_reported (registry : Registry)
    (scorer_configs : List ScorerConfig) (pipeline : ScoringPipeline)
    (answers : ScorerAnswers) (input : ScoringInput) (bound : ℚ)
    (built : init registry scorer_configs = .ok pipeline) (weighable : Weighable scorer_configs)
    (positive : 0 < totalWeight exactWeight scorer_configs)
    (total_le : totalWeight exactWeight scorer_configs ≤ 2 ^ 1023)
    (returns : ReturnsWithin answers input scorer_configs bound) (bound_le : bound ≤ 2 ^ 1023)
    (weightless : OnlyWeightlessRaise answers input scorer_configs) :
    AggregateBetween (aggregateError scorer_configs.length bound) (pipeline.run answers input) := by
  have isBuilt : pipeline = ofConfigs scorer_configs := by
    rcases init_cases registry scorer_configs with ⟨-, succeeds⟩ | ⟨sc, -, -, fails⟩
    · exact Except.ok.inj (built.symm.trans succeeds)
    · rw [fails] at built
      cases built
  subst isBuilt
  have bound_nonneg : 0 ≤ bound := by
    have whole := totalWeight_results positive weightless
    obtain ⟨result, member⟩ : ∃ result, result ∈ results answers input scorer_configs := by
      apply List.exists_mem_of_ne_nil
      intro empty
      rw [empty] at whole
      exact zero_ne_one whole
    obtain ⟨value, -, value_le⟩ := returns.results.values result member
    exact (abs_nonneg value).trans value_le
  obtain ⟨aggregate, isAggregate, close⟩ := weighable.aggregate_near
    (weighable.total_ne_posInf total_le) bound_nonneg bound_le returns
  obtain ⟨low, high⟩ := exactAggregate_between weighable positive returns weightless
  have error := abs_le.mp close
  refine ⟨aggregate, isAggregate, ?_, ?_⟩
  · intro smallest least
    linarith [low smallest least.2, error.1]
  · intro largest greatest
    linarith [high largest greatest.2, error.2]

/-! ## Two scorers, one of which raises -/

/-- Two scorers of the same weight. -/
def twoScorers : List ScorerConfig :=
  [⟨"rule_based", .rounded 1, []⟩, ⟨"embedding", .rounded 1, []⟩]

theorem twoScorers_built : init defaultRegistry twoScorers = .ok (ofConfigs twoScorers) :=
  init_of_registered (by simp [twoScorers, defaultRegistry])

theorem twoScorers_weighable : Weighable twoScorers where
  weights sc member := by
    have isOne : sc.weight.value? = some 1 := by
      simp only [twoScorers, List.mem_cons, List.not_mem_nil, or_false] at member
      rcases member with rfl | rfl <;> exact Double.value_rounded_one
    exact ⟨1, isOne, zero_le_one⟩
  few := by decide

theorem totalWeight_twoScorers : totalWeight exactWeight twoScorers = 2 := by
  norm_num [totalWeight, twoScorers, exactWeight, exactValue_of_value Double.value_rounded_one]

/-- A text to score. -/
def greeting : ScoringInput := ⟨"hi", "hello", none, none⟩

/-- The scorers that return all give this value, and the others raise. -/
def constantAnswers (raises : Nat → Bool) (value : Double) : ScorerAnswers :=
  fun position scorer _ _ =>
    if raises position then .error (.exception "Error")
    else .ok ⟨scorer.strategy, value, .numeric, none, []⟩

/-- When both return one, so does the pipeline, almost. -/
theorem both_scorers_between :
    AggregateBetween (aggregateError 2 1)
      ((ofConfigs twoScorers).run (constantAnswers (fun _ => false) (.rounded 1)) greeting) := by
  refine aggregate_between_reported defaultRegistry twoScorers _
    (constantAnswers (fun _ => false) (.rounded 1)) greeting 1 twoScorers_built
    twoScorers_weighable ?_ ?_ ?_ (one_le_pow₀ one_le_two) ?_
  · rw [totalWeight_twoScorers]
    exact two_pos
  · rw [totalWeight_twoScorers]
    exact le_self_pow₀ one_le_two (by decide)
  · intro position sc result found answered
    cases answered
    exact ⟨1, Double.value_rounded_one, by norm_num⟩
  · intro position sc failure found answered
    cases answered

/-- On every run with a positive total and a scorer of positive weight that returns, where the
answers are of some kind, the aggregate lies in the range of the reported values, up to half
a unit in the fourth decimal. -/
def BetweenWhenever (kind : List (Except PyException ScoreResult) → Prop) : Prop :=
  ∀ (registry : Registry) (scorer_configs : List ScorerConfig)
    (pipeline : ScoringPipeline) (answers : ScorerAnswers) (input : ScoringInput),
    init registry scorer_configs = .ok pipeline →
    (∀ sc ∈ scorer_configs, ∃ weight, sc.weight.value? = some weight ∧ 0 ≤ weight) →
    0 < totalWeight exactWeight scorer_configs →
    (∃ (position : Nat) (sc : ScorerConfig) (score : ScoreResult),
      scorer_configs[position]? = some sc ∧ 0 < exactWeight sc ∧
      (pipeline.gather answers input)[position]? = some (.ok score)) →
    kind (pipeline.gather answers input) →
    AggregateBetween (1 / 20000) (pipeline.run answers input)

/-- A constant value is the only one reported. -/
theorem reportedValues_constant {raises : Nat → Bool} {number : Double} {value : ℚ}
    (isValue : number.value? = some value) {reported : ℚ}
    (member : reported ∈ reportedValues
      ((ofConfigs twoScorers).run (constantAnswers raises number) greeting)) :
    reported = value := by
  obtain ⟨score, inScores, isReported⟩ := member
  rw [run_ofConfigs] at inScores
  obtain ⟨result, isResult, rfl⟩ := List.mem_map.mp inScores
  obtain ⟨position, -, answered⟩ := mem_results _ _ isResult
  unfold constantAnswers at answered
  split at answered
  · cases answered
  · have same : number = result.2.value := congrArg ScoreResult.value (Except.ok.inj answered)
    rw [← same, isValue] at isReported
    exact (Option.some.inj isReported).symm

/-- When the first of the two returns the value and the aggregate is too low or too high, it
is not in range. -/
theorem not_betweenWhenever {kind : List (Except PyException ScoreResult) → Prop}
    {raises : Nat → Bool} {number : Double} {value aggregate : ℚ} (first : raises 0 = false)
    (isKind : kind ((ofConfigs twoScorers).gather (constantAnswers raises number) greeting))
    (isValue : number.value? = some value)
    (isAggregate : ((ofConfigs twoScorers).run (constantAnswers raises number)
      greeting).aggregate_score.value? = some aggregate)
    (outside : 1 / 20000 < |aggregate - value|) : ¬BetweenWhenever kind := by
  intro always
  obtain ⟨found, isFound, low, high⟩ := always defaultRegistry twoScorers _
    (constantAnswers raises number) greeting twoScorers_built twoScorers_weighable.weights
    (by rw [totalWeight_twoScorers]; exact two_pos)
    ⟨0, ⟨"rule_based", .rounded 1, []⟩, ⟨"rule_based", number, .numeric, none, []⟩, rfl,
      by decide +kernel, by simp [gather, ofConfigs, twoScorers, entryOf, constantAnswers, first]⟩
    isKind
  rw [isAggregate] at isFound
  cases isFound
  have reported : value ∈ reportedValues
      ((ofConfigs twoScorers).run (constantAnswers raises number) greeting) := by
    refine ⟨⟨"rule_based", number, .numeric, none, []⟩, ?_, isValue⟩
    rw [run_ofConfigs]
    simp [results, twoScorers, constantAnswers, first, Except.toOption]
  have above := low value
    ⟨reported, fun other member => (reportedValues_constant isValue member).ge⟩
  have below := high value
    ⟨reported, fun other member => (reportedValues_constant isValue member).le⟩
  refine absurd outside (not_lt.mpr (abs_le.mpr ⟨?_, ?_⟩)) <;> linarith

/-- **An outage lowers the score of a perfect output**: the first scorer returns one, the
second raises, and the aggregate is a half. Also without an outage the aggregate can leave
the range: two values of 0.00005 become 0.0001. -/
theorem outage_and_rounding_leave_the_range :
    ¬BetweenWhenever (fun _ => True) ∧
      ¬BetweenWhenever fun answers => ∀ answer ∈ answers, answer.isOk = true := by
  constructor
  · have perfect := Double.value_rounded_one
    have half : ((ofConfigs twoScorers).run
        (constantAnswers (fun position => position == 1) (.rounded 1))
        greeting).aggregate_score.value? = some (1 / 2) := by decide +kernel
    exact not_betweenWhenever rfl trivial perfect half (by norm_num)
  · have small : (Double.rounded (1 / 20000)).value? =
        some (7378697629483821 / 2 ^ 67) := by decide +kernel
    have twice : ((ofConfigs twoScorers).run
        (constantAnswers (fun _ => false) (.rounded (1 / 20000)))
        greeting).aggregate_score.value? = some (7378697629483821 / 2 ^ 66) := by decide +kernel
    refine not_betweenWhenever rfl ?_ small twice (by norm_num [abs_of_pos])
    intro answer member
    obtain ⟨position, _, rfl⟩ := List.mem_mapIdx.mp member
    rfl

end LlmopsPlatform.Scoring
