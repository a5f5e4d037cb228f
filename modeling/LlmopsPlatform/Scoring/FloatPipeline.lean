import LlmopsPlatform.Scoring.FloatShares

/-!
# Pipelines in floats

When the weights of a pipeline are finite and not negative and their total does not
overflow, the aggregate of a run is close to the exact weighted sum of the values that were
returned (`Weighable.aggregate_near`). When the total overflows or is not positive, all
normalized weights and the aggregate are zero (`aggregate_of_no_shares`). In both cases the
aggregate of values between zero and one is between zero and one (`aggregate_inUnit`).
-/

set_option autoImplicit false

namespace LlmopsPlatform.Scoring

open Foundations Python ScoringPipeline

/-! ## Products and their sum -/

section Products

variable {scorer_configs : List ScorerConfig}
  {found : List (ScorerConfig × ScoreResult)}

/-- The exact product of a result. -/
def exactProduct (scorer_configs : List ScorerConfig)
    (result : ScorerConfig × ScoreResult) : ℚ :=
  exactValue result.2.value * exactShare scorer_configs result.1

/-- Some scorers returned finite values that are bounded. -/
structure ReturnedWithin (scorer_configs : List ScorerConfig) (bound : ℚ)
    (found : List (ScorerConfig × ScoreResult)) : Prop where
  sublist : (found.map Prod.fst).Sublist scorer_configs
  values : ∀ result ∈ found, ∃ value, result.2.value.value? = some value ∧ |value| ≤ bound

theorem ReturnedWithin.of_sublist {bound : ℚ} (returned : ReturnedWithin scorer_configs bound found)
    {part : List (ScorerConfig × ScoreResult)} (some_of : part.Sublist found) :
    ReturnedWithin scorer_configs bound part :=
  ⟨(some_of.map Prod.fst).trans returned.sublist,
    fun result member => returned.values result (some_of.subset member)⟩

theorem exactShare_le_one (nonneg : ∀ sc ∈ scorer_configs, 0 ≤ exactShare scorer_configs sc)
    {sc : ScorerConfig} (member : sc ∈ scorer_configs) :
    exactShare scorer_configs sc ≤ 1 :=
  (le_totalWeight nonneg member).trans (totalWeight_share_le_one scorer_configs)

/-- The error of the product of a result, for values up to the bound. -/
def productError (scorer_configs : List ScorerConfig) (bound : ℚ)
    (result : ScorerConfig × ScoreResult) : ℚ :=
  3 / 2 * totalError scorer_configs.length * (bound * exactShare scorer_configs result.1) +
    (2 * bound + 1) * tiny

/-- A product of a value in range does not overflow and has a small error. -/
theorem Weighable.value_product (weighable : Weighable scorer_configs)
    (inRange : floatTotal scorer_configs ≠ .posInf) {bound : ℚ} (bound_le : bound ≤ 2 ^ 1023)
    (returned : ReturnedWithin scorer_configs bound found)
    {result : ScorerConfig × ScoreResult} (member : result ∈ found) :
    (product scorer_configs result).value? = some (exactValue (product scorer_configs result)) ∧
      |exactValue (product scorer_configs result) - exactProduct scorer_configs result| ≤
        productError scorer_configs bound result := by
  obtain ⟨value, isValue, value_le⟩ := returned.values result member
  have inConfigs := returned.sublist.subset (List.mem_map_of_mem member)
  obtain ⟨shared, isShare, close⟩ := weighable.value_share inRange inConfigs
  have share_nonneg := weighable.exactShare_nonneg inConfigs
  have share_le := exactShare_le_one (fun _ => weighable.exactShare_nonneg) inConfigs
  have part_le : totalError scorer_configs.length ≤ 1 / 2 ^ 10 :=
    (totalError_le weighable.few).trans (by norm_num)
  have error := abs_toFloat_mul_sub_le value_le share_nonneg close (le_totalError _) part_le
  have isProduct : (product scorer_configs result).value? = some (toFloat (value * shared)) := by
    have rounds : product scorer_configs result = Double.rounded (value * shared) :=
      Double.mul_of_value isValue isShare
    rw [rounds]
    apply Double.value_rounded_of_safe
    have few := mul_le_mul_of_nonneg_right part_le share_nonneg
    have shared_le : |shared| ≤ 3 / 2 := by
      have split := abs_sub_abs_le_abs_sub shared (exactShare scorer_configs result.1)
      rw [abs_of_nonneg share_nonneg] at split
      have small := tiny_le
      linarith
    rw [abs_mul, Double.safe_eq, mul_comm]
    exact mul_le_mul shared_le (value_le.trans bound_le) (abs_nonneg _) (by norm_num)
  rw [exactValue_of_value isProduct]
  refine ⟨isProduct, ?_⟩
  rw [exactProduct, exactValue_of_value isValue]
  exact error

/-- The normalized weights of some scorers add up to at most one. -/
theorem sum_exactShare_le_one (weighable : Weighable scorer_configs)
    (sublist : (found.map Prod.fst).Sublist scorer_configs) :
    (found.map fun result => exactShare scorer_configs result.1).sum ≤ 1 := by
  have some_le := (sublist.map (exactShare scorer_configs)).sum_le_sum fun share member => by
    obtain ⟨sc, inConfigs, rfl⟩ := List.mem_map.mp member
    exact weighable.exactShare_nonneg inConfigs
  rw [List.map_map] at some_le
  exact some_le.trans (totalWeight_share_le_one scorer_configs)

/-- The exact products add up to at most the bound. -/
theorem sum_abs_exactProduct_le (weighable : Weighable scorer_configs) {bound : ℚ}
    (bound_nonneg : 0 ≤ bound) (returned : ReturnedWithin scorer_configs bound found) :
    (found.map fun result => |exactProduct scorer_configs result|).sum ≤ bound := by
  calc
    (found.map fun result => |exactProduct scorer_configs result|).sum ≤
        (found.map fun result => bound * exactShare scorer_configs result.1).sum := by
      apply List.sum_le_sum
      intro result member
      obtain ⟨value, isValue, value_le⟩ := returned.values result member
      have share_nonneg := weighable.exactShare_nonneg
        (returned.sublist.subset (List.mem_map_of_mem member))
      rw [exactProduct, exactValue_of_value isValue, abs_mul, abs_of_nonneg share_nonneg]
      exact mul_le_mul_of_nonneg_right value_le share_nonneg
    _ = bound * (found.map fun result => exactShare scorer_configs result.1).sum :=
      List.sum_map_mul_left found _ bound
    _ ≤ bound :=
      mul_le_of_le_one_right bound_nonneg (sum_exactShare_le_one weighable returned.sublist)

/-- The errors of all products and of their additions. -/
theorem sum_productError_le (weighable : Weighable scorer_configs) {bound : ℚ}
    (bound_nonneg : 0 ≤ bound) (returned : ReturnedWithin scorer_configs bound found) :
    (found.map (productError scorer_configs bound)).sum + found.length * (1 / 2 ^ 53 * bound) ≤
      7 / 4 * (totalError scorer_configs.length * (bound + 1)) := by
  have count : found.length ≤ scorer_configs.length := by
    simpa using returned.sublist.length_le
  have countCast : (found.length : ℚ) ≤ scorer_configs.length := Nat.cast_le.mpr count
  have fewCast : (scorer_configs.length : ℚ) ≤ 2 ^ 30 := by exact_mod_cast weighable.few
  have part_le := le_totalError scorer_configs.length
  have part_nonneg : 0 ≤ totalError scorer_configs.length := le_trans (by norm_num) part_le
  have errors : (found.map (productError scorer_configs bound)).sum =
      3 / 2 * totalError scorer_configs.length * (bound *
        (found.map fun result => exactShare scorer_configs result.1).sum) +
        found.length * ((2 * bound + 1) * tiny) := by
    unfold productError
    rw [List.sum_map_add, List.sum_map_mul_left, List.sum_map_mul_left, List.map_const',
      List.sum_replicate, nsmul_eq_mul]
  have shares : totalError scorer_configs.length * (bound *
        (found.map fun result => exactShare scorer_configs result.1).sum) ≤
      totalError scorer_configs.length * bound :=
    mul_le_mul_of_nonneg_left (mul_le_of_le_one_right bound_nonneg
      (sum_exactShare_le_one weighable returned.sublist)) part_nonneg
  have additions : found.length * (1 / 2 ^ 53 * bound) ≤
      totalError scorer_configs.length * bound / 8 := by
    have scaled := mul_le_mul_of_nonneg_right countCast bound_nonneg
    rw [totalError]
    linarith
  have least : found.length * ((2 * bound + 1) * tiny) ≤
      totalError scorer_configs.length * (bound + 1) / 2 ^ 10 := by
    have tiny_le_part : (2 * bound + 1) * tiny ≤ 2 * (bound + 1) * (1 / 2 ^ 100) :=
      mul_le_mul (by linarith) tiny_le tiny_pos.le (by linarith)
    have counted : found.length * ((2 * bound + 1) * tiny) ≤
        2 ^ 30 * (2 * (bound + 1) * (1 / 2 ^ 100)) :=
      mul_le_mul (countCast.trans fewCast) tiny_le_part
        (mul_nonneg (by linarith) tiny_pos.le) (by norm_num)
    have scaled := mul_le_mul_of_nonneg_right part_le (by linarith : 0 ≤ bound + 1)
    linarith
  have whole_nonneg : 0 ≤ totalError scorer_configs.length * (bound + 1) :=
    mul_nonneg part_nonneg (by linarith)
  rw [errors]
  linarith

/-- The error of a sum of products in numbers. -/
theorem abs_accumulate_products_le (weighable : Weighable scorer_configs)
    (inRange : floatTotal scorer_configs ≠ .posInf) {bound : ℚ} (bound_nonneg : 0 ≤ bound)
    (bound_le : bound ≤ 2 ^ 1023) (returned : ReturnedWithin scorer_configs bound found) :
    |accumulate toFloat (found.map fun result => exactValue (product scorer_configs result)) -
        (found.map (exactProduct scorer_configs)).sum| ≤
      2 * totalError scorer_configs.length * (bound + 1) := by
  have close := abs_accumulate_sub_le roundsOn_toFloat (by norm_num)
    (fun result member => (Double.isDouble_of_value
      (weighable.value_product inRange bound_le returned member).1).mem_floatGrid)
    (fun result member => (weighable.value_product inRange bound_le returned member).2)
    (sum_abs_exactProduct_le weighable bound_nonneg returned)
  have grown : (1 + 1 / 2 ^ 53 : ℚ) ^ found.length ≤ 1 + 1 / 2 ^ 20 := by
    have count : found.length ≤ scorer_configs.length := by
      simpa using returned.sublist.length_le
    have fewCast : (found.length : ℚ) ≤ 2 ^ 30 := by exact_mod_cast count.trans weighable.few
    refine (one_add_pow_le (by norm_num) ?_).trans ?_ <;> linarith
  have part_nonneg : 0 ≤ totalError scorer_configs.length :=
    le_trans (by norm_num) (le_totalError scorer_configs.length)
  have whole_nonneg : 0 ≤ totalError scorer_configs.length * (bound + 1) :=
    mul_nonneg part_nonneg (by linarith)
  calc
    |accumulate toFloat (found.map fun result => exactValue (product scorer_configs result)) -
        (found.map (exactProduct scorer_configs)).sum| ≤
      (1 + 1 / 2 ^ 53 : ℚ) ^ found.length * ((found.map (productError scorer_configs bound)).sum +
        found.length * (1 / 2 ^ 53 * bound)) := close
    _ ≤ (1 + 1 / 2 ^ 53) ^ found.length *
        (7 / 4 * (totalError scorer_configs.length * (bound + 1))) :=
      mul_le_mul_of_nonneg_left (sum_productError_le weighable bound_nonneg returned)
        (by positivity)
    _ ≤ (1 + 1 / 2 ^ 20) * (7 / 4 * (totalError scorer_configs.length * (bound + 1))) :=
      mul_le_mul_of_nonneg_right grown (by linarith)
    _ ≤ 2 * totalError scorer_configs.length * (bound + 1) := by linarith

/-- A sum of products and the next product do not overflow. -/
theorem abs_add_product_le (weighable : Weighable scorer_configs)
    (inRange : floatTotal scorer_configs ≠ .posInf) {bound : ℚ} (bound_nonneg : 0 ≤ bound)
    (bound_le : bound ≤ 2 ^ 1023) {before : List (ScorerConfig × ScoreResult)}
    {last : ScorerConfig × ScoreResult}
    (returned : ReturnedWithin scorer_configs bound (before ++ [last])) :
    |accumulate toFloat (before.map fun result => exactValue (product scorer_configs result)) +
      exactValue (product scorer_configs last)| ≤ Double.safe := by
  have beforeClose := abs_accumulate_products_le weighable inRange bound_nonneg bound_le
    (returned.of_sublist (List.sublist_append_left before [last]))
  have lastClose := (weighable.value_product inRange bound_le returned
    (List.mem_append_right before List.mem_cons_self)).2
  rw [productError] at lastClose
  have magnitudes := sum_abs_exactProduct_le weighable bound_nonneg returned
  rw [List.map_append, List.sum_append, List.map_singleton, List.sum_singleton] at magnitudes
  have beforeMagnitude : |(before.map (exactProduct scorer_configs)).sum| ≤
      (before.map fun result => |exactProduct scorer_configs result|).sum := by
    simpa [Function.comp_def] using
      Multiset.abs_sum_le_sum_abs (s := (before.map (exactProduct scorer_configs) : Multiset ℚ))
  have inConfigs := returned.sublist.subset
    (List.mem_map_of_mem (List.mem_append_right before List.mem_cons_self))
  have lastShare : bound * exactShare scorer_configs last.1 ≤ bound :=
    mul_le_of_le_one_right bound_nonneg
      (exactShare_le_one (fun _ => weighable.exactShare_nonneg) inConfigs)
  have lastPart : totalError scorer_configs.length *
      (bound * exactShare scorer_configs last.1) ≤ 1 / 2 ^ 19 * bound :=
    mul_le_mul (totalError_le weighable.few) lastShare
      (mul_nonneg bound_nonneg (weighable.exactShare_nonneg inConfigs)) (by norm_num)
  have wholePart := mul_le_mul_of_nonneg_right (totalError_le weighable.few)
    (by linarith : 0 ≤ bound + 1)
  have least : (2 * bound + 1) * tiny ≤ (2 * bound + 1) * (1 / 2 ^ 100) :=
    mul_le_mul_of_nonneg_left tiny_le (by linarith)
  have sums := abs_add_le
    (accumulate toFloat (before.map fun result => exactValue (product scorer_configs result)))
    (exactValue (product scorer_configs last))
  have beforeSplit := abs_sub_abs_le_abs_sub
    (accumulate toFloat (before.map fun result => exactValue (product scorer_configs result)))
    (before.map (exactProduct scorer_configs)).sum
  have lastSplit := abs_sub_abs_le_abs_sub (exactValue (product scorer_configs last))
    (exactProduct scorer_configs last)
  rw [Double.safe_eq]
  have large : (1 : ℚ) ≤ 2 ^ 1023 := one_le_pow₀ one_le_two
  generalize (2 : ℚ) ^ 1023 = limit at *
  linarith

/-- The loop over the scorers that returned computes this sum. -/
theorem value_foldl_products (weighable : Weighable scorer_configs)
    (inRange : floatTotal scorer_configs ≠ .posInf) {bound : ℚ} (bound_nonneg : 0 ≤ bound)
    (bound_le : bound ≤ 2 ^ 1023) (returned : ReturnedWithin scorer_configs bound found) :
    ((found.map (product scorer_configs)).foldl Double.add .zero).value? =
      some (accumulate toFloat
        (found.map fun result => exactValue (product scorer_configs result))) := by
  apply Double.value_foldl_add
  · rw [List.map_map, List.map_map]
    apply List.map_congr_left
    intro result member
    exact (weighable.value_product inRange bound_le returned member).1
  · intro earlier value within
    obtain ⟨prior, priorPrefix, isPrior⟩ := List.prefix_map_iff.mp within
    rcases prior.eq_nil_or_concat with rfl | ⟨before, last, rfl⟩
    · simp at isPrior
    · simp only [List.concat_eq_append, List.map_append, List.map_cons, List.map_nil] at isPrior
      obtain ⟨rfl, sameLast⟩ := List.append_inj' isPrior rfl
      obtain rfl := List.singleton_inj.mp sameLast
      rw [List.concat_eq_append] at priorPrefix
      exact abs_add_product_le weighable inRange bound_nonneg bound_le
        (returned.of_sublist priorPrefix.sublist)

/-- **The weighted sum of a run** is close to the exact one. -/
theorem Weighable.weightedSum_near (weighable : Weighable scorer_configs)
    (inRange : floatTotal scorer_configs ≠ .posInf) {bound : ℚ} (bound_nonneg : 0 ≤ bound)
    (bound_le : bound ≤ 2 ^ 1023) (returned : ReturnedWithin scorer_configs bound found) :
    ∃ value, ((found.map (product scorer_configs)).foldl Double.add .zero).value? = some value ∧
      |value - (found.map (exactProduct scorer_configs)).sum| ≤
        2 * totalError scorer_configs.length * (bound + 1) :=
  ⟨_, value_foldl_products weighable inRange bound_nonneg bound_le returned,
    abs_accumulate_products_le weighable inRange bound_nonneg bound_le returned⟩

end Products

/-! ## Aggregates -/

section Aggregates

variable {scorer_configs : List ScorerConfig} {answers : ScorerAnswers}
  {input : ScoringInput}

/-- How much an aggregate of so many values, of at most such a magnitude, can be off. The
first part is half a unit in the fourth decimal. -/
def aggregateError (count : ℕ) (bound : ℚ) : ℚ := 1 / 20000 + (count + 1) * (bound + 1) / 2 ^ 48

/-- The exact weighted sum of the values that the scorers return on a run. -/
def exactAggregate (answers : ScorerAnswers) (input : ScoringInput)
    (scorer_configs : List ScorerConfig) : ℚ :=
  ((results answers input scorer_configs).map (exactProduct scorer_configs)).sum

/-- All scorers that return on a run return finite values with bounded magnitudes. -/
def ReturnsWithin (answers : ScorerAnswers) (input : ScoringInput)
    (scorer_configs : List ScorerConfig) (bound : ℚ) : Prop :=
  ∀ position sc result, scorer_configs[position]? = some sc →
    answers position ⟨sc.strategy⟩ input sc.config = .ok result →
    ∃ value, result.value.value? = some value ∧ |value| ≤ bound

theorem ReturnsWithin.results {bound : ℚ}
    (returns : ReturnsWithin answers input scorer_configs bound) :
    ReturnedWithin scorer_configs bound (results answers input scorer_configs) where
  sublist := results_sublist answers input scorer_configs
  values result member := by
    obtain ⟨position, found, answered⟩ := mem_results answers input member
    exact returns position result.1 result.2 found answered

/-- The aggregate of a run is the rounded sum of the products. -/
theorem aggregate_eq_round (answers : ScorerAnswers) (input : ScoringInput)
    (scorer_configs : List ScorerConfig) :
    ((ofConfigs scorer_configs).run answers input).aggregate_score =
      Double.round 4 (((results answers input scorer_configs).map
        (product scorer_configs)).foldl Double.add .zero) := by
  rw [run_ofConfigs]
  rfl

theorem Weighable.total_ne_posInf (weighable : Weighable scorer_configs)
    (total_le : totalWeight exactWeight scorer_configs ≤ 2 ^ 1023) :
    floatTotal scorer_configs ≠ .posInf := by
  intro overflow
  rcases weighable.total_cases with ⟨-, large⟩ | ⟨total, isTotal, -⟩
  · exact absurd large total_le.not_gt
  · rw [overflow] at isTotal
    cases isTotal

/-- **The aggregate of a run** is close to the exact weighted sum. -/
theorem Weighable.aggregate_near (weighable : Weighable scorer_configs)
    (inRange : floatTotal scorer_configs ≠ .posInf) {bound : ℚ} (bound_nonneg : 0 ≤ bound)
    (bound_le : bound ≤ 2 ^ 1023) (returns : ReturnsWithin answers input scorer_configs bound) :
    ∃ aggregate,
      ((ofConfigs scorer_configs).run answers input).aggregate_score.value? = some aggregate ∧
      |aggregate - exactAggregate answers input scorer_configs| ≤
        aggregateError scorer_configs.length bound := by
  obtain ⟨sum, isSum, close⟩ := weighable.weightedSum_near inRange bound_nonneg bound_le
    returns.results
  obtain ⟨_, isFinite⟩ := Double.value_eq_some.mp isSum
  have magnitudes := sum_abs_exactProduct_le weighable bound_nonneg returns.results
  have exactMagnitude : |exactAggregate answers input scorer_configs| ≤ bound := by
    refine le_trans ?_ magnitudes
    simpa [Function.comp_def, exactAggregate] using Multiset.abs_sum_le_sum_abs
      (s := ((results answers input scorer_configs).map (exactProduct scorer_configs) :
        Multiset ℚ))
  rw [aggregate_eq_round, isFinite, Double.round]
  change |sum - exactAggregate answers input scorer_configs| ≤ _ at close
  generalize exactAggregate answers input scorer_configs = exact at *
  have decimals := abs_roundDecimals_sub_le 4 sum
  norm_num only at decimals
  have rounding := abs_toFloat_sub_le_add_tiny (roundDecimals 4 sum)
  have part_le := mul_le_mul_of_nonneg_right (totalError_le weighable.few)
    (by linarith : 0 ≤ bound + 1)
  have le_part := mul_le_mul_of_nonneg_right (le_totalError scorer_configs.length)
    (by linarith : 0 ≤ bound + 1)
  have sumMagnitude := abs_sub_abs_le_abs_sub sum exact
  have roundedMagnitude := abs_sub_abs_le_abs_sub (roundDecimals 4 sum) sum
  refine ⟨_, Double.value_rounded_of_safe ?_, ?_⟩
  · rw [Double.safe_eq]
    have large : (2 : ℚ) ^ 10 ≤ 2 ^ 1023 := pow_le_pow_right₀ one_le_two (by norm_num)
    generalize (2 : ℚ) ^ 1023 = limit at *
    linarith
  · have outer := abs_sub_le (toFloat (roundDecimals 4 sum)) (roundDecimals 4 sum) exact
    have inner := abs_sub_le (roundDecimals 4 sum) sum exact
    have isPart : ((scorer_configs.length : ℚ) + 1) * (bound + 1) / 2 ^ 48 =
        4 * (totalError scorer_configs.length * (bound + 1)) := by
      rw [totalError]
      ring
    rw [aggregateError, isPart]
    have small := tiny_le
    linarith

/-- When all normalized weights are zero, so is the aggregate. -/
theorem aggregate_of_no_shares {bound : ℚ}
    (zero : ∀ sc ∈ scorer_configs, share scorer_configs sc = Double.zero)
    (returns : ReturnsWithin answers input scorer_configs bound) :
    ((ofConfigs scorer_configs).run answers input).aggregate_score = .zero := by
  have rounds : Double.rounded 0 = .zero := Double.rounded_of_isDouble _
  have products : ∀ result ∈ results answers input scorer_configs,
      product scorer_configs result = Double.zero := by
    intro result member
    obtain ⟨value, isValue, -⟩ := returns.results.values result member
    have isShare := zero result.1 (returns.results.sublist.subset (List.mem_map_of_mem member))
    have isProduct : product scorer_configs result = Double.rounded (value * 0) := by
      rw [product, isShare]
      exact Double.mul_of_value isValue rfl
    rw [isProduct, mul_zero, rounds]
  have sums (found : List (ScorerConfig × ScoreResult))
      (zeros : ∀ result ∈ found, product scorer_configs result = Double.zero) :
      (found.map (product scorer_configs)).foldl Double.add .zero = .zero := by
    induction found with
    | nil => rfl
    | cons result rest ih =>
        have step : Double.add .zero .zero = .zero := by
          rw [Double.add_of_value rfl rfl, add_zero, rounds]
        rw [List.map_cons, List.foldl_cons, zeros result List.mem_cons_self, step]
        exact ih fun other member => zeros other (List.mem_cons_of_mem _ member)
  rw [aggregate_eq_round, sums _ products]
  exact Arithmetic.round_zero 4

/-! ## The range of aggregates -/

/-- A number between zero and one. -/
def InUnit (number : Double) : Prop :=
  ∃ value, number.value? = some value ∧ value ∈ Set.Icc (0 : ℚ) 1

/-- When the total of the weights is positive, all of them are finite and not negative, and
they are not too many. Otherwise they do not count. -/
def SharesNonneg (scorer_configs : List ScorerConfig) : Prop :=
  (floatTotal scorer_configs).IsPositive → Weighable scorer_configs

theorem round_inUnit {sum : ℚ} {isDouble : IsDouble sum}
    (near : sum ∈ Set.Icc (-(1 / 2 ^ 15)) (1 + 1 / 2 ^ 15 : ℚ)) :
    InUnit (Double.round 4 (.finite sum isDouble)) := by
  have low : roundDecimals 4 (-(1 / 2 ^ 15) : ℚ) = 0 := by decide +kernel
  have high : roundDecimals 4 (1 + 1 / 2 ^ 15 : ℚ) = 1 := by decide +kernel
  have above := roundDecimals_mono 4 near.1
  have below := roundDecimals_mono 4 near.2
  rw [low] at above
  rw [high] at below
  refine ⟨_, Double.value_rounded_of_mem isDouble_zero isDouble_one ⟨above, below⟩, ?_⟩
  have floatAbove := toFloat_mono above
  have floatBelow := toFloat_mono below
  rw [isDouble_zero.1] at floatAbove
  rw [isDouble_one.1] at floatBelow
  exact ⟨floatAbove, floatBelow⟩

/-- **The aggregate stays in range** when the values that were returned are in range. -/
theorem aggregate_inUnit (nonneg : SharesNonneg scorer_configs)
    (returns : ∀ position sc result, scorer_configs[position]? = some sc →
      answers position ⟨sc.strategy⟩ input sc.config = .ok result → InUnit result.value) :
    InUnit ((ofConfigs scorer_configs).run answers input).aggregate_score := by
  have within : ReturnsWithin answers input scorer_configs 1 := by
    intro position sc result found answered
    obtain ⟨value, isValue, unit⟩ := returns position sc result found answered
    exact ⟨value, isValue, abs_le.mpr ⟨by linarith [unit.1], unit.2⟩⟩
  have zeroInUnit : InUnit .zero := ⟨0, rfl, le_rfl, zero_le_one⟩
  by_cases positive : (floatTotal scorer_configs).IsPositive
  · have weighable := nonneg positive
    by_cases overflow : floatTotal scorer_configs = .posInf
    · rw [aggregate_of_no_shares _ within]
      · exact zeroInUnit
      · intro sc member
        obtain ⟨_, isWeight⟩ := Double.value_eq_some.mp (weighable.value_weight member)
        have isShare : share scorer_configs sc = Double.div sc.weight (floatTotal scorer_configs) :=
          if_pos positive
        rw [isShare, overflow, isWeight]
        rfl
    · obtain ⟨sum, isSum, close⟩ := weighable.weightedSum_near overflow zero_le_one
        (one_le_pow₀ one_le_two) within.results
      obtain ⟨_, isFinite⟩ := Double.value_eq_some.mp isSum
      rw [aggregate_eq_round, isFinite]
      apply round_inUnit
      have exact_nonneg : 0 ≤ ((results answers input scorer_configs).map
          (exactProduct scorer_configs)).sum := by
        apply List.sum_nonneg
        intro number member
        obtain ⟨result, isResult, rfl⟩ := List.mem_map.mp member
        obtain ⟨position, found, answered⟩ := mem_results answers input isResult
        obtain ⟨value, isValue, unit⟩ := returns _ _ _ found answered
        rw [exactProduct, exactValue_of_value isValue]
        exact mul_nonneg unit.1 (weighable.exactShare_nonneg (List.mem_of_getElem? found))
      have exact_le : ((results answers input scorer_configs).map
          (exactProduct scorer_configs)).sum ≤ 1 := by
        refine le_trans (List.sum_le_sum fun result _ => le_abs_self _) ?_
        exact sum_abs_exactProduct_le weighable zero_le_one within.results
      have few := totalError_le weighable.few
      have bounds := abs_le.mp close
      constructor <;> linarith [bounds.1, bounds.2]
  · rw [aggregate_of_no_shares (fun sc _ => if_neg positive) within]
    exact zeroInUnit

end Aggregates

section Nesting

variable {registry : Registry} {pydantic : Pydantic} {leaf : LeafAnswers}
  {input : ScoringInput} {outermost level : List ScorerConfig} {path : List Nat}

variable (registry pydantic) in
/-- In no pipeline inside, weights that count are negative or not finite. -/
def AllSharesNonneg (outermost : List ScorerConfig) : Prop :=
  ∀ path level, PipelineAt registry pydantic outermost path level → SharesNonneg level

/-- All scorers that are not composite return values between zero and one, if they
return. -/
def LeavesInRange (leaf : LeafAnswers) : Prop :=
  ∀ path scorer input config result, leaf path scorer input config = .ok result →
    InUnit result.value

/-- Every scorer inside returns a value between zero and one, if it returns. -/
theorem nested_inUnit (shares : AllSharesNonneg registry pydantic outermost)
    (leaves : LeavesInRange leaf) (within : PipelineAt registry pydantic outermost path level)
    {position : Nat} {sc : ScorerConfig} (found : level[position]? = some sc)
    {result : ScoreResult}
    (returned : nestedAnswers registry pydantic leaf path position ⟨sc.strategy⟩ input sc.config =
      .ok result) :
    InUnit result.value := by
  -- The sub-scorers of a composite scorer are nested less deep.
  induction nesting : Json.depthOfEntries sc.config using Nat.strong_induction_on
    generalizing path level position sc result with
  | h nesting ih =>
      rw [nestedAnswers_eq] at returned
      by_cases composite : sc.strategy = "composite"
      · rw [if_pos composite] at returned
        cases built : builtConfigs registry pydantic sc.config with
        | none =>
            obtain ⟨failure, raised⟩ := exists_score_eq_error
              (nestedAnswers registry pydantic leaf (path ++ [position])) built
            rw [raised] at returned
            cases returned
        | some subs =>
            rw [score_of_built _ built] at returned
            cases returned
            have inside := PipelineAt.nested within found composite built
            refine aggregate_inUnit (shares _ _ inside) fun subPosition sub subResult subFound
              subReturned => ?_
            have deeper := depth_lt_of_mem_builtConfigs built (List.mem_of_getElem? subFound)
            exact ih _ (nesting ▸ deeper) inside subFound subReturned rfl
      · rw [if_neg composite] at returned
        exact leaves _ _ _ _ _ returned

/-- **Every pipeline inside** has an aggregate between zero and one. -/
theorem level_inUnit (shares : AllSharesNonneg registry pydantic outermost)
    (leaves : LeavesInRange leaf) (within : PipelineAt registry pydantic outermost path level) :
    InUnit ((ofConfigs level).run (nestedAnswers registry pydantic leaf path)
      input).aggregate_score :=
  aggregate_inUnit (shares path level within) fun _ _ _ found returned =>
    nested_inUnit shares leaves within found returned

end Nesting

end LlmopsPlatform.Scoring
