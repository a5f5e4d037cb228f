import LlmopsPlatform.Foundations.Tallies
import LlmopsPlatform.Tuning.Experiment

/-!
# The winner that is detected automatically

Concluding an experiment without a winner stores the variant of the first result
row. The rows are ordered by the average that was rounded to four decimals, and the
sort is stable, so the stored variant has the best rounded average, and among
variants with the same rounded average the order of the rows decides.

A variant with a better exact mean has therefore the same rounded average, and its mean
is better by at most one ten-thousandth, up to the precision of floats
(`conclude_detects_best_rounded_mean`). There may be such a variant
(`rounding_hides_the_better_variant`).
-/

set_option autoImplicit false

namespace LlmopsPlatform.Tuning

open Foundations Python Database ExperimentRunner

/-- The scores of one variant among some trials, in the order of the trials. -/
def scoresOf (trials : List ExperimentTrialModel) (variant_id : String) : List ℚ :=
  (trials.filter fun trial => trial.variant_id = variant_id).flatMap fun trial =>
    trial.score.toList

/-- The variants that have a scored trial in an experiment. -/
def scoredVariants (tables : ExperimentTables) (experiment_id : Nat) : List String :=
  (tables.scoredTrials experiment_id).map ExperimentTrialModel.variant_id

/-- The exact mean score of a variant in an experiment. -/
def variantMean (tables : ExperimentTables) (experiment_id : Nat) (variant_id : String) : ℚ :=
  exactMean (scoresOf (tables.scoredTrials experiment_id) variant_id)

/-- Its mean as a float, rounded to four decimals. -/
def variantAverage (tables : ExperimentTables) (experiment_id : Nat) (variant_id : String) : ℚ :=
  roundFloat 4 (toFloat (variantMean tables experiment_id variant_id))

theorem scoresOf_perm {first second : List ExperimentTrialModel} (perm : first.Perm second)
    (variant_id : String) : (scoresOf first variant_id).Perm (scoresOf second variant_id) :=
  (perm.filter _).flatMap_right _

theorem scoresOf_ne_nil {tables : ExperimentTables} {experiment_id : Nat} {variant_id : String}
    (scored : variant_id ∈ scoredVariants tables experiment_id) :
    scoresOf (tables.scoredTrials experiment_id) variant_id ≠ [] := by
  obtain ⟨trial, member, rfl⟩ := List.mem_map.mp scored
  have hasScore : trial.score.isSome := by
    have selected := (List.mem_filter.mp member).2
    simp only [decide_eq_true_eq] at selected
    exact selected.2
  obtain ⟨score, isScore⟩ := Option.isSome_iff_exists.mp hasScore
  have isScored : score ∈ scoresOf (tables.scoredTrials experiment_id) trial.variant_id :=
    List.mem_flatMap.mpr ⟨trial, List.mem_filter.mpr ⟨member, by simp⟩, by simp [isScore]⟩
  exact List.ne_nil_of_mem isScored

/-! ## Grouping -/

/-- The loop of `get_results` groups the scores by variant. -/
theorem groupTrial_scores (trials : List ExperimentTrialModel)
    (groups : OrderedDict String (List ℚ) × OrderedDict String Parameters) :
    (trials.foldl groupTrial groups).1 =
      groups.1.accumulate ExperimentTrialModel.variant_id
        (fun scores trial => scores.getD [] ++ trial.score.toList) trials := by
  induction trials generalizing groups with
  | nil => rfl
  | cons trial rest ih => exact ih (groupTrial groups trial)

/-- The groups are a tally of the trials. -/
theorem grouped_eq_tally (trials : List ExperimentTrialModel) :
    (trials.foldl groupTrial (.empty, .empty)).1 =
      OrderedDict.tally ExperimentTrialModel.variant_id
        (fun scores trial => scores ++ trial.score.toList) [] trials :=
  groupTrial_scores trials (.empty, .empty)

/-- A variant has a group exactly when it has a trial, and the group holds its scores. -/
theorem get?_grouped (trials : List ExperimentTrialModel) (variant_id : String) :
    (trials.foldl groupTrial (.empty, .empty)).1.get? variant_id =
      if variant_id ∈ trials.map ExperimentTrialModel.variant_id then
        some (scoresOf trials variant_id)
      else none := by
  rw [grouped_eq_tally, OrderedDict.get?_tally, List.foldl_append_eq_append, List.nil_append]
  simp only [OrderedDict.mem_keys_iff_filter_ne_nil, ne_eq, ite_not]
  rfl

/-- **The result rows.** There is one for each variant with a trial, and it aggregates
the scores of that variant. -/
theorem mem_variantResults_iff {trials : List ExperimentTrialModel} {row : VariantResult} :
    row ∈ variantResults trials ↔
      ∃ variant_id ∈ trials.map ExperimentTrialModel.variant_id,
        row = variantResult (trials.foldl groupTrial (.empty, .empty)).2 variant_id
          (scoresOf trials variant_id) := by
  refine (mem_sortDescending.trans List.mem_map).trans ⟨?_, ?_⟩
  · rintro ⟨⟨variant_id, scores⟩, entry, rfl⟩
    have found := (OrderedDict.mem_entries_iff _).mp entry
    rw [get?_grouped] at found
    split at found
    · rename_i present
      exact ⟨variant_id, present, by rw [Option.some.inj found]⟩
    · cases found
  · rintro ⟨variant_id, present, rfl⟩
    refine ⟨(variant_id, scoresOf trials variant_id), ?_, rfl⟩
    rw [OrderedDict.mem_entries_iff, get?_grouped, if_pos present]

/-- The average of a row is the rounded mean of its variant's scores. -/
theorem mem_variantResults {trials : List ExperimentTrialModel} {row : VariantResult}
    (member : row ∈ variantResults trials) :
    row.variant_id ∈ trials.map ExperimentTrialModel.variant_id ∧
      row.scores = scoresOf trials row.variant_id ∧
      row.avg_score = if row.scores = [] then 0 else roundFloat 4 (mean row.scores) := by
  obtain ⟨variant_id, present, rfl⟩ := mem_variantResults_iff.mp member
  exact ⟨present, rfl, rfl⟩

theorem exists_mem_variantResults {trials : List ExperimentTrialModel} {variant_id : String}
    (present : variant_id ∈ trials.map ExperimentTrialModel.variant_id) :
    ∃ row ∈ variantResults trials, row.variant_id = variant_id :=
  ⟨_, mem_variantResults_iff.mpr ⟨variant_id, present, rfl⟩, rfl⟩

/-! ## The best variant -/

/-- A variant whose rounded mean no scored variant exceeds. -/
def IsBestRounded (tables : ExperimentTables) (experiment_id : Nat) (variant_id : String) : Prop :=
  variant_id ∈ scoredVariants tables experiment_id ∧
    ∀ other ∈ scoredVariants tables experiment_id,
      variantAverage tables experiment_id other ≤
        variantAverage tables experiment_id variant_id

/-- A variant with the best rounded average. One with a better exact mean has the same
rounded average, and is better by no more than a ten-thousandth, up to the precision of
floats. -/
structure IsBestUpToRounding (tables : ExperimentTables) (experiment_id : Nat) (winner : String) :
    Prop where
  best : IsBestRounded tables experiment_id winner
  ties : ∀ other ∈ scoredVariants tables experiment_id,
    variantMean tables experiment_id winner < variantMean tables experiment_id other →
      variantAverage tables experiment_id other = variantAverage tables experiment_id winner
  close : ∀ other ∈ scoredVariants tables experiment_id,
    variantMean tables experiment_id other ≤ variantMean tables experiment_id winner + 1 / 10000 +
      (3 * |variantMean tables experiment_id other| +
        3 * |variantMean tables experiment_id winner| + 8) / 2 ^ 53

section Detection

variable {tables : ExperimentTables} {order : RowOrder} {experiment_id : Nat}

/-- The average of a result row is the rounded mean of its variant, whatever the
order in which the trials were read. -/
theorem avg_score_eq {row : VariantResult}
    (member : row ∈ variantResults (order.arrange (tables.scoredTrials experiment_id))) :
    row.variant_id ∈ scoredVariants tables experiment_id ∧
      row.avg_score = variantAverage tables experiment_id row.variant_id := by
  have perm := order.arrange_perm (tables.scoredTrials experiment_id)
  obtain ⟨present, scores, average⟩ := mem_variantResults member
  have scored : row.variant_id ∈ scoredVariants tables experiment_id :=
    (perm.map _).mem_iff.mp present
  have samePerm := scoresOf_perm perm row.variant_id
  have notEmpty : row.scores ≠ [] := by
    rw [scores]
    exact fun empty => scoresOf_ne_nil scored (List.Perm.eq_nil (empty ▸ samePerm).symm)
  refine ⟨scored, ?_⟩
  rw [average, if_neg notEmpty, scores, mean, exactMean_perm samePerm]
  rfl

/-- The first result row is a variant with the best rounded mean. -/
theorem first_result_isBestRounded {best : VariantResult} {rest : List VariantResult}
    (split : variantResults (order.arrange (tables.scoredTrials experiment_id)) = best :: rest) :
    IsBestRounded tables experiment_id best.variant_id := by
  have perm := order.arrange_perm (tables.scoredTrials experiment_id)
  have bestMember : best ∈ variantResults (order.arrange (tables.scoredTrials experiment_id)) :=
    split ▸ List.mem_cons_self
  obtain ⟨bestScored, bestAverage⟩ := avg_score_eq bestMember
  refine ⟨bestScored, fun other otherScored => ?_⟩
  have present := (perm.map ExperimentTrialModel.variant_id).mem_iff.mpr otherScored
  obtain ⟨row, rowMember, rfl⟩ := exists_mem_variantResults present
  have greatest := (head_sortDescending (show (variantResults _).head? = some best by
    rw [split]; rfl)).2 row (mem_sortDescending.mp rowMember)
  rwa [(avg_score_eq rowMember).2, bestAverage] at greatest

/-- A best variant that no other one equals is the only best one. -/
theorem IsBestRounded.eq_of_unique {winner other : String}
    (best : IsBestRounded tables experiment_id winner)
    (otherBest : IsBestRounded tables experiment_id other)
    (unique : ∀ variant_id ∈ scoredVariants tables experiment_id, variant_id ≠ winner →
      variantAverage tables experiment_id variant_id <
        variantAverage tables experiment_id winner) : other = winner := by
  by_contra different
  exact absurd (otherBest.2 winner best.1) (not_le.mpr (unique other otherBest.1 different))

/-- With a scored trial there is a result row. -/
theorem variantResults_ne_nil (scored : tables.scoredTrials experiment_id ≠ []) :
    variantResults (order.arrange (tables.scoredTrials experiment_id)) ≠ [] := by
  obtain ⟨trial, member⟩ := List.exists_mem_of_ne_nil _ scored
  have arranged := (order.arrange_perm _).mem_iff.mpr member
  have present : trial.variant_id ∈
      (order.arrange (tables.scoredTrials experiment_id)).map ExperimentTrialModel.variant_id :=
    List.mem_map_of_mem arranged
  obtain ⟨row, rowMember, -⟩ := exists_mem_variantResults present
  exact List.ne_nil_of_mem rowMember

/-- What concluding without a winner does to a running experiment: it stores the
variant of the first result row. -/
theorem conclude_eq_of_first {experiment : ExperimentModel} {best : VariantResult}
    {rest : List VariantResult} (found : getExperiment tables experiment_id = .ok experiment)
    (running : experiment.status = .running)
    (split : variantResults (order.arrange (tables.scoredTrials experiment_id)) = best :: rest)
    (now : Timestamp) :
    conclude tables order now experiment_id none =
      .ok ({ experiment with
          status := .completed
          winner_variant_id := some best.variant_id
          concluded_at := some now },
        tables.updateExperiment { experiment with
          status := .completed
          winner_variant_id := some best.variant_id
          concluded_at := some now }) := by
  simp [conclude, getResults, found, running, split, bind, Except.bind, pure, Except.pure]

/-- Concluding a running experiment with scored trials, without a winner, succeeds
and stores a variant with the best rounded mean. -/
theorem conclude_stores_best {experiment : ExperimentModel}
    (found : getExperiment tables experiment_id = .ok experiment)
    (running : experiment.status = .running) (scored : tables.scoredTrials experiment_id ≠ [])
    (order : RowOrder) (now : Timestamp) :
    ∃ concluded winner,
      conclude tables order now experiment_id none =
          .ok (concluded, tables.updateExperiment concluded) ∧
        concluded.winner_variant_id = some winner ∧
        IsBestRounded tables experiment_id winner := by
  cases split : variantResults (order.arrange (tables.scoredTrials experiment_id)) with
  | nil => exact absurd split (variantResults_ne_nil scored)
  | cons best rest =>
      exact ⟨_, _, conclude_eq_of_first found running split now, rfl,
        first_result_isBestRounded split⟩

/-- The average of a variant is close to its exact mean. -/
theorem abs_variantAverage_sub_le (tables : ExperimentTables) (experiment_id : Nat)
    (variant_id : String) :
    |variantAverage tables experiment_id variant_id - variantMean tables experiment_id variant_id| ≤
      1 / 20000 + (3 * |variantMean tables experiment_id variant_id| + 4) / 2 ^ 53 := by
  have close := abs_roundFloat_toFloat_sub_le 4 (variantMean tables experiment_id variant_id)
  norm_num at close ⊢
  exact close

theorem IsBestRounded.isBestUpToRounding {winner : String}
    (best : IsBestRounded tables experiment_id winner) :
    IsBestUpToRounding tables experiment_id winner where
  best := best
  ties := by
    intro other otherScored better
    exact le_antisymm (best.2 other otherScored) (roundFloat_toFloat_mono 4 better.le)
  close := by
    intro other otherScored
    have rounded := best.2 other otherScored
    have otherClose := abs_le.mp (abs_variantAverage_sub_le tables experiment_id other)
    have winnerClose := abs_le.mp (abs_variantAverage_sub_le tables experiment_id winner)
    linarith [otherClose.1, winnerClose.2]

end Detection

/-- **The detected winner.** Concluding a running experiment that has scored trials,
without naming a winner, stores a variant whose rounded average is the best. A variant
with a better exact mean has the same rounded average, and its mean is better by no more
than a ten-thousandth, up to the precision of floats. When no other variant has the same
rounded average, every order of the rows gives the same winner. -/
theorem conclude_detects_best_rounded_mean (tables : ExperimentTables) (order : RowOrder)
    (now : Timestamp) (experiment_id : Nat) (experiment : ExperimentModel)
    (found : getExperiment tables experiment_id = .ok experiment)
    (running : experiment.status = .running) (scored : tables.scoredTrials experiment_id ≠ []) :
    ∃ concluded committed winner,
      conclude tables order now experiment_id none = .ok (concluded, committed) ∧
      concluded.winner_variant_id = some winner ∧
      committed = tables.updateExperiment concluded ∧
      IsBestUpToRounding tables experiment_id winner ∧
      ((∀ other ∈ scoredVariants tables experiment_id, other ≠ winner →
          variantAverage tables experiment_id other <
            variantAverage tables experiment_id winner) →
        ∀ (otherOrder : RowOrder) (later : Timestamp), ∃ concluded' committed',
          conclude tables otherOrder later experiment_id none =
              .ok (concluded', committed') ∧
            concluded'.winner_variant_id = some winner) := by
  obtain ⟨concluded, winner, concludes, stored, best⟩ :=
    conclude_stores_best found running scored order now
  refine ⟨_, _, winner, concludes, stored, rfl, best.isBestUpToRounding, ?_⟩
  intro unique otherOrder later
  obtain ⟨concluded', otherWinner, otherConcludes, otherStored, otherBest⟩ :=
    conclude_stores_best found running scored otherOrder later
  have same : otherWinner = winner := best.eq_of_unique otherBest unique
  exact ⟨_, _, otherConcludes, by rw [otherStored, same]⟩

/-! ## Two variants that round to the same average -/

/-- A running experiment with two variants. -/
def closeRace : ExperimentModel where
  id := 1
  name := "close-race"
  description := ""
  status := .running
  allocation_strategy := "ab_test"
  parameter_space := .dict [("parameters", .list [])]
  variants := [⟨"first", []⟩, ⟨"second", []⟩]
  scoring_pipeline_id := none
  traffic_percentage := 100
  winner_variant_id := none
  concluded_at := none
  created_at := 0

/-- A scored trial of the close race. -/
def closeRaceTrial (id : Nat) (variant_id : String) (score : ℚ) : ExperimentTrialModel where
  id := id
  experiment_id := 1
  variant_id := variant_id
  trace_id := ""
  parameters := []
  input_text := ""
  output_text := ""
  score := some score

/-- The second variant scored better, by less than the rounding shows. -/
def closeRaceTables : ExperimentTables where
  experiments := [closeRace]
  trials := [closeRaceTrial 1 "first" (65537 / 131072), closeRaceTrial 2 "second" (32769 / 65536)]
  experimentIdUnique := by decide
  experimentNameUnique := by decide
  trialIdUnique := by decide

theorem conclude_close_race_detects_best_rounded_mean :
    ∃ concluded committed winner,
      conclude closeRaceTables .insertion 5 1 none = .ok (concluded, committed) ∧
      concluded.winner_variant_id = some winner ∧
      committed = closeRaceTables.updateExperiment concluded ∧
      IsBestUpToRounding closeRaceTables 1 winner ∧
      ((∀ other ∈ scoredVariants closeRaceTables 1, other ≠ winner →
          variantAverage closeRaceTables 1 other <
            variantAverage closeRaceTables 1 winner) →
        ∀ (otherOrder : RowOrder) (later : Timestamp), ∃ concluded' committed',
          conclude closeRaceTables otherOrder later 1 none =
              .ok (concluded', committed') ∧
            concluded'.winner_variant_id = some winner) :=
  conclude_detects_best_rounded_mean closeRaceTables .insertion 5 1 closeRace rfl rfl
    (List.cons_ne_nil _ _)

/-- **Rounding hides the better variant.** Two means that differ in the fifth decimal
round to the same average, and the variant whose trial was read first is stored. -/
theorem rounding_hides_the_better_variant :
    ¬ ∀ (tables : ExperimentTables) (order : RowOrder) (now : Timestamp) (experiment_id : Nat)
        (concluded : ExperimentModel) (committed : ExperimentTables) (winner : String),
      tables.scoredTrials experiment_id ≠ [] →
      conclude tables order now experiment_id none =
          .ok (concluded, committed) →
        concluded.winner_variant_id = some winner →
          ∀ other ∈ scoredVariants tables experiment_id,
            variantMean tables experiment_id other ≤ variantMean tables experiment_id winner := by
  intro always
  have firstRow : (variantResults (closeRaceTables.scoredTrials 1)).head?.map
      VariantResult.variant_id = some "first" := by decide +kernel
  cases split : variantResults (closeRaceTables.scoredTrials 1) with
  | nil => simp [split] at firstRow
  | cons best rest =>
      have isFirst : best.variant_id = "first" := by simpa [split] using firstRow
      have found : getExperiment closeRaceTables 1 = .ok closeRace := rfl
      have inserted : variantResults (RowOrder.insertion.arrange (closeRaceTables.scoredTrials 1)) =
          best :: rest := split
      have concludes := conclude_eq_of_first found rfl inserted 5
      have notBelow := always closeRaceTables .insertion 5 1 _ _ best.variant_id
        (List.cons_ne_nil _ _) concludes rfl "second" (by decide)
      rw [isFirst] at notBelow
      revert notBelow
      decide +kernel

end LlmopsPlatform.Tuning
