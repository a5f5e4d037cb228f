import LlmopsPlatform.Tuning.Winner

/-!
# The result rows as a partition of the scored trials

The loop of `get_results` puts every scored trial of an experiment into the group of its
variant. So each variant with a scored trial has exactly one row, the rows hold every score
once, and each row states the count, the least and the greatest of its own scores
(`results_partition_trials`).

The average is the mean as a float, rounded to four decimals. Its distance to the exact mean
is at most half of the last decimal up to the precision of floats, and it can exceed the half
(`rounding_exceeds_half_a_decimal`).
-/

set_option autoImplicit false

namespace LlmopsPlatform.Tuning

open Foundations Python Database ExperimentRunner

/-- A row states the statistics of some scores. -/
structure Aggregates (row : VariantResult) (scores : List ℚ) : Prop where
  scores_eq : row.scores = scores
  sample_count : row.sample_count = scores.length
  min_score : IsLeast {score | score ∈ scores} row.min_score
  max_score : IsGreatest {score | score ∈ scores} row.max_score
  avg_score : |row.avg_score - exactMean scores| ≤
    1 / 20000 + (3 * |exactMean scores| + 4) / 2 ^ 53

/-- The rows divide the scored trials of an experiment, which were read in some order. -/
structure PartitionsTrials (tables : ExperimentTables) (order : RowOrder) (experiment_id : Nat)
    (results : ExperimentResults) : Prop where
  distinct : UniqueKey VariantResult.variant_id results.results
  has_row_iff : ∀ variant_id, (∃ row ∈ results.results, row.variant_id = variant_id) ↔
    ∃ trial ∈ tables.trials, trial.experiment_id = experiment_id ∧ trial.score.isSome ∧
      trial.variant_id = variant_id
  aggregates : ∀ row ∈ results.results,
    Aggregates row (scoresOf (order.arrange (tables.scoredTrials experiment_id)) row.variant_id)
  total : (results.results.map VariantResult.sample_count).sum = results.total_trials
  descending : results.results.Pairwise fun first second => second.avg_score ≤ first.avg_score

section Rows

variable {trials : List ExperimentTrialModel}

/-- The rows are those of the groups, in another order. -/
theorem variantResults_perm (trials : List ExperimentTrialModel) :
    (variantResults trials).Perm
      ((trials.foldl groupTrial (.empty, .empty)).1.entries.map fun entry =>
        variantResult (trials.foldl groupTrial (.empty, .empty)).2 entry.1 entry.2) :=
  sortDescending_perm VariantResult.avg_score _

/-- **No two rows** are about the same variant. -/
theorem uniqueKey_variantResults (trials : List ExperimentTrialModel) :
    UniqueKey VariantResult.variant_id (variantResults trials) := by
  have rows := (variantResults_perm trials).map VariantResult.variant_id
  rw [List.map_map] at rows
  exact rows.nodup_iff.mpr (trials.foldl groupTrial (.empty, .empty)).1.keysUnique

/-- **The counts add up** to the number of trials, when all of them have a score. -/
theorem sum_sample_count (scored : ∀ trial ∈ trials, trial.score.isSome) :
    ((variantResults trials).map VariantResult.sample_count).sum = trials.length := by
  have rows := (variantResults_perm trials).map VariantResult.sample_count
  have tallied := @OrderedDict.sum_tally String (List ℚ) ExperimentTrialModel _
    ExperimentTrialModel.variant_id (fun scores trial => scores ++ trial.score.toList) [] ℕ _
    List.length (fun trial => trial.score.toList.length)
    (fun scores trial => List.length_append) rfl trials
  have ones : trials.map (fun trial => trial.score.toList.length) = trials.map fun _ => 1 := by
    refine List.map_congr_left fun trial member => ?_
    obtain ⟨score, isScore⟩ := Option.isSome_iff_exists.mp (scored trial member)
    rw [isScore]
    rfl
  rw [List.map_map, grouped_eq_tally] at rows
  calc
    _ = _ := rows.sum_eq
    _ = (trials.map fun trial => trial.score.toList.length).sum := tallied
    _ = trials.length := by simp [ones]

/-- **A row aggregates** the scores of its variant. -/
theorem aggregates_variantResult (variant_params : OrderedDict String Parameters)
    (variant_id : String) {scores : List ℚ} (filled : scores ≠ []) :
    Aggregates (variantResult variant_params variant_id scores) scores where
  scores_eq := rfl
  sample_count := rfl
  min_score := by
    cases least : scores.min? with
    | none => exact absurd (List.min?_eq_none_iff.mp least) filled
    | some score =>
        have found := List.min?_eq_some_iff.mp least
        rw [variantResult, least]
        exact ⟨found.1, fun other member => found.2 other member⟩
  max_score := by
    cases greatest : scores.max? with
    | none => exact absurd (List.max?_eq_none_iff.mp greatest) filled
    | some score =>
        have found := List.max?_eq_some_iff.mp greatest
        rw [variantResult, greatest]
        exact ⟨found.1, fun other member => found.2 other member⟩
  avg_score := by
    have close := abs_roundFloat_toFloat_sub_le 4 (exactMean scores)
    have half : (1 : ℚ) / 2 / 10 ^ 4 = 1 / 20000 := by norm_num
    rw [half] at close
    rw [variantResult, if_neg filled]
    exact close

end Rows

/-- **The rows partition the scored trials.** For any trials of any experiments and any order
in which they are read, `get_results` of an experiment returns rows with distinct variants.
A variant has a row exactly when it has a scored trial in the experiment. A row has the
scores of its variant in the order read, their number, their least and greatest one, and
their mean up to half of the fourth decimal and the precision of floats. The counts add up to
the total, and the averages descend. -/
theorem results_partition_trials (tables : ExperimentTables) (order : RowOrder)
    (experiment : ExperimentModel) (stored : experiment ∈ tables.experiments) :
    ∃ results, getResults tables order experiment.id = .ok results ∧
      PartitionsTrials tables order experiment.id results := by
  have perm := order.arrange_perm (tables.scoredTrials experiment.id)
  have mem_arranged {trial : ExperimentTrialModel} :
      trial ∈ order.arrange (tables.scoredTrials experiment.id) ↔
        trial ∈ tables.trials ∧ trial.experiment_id = experiment.id ∧ trial.score.isSome := by
    rw [perm.mem_iff, ExperimentTables.scoredTrials, List.mem_filter, decide_eq_true_iff]
  refine ⟨_, by rw [getResults, getExperiment_of_mem stored]; rfl, ?_⟩
  constructor
  · exact uniqueKey_variantResults _
  · intro variant_id
    constructor
    · rintro ⟨row, isRow, rfl⟩
      obtain ⟨trial, member, same⟩ := List.mem_map.mp (mem_variantResults isRow).1
      obtain ⟨isTrial, identified, scored⟩ := mem_arranged.mp member
      exact ⟨trial, isTrial, identified, scored, same⟩
    · rintro ⟨trial, isTrial, identified, scored, rfl⟩
      exact exists_mem_variantResults
        (List.mem_map_of_mem (mem_arranged.mpr ⟨isTrial, identified, scored⟩))
  · intro row isRow
    obtain ⟨variant_id, present, rfl⟩ := mem_variantResults_iff.mp isRow
    refine aggregates_variantResult _ _ fun empty => ?_
    have scored : variant_id ∈ scoredVariants tables experiment.id :=
      (perm.map _).mem_iff.mp present
    have samePerm := scoresOf_perm perm variant_id
    rw [empty] at samePerm
    exact scoresOf_ne_nil scored samePerm.nil_eq.symm
  · exact sum_sample_count fun trial member => (mem_arranged.mp member).2.2
  · exact sortDescending_pairwise _ _

/-- The rows of the close race. -/
theorem closeRace_partition :
    ∃ results, getResults closeRaceTables .insertion 1 = .ok results ∧
      PartitionsTrials closeRaceTables .insertion 1 results :=
  results_partition_trials closeRaceTables .insertion closeRace (List.mem_singleton.mpr rfl)

/-- One trial, whose score is half of the fourth decimal. -/
def halfDecimalTables : ExperimentTables :=
  { closeRaceTables with
    trials := [closeRaceTrial 1 "first" (toFloat (1 / 20000))]
    trialIdUnique := List.nodup_singleton 1 }

/-- **Rounding can exceed half of the last decimal**, since neither the half nor the rounded
average is exactly a float. -/
theorem rounding_exceeds_half_a_decimal :
    ¬∀ (tables : ExperimentTables) (order : RowOrder) (experiment_id : Nat)
        (results : ExperimentResults), getResults tables order experiment_id = .ok results →
      ∀ row ∈ results.results, |row.avg_score - exactMean row.scores| ≤ 1 / 20000 := by
  intro always
  have close := always halfDecimalTables .insertion 1 _ rfl
    (variantResult (halfDecimalTables.trials.foldl groupTrial (.empty, .empty)).2 "first"
      [toFloat (1 / 20000)])
    (mem_variantResults_iff.mpr ⟨"first", List.mem_singleton.mpr rfl, rfl⟩)
  revert close
  decide +kernel

end LlmopsPlatform.Tuning
