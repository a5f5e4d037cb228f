import LlmopsPlatform.Tuning.Lifecycle
import LlmopsPlatform.Tuning.Winner

/-!
# Which winners are stored

The winner of an experiment is whatever its conclusion was given, or the variant of the
first result row. Neither is compared with the variants of the experiment: a
conclusion accepts any text, and a trial may be recorded under any variant
identifier.

So the winner is one of the variants as long as the conclusions and the scored trials
name variants of their experiments (`winner_is_variant`).
-/

set_option autoImplicit false

namespace LlmopsPlatform.Tuning

open Foundations Foundations.TransitionSystem Python Database ExperimentRunner

/-- The identifiers of the variants of an experiment. -/
def ExperimentModel.variantIds (row : ExperimentModel) : List String :=
  row.variants.map ParameterSet.variant_id

/-- Every winner is one of the variants of its experiment. -/
def WinnersAreVariants (tables : ExperimentTables) : Prop :=
  ∀ row ∈ tables.experiments, ∀ winner ∈ row.winner_variant_id, winner ∈ row.variantIds

/-- A conclusion of a running experiment that is given a winner names one of its variants.
One that is not finds no scored trials but those of the variants, and when it is given
the empty text it finds some. -/
def ConcludesAmongVariants (step : RunnerTransition) : Prop :=
  ∀ row ∈ step.before.experiments, row.status = .running → ∀ order now given,
    step.label = .conclude order now row.id given →
      match given.filter (· ≠ "") with
      | some winner => winner ∈ row.variantIds
      | none =>
          (∀ trial ∈ step.before.scoredTrials row.id, trial.variant_id ∈ row.variantIds) ∧
            (given = some "" → step.before.scoredTrials row.id ≠ [])

/-- The detected winner is the variant of a scored trial. -/
theorem first_result_mem {tables : ExperimentTables} {order : RowOrder} {experiment_id : Nat}
    {best : VariantResult} {rest : List VariantResult}
    (split : variantResults (order.arrange (tables.scoredTrials experiment_id)) = best :: rest) :
    ∃ trial ∈ tables.scoredTrials experiment_id, trial.variant_id = best.variant_id := by
  have member : best ∈ variantResults (order.arrange (tables.scoredTrials experiment_id)) :=
    split ▸ List.mem_cons_self
  obtain ⟨trial, trialMember, same⟩ := List.mem_map.mp (avg_score_eq member).1
  exact ⟨trial, trialMember, same⟩

/-- The winner that such a conclusion stores is a variant. -/
theorem winnerToStore_mem {step : RunnerTransition} (among : ConcludesAmongVariants step)
    {row : ExperimentModel} (member : row ∈ step.before.experiments)
    (running : row.status = .running) {order : RowOrder}
    {now : Timestamp} {given : Option String}
    (isConclude : step.label = .conclude order now row.id given) :
    ∀ winner ∈ winnerToStore given
      (variantResults (order.arrange (step.before.scoredTrials row.id))),
      winner ∈ row.variantIds := by
  have allowed := among row member running order now given isConclude
  intro winner stored
  unfold winnerToStore at stored
  cases chosen : given.filter (· ≠ "") with
  | some named =>
      rw [chosen] at stored allowed
      obtain rfl : named = winner := Option.some.inj stored
      exact allowed
  | none =>
      rw [chosen] at stored allowed
      cases split : variantResults (order.arrange (step.before.scoredTrials row.id)) with
      | cons best rest =>
          rw [split] at stored
          obtain rfl : best.variant_id = winner := Option.some.inj stored
          obtain ⟨trial, trialMember, same⟩ := first_result_mem split
          exact same ▸ allowed.1 trial trialMember
      | nil =>
          rw [split] at stored
          obtain rfl : given = some winner := stored
          have empty : winner = "" := by
            by_contra notEmpty
            simp [Option.filter, notEmpty] at chosen
          exact absurd split (variantResults_ne_nil (allowed.2 (by rw [empty])))

/-- **The stored winner is a variant.** In every state of a run whose conclusions and
scored trials name variants of their experiments, every winner is one of the variants of
its experiment. -/
theorem winner_is_variant (start finish : ExperimentTables) (transitions : List RunnerTransition)
    (initial : runnerSystem.initial start) (run : runnerSystem.Run start transitions finish)
    (among : ∀ step ∈ transitions, ConcludesAmongVariants step) :
    WinnersAreVariants finish ∧ ∀ step ∈ transitions, WinnersAreVariants step.before := by
  refine run.invariant WinnersAreVariants ?_ ?_ among
  · intro step variants taken stepAmong later member winner stored
    obtain ⟨outcome, -, effect⟩ := runnerNext_effect taken
    rcases effect.row_before member with ⟨row, rowMember, rowStep⟩ | ⟨created, -⟩
    · cases rowStep with
      | same => exact variants later rowMember winner stored
      | started isCall draft => exact variants row rowMember winner stored
      | concluded order now given named isCall running isStored =>
          subst isStored
          exact winnerToStore_mem stepAmong rowMember running isCall winner stored
      | cancelled isCall => exact variants row rowMember winner stored
    · obtain ⟨config, outside, chosen, -, -, rfl⟩ := created
      simp [experimentRow] at stored
  · obtain rfl : start = ExperimentTables.empty := initial
    simp [WinnersAreVariants, ExperimentTables.empty]

/-- The running experiment, and its conclusion with its variant as the winner. -/
def concludesFormal : RunnerTransition where
  before := tablesOf
    { experimentRow oneVariant firstIdentifier oneVariant.variants with status := .running }
  label := .conclude .insertion 5 1 (some "formal")
  after := tablesOf (completedTone "formal")

/-- A conclusion that names the variant stores a variant. -/
theorem formal_winner_is_variant : WinnersAreVariants concludesFormal.after := by
  have executed : runnerSystem.execute (concludedTwice.take 2) ExperimentTables.empty =
      some concludesFormal.before := rfl
  obtain ⟨earlier, run, labels⟩ := exists_run_of_execute executed
  have concluded : runnerSystem.next concludesFormal.before concludesFormal.label =
      some concludesFormal.after := rfl
  refine (winner_is_variant _ _ _ rfl (run.snoc concluded) ?_).1
  intro step member row rowMember running order now given isConclude
  rcases List.mem_append.mp member with inEarlier | isLast
  · have inLabels : step.label ∈ concludedTwice.take 2 := labels ▸ List.mem_map_of_mem inEarlier
    simp [isConclude, concludedTwice] at inLabels
  · obtain rfl := List.mem_singleton.mp isLast
    obtain rfl := List.mem_singleton.mp rowMember
    obtain rfl : some "formal" = given := (RunnerCall.conclude.inj isConclude).2.2.2
    simp [ExperimentModel.variantIds, experimentRow, oneVariant, Option.filter]

/-- **Any text can be stored as the winner.** -/
theorem unknown_winner_is_stored :
    ¬ ∀ (start finish : ExperimentTables) (transitions : List RunnerTransition),
      runnerSystem.initial start → runnerSystem.Run start transitions finish →
        WinnersAreVariants finish := by
  intro always
  have executed : runnerSystem.execute
      [.create oneVariant firstIdentifier, .start 1, .conclude .insertion 5 1 (some "casual")]
      ExperimentTables.empty = some (tablesOf (completedTone "casual")) := rfl
  obtain ⟨transitions, run, -⟩ := exists_run_of_execute executed
  have isVariant := always _ _ _ rfl run _ (List.mem_singleton.mpr rfl) "casual" rfl
  simp [completedTone, experimentRow, oneVariant, ExperimentModel.variantIds] at isVariant

end LlmopsPlatform.Tuning
