import LlmopsPlatform.Foundations.Effectful
import LlmopsPlatform.Scoring.Base

/-!
# The scoring pipeline

A pipeline is built from a list of scorer configurations: the weights are divided by
their total, once and for all. A run asks every scorer, skips those that raise, and adds
the values of the others, each times its normalized weight.

It computes with the operations of an `Arithmetic` (`run_ofConfigs`).
-/

set_option autoImplicit false

namespace LlmopsPlatform.Scoring

open Foundations Python

/-- The configuration that a scorer is given. -/
abbrev Config := List (String × Json)

/-- An instance of a scoring strategy. -/
structure Scorer where
  strategy : String
deriving DecidableEq, Repr

/-- The keys of `_registry`, in the order in which they were registered. -/
abbrev Registry := List String

/-- The registry after `_register_defaults`. -/
def defaultRegistry : Registry := ["rule_based", "llm_judge", "embedding", "composite"]

/-- `get_scorer`. -/
def getScorer (registry : Registry) (name : String) : Except PyException Scorer :=
  if name ∈ registry then .ok ⟨name⟩
  else
    let available := "[" ++ ", ".intercalate (registry.map fun key => "'" ++ key ++ "'") ++ "]"
    .error (.valueError
      ("Unknown scoring strategy '" ++ name ++ "'. Available: " ++ available))

/-- An entry of the list `_scorers`. -/
structure WeightedScorer (Number : Type := Double) where
  scorer : Scorer
  weight : Number
  config : Config

/-- The texts of one run. -/
structure ScoringInput where
  input_text : String
  output_text : String
  reference : Option String
  context : Option Config

/-- What the scorers do on one run: what the scorer at each position returns or raises. -/
abbrev ScorerAnswers (Number : Type := Double) :=
  Nat → Scorer → ScoringInput → Config → Except PyException (ScoreResult Number)

structure ScoringPipeline (Number : Type := Double) where
  configs : List (ScorerConfig Number)
  scorers : List (WeightedScorer Number)

namespace ScoringPipeline

variable {Number : Type} [Arithmetic Number]

/-- An entry with its weight divided by the total of all weights. -/
def normalize (registry : Registry) (total_weight : Number) (sc : ScorerConfig Number) :
    Except PyException (WeightedScorer Number) := do
  let scorer ← getScorer registry sc.strategy
  pure
    { scorer
      weight :=
        if Arithmetic.IsPositive total_weight then Arithmetic.div sc.weight total_weight
        else Arithmetic.zero
      config := sc.config }

/-- `ScoringPipeline.__init__`. -/
def init (registry : Registry) (scorer_configs : List (ScorerConfig Number)) :
    Except PyException (ScoringPipeline Number) := do
  let total_weight := Arithmetic.sum (scorer_configs.map ScorerConfig.weight)
  let scorers ← scorer_configs.mapM (normalize registry total_weight)
  pure { configs := scorer_configs, scorers }

section Run

variable (pipeline : ScoringPipeline Number) (answers : ScorerAnswers Number)
  (input : ScoringInput)

/-- `asyncio.gather(*tasks, return_exceptions=True)`. -/
def gather : List (Except PyException (ScoreResult Number)) :=
  pipeline.scorers.mapIdx fun position entry =>
    answers position entry.scorer input entry.config

/-- One round of the loop over the scorers and their results. The pair holds
`individual_scores` and `weighted_sum`. -/
def collect (collected : List (ScoreResult Number) × Number)
    (entry : WeightedScorer Number × Except PyException (ScoreResult Number)) :
    List (ScoreResult Number) × Number :=
  match entry.2 with
  | .error _ => collected
  | .ok result =>
      (collected.1 ++ [result],
        Arithmetic.add collected.2 (Arithmetic.mul result.value entry.1.weight))

/-- `ScoringPipeline.run`. -/
def run : PipelineResult Number :=
  let (individual_scores, weighted_sum) :=
    (pipeline.scorers.zip (pipeline.gather answers input)).foldl collect ([], Arithmetic.zero)
  { individual_scores, aggregate_score := Arithmetic.round 4 weighted_sum }

end Run

/-! ## Building a pipeline -/

/-- The exception of `get_scorer` for a name that is not registered. -/
def unknownStrategy (registry : Registry) (name : String) : PyException :=
  .valueError ("Unknown scoring strategy '" ++ name ++ "'. Available: " ++
    ("[" ++ ", ".intercalate (registry.map fun key => "'" ++ key ++ "'") ++ "]"))

theorem getScorer_of_mem {registry : Registry} {name : String} (registered : name ∈ registry) :
    getScorer registry name = .ok ⟨name⟩ := if_pos registered

theorem getScorer_of_not_mem {registry : Registry} {name : String}
    (unregistered : name ∉ registry) :
    getScorer registry name = .error (unknownStrategy registry name) := if_neg unregistered

/-- The normalized weight of one of the configurations of a pipeline. -/
def share (scorer_configs : List (ScorerConfig Number)) (sc : ScorerConfig Number) : Number :=
  if Arithmetic.IsPositive (Arithmetic.sum (scorer_configs.map ScorerConfig.weight)) then
    Arithmetic.div sc.weight (Arithmetic.sum (scorer_configs.map ScorerConfig.weight))
  else Arithmetic.zero

/-- The entry of `_scorers` for one of the configurations of a pipeline. -/
def entryOf (scorer_configs : List (ScorerConfig Number)) (sc : ScorerConfig Number) :
    WeightedScorer Number :=
  ⟨⟨sc.strategy⟩, share scorer_configs sc, sc.config⟩

/-- The pipeline that is built when every strategy is registered. -/
def ofConfigs (scorer_configs : List (ScorerConfig Number)) : ScoringPipeline Number :=
  ⟨scorer_configs, scorer_configs.map (entryOf scorer_configs)⟩

theorem init_of_registered {registry : Registry} {scorer_configs : List (ScorerConfig Number)}
    (registered : ∀ sc ∈ scorer_configs, sc.strategy ∈ registry) :
    init registry scorer_configs = .ok (ofConfigs scorer_configs) := by
  have entries : scorer_configs.mapM
      (normalize registry (Arithmetic.sum (scorer_configs.map ScorerConfig.weight))) =
        .ok (scorer_configs.map (entryOf scorer_configs)) := by
    apply mapM_of_forall_ok
    intro sc member
    rw [normalize, getScorer_of_mem (registered sc member)]
    rfl
  rw [init]
  simp only [entries, bind, Except.bind, pure, Except.pure, ofConfigs]

/-- **Building a pipeline** succeeds when every strategy is registered. Otherwise it
raises for one that is not. -/
theorem init_cases (registry : Registry) (scorer_configs : List (ScorerConfig Number)) :
    ((∀ sc ∈ scorer_configs, sc.strategy ∈ registry) ∧
      init registry scorer_configs = .ok (ofConfigs scorer_configs)) ∨
    ∃ sc ∈ scorer_configs, sc.strategy ∉ registry ∧
      init registry scorer_configs = .error (unknownStrategy registry sc.strategy) := by
  by_cases registered : ∀ sc ∈ scorer_configs, sc.strategy ∈ registry
  · exact .inl ⟨registered, init_of_registered registered⟩
  · right
    cases built : scorer_configs.mapM
        (normalize registry (Arithmetic.sum (scorer_configs.map ScorerConfig.weight))) with
    | error failure =>
        obtain ⟨sc, member, raised⟩ := exists_of_mapM_error built
        by_cases known : sc.strategy ∈ registry
        · rw [normalize, getScorer_of_mem known] at raised
          cases raised
        · rw [normalize, getScorer_of_not_mem known] at raised
          cases raised
          refine ⟨sc, member, known, ?_⟩
          rw [init]
          simp only [built, bind, Except.bind]
    | ok entries =>
        refine absurd (fun sc member => ?_) registered
        obtain ⟨entry, -, normalized⟩ := exists_of_mapM_ok built member
        by_contra unknown
        rw [normalize, getScorer_of_not_mem unknown] at normalized
        cases normalized

/-! ## What a run reports -/

section Entries

variable (pipeline : ScoringPipeline Number) (answers : ScorerAnswers Number)
  (input : ScoringInput)

/-- The scorers of a run with what they returned or raised. -/
def entries : List (WeightedScorer Number × Except PyException (ScoreResult Number)) :=
  pipeline.scorers.zip (pipeline.gather answers input)

theorem foldl_collect_scores
    (found : List (WeightedScorer Number × Except PyException (ScoreResult Number)))
    (collected : List (ScoreResult Number) × Number) :
    (found.foldl collect collected).1 =
      collected.1 ++ found.filterMap fun entry => entry.2.toOption := by
  induction found generalizing collected with
  | nil => simp
  | cons entry rest ih =>
      rw [List.foldl_cons, ih]
      obtain ⟨weighted, failure | result⟩ := entry
      · simp [collect, Except.toOption]
      · simp [collect, Except.toOption]

theorem run_individual_scores :
    (pipeline.run answers input).individual_scores =
      (pipeline.entries answers input).filterMap fun entry => entry.2.toOption := by
  simp [run, entries, foldl_collect_scores]

/-- A run depends on the scorers and their answers. -/
theorem run_congr {pipeline : ScoringPipeline Number} {answers others : ScorerAnswers Number}
    (same : pipeline.entries answers input = pipeline.entries others input) :
    pipeline.run answers input = pipeline.run others input := by
  unfold entries at same
  rw [run, run, same]

/-- The scorers of a pipeline in the order of their configurations, with their answers. -/
theorem entries_ofConfigs (scorer_configs : List (ScorerConfig Number)) :
    (ofConfigs scorer_configs).entries answers input =
      scorer_configs.mapIdx fun position sc =>
        (entryOf scorer_configs sc, answers position ⟨sc.strategy⟩ input sc.config) := by
  apply List.ext_getElem
  · simp [entries, gather, ofConfigs]
  · intro position _ _
    simp [entries, gather, ofConfigs, entryOf]

/-- The configurations whose scorers returned, with what they returned. -/
def results (scorer_configs : List (ScorerConfig Number)) :
    List (ScorerConfig Number × ScoreResult Number) :=
  (scorer_configs.mapIdx fun position sc =>
      (sc, answers position ⟨sc.strategy⟩ input sc.config)).filterMap fun outcome =>
    outcome.2.toOption.map (Prod.mk outcome.1)

/-- The normalized weight of a configuration times the value its scorer returned. -/
def product (scorer_configs : List (ScorerConfig Number))
    (result : ScorerConfig Number × ScoreResult Number) : Number :=
  Arithmetic.mul result.2.value (share scorer_configs result.1)

theorem foldl_collect_entryOf (scorer_configs : List (ScorerConfig Number))
    (outcomes : List (ScorerConfig Number × Except PyException (ScoreResult Number)))
    (collected : List (ScoreResult Number) × Number) :
    (outcomes.map fun outcome => (entryOf scorer_configs outcome.1, outcome.2)).foldl collect
        collected =
      let returned := outcomes.filterMap fun outcome => outcome.2.toOption.map (Prod.mk outcome.1)
      (collected.1 ++ returned.map Prod.snd,
        (returned.map (product scorer_configs)).foldl Arithmetic.add collected.2) := by
  induction outcomes generalizing collected with
  | nil => simp
  | cons outcome rest ih =>
      rw [List.map_cons, List.foldl_cons, ih]
      obtain ⟨sc, failure | result⟩ := outcome
      · simp [collect, Except.toOption]
      · simp [collect, Except.toOption, product, entryOf]

/-- **A run** reports what the scorers returned and adds up their products. -/
theorem run_ofConfigs (scorer_configs : List (ScorerConfig Number)) :
    (ofConfigs scorer_configs).run answers input =
      { individual_scores := (results answers input scorer_configs).map Prod.snd
        aggregate_score := Arithmetic.round 4
          (((results answers input scorer_configs).map (product scorer_configs)).foldl
            Arithmetic.add Arithmetic.zero) } := by
  have outcomes : (ofConfigs scorer_configs).entries answers input =
      (scorer_configs.mapIdx fun position sc =>
        (sc, answers position ⟨sc.strategy⟩ input sc.config)).map fun outcome =>
          (entryOf scorer_configs outcome.1, outcome.2) := by
    rw [entries_ofConfigs]
    apply List.ext_getElem
    · simp
    · simp
  rw [entries] at outcomes
  rw [run, outcomes, foldl_collect_entryOf]
  rfl

omit [Arithmetic Number] in
/-- A result is what the scorer at some position returned. -/
theorem mem_results {scorer_configs : List (ScorerConfig Number)}
    {result : ScorerConfig Number × ScoreResult Number}
    (member : result ∈ results answers input scorer_configs) :
    ∃ position, scorer_configs[position]? = some result.1 ∧
      answers position ⟨result.1.strategy⟩ input result.1.config = .ok result.2 := by
  obtain ⟨⟨sc, answer⟩, isOutcome, returned⟩ := List.mem_filterMap.mp member
  obtain ⟨position, inRange, isHere⟩ := List.mem_mapIdx.mp isOutcome
  cases isHere
  cases answered : answers position ⟨scorer_configs[position].strategy⟩ input
      scorer_configs[position].config with
  | error failure =>
      rw [answered] at returned
      cases returned
  | ok found =>
      rw [answered] at returned
      cases returned
      exact ⟨position, List.getElem?_eq_getElem inRange, answered⟩

omit [Arithmetic Number] in
/-- The scorers that returned are some of all. -/
theorem results_sublist (scorer_configs : List (ScorerConfig Number)) :
    ((results answers input scorer_configs).map Prod.fst).Sublist scorer_configs := by
  have some_of (outcomes : List (ScorerConfig Number × Except PyException (ScoreResult Number))) :
      ((outcomes.filterMap fun outcome => outcome.2.toOption.map (Prod.mk outcome.1)).map
        Prod.fst).Sublist (outcomes.map Prod.fst) := by
    induction outcomes with
    | nil => exact List.Sublist.refl _
    | cons outcome rest ih =>
        obtain ⟨sc, failure | result⟩ := outcome
        · exact ih.cons sc
        · exact ih.cons_cons sc
  have all : (scorer_configs.mapIdx fun position sc =>
      (sc, answers position ⟨sc.strategy⟩ input sc.config)).map Prod.fst = scorer_configs := by
    apply List.ext_getElem
    · simp
    · simp
  have found := some_of (scorer_configs.mapIdx fun position sc =>
    (sc, answers position ⟨sc.strategy⟩ input sc.config))
  rwa [all] at found

omit [Arithmetic Number] in
/-- A sum over the scorers that returned is one over all when the others add zero. -/
theorem sum_results (value : ScorerConfig Number × Except PyException (ScoreResult Number) → ℚ)
    (scorer_configs : List (ScorerConfig Number))
    (zero : ∀ position sc failure, scorer_configs[position]? = some sc →
      answers position ⟨sc.strategy⟩ input sc.config = .error failure →
      value (sc, .error failure) = 0) :
    ((results answers input scorer_configs).map fun result => value (result.1, .ok result.2)).sum =
      (scorer_configs.mapIdx fun position sc =>
        value (sc, answers position ⟨sc.strategy⟩ input sc.config)).sum := by
  have sums (outcomes : List (ScorerConfig Number × Except PyException (ScoreResult Number)))
      (zeros : ∀ sc failure, (sc, .error failure) ∈ outcomes → value (sc, .error failure) = 0) :
      ((outcomes.filterMap fun outcome => outcome.2.toOption.map (Prod.mk outcome.1)).map
        fun result => value (result.1, .ok result.2)).sum = (outcomes.map value).sum := by
    induction outcomes with
    | nil => rfl
    | cons outcome rest ih =>
        have later := ih fun sc failure member => zeros sc failure (List.mem_cons_of_mem _ member)
        obtain ⟨sc, failure | result⟩ := outcome
        · rw [List.map_cons, List.sum_cons, zeros sc failure List.mem_cons_self, zero_add, ← later]
          rfl
        · rw [List.map_cons, List.sum_cons, ← later]
          rfl
  rw [results, sums]
  · congr 1
    apply List.ext_getElem
    · simp
    · simp
  · intro sc failure member
    obtain ⟨position, inRange, isHere⟩ := List.mem_mapIdx.mp member
    obtain ⟨rfl, answered⟩ := Prod.mk.inj isHere
    exact zero position _ failure (List.getElem?_eq_getElem inRange) answered

end Entries

end ScoringPipeline

end LlmopsPlatform.Scoring
