import LlmopsPlatform.Scoring.ScoreRange

/-!
# What the validation of a pipeline covers

The endpoint compares the strategies of a request with the registry. The scorers that are
listed in the configurations of composite scorers are read when the pipeline runs. There
an entry without a strategy, or with one that is not registered, makes the composite
scorer raise, and the pipeline around it goes on without it.

So the validation is complete exactly for the requests that are refused or whose nested
entries all name registered strategies (`validationComplete_iff`).
-/

set_option autoImplicit false

namespace LlmopsPlatform.Scoring

open Foundations Python Database Api ScoringPipeline

/-- The entries in the list of scorers of a configuration. -/
def listedScorers (config : Config) : List Json :=
  match CompositeScorer.scorerDicts config with
  | .list items => items
  | _ => []

/-- The entries that are listed in the configurations of composite scorers, at any
depth. -/
inductive NestedEntry (scorers : List ScorerConfigRequest) : Json → Prop
  | listed {sc : ScorerConfigRequest} {entry : Json} (member : sc ∈ scorers)
      (composite : sc.strategy = "composite") (isListed : entry ∈ listedScorers sc.config) :
      NestedEntry scorers entry
  | deeper {outer : List (String × Json)} {config : Config} {entry : Json}
      (above : NestedEntry scorers (.dict outer))
      (composite : OrderedDict.find "strategy" outer = some (.str "composite"))
      (configured : (OrderedDict.find "config" outer).getD (.dict []) = .dict config)
      (isListed : entry ∈ listedScorers config) : NestedEntry scorers entry

/-- The entry has a strategy, and it is registered. -/
def NamesRegistered (registry : Registry) (entry : Json) : Prop :=
  ∃ entries name, entry = .dict entries ∧
    OrderedDict.find "strategy" entries = some (.str name) ∧ name ∈ registry

/-- The exceptions for an entry without a strategy and for one that is not registered. -/
def NamingFailure (registry : Registry) (failure : PyException) : Prop :=
  failure = .keyError "strategy" ∨
    ∃ name, name ∉ registry ∧ failure = unknownStrategy registry name

/-- **The validation of a request is complete**: it is accepted exactly when all
strategies in it are registered, and when it was accepted, no later run drops a scorer at
any depth because a strategy is missing or not registered. -/
structure ValidationComplete (registry : Registry) (pydantic : Pydantic)
    (req : CreatePipelineRequest) : Prop where
  accepts_iff : ∀ (table : PipelineTable) (id : String) (now : Timestamp),
    id ∉ table.rows.map ScoringPipelineModel.id →
    req.name ∉ table.rows.map ScoringPipelineModel.name →
    ((∃ result, createPipeline registry pydantic table id now req = .ok result) ↔
      (∀ s ∈ req.scorers, s.strategy ∈ registry) ∧
        ∀ entry, NestedEntry req.scorers entry → NamesRegistered registry entry)
  never_dropped : ∀ (table committed later : PipelineTable) (id : String) (now : Timestamp)
    (response : PipelineResponse),
    createPipeline registry pydantic table id now req = .ok (response, committed) →
    later.Extends committed →
    ∀ row scorer_configs, loadPipeline later id = .ok row →
      storedConfigs (ScorerConfig.validate pydantic) row = .ok scorer_configs →
      (∃ pipeline, init registry scorer_configs = .ok pipeline) ∧
      ∀ (leaf : LeafAnswers) (input : ScoringInput) (path : List Nat)
          (level : List ScorerConfig) (position : Nat) (sc : ScorerConfig)
          (failure : PyException),
        PipelineAt registry pydantic scorer_configs path level → level[position]? = some sc →
        sc.strategy = "composite" →
        nestedAnswers registry pydantic leaf path position ⟨sc.strategy⟩ input sc.config =
          .error failure →
        ¬ NamingFailure registry failure

section Validation

variable {registry : Registry} {pydantic : Pydantic} {scorers level : List ScorerConfig}
  {path : List Nat} {sc : ScorerConfig}

theorem exists_listed_of_mem_subConfigs {config : Config} {subs : List ScorerConfig}
    (found : subConfigs pydantic config = .ok subs) {sub : ScorerConfig} (member : sub ∈ subs) :
    ∃ s ∈ listedScorers config, scorerConfigOf pydantic s = .ok sub := by
  obtain ⟨items, isList, s, isItem, isConfig⟩ := exists_of_mem_subConfigs found member
  exact ⟨s, by rwa [listedScorers, isList], isConfig⟩

/-- What a composite scorer inside lists is a nested entry. -/
theorem nestedEntry_of_listed (within : PipelineAt registry pydantic scorers path level)
    (member : sc ∈ level) (composite : sc.strategy = "composite") {entry : Json}
    (isListed : entry ∈ listedScorers sc.config) : NestedEntry scorers entry := by
  induction within generalizing sc entry with
  | outermost => exact .listed member composite isListed
  | @nested path position above subs outer _ found outerComposite built ih =>
      obtain ⟨read, -⟩ := builtConfigs_eq_some.mp built
      obtain ⟨s, sListed, isConfig⟩ := exists_listed_of_mem_subConfigs read member
      obtain ⟨entries, rfl, named, configured⟩ := scorerConfigOf_eq_ok isConfig
      rw [composite] at named
      exact .deeper (ih (List.mem_of_getElem? found) outerComposite sListed) named configured
        isListed

theorem not_namingFailure_typeError : ¬ NamingFailure registry .typeError := by
  rintro (missing | ⟨unknown, -, same⟩)
  · cases missing
  · cases same

/-- An entry that names a registered strategy is not the reason why a configuration
cannot be read. -/
theorem not_namingFailure_of_namesRegistered {entry : Json} {failure : PyException}
    (registered : NamesRegistered registry entry)
    (raised : scorerConfigOf pydantic entry = .error failure) :
    ¬ NamingFailure registry failure := by
  obtain ⟨entries, name, rfl, named, -⟩ := registered
  have isValidation : failure = validationError := by
    simp only [scorerConfigOf, Json.item, named, Json.getMethod, bind, Except.bind,
      ScorerConfig.validate] at raised
    split at raised
    · cases raised
    · cases raised
      rfl
  rw [isValidation]
  rintro (missing | ⟨unknown, -, same⟩)
  · cases missing
  · cases same

section Registered

variable {config : Config}
  (registered : ∀ entry ∈ listedScorers config, NamesRegistered registry entry)

include registered

/-- The sub-scorers have the strategies that their entries name. -/
theorem strategy_mem_of_mem_subConfigs {subs : List ScorerConfig}
    (read : subConfigs pydantic config = .ok subs) {sub : ScorerConfig} (member : sub ∈ subs) :
    sub.strategy ∈ registry := by
  obtain ⟨s, isListed, isConfig⟩ := exists_listed_of_mem_subConfigs read member
  obtain ⟨entries, rfl, named, -⟩ := scorerConfigOf_eq_ok isConfig
  obtain ⟨others, name, same, isName, inRegistry⟩ := registered _ isListed
  cases same
  rw [named] at isName
  cases isName
  exact inRegistry

/-- Reading them does not fail because of a strategy. -/
theorem not_namingFailure_of_subConfigs {failure : PyException}
    (read : subConfigs pydantic config = .error failure) : ¬ NamingFailure registry failure := by
  rw [subConfigs] at read
  split at read
  · cases read
  · rw [scorerConfigsOf] at read
    cases visited : (CompositeScorer.scorerDicts config).iterate with
    | error wrongType =>
        rw [visited] at read
        cases read
        rw [Json.iterate_eq_error visited]
        exact not_namingFailure_typeError
    | ok items =>
        rw [visited] at read
        obtain ⟨s, isItem, failed⟩ := exists_of_mapM_error read
        rcases Json.iterate_eq_ok visited with isList | texts
        · have isListed : s ∈ listedScorers config := by rwa [listedScorers, isList]
          exact not_namingFailure_of_namesRegistered (registered s isListed) failed
        · obtain ⟨text, rfl⟩ := texts s isItem
          cases failed
          exact not_namingFailure_typeError

end Registered

/-- **A composite scorer** whose entries all name registered strategies does not raise
because of a strategy. -/
theorem not_namingFailure_of_listed
    (registered : ∀ entry ∈ listedScorers sc.config, NamesRegistered registry entry)
    (composite : sc.strategy = "composite") {leaf : LeafAnswers} {input : ScoringInput}
    {position : Nat} {failure : PyException}
    (raised : nestedAnswers registry pydantic leaf path position ⟨sc.strategy⟩ input sc.config =
      .error failure) :
    ¬ NamingFailure registry failure := by
  rw [nestedAnswers_eq, if_pos composite, CompositeScorer.score_eq] at raised
  cases read : subConfigs pydantic sc.config with
  | ok subs =>
      have known : ∀ sub ∈ subs, sub.strategy ∈ registry := fun sub member =>
        strategy_mem_of_mem_subConfigs registered read member
      rw [read, Except.bind, init_of_registered known] at raised
      cases raised
  | error other =>
      rw [read] at raised
      cases raised
      exact not_namingFailure_of_subConfigs registered read

end Validation

/-- **When the validation is complete.** It is complete for a request exactly when the
request is refused or all nested entries name registered strategies. -/
theorem validationComplete_iff (registry : Registry) (pydantic : Pydantic)
    (req : CreatePipelineRequest) :
    ValidationComplete registry pydantic req ↔
      ((∀ s ∈ req.scorers, s.strategy ∈ registry) →
        ∀ entry, NestedEntry req.scorers entry → NamesRegistered registry entry) := by
  constructor
  · intro complete registered
    have fresh := complete.accepts_iff noPipelines "" 0 List.not_mem_nil List.not_mem_nil
    exact (fresh.mp ((createPipeline_accepts_iff List.not_mem_nil List.not_mem_nil).mpr
      registered)).2
  · intro nested
    refine ⟨?_, ?_⟩
    · intro table id now freshId freshName
      rw [createPipeline_accepts_iff freshId freshName]
      exact ⟨fun registered => ⟨registered, nested registered⟩, fun both => both.1⟩
    · intro table committed later id now response created extended row scorer_configs loaded stored
      obtain ⟨isRow, isLoaded, -, isStored⟩ := load_of_created created extended
      rw [isLoaded] at loaded
      cases loaded
      rw [isStored] at stored
      cases stored
      have registered := (createPipeline_eq_ok created).1
      refine ⟨⟨_, init_of_registered registered⟩, ?_⟩
      intro leaf input path level position sc failure within found composite raised
      refine not_namingFailure_of_listed ?_ composite raised
      intro entry isListed
      exact nested registered entry
        (nestedEntry_of_listed within (List.mem_of_getElem? found) composite isListed)

/-! ## A nested scorer that is not registered -/

/-- The configuration of a composite scorer that lists a misspelled strategy. -/
def misspelledConfig : Config := [("scorers", .list [.dict [("strategy", .str "rule_base")]])]

/-- A request for a pipeline with such a scorer. -/
def misspelledRequest : CreatePipelineRequest where
  name := "quality"
  description := ""
  scorers := [⟨"composite", .rounded 1, misspelledConfig⟩]

theorem misspelled_raises {leaf : LeafAnswers} {input : ScoringInput} :
    nestedAnswers defaultRegistry plainPydantic leaf [] 0 ⟨"composite"⟩ input misspelledConfig =
      .error (unknownStrategy defaultRegistry "rule_base") := by
  have weight := plainPydantic_float isDouble_one
  have read : subConfigs plainPydantic misspelledConfig =
      .ok [⟨"rule_base", .rounded 1, []⟩] := by
    simp [misspelledConfig, subConfigs, CompositeScorer.scorerDicts, OrderedDict.find,
      Json.isTruthy, scorerConfigsOf, Json.iterate, scorerConfigOf, Json.item, Json.getMethod,
      ScorerConfig.validate, weight, bind, Except.bind, pure, Except.pure]
  have unknown : getScorer defaultRegistry "rule_base" =
      .error (unknownStrategy defaultRegistry "rule_base") := getScorer_of_not_mem (by decide)
  rw [nestedAnswers_eq, if_pos rfl, CompositeScorer.score_eq, read]
  simp [init, ScoringPipeline.normalize, unknown, bind, Except.bind, Except.map]

/-- **A nested scorer is dropped.** The request is accepted, and on every run the composite
scorer raises because the strategy is not registered. -/
theorem misspelled_strategy_is_accepted :
    ¬ ∀ (registry : Registry) (pydantic : Pydantic) (req : CreatePipelineRequest),
      ValidationComplete registry pydantic req := by
  intro always
  have complete := always defaultRegistry plainPydantic misspelledRequest
  obtain ⟨response, committed, created⟩ := exists_created misspelledRequest
    (by simp [misspelledRequest, defaultRegistry])
  have extended : committed.Extends committed := ⟨[], (List.append_nil _).symm⟩
  obtain ⟨row, loaded, -, stored⟩ := load_of_created created extended
  have kept := (complete.never_dropped noPipelines committed committed "1" 0 response created
    extended row _ loaded stored).2 thirds ⟨"question", "answer", none, none⟩ [] _ 0 _
    (unknownStrategy defaultRegistry "rule_base") .outermost rfl rfl misspelled_raises
  exact kept (.inr ⟨"rule_base", by decide, rfl⟩)

end LlmopsPlatform.Scoring
