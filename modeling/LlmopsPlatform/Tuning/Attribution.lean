import LlmopsPlatform.Tuning.FrozenResults

/-!
# From which variant the scores of a result row come

A request is allocated an element of the variants list, by its position. The client
records a trial under the identifier and the parameters of that element, and the results
are grouped by the identifier, with the parameters of the first trial of each group.

When the identifiers of the list are distinct, each result row belongs to one element:
its trials are those of requests that were allocated the element, and its parameters
are the values of the element (`rows_belong_to_elements`). A list that repeats an
identifier is accepted too, and then one row mixes the scores of several elements
(`repeated_identifier_mixes_elements`).
-/

set_option autoImplicit false

namespace LlmopsPlatform.Tuning

open Foundations Foundations.TransitionSystem Python Database ExperimentRunner

/-! ## The parameters of a row -/

/-- Both dictionaries of the loop of `get_results` have the same keys. -/
def SameKeys (groups : OrderedDict String (List ℚ) × OrderedDict String Parameters) : Prop :=
  ∀ variant_id, (groups.1.get? variant_id).isNone = (groups.2.get? variant_id).isNone

/-- One round of the loop keeps the parameters that are there, and takes those of the
trial for a new variant. -/
theorem get?_groupTrial {groups : OrderedDict String (List ℚ) × OrderedDict String Parameters}
    (same : SameKeys groups) (trial : ExperimentTrialModel) (variant_id : String) :
    (groupTrial groups trial).2.get? variant_id =
      (groups.2.get? variant_id).or
        (if trial.variant_id = variant_id then some trial.parameters else none) := by
  have agree := same trial.variant_id
  by_cases isNew : (groups.1.get? trial.variant_id).isNone
  · rw [isNew] at agree
    have absent : groups.2.get? trial.variant_id = none := Option.isNone_iff_eq_none.mp agree.symm
    simp only [groupTrial, isNew, if_true, OrderedDict.set, OrderedDict.get?_upsert]
    by_cases isKey : variant_id = trial.variant_id
    · simp [isKey, absent]
    · simp [isKey, Ne.symm isKey]
  · simp only [groupTrial, isNew, Bool.false_eq_true, if_false]
    by_cases isKey : trial.variant_id = variant_id
    · obtain ⟨parameters, present⟩ : ∃ parameters, groups.2.get? variant_id = some parameters := by
        rw [← isKey, ← Option.isSome_iff_exists, ← Option.not_isNone, ← agree]
        simpa [Option.isSome_iff_ne_none] using isNew
      simp [present]
    · simp [isKey]

theorem SameKeys.groupTrial
    {groups : OrderedDict String (List ℚ) × OrderedDict String Parameters}
    (same : SameKeys groups) (trial : ExperimentTrialModel) :
    SameKeys (ExperimentRunner.groupTrial groups trial) := by
  intro variant_id
  have agree := same variant_id
  rw [get?_groupTrial same]
  simp only [ExperimentRunner.groupTrial, OrderedDict.get?_upsert]
  by_cases isKey : variant_id = trial.variant_id
  · simp [isKey]
  · simp [isKey, Ne.symm isKey, agree]

/-- A group has the parameters of the first trial of its variant. -/
theorem get?_parameters (trials : List ExperimentTrialModel)
    {groups : OrderedDict String (List ℚ) × OrderedDict String Parameters}
    (same : SameKeys groups) (variant_id : String) :
    (trials.foldl groupTrial groups).2.get? variant_id =
      (groups.2.get? variant_id).or
        ((trials.find? fun trial => trial.variant_id = variant_id).map
          ExperimentTrialModel.parameters) := by
  induction trials generalizing groups with
  | nil => simp
  | cons trial rest ih =>
      rw [List.foldl_cons, ih (same.groupTrial trial), get?_groupTrial same]
      by_cases isKey : trial.variant_id = variant_id
      · cases groups.2.get? variant_id <;> simp [isKey]
      · simp [isKey]

/-- **The parameters of a result row are those of one of its trials.** -/
theorem parameters_of_row {trials : List ExperimentTrialModel} {row : VariantResult}
    (member : row ∈ variantResults trials) :
    ∃ trial ∈ trials, trial.variant_id = row.variant_id ∧ trial.parameters = row.parameters := by
  obtain ⟨variant_id, present, rfl⟩ := mem_variantResults_iff.mp member
  have emptyKeys : SameKeys (.empty, .empty) := fun _ => rfl
  have found := get?_parameters trials emptyKeys variant_id
  cases first : trials.find? (fun trial => trial.variant_id = variant_id) with
  | none =>
      obtain ⟨trial, trialMember, same⟩ := List.mem_map.mp present
      simpa [same] using List.find?_eq_none.mp first trial trialMember
  | some trial =>
      rw [first, OrderedDict.get?_empty] at found
      have isKey : trial.variant_id = variant_id := by simpa using List.find?_some first
      refine ⟨trial, List.mem_of_find?_eq_some first, isKey, ?_⟩
      simp [variantResult, found]

/-! ## Allocation -/

/-- The step allocates the element at a position of the experiment's variants. -/
def Allocates (step : RunnerTransition) (experiment_id position : Nat) (variant : ParameterSet) :
    Prop :=
  ∃ row ∈ step.before.experiments, ∃ key, row.id = experiment_id ∧
    step.label = .allocateVariant experiment_id key ∧
    step.label.outcome step.before = some (.ok (.variant (some variant))) ∧
    position = Sha256.digestNumber (Sha256.encode key) % row.variants.length

/-- The experiment has the variant at a position. -/
def HasElement (tables : ExperimentTables) (experiment_id position : Nat)
    (variant : ParameterSet) : Prop :=
  ∃ row ∈ tables.experiments, row.id = experiment_id ∧ row.variants[position]? = some variant

/-- Clients record trials only with a pair that an earlier allocation of the
experiment returned. -/
def RecordsAllocated (transitions : List RunnerTransition) : Prop :=
  ∀ earlier step later, transitions = earlier ++ step :: later →
    ∀ trial, step.label = .recordTrial trial →
      ∃ allocation ∈ earlier, ∃ position variant,
        Allocates allocation trial.experiment_id position variant ∧
          variant.variant_id = trial.variant_id ∧ variant.values = trial.parameters

/-- The trial carries the pair that an allocation of the element returned. -/
def AllocatedAt (transitions : List RunnerTransition) (trial : ExperimentTrialModel)
    (position : Nat) : Prop :=
  ∃ allocation ∈ transitions, ∃ variant,
    Allocates allocation trial.experiment_id position variant ∧
      variant.variant_id = trial.variant_id ∧ variant.values = trial.parameters

theorem RecordsAllocated.nil : RecordsAllocated [] := by
  rintro earlier step later whole
  simp at whole

theorem RecordsAllocated.snoc {transitions : List RunnerTransition} {last : RunnerTransition}
    (disciplined : RecordsAllocated transitions)
    (allowed : ∀ trial, last.label = .recordTrial trial →
      ∃ position, AllocatedAt transitions trial position) :
    RecordsAllocated (transitions ++ [last]) := by
  intro earlier step later whole trial isRecord
  rcases List.eq_nil_or_concat later with rfl | ⟨rest, final, rfl⟩
  · obtain ⟨rfl, same⟩ := List.append_inj' whole rfl
    obtain rfl := List.singleton_inj.mp same
    obtain ⟨position, allocation, member, variant, allocates, carried⟩ := allowed trial isRecord
    exact ⟨allocation, member, position, variant, allocates, carried⟩
  · rw [List.concat_eq_append, ← List.cons_append, ← List.append_assoc] at whole
    exact disciplined earlier step rest (List.append_inj' whole rfl).1 trial isRecord

theorem RunnerEffect.allocateVariant_ok {before after : ExperimentTables} {experiment_id : Nat}
    {key : String} {variant : ParameterSet}
    (effect : RunnerEffect before (.allocateVariant experiment_id key)
      (.ok (.variant (some variant))) after) :
    after = before ∧ ExperimentRunner.allocateVariant before experiment_id key =
      .ok (some variant) := by
  cases effect with
  | allocated row key allocated member result => exact ⟨rfl, result⟩

/-- An allocation returns an element of the experiment's variants. -/
theorem Allocates.hasElement {step : RunnerTransition} {experiment_id position : Nat}
    {variant : ParameterSet} (allocates : Allocates step experiment_id position variant)
    (taken : runnerSystem.next step.before step.label = some step.after) :
    HasElement step.after experiment_id position variant := by
  obtain ⟨row, member, key, rfl, isAllocate, returned, rfl⟩ := allocates
  rw [isAllocate] at taken returned
  obtain ⟨unchanged, result⟩ := (effect_of_outcome taken returned).allocateVariant_ok
  rw [unchanged]
  refine ⟨row, member, rfl, ?_⟩
  have ran : (if row.status ≠ .running then none
      else ABTestAllocator.allocate ⟨row.variants, row.traffic_percentage⟩ key) = some variant := by
    rw [ExperimentRunner.allocateVariant, getExperiment_of_mem member] at result
    by_cases running : row.status = .running
    · simpa [running, bind, Except.bind, pure, Except.pure] using result
    · simp [running, bind, Except.bind, pure, Except.pure] at result
  split at ran
  · cases ran
  · exact ABTestAllocator.getElem?_of_allocate ran

/-- The variants of an experiment stay where they are. -/
theorem HasElement.after {step : RunnerTransition} {experiment_id position : Nat}
    {variant : ParameterSet} (has : HasElement step.before experiment_id position variant)
    (taken : runnerSystem.next step.before step.label = some step.after) :
    HasElement step.after experiment_id position variant := by
  obtain ⟨row, member, rfl, found⟩ := has
  obtain ⟨outcome, -, effect⟩ := runnerNext_effect taken
  obtain ⟨later, laterMember, rowStep⟩ := effect.row_after member
  have same := rowStep.sameDesign
  exact ⟨later, laterMember, same.id, by rw [same.variants, found]⟩

section Runs

variable {start finish : ExperimentTables} {transitions : List RunnerTransition}
  {experiment_id position : Nat} {variant : ParameterSet}

/-- An element that was allocated in a run is there at its end. -/
theorem hasElement_of_allocates (run : runnerSystem.Run start transitions finish) :
    ∀ step ∈ transitions, ∀ experiment_id position variant,
      Allocates step experiment_id position variant →
        HasElement finish experiment_id position variant :=
  run.recorded (fun _ => True)
    (fun step tables => ∀ experiment_id position variant,
      Allocates step experiment_id position variant →
        HasElement tables experiment_id position variant)
    (fun _ _ _ => trivial) (fun _ _ taken _ _ _ allocates => allocates.hasElement taken)
    (fun _ _ _ taken recorded _ _ _ allocates => (recorded _ _ _ allocates).after taken) trivial

/-- Every trial was recorded by a step of the run. -/
theorem recorded_of_trial (initial : runnerSystem.initial start)
    (run : runnerSystem.Run start transitions finish) :
    ∀ trial ∈ finish.trials, ∃ earlier step later,
      transitions = earlier ++ step :: later ∧ step.label = .recordTrial trial := by
  induction run with
  | nil =>
      obtain rfl : start = ExperimentTables.empty := initial
      simp [ExperimentTables.empty]
  | @snoc earlierTransitions before after call earlier step ih =>
      intro trial member
      obtain ⟨outcome, -, effect⟩ := runnerNext_effect step
      have extended (inBefore : trial ∈ before.trials) : ∃ first step later,
          earlierTransitions ++ [⟨before, call, after⟩] = first ++ step :: later ∧
            step.label = .recordTrial trial := by
        obtain ⟨first, step, later, rfl, isRecord⟩ := ih trial inBefore
        exact ⟨first, step, later ++ [⟨before, call, after⟩], by simp, isRecord⟩
      rcases effect.trials with same | ⟨recorded, isRecord, -, appended⟩
      · exact extended (same ▸ member)
      · rcases List.mem_append.mp (appended ▸ member) with inBefore | isNew
        · exact extended inBefore
        · rw [List.mem_singleton.mp isNew]
          exact ⟨earlierTransitions, _, [], rfl, isRecord⟩

/-- Every trial carries the pair of an allocated element. -/
theorem exists_allocatedAt (initial : runnerSystem.initial start)
    (run : runnerSystem.Run start transitions finish)
    (disciplined : RecordsAllocated transitions) :
    ∀ trial ∈ finish.trials, ∃ position, AllocatedAt transitions trial position := by
  intro trial member
  obtain ⟨earlier, step, later, rfl, isRecord⟩ := recorded_of_trial initial run trial member
  obtain ⟨allocation, inEarlier, position, variant, allocates, carried⟩ :=
    disciplined earlier step later rfl trial isRecord
  exact ⟨position, allocation, List.mem_append_left _ inEarlier, variant, allocates, carried⟩

/-- The element whose pair a trial carries. -/
theorem AllocatedAt.hasElement {trial : ExperimentTrialModel}
    (allocated : AllocatedAt transitions trial position)
    (run : runnerSystem.Run start transitions finish) :
    ∃ variant, HasElement finish trial.experiment_id position variant ∧
      variant.variant_id = trial.variant_id ∧ variant.values = trial.parameters := by
  obtain ⟨allocation, member, variant, allocates, carried⟩ := allocated
  exact ⟨variant, hasElement_of_allocates run allocation member _ _ _ allocates, carried⟩

/-! ## Distinct identifiers -/

/-- If the step creates the experiment, the variants that it is given have distinct
identifiers. -/
def GivesDistinct (experiment_id : Nat) (step : RunnerTransition) : Prop :=
  ∀ config outside, step.label = .create config outside → outside.id = experiment_id →
    (config.variants.map ParameterSet.variant_id).Nodup

/-- If the step creates the experiment and generates its variants, they have distinct
identifiers. -/
def GeneratesDistinct (experiment_id : Nat) (step : RunnerTransition) : Prop :=
  ∀ config outside variants, step.label = .create config outside → outside.id = experiment_id →
    config.variants = [] → chosenVariants config outside = some variants →
      (variants.map ParameterSet.variant_id).Nodup

theorem variantIds_nodup (initial : runnerSystem.initial start)
    (run : runnerSystem.Run start transitions finish)
    (generated : ∀ step ∈ transitions, GeneratesDistinct experiment_id step)
    (given : ∀ step ∈ transitions, GivesDistinct experiment_id step)
    {row : ExperimentModel} (member : row ∈ finish.experiments)
    (identified : row.id = experiment_id) : row.variantIds.Nodup := by
  obtain ⟨step, stepMember, created, ⟨⟨config, outside, variants, isCreate, chosen, rfl⟩, -⟩,
    same⟩ := created_of_row initial run row member
  have isCreated : outside.id = experiment_id := same.id.symm.trans identified
  have sameVariants : row.variants = variants := same.variants
  rw [ExperimentModel.variantIds, sameVariants]
  by_cases noneGiven : config.variants = []
  · exact generated step stepMember config outside variants isCreate isCreated noneGiven chosen
  · rw [chosenVariants, variantsOfNew, if_neg noneGiven] at chosen
    rw [← Option.some.inj chosen]
    exact given step stepMember config outside isCreate isCreated

/-! ## Rows and elements -/

/-- The row aggregates the trials of the element of the variants at a position, and has
its values. -/
structure BelongsTo (transitions : List RunnerTransition) (tables : ExperimentTables)
    (experiment : ExperimentModel) (row : VariantResult) (position : Nat) : Prop where
  element : ∃ variant, experiment.variants[position]? = some variant ∧
    row.variant_id = variant.variant_id ∧ row.parameters = variant.values
  trials : ∀ trial ∈ tables.scoredTrials experiment.id,
    trial.variant_id = row.variant_id ↔ AllocatedAt transitions trial position
  scores : row.scores.Perm (scoresOf (tables.scoredTrials experiment.id) row.variant_id)
  statistics : row.statistics = statisticsOf (tables.scoredTrials experiment.id) row.variant_id

/-- Two positions with the same identifier are the same. -/
theorem position_unique {experiment : ExperimentModel} (distinct : experiment.variantIds.Nodup)
    {first second : Nat} {one other : ParameterSet}
    (atFirst : experiment.variants[first]? = some one)
    (atSecond : experiment.variants[second]? = some other)
    (same : one.variant_id = other.variant_id) : first = second := by
  obtain ⟨inBounds, -⟩ := List.getElem?_eq_some_iff.mp atFirst
  refine (List.getElem?_inj (by simpa [ExperimentModel.variantIds] using inBounds) distinct).mp ?_
  simp [ExperimentModel.variantIds, atFirst, atSecond, same]

/-- The element of an experiment that a scored trial of it belongs to. -/
theorem element_of_trial (run : runnerSystem.Run start transitions finish)
    {experiment : ExperimentModel} (member : experiment ∈ finish.experiments)
    {trial : ExperimentTrialModel} (scored : trial ∈ finish.scoredTrials experiment.id)
    (allocated : AllocatedAt transitions trial position) :
    ∃ variant, experiment.variants[position]? = some variant ∧
      variant.variant_id = trial.variant_id ∧ variant.values = trial.parameters := by
  have names : trial.experiment_id = experiment.id := by
    have selected := (List.mem_filter.mp scored).2
    simp only [decide_eq_true_eq] at selected
    exact selected.1
  obtain ⟨variant, ⟨row, rowMember, identified, found⟩, carried⟩ := allocated.hasElement run
  obtain rfl := finish.experimentIdUnique.eq_of_key_eq rowMember member (identified.trans names)
  exact ⟨variant, found, carried⟩

/-- **Attribution of the trials.** In every run in which clients record only what was
allocated to them, each result row of an experiment that was created with distinct
identifiers belongs to exactly one element of its variants. -/
theorem rows_belong_to_elements (start finish : ExperimentTables)
    (transitions : List RunnerTransition) (experiment_id : Nat)
    (initial : runnerSystem.initial start) (run : runnerSystem.Run start transitions finish)
    (disciplined : RecordsAllocated transitions)
    (generated : ∀ step ∈ transitions, GeneratesDistinct experiment_id step)
    (given : ∀ step ∈ transitions, GivesDistinct experiment_id step)
    (order : RowOrder) (found : ExperimentResults)
    (results : getResults finish order experiment_id = .ok found) :
    ∀ row ∈ found.results, ∃! position,
      BelongsTo transitions finish found.experiment row position := by
  obtain ⟨experiment, member, rfl, isFound, -⟩ := exists_row_of_bind_ok results
  rw [getResults_of_found isFound] at results
  obtain rfl := Except.ok.inj results
  intro row rowMember
  have perm := order.arrange_perm (finish.scoredTrials experiment.id)
  have distinct := variantIds_nodup initial run generated given member rfl
  have allocation : ∀ trial ∈ finish.scoredTrials experiment.id,
      ∃ position, AllocatedAt transitions trial position := fun trial scored =>
    exists_allocatedAt initial run disciplined trial (List.mem_filter.mp scored).1
  -- The element is the one that the first trial of the row was allocated.
  obtain ⟨first, firstMember, firstId, firstParameters⟩ := parameters_of_row rowMember
  obtain ⟨position, firstAllocated⟩ := allocation first (perm.mem_iff.mp firstMember)
  obtain ⟨variant, atPosition, sameId, sameValues⟩ :=
    element_of_trial run member (perm.mem_iff.mp firstMember) firstAllocated
  have rowId : row.variant_id = variant.variant_id := (sameId.trans firstId).symm
  refine ⟨position, ⟨⟨variant, atPosition, rowId, (sameValues.trans firstParameters).symm⟩, ?_, ?_,
    ?_⟩, ?_⟩
  · intro trial scored
    constructor
    · intro inRow
      obtain ⟨other, allocated⟩ := allocation trial scored
      obtain ⟨element, atOther, elementId, -⟩ := element_of_trial run member scored allocated
      have same : element.variant_id = variant.variant_id :=
        elementId.trans (inRow.trans rowId)
      rwa [position_unique distinct atOther atPosition same] at allocated
    · intro allocated
      obtain ⟨element, atSame, elementId, -⟩ := element_of_trial run member scored allocated
      obtain rfl := Option.some.inj (atSame.symm.trans atPosition)
      exact elementId.symm.trans rowId.symm
  · rw [(mem_variantResults rowMember).2.1]
    exact scoresOf_perm perm row.variant_id
  · obtain ⟨variant_id, -, rfl⟩ := mem_variantResults_iff.mp rowMember
    exact statisticsOf_perm perm variant_id
  · rintro other ⟨⟨element, atOther, elementId, -⟩, -, -, -⟩
    exact position_unique distinct atOther atPosition (elementId.symm.trans rowId)

end Runs

/-! ## Two elements, with the same identifier or with two -/

/-- The first element. -/
def coldElement : ParameterSet := ⟨"cold", [("temperature", .int 0)]⟩

/-- The second element, under some identifier. -/
def warmElement (identifier : String) : ParameterSet := ⟨identifier, [("temperature", .int 1)]⟩

/-- The row of the experiment with the two elements. -/
def temperatureRow (identifier : String) (status : ExperimentStatus) : ExperimentModel :=
  { experimentRow { oneVariant with variants := [coldElement, warmElement identifier] }
      firstIdentifier [coldElement, warmElement identifier] with
    status := status }

/-- A trial of an element. -/
def elementTrial (id : Nat) (element : ParameterSet) : ExperimentTrialModel :=
  { formalTrial id (some 1) with
    variant_id := element.variant_id
    parameters := element.values }

/-- The experiment is running, with some trials. -/
def temperatureTables (identifier : String) (trials : List ExperimentTrialModel)
    (unique : UniqueKey ExperimentTrialModel.id trials) : ExperimentTables :=
  { tablesOf (temperatureRow identifier .running) with
    trials := trials
    trialIdUnique := unique }

/-- No trial was recorded yet. -/
def untried (identifier : String) : ExperimentTables :=
  temperatureTables identifier [] List.nodup_nil

/-- The second element was tried. -/
def triedWarm (identifier : String) : ExperimentTables :=
  temperatureTables identifier [elementTrial 7 (warmElement identifier)] (List.nodup_singleton _)

/-- Both elements were tried. -/
def triedBoth (identifier : String) : ExperimentTables :=
  temperatureTables identifier [elementTrial 7 (warmElement identifier), elementTrial 8 coldElement]
    (by simp [UniqueKey, elementTrial, formalTrial])

/-- Two requests are allocated an element each, and a trial of each is recorded. -/
def triesBoth (identifier : String) : List RunnerTransition :=
  [⟨.empty, .create { oneVariant with variants := [coldElement, warmElement identifier] }
      firstIdentifier, tablesOf (temperatureRow identifier .draft)⟩,
    ⟨tablesOf (temperatureRow identifier .draft), .start 1, untried identifier⟩,
    ⟨untried identifier, .allocateVariant 1 "u1", untried identifier⟩,
    ⟨untried identifier, .allocateVariant 1 "u2", untried identifier⟩,
    ⟨untried identifier, .recordTrial (elementTrial 7 (warmElement identifier)),
      triedWarm identifier⟩,
    ⟨triedWarm identifier, .recordTrial (elementTrial 8 coldElement), triedBoth identifier⟩]

theorem triesBoth_run (identifier : String) :
    runnerSystem.Run .empty (triesBoth identifier) (triedBoth identifier) :=
  (((((Run.nil.snoc rfl).snoc rfl).snoc rfl).snoc rfl).snoc rfl).snoc rfl

theorem allocate_u1 (identifier : String) :
    ABTestAllocator.allocate ⟨[coldElement, warmElement identifier], 100⟩ "u1" =
      some (warmElement identifier) := by
  have index : Sha256.digestNumber (Sha256.encode "u1") % 2 = 1 := by decide +kernel
  rw [ABTestAllocator.allocate_all_traffic (by simp)]
  simp [index]

theorem allocate_u2 (identifier : String) :
    ABTestAllocator.allocate ⟨[coldElement, warmElement identifier], 100⟩ "u2" =
      some coldElement := by
  have index : Sha256.digestNumber (Sha256.encode "u2") % 2 = 0 := by decide +kernel
  rw [ABTestAllocator.allocate_all_traffic (by simp)]
  simp [index]

theorem triesBoth_disciplined (identifier : String) : RecordsAllocated (triesBoth identifier) := by
  have noRecord {call : RunnerCall} (other : ∀ trial, call ≠ .recordTrial trial)
      {before after : ExperimentTables} {transitions : List RunnerTransition} :
      ∀ trial, (⟨before, call, after⟩ : RunnerTransition).label = .recordTrial trial →
        ∃ position, AllocatedAt transitions trial position :=
    fun trial isRecord => absurd isRecord (other trial)
  have allocatesWarm : (RunnerCall.allocateVariant 1 "u1").outcome (untried identifier) =
      some (.ok (.variant (some (warmElement identifier)))) := by
    rw [← allocate_u1]; rfl
  have allocatesCold : (RunnerCall.allocateVariant 1 "u2").outcome (untried identifier) =
      some (.ok (.variant (some coldElement))) := by
    rw [← allocate_u2 identifier]; rfl
  have row : temperatureRow identifier .running ∈ (untried identifier).experiments :=
    List.mem_singleton.mpr rfl
  refine RecordsAllocated.snoc (RecordsAllocated.snoc (RecordsAllocated.snoc (RecordsAllocated.snoc
    (RecordsAllocated.snoc (RecordsAllocated.snoc .nil (noRecord (by simp)))
      (noRecord (by simp))) (noRecord (by simp))) (noRecord (by simp))) ?_) ?_
  · rintro trial isRecord
    obtain rfl := RunnerCall.recordTrial.inj isRecord
    exact ⟨_, _, .tail _ (.tail _ (.head _)), _, ⟨_, row, "u1", rfl, rfl, allocatesWarm, rfl⟩,
      rfl, rfl⟩
  · rintro trial isRecord
    obtain rfl := RunnerCall.recordTrial.inj isRecord
    exact ⟨_, _, .tail _ (.tail _ (.tail _ (.head _))), _,
      ⟨_, row, "u2", rfl, rfl, allocatesCold, rfl⟩, rfl, rfl⟩

/-- The experiment of the run gives its variants, and generates none. -/
theorem triesBoth_given (identifier : String) :
    ∀ step ∈ triesBoth identifier, ∀ config outside, step.label = .create config outside →
      config.variants = [coldElement, warmElement identifier] := by
  intro step member config outside isCreate
  simp only [triesBoth, List.mem_cons, List.not_mem_nil, or_false] at member
  rcases member with rfl | rfl | rfl | rfl | rfl | rfl
  · obtain ⟨rfl, -⟩ := RunnerCall.create.inj isCreate
    rfl
  all_goals cases isCreate

/-- With two identifiers, the row of the second one belongs to its element. -/
theorem warm_row_belongs : ∃ found,
    getResults (triedBoth "warm") .insertion 1 = .ok found ∧
      ∃ row ∈ found.results, row.variant_id = "warm" ∧ ∃! position,
        BelongsTo (triesBoth "warm") (triedBoth "warm") found.experiment row position := by
  have experiment : temperatureRow "warm" .running ∈ (triedBoth "warm").experiments :=
    List.mem_singleton.mpr rfl
  have results := getResults_of_found (getExperiment_of_mem experiment) .insertion
  have warmTrial : elementTrial 7 (warmElement "warm") ∈ (triedBoth "warm").scoredTrials 1 :=
    List.mem_filter.mpr ⟨.head _, rfl⟩
  obtain ⟨row, rowMember, isWarm⟩ := exists_mem_variantResults (List.mem_map_of_mem
    (f := ExperimentTrialModel.variant_id) warmTrial)
  refine ⟨_, results, row, rowMember, isWarm, rows_belong_to_elements _ _ _ 1 rfl
    (triesBoth_run "warm") (triesBoth_disciplined "warm") ?_ ?_ .insertion _ results row rowMember⟩
  · intro step member config outside variants isCreate _ noneGiven
    rw [triesBoth_given "warm" step member config outside isCreate] at noneGiven
    cases noneGiven
  · intro step member config outside isCreate _
    rw [triesBoth_given "warm" step member config outside isCreate]
    decide

/-- **One row for two elements.** An experiment whose elements share an identifier is
created, and its only result row mixes the trials of both. -/
theorem repeated_identifier_mixes_elements :
    ¬ ∀ (start finish : ExperimentTables) (transitions : List RunnerTransition)
        (experiment_id : Nat), runnerSystem.initial start →
      runnerSystem.Run start transitions finish → RecordsAllocated transitions →
        (∀ step ∈ transitions, GeneratesDistinct experiment_id step) →
          ∀ (order : RowOrder) (found : ExperimentResults),
            getResults finish order experiment_id = .ok found →
              ∀ row ∈ found.results, ∃! position,
                BelongsTo transitions finish found.experiment row position := by
  intro always
  have run := triesBoth_run "cold"
  have generated : ∀ step ∈ triesBoth "cold", GeneratesDistinct 1 step := by
    intro step member config outside variants isCreate _ noneGiven
    rw [triesBoth_given "cold" step member config outside isCreate] at noneGiven
    cases noneGiven
  have experiment : temperatureRow "cold" .running ∈ (triedBoth "cold").experiments :=
    List.mem_singleton.mpr rfl
  have results := getResults_of_found (getExperiment_of_mem experiment) .insertion
  have warmTrial : elementTrial 7 (warmElement "cold") ∈ (triedBoth "cold").scoredTrials 1 :=
    List.mem_filter.mpr ⟨.head _, rfl⟩
  have coldTrial : elementTrial 8 coldElement ∈ (triedBoth "cold").scoredTrials 1 :=
    List.mem_filter.mpr ⟨.tail _ (.head _), rfl⟩
  obtain ⟨row, rowMember, isCold⟩ := exists_mem_variantResults (List.mem_map_of_mem
    (f := ExperimentTrialModel.variant_id) warmTrial)
  obtain ⟨position, belongs, -⟩ := always _ _ _ 1 rfl run (triesBoth_disciplined "cold") generated
    .insertion _ results row rowMember
  have warmHere := (belongs.trials _ warmTrial).mp isCold.symm
  have coldHere := (belongs.trials _ coldTrial).mp isCold.symm
  obtain ⟨warm, atWarm, -, warmValues⟩ := element_of_trial run experiment warmTrial warmHere
  obtain ⟨cold, atCold, -, coldValues⟩ := element_of_trial run experiment coldTrial coldHere
  obtain rfl := Option.some.inj (atWarm.symm.trans atCold)
  have sameValues := warmValues.symm.trans coldValues
  simp [elementTrial, warmElement, coldElement] at sameValues

end LlmopsPlatform.Tuning
