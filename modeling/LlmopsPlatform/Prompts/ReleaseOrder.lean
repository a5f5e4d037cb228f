import LlmopsPlatform.Prompts.Linearizability
import Mathlib.Data.List.Induction

/-!
# Which version an environment serves under concurrent promotions

Promotions overlap with each other and with new versions. In the order in which the calls
take effect, the environment of a version is the target of its last promotion, and `draft`
before the first one (`Released`). So what a reader of an environment gets is determined
by this order: the greatest version whose last promotion was to that environment
(`served_version_is_last_promoted`).
-/

set_option autoImplicit false

namespace LlmopsPlatform.Prompts

open Foundations Foundations.TransitionSystem Python Database PromptManager PromptTables

/-! ## The last promotion of a version -/

/-- The environment of a version after an operation, as far as the promotions say. -/
def promotedTo (name : String) (version : Int) (current : String) : PromptOperation → String
  | .promote promoted number target_env =>
      if promoted = name ∧ number = version then target_env else current
  | _ => current

/-- The target of the last promotion of a version. -/
def lastTarget (name : String) (version : Int) (operations : List PromptOperation) : String :=
  operations.foldl (promotedTo name version) PromptEnvironment.draft.value

theorem lastTarget_snoc (name : String) (version : Int) (operations : List PromptOperation)
    (operation : PromptOperation) :
    lastTarget name version (operations ++ [operation]) =
      promotedTo name version (lastTarget name version operations) operation := by
  rw [lastTarget, List.foldl_append]
  rfl

/-- Only a promotion changes an environment. -/
theorem promotedTo_of_ne {operation : PromptOperation} {name : String} {version : Int}
    (notPromoted : ∀ target_env, operation ≠ .promote name version target_env) (current : String) :
    promotedTo name version current operation = current := by
  cases operation with
  | promote promoted number target_env =>
      refine if_neg ?_
      rintro ⟨rfl, rfl⟩
      exact notPromoted target_env rfl
  | _ => rfl

/-- A version that was never promoted is a draft. -/
theorem lastTarget_of_not_promoted {name : String} {version : Int}
    {operations : List PromptOperation}
    (never : ∀ target_env, .promote name version target_env ∉ operations) :
    lastTarget name version operations = PromptEnvironment.draft.value := by
  induction operations using List.reverseRecOn with
  | nil => rfl
  | append_singleton earlier operation ih =>
      rw [lastTarget_snoc, ih fun target_env member =>
        never target_env (List.mem_append_left _ member)]
      refine promotedTo_of_ne (fun target_env isPromotion => ?_) _
      exact never target_env (by simp [isPromotion])

/-- The environment of every version is the target of its last promotion. -/
structure Released (tables : PromptTables) (operations : List PromptOperation) : Prop where
  environments : ∀ name version, ∀ row ∈ tables.versions, IsVersion tables name version row →
    row.environment.value = lastTarget name version operations
  existing : ∀ name version target_env, .promote name version target_env ∈ operations →
    ∃ row ∈ tables.versions, IsVersion tables name version row

/-! ## What an operation does to the environments -/

variable {before after : PromptTables} {operations : List PromptOperation}

/-- A new version is a draft, and the other versions keep their environment. -/
theorem Released.append {operation : PromptOperation} {row : PromptVersionModel}
    (released : Released before operations)
    (notPromoted : ∀ name version target_env, operation ≠ .promote name version target_env)
    (prompts : before.prompts ⊆ after.prompts)
    (versions : after.versions = before.versions ++ [row]) (isDraft : row.environment = .draft)
    (owners : ∀ prompt ∈ after.prompts, ∀ other ∈ before.versions,
      other.prompt_id = prompt.id → prompt ∈ before.prompts)
    (freshKey : row.versionKey ∉ before.versions.map PromptVersionModel.versionKey) :
    Released after (operations ++ [operation]) := by
  refine ⟨fun name version current member isVersion => ?_, fun name version target member => ?_⟩
  · rw [lastTarget_snoc, promotedTo_of_ne (notPromoted name version)]
    obtain ⟨prompt, promptMember, named, keyed⟩ := isVersion
    rw [versions, List.mem_append, List.mem_singleton] at member
    rcases member with earlier | rfl
    · have owner := owners prompt promptMember current earlier (congrArg Prod.fst keyed)
      exact released.environments name version current earlier ⟨prompt, owner, named, keyed⟩
    · rw [isDraft, lastTarget_of_not_promoted]
      intro target_env promoted
      obtain ⟨other, otherMember, owner, ownerMember, ownerNamed, otherKeyed⟩ :=
        released.existing name version target_env promoted
      obtain rfl := after.promptNameUnique.eq_of_key_eq (prompts ownerMember) promptMember
        (ownerNamed.trans named.symm)
      exact freshKey (List.mem_map.mpr ⟨other, otherMember, otherKeyed.trans keyed.symm⟩)
  · rw [List.mem_append, List.mem_singleton] at member
    rcases member with earlier | rfl
    · obtain ⟨other, otherMember, owner, ownerMember, named, keyed⟩ :=
        released.existing name version target earlier
      exact ⟨other, by simp [versions, otherMember], owner, prompts ownerMember, named, keyed⟩
    · exact absurd rfl (notPromoted name version target)

/-- A text that names an environment is its value. -/
theorem value_of_ofValue {text : String} {environment : PromptEnvironment}
    (parsed : PromptEnvironment.ofValue text = some environment) : environment.value = text := by
  simpa using List.find?_some parsed

/-- A promotion changes the environment of its own version. -/
theorem Released.promote {name target_env : String} {version : Int} {prompt : PromptModel}
    {row : PromptVersionModel} {environment : PromptEnvironment}
    (released : Released before operations)
    (found : getPromptByName before name = .ok prompt)
    (parsed : PromptEnvironment.ofValue target_env = some environment)
    (member : row ∈ before.versions) (keyed : row.versionKey = (prompt.id, version)) :
    Released (before.updateEnvironment row.id environment)
      (operations ++ [.promote name version target_env]) := by
  obtain ⟨isPrompt, named⟩ := getPromptByName_eq_ok_iff.mp found
  have isRow := fun {other : PromptVersionModel} (otherMember : other ∈ before.versions) =>
    isVersion_iff isPrompt named member keyed otherMember
  constructor
  · intro wanted number current currentMember isVersion
    obtain ⟨other, otherMember, rfl⟩ := List.mem_map.mp currentMember
    have isOther : IsVersion before wanted number other := by
      simpa [IsVersion, PromptVersionModel.versionKey] using isVersion
    rw [lastTarget_snoc, relabel_environment, promotedTo]
    by_cases isPromoted : other.id = row.id
    · have sameVersion : IsVersion before name version other := (isRow otherMember).mpr isPromoted
      obtain ⟨owner, ownerMember, ownerNamed, ownerKeyed⟩ := isOther
      obtain ⟨second, secondMember, secondNamed, secondKeyed⟩ := sameVersion
      obtain ⟨sameId, sameNumber⟩ := Prod.mk.inj (ownerKeyed.symm.trans secondKeyed)
      obtain rfl := before.promptIdUnique.eq_of_key_eq ownerMember secondMember sameId
      rw [if_pos isPromoted, if_pos ⟨secondNamed.symm.trans ownerNamed, sameNumber.symm⟩]
      exact value_of_ofValue parsed
    · rw [if_neg isPromoted, if_neg, released.environments wanted number other otherMember isOther]
      rintro ⟨rfl, rfl⟩
      exact isPromoted ((isRow otherMember).mp isOther)
  · intro wanted number target promoted
    have stays : ∀ other ∈ before.versions, IsVersion before wanted number other →
        ∃ current ∈ (before.updateEnvironment row.id environment).versions,
          IsVersion (before.updateEnvironment row.id environment) wanted number current := by
      intro other otherMember isVersion
      refine ⟨relabel row.id environment other, List.mem_map_of_mem otherMember, ?_⟩
      simpa [IsVersion, PromptVersionModel.versionKey] using isVersion
    rw [List.mem_append, List.mem_singleton] at promoted
    rcases promoted with earlier | same
    · obtain ⟨other, otherMember, isVersion⟩ := released.existing wanted number target earlier
      exact stays other otherMember isVersion
    · cases same
      exact stays row member ⟨prompt, isPrompt, named, keyed⟩

/-- An operation that succeeds leaves every version with its last promotion. -/
theorem Released.apply {operation : PromptOperation} {result : WriteResult}
    (released : Released before operations)
    (success : operation.respond before = .ok result) :
    Released (operation.apply before) (operations ++ [operation]) := by
  cases operation with
  | create promptId versionId now name template description declared =>
      simp only [PromptOperation.respond, PromptOperation.apply] at success ⊢
      split
      · rename_i created
        obtain ⟨flushed, newPrompt, newVersion⟩ := create_inserts created
        obtain ⟨freshId, -, morePrompts, sameVersions⟩ := insertPrompt_eq_ok newPrompt
        obtain ⟨-, freshKey, -, samePrompts, moreVersions⟩ := insertVersion_eq_ok newVersion
        rw [sameVersions] at freshKey moreVersions
        rw [morePrompts] at samePrompts
        refine released.append (by simp) (by simp [samePrompts]) moreVersions rfl ?_ freshKey
        intro prompt member other otherMember ofPrompt
        rw [samePrompts, List.mem_append, List.mem_singleton] at member
        rcases member with earlier | rfl
        · exact earlier
        · exact absurd (ofPrompt ▸ before.versionHasPrompt other otherMember) freshId
      · rename_i raised
        rw [raised] at success
        cases success
  | createVersion versionId now name template declared change_note =>
      simp only [PromptOperation.respond, PromptOperation.apply] at success ⊢
      split
      · rename_i created
        obtain ⟨prompt, found, newVersion⟩ := createVersion_inserts created
        obtain ⟨-, freshKey, -, samePrompts, moreVersions⟩ := insertVersion_eq_ok newVersion
        refine released.append (by simp) (by simp [samePrompts]) moreVersions rfl ?_ freshKey
        intro owner member other otherMember ofPrompt
        rwa [samePrompts] at member
      · rename_i raised
        rw [raised] at success
        cases success
  | promote name version target_env =>
      simp only [PromptOperation.respond, PromptOperation.apply] at success ⊢
      split
      · rename_i promoted
        obtain ⟨prompt, row, environment, found, parsed, member, keyed, rfl⟩ :=
          promote_eq_ok promoted
        exact released.promote found parsed member keyed
      · rename_i raised
        rw [raised] at success
        cases success

theorem Released.of_empty : Released PromptTables.empty [] := by
  constructor
  · intro name version row member
    cases member
  · intro name version target_env member
    cases member

/-- **The environments after a history** in which every call succeeded. -/
theorem released_of_history {Caller : Type} {finish : PromptTables}
    {entries : List (Entry Caller PromptOperation (Except PyException WriteResult))}
    (history : promptObject.History PromptTables.empty entries finish)
    (succeeded : ∀ entry ∈ entries, ∃ result, entry.response = .ok result) :
    Released finish (entries.map Entry.operation) := by
  induction history with
  | nil => exact .of_empty
  | @snoc entries before earlier caller operation ih =>
      obtain ⟨result, success⟩ :=
        succeeded ⟨caller, operation, promptObject.respond before operation⟩ (by simp)
      rw [List.map_append]
      exact (ih fun entry member => succeeded entry (List.mem_append_left _ member)).apply success

/-! ## Concurrent calls -/

section Concurrent

variable {Writer Promoter : Type} {call : Writer → WriteRequest}
  {promotion : Promoter → PromoteRequest}

/-- The answer at a point is never an exception. -/
theorem linearizationPoint_succeeds
    {step : Transition (PromptWriters Writer Promoter) (PromptStep Writer Promoter)}
    {entry : Entry (Writer ⊕ Promoter) PromptOperation (Except PyException WriteResult)}
    (atPoint : linearizationPoint call promotion step = some entry) :
    ∃ result, entry.response = .ok result := by
  obtain ⟨before, label, after⟩ := step
  cases label with
  | write writeLabel =>
      obtain ⟨-, -, created, version, -, answer⟩ := writePoint_eq_some atPoint
      exact ⟨_, answer⟩
  | promote promoter action =>
      simp only [linearizationPoint, promotePoint] at atPoint
      split at atPoint
      · split at atPoint
        · split at atPoint <;> cases atPoint
          exact ⟨_, rfl⟩
        · cases atPoint
      · split at atPoint
        · split at atPoint <;> cases atPoint
          exact ⟨_, rfl⟩
        · cases atPoint
      · cases atPoint

variable [DecidableEq Writer] [DecidableEq Promoter]

/-- **An environment serves the greatest version that was last promoted to it.** Whatever
creations, new versions and promotions interleave, and whichever of them fail: the order
in which the calls took effect determines what a reader gets. -/
theorem served_version_is_last_promoted (start finish : PromptWriters Writer Promoter)
    (transitions : List (Transition (PromptWriters Writer Promoter) (PromptStep Writer Promoter)))
    (initial : (promptWriters call promotion).initial start)
    (run : (promptWriters call promotion).Run start transitions finish)
    (name : String) (environment : PromptEnvironment) (number : Int) :
    (∃ served, get finish.tables name none (some environment.value) = .ok served ∧
      served.version = number) ↔
      IsGreatest {version | (∃ row ∈ finish.tables.versions,
          IsVersion finish.tables name version row) ∧
        lastTarget name version ((serialOrder call promotion transitions).map Entry.operation) =
          environment.value} number := by
  have released := released_of_history
    (writers_linearizable start finish transitions initial run).1 fun entry member => by
      obtain ⟨step, -, atPoint⟩ := List.mem_filterMap.mp member
      exact linearizationPoint_succeeds atPoint
  have sameSet : labelledVersions finish.tables name environment = {version |
      (∃ row ∈ finish.tables.versions, IsVersion finish.tables name version row) ∧
        lastTarget name version ((serialOrder call promotion transitions).map Entry.operation) =
          environment.value} := by
    ext version
    constructor
    · rintro ⟨prompt, promptMember, named, row, member, ofPrompt, rfl, numbered⟩
      have isVersion : IsVersion finish.tables name version row :=
        ⟨prompt, promptMember, named, Prod.ext ofPrompt numbered⟩
      exact ⟨⟨row, member, isVersion⟩,
        (released.environments name version row member isVersion).symm⟩
    · rintro ⟨⟨row, member, isVersion⟩, target⟩
      have labelled := released.environments name version row member isVersion
      obtain ⟨prompt, promptMember, named, keyed⟩ := isVersion
      refine ⟨prompt, promptMember, named, row, member, congrArg Prod.fst keyed, ?_,
        congrArg Prod.snd keyed⟩
      have sameValue := congrArg PromptEnvironment.ofValue (labelled.trans target)
      simpa using sameValue
  rw [get_environment_iff, sameSet]

end Concurrent

/-- The promotion that overtook the other one is served. -/
theorem overtaking_promotion_is_served :
    ∃ (finish : PromptWriters Unit Bool)
      (transitions : List (Transition (PromptWriters Unit Bool) (PromptStep Unit Bool))),
      transitions.map Transition.label = overtakenPromotion ∧
        (∃ served, get finish.tables "greeting" none (some "production") = .ok served ∧
          served.version = 1) ∧
        IsGreatest {version | (∃ row ∈ finish.tables.versions,
            IsVersion finish.tables "greeting" version row) ∧
          lastTarget "greeting" version
            ((serialOrder greetingWriter greetingPromotions transitions).map Entry.operation) =
              "production"} 1 := by
  have executed : (promptWriters greetingWriter greetingPromotions).execute overtakenPromotion
      ⟨⟨PromptTables.empty, fun _ => .waiting⟩, fun _ => .waiting⟩ = some _ := rfl
  obtain ⟨transitions, run, labels⟩ := exists_run_of_execute executed
  exact ⟨_, transitions, labels, ⟨_, rfl, rfl⟩, (served_version_is_last_promoted _ _ transitions
    ⟨⟨rfl, fun _ => rfl⟩, fun _ => rfl⟩ run "greeting" .production 1).mp ⟨_, rfl, rfl⟩⟩

end LlmopsPlatform.Prompts
