import LlmopsPlatform.Prompts.Manager
import Mathlib.Order.Bounds.Basic

/-!
# Which version an environment serves

For a prompt and an environment, the labelled versions are the numbers of the
prompt's versions that carry the environment's label. Reading the prompt through
the environment returns the greatest of them (`get_environment_iff`), and a
promotion adds one number to the set without removing any
(`labelledVersions_of_promote`).

So a promotion takes effect exactly when no newer version carries the label
already (`promote_takes_effect_iff`). Promoting an older version, which is how an
operator rolls a release back, succeeds and changes nothing for the callers.
-/

set_option autoImplicit false

namespace LlmopsPlatform.Prompts

open Foundations Python Database

/-- The numbers of the versions of a prompt that carry an environment's label. -/
def labelledVersions (tables : PromptTables) (name : String) (environment : PromptEnvironment) :
    Set Int :=
  {number | ∃ prompt ∈ tables.prompts, prompt.name = name ∧
    ∃ row ∈ tables.versions, row.prompt_id = prompt.id ∧ row.environment = environment ∧
      row.version = number}

namespace PromptManager

open PromptTables

variable {tables : PromptTables} {name : String} {prompt : PromptModel}

/-! ## Queries -/

/-- The labelled versions of a prompt that was found by its name. -/
theorem mem_labelledVersions_iff (found : getPromptByName tables name = .ok prompt)
    (environment : PromptEnvironment) (number : Int) :
    number ∈ labelledVersions tables name environment ↔
      ∃ row ∈ selectLabelled tables prompt environment, row.version = number := by
  obtain ⟨promptMember, promptNamed⟩ := getPromptByName_eq_ok_iff.mp found
  constructor
  · rintro ⟨other, otherMember, otherNamed, row, member, ofPrompt, labelled, numbered⟩
    obtain rfl := tables.promptNameUnique.eq_of_key_eq otherMember promptMember
      (otherNamed.trans promptNamed.symm)
    exact ⟨row, by simp [selectLabelled, member, ofPrompt, labelled], numbered⟩
  · rintro ⟨row, selected, numbered⟩
    simp only [selectLabelled, List.mem_filter, decide_eq_true_eq] at selected
    exact ⟨prompt, promptMember, promptNamed, row, selected.1, selected.2.1, selected.2.2,
      numbered⟩

/-! ## Reading through an environment -/

/-- The query that `get` makes for an environment, once the name is resolved. -/
theorem get_environment_eq (environment : PromptEnvironment) :
    get tables name none (some environment.value) =
      (getPromptByName tables name).bind fun prompt =>
        match (sortDescending PromptVersionModel.version
            (selectLabelled tables prompt environment)).head? with
        | none => .error (.valueError
            ("No version in '" ++ environment.value ++ "' environment for prompt '" ++ name ++ "'"))
        | some row => .ok (versionToDict row) := by
  have given : (some environment.value).filter (· ≠ "") = some environment.value := by
    simp [Option.filter, environment.value_ne_empty]
  unfold get
  cases getPromptByName tables name with
  | error failure => rfl
  | ok prompt =>
      simp only [given, parseEnvironment, PromptEnvironment.ofValue_value, scalarOneOrNone_newest]
      cases (sortDescending PromptVersionModel.version
        (selectLabelled tables prompt environment)).head? <;> rfl

/-- **An environment serves its greatest labelled version.** -/
theorem get_environment_iff {environment : PromptEnvironment} {number : Int} :
    (∃ served, get tables name none (some environment.value) = .ok served ∧
      served.version = number) ↔
      IsGreatest (labelledVersions tables name environment) number := by
  rw [get_environment_eq]
  cases found : getPromptByName tables name with
  | error failure =>
      constructor
      · rintro ⟨served, impossible, -⟩
        cases impossible
      · rintro ⟨⟨prompt, member, named, -⟩, -⟩
        rw [getPromptByName_eq_ok_iff.mpr ⟨member, named⟩] at found
        cases found
  | ok prompt =>
      have member := mem_labelledVersions_iff found environment
      cases first : (sortDescending PromptVersionModel.version
          (selectLabelled tables prompt environment)).head? with
      | none =>
          have nothing := head_sortDescending_eq_none.mp first
          simp only [Except.bind, first, reduceCtorEq, false_and, exists_false, false_iff]
          rintro ⟨inSet, -⟩
          obtain ⟨row, selected, -⟩ := (member number).mp inSet
          simp [nothing] at selected
      | some top =>
          obtain ⟨topSelected, greatest⟩ := head_sortDescending first
          simp only [Except.bind, first, Except.ok.injEq, exists_eq_left', versionToDict]
          constructor
          · rintro rfl
            refine ⟨(member _).mpr ⟨top, topSelected, rfl⟩, fun other inSet => ?_⟩
            obtain ⟨row, selected, rfl⟩ := (member other).mp inSet
            exact greatest row selected
          · rintro ⟨inSet, bound⟩
            obtain ⟨row, selected, rfl⟩ := (member number).mp inSet
            exact le_antisymm (bound ((member _).mpr ⟨top, topSelected, rfl⟩))
              (greatest row selected)

/-! ## Promoting -/

/-- What a promotion that succeeds has done: it found the prompt, the environment and
the version, and changed the label of that one row. -/
theorem promote_eq_ok {version : Int} {target_env : String} {result : VersionDict}
    {committed : PromptTables}
    (promoted : promote tables name version target_env = .ok (result, committed)) :
    ∃ prompt row environment, getPromptByName tables name = .ok prompt ∧
      PromptEnvironment.ofValue target_env = some environment ∧ row ∈ tables.versions ∧
      row.versionKey = (prompt.id, version) ∧
      committed = tables.updateEnvironment row.id environment := by
  unfold promote at promoted
  cases found : getPromptByName tables name with
  | error failure =>
      rw [found] at promoted
      cases promoted
  | ok prompt =>
      cases parsed : PromptEnvironment.ofValue target_env with
      | none =>
          simp only [found, parseEnvironment, parsed, bind, Except.bind] at promoted
          cases promoted
      | some environment =>
          simp only [found, parseEnvironment, parsed, bind, Except.bind, pure, Except.pure]
            at promoted
          rcases scalarOneOrNone_filter_key tables.promptVersionUnique (prompt.id, version) with
            ⟨row, member, keyed, query⟩ | ⟨-, query⟩
          · rw [show scalarOneOrNone (selectVersion tables prompt version) = _ from query]
              at promoted
            have same : tables.updateEnvironment row.id environment = committed :=
              (Prod.mk.inj (Except.ok.inj promoted)).2
            exact ⟨prompt, row, environment, rfl, rfl, member, keyed, same.symm⟩
          · rw [show scalarOneOrNone (selectVersion tables prompt version) = _ from query]
              at promoted
            cases promoted

/-- A promotion of a version that exists to an environment that exists succeeds. -/
theorem promote_of_found {version : Int} {target_env : String} {environment : PromptEnvironment}
    {row : PromptVersionModel} (found : getPromptByName tables name = .ok prompt)
    (parsed : PromptEnvironment.ofValue target_env = some environment)
    (member : row ∈ tables.versions) (keyed : row.versionKey = (prompt.id, version)) :
    promote tables name version target_env =
      .ok (versionToDict { row with environment },
        tables.updateEnvironment row.id environment) := by
  have query : selectVersion tables prompt version = [row] := by
    rw [selectVersion, ← keyed]
    exact tables.promptVersionUnique.filter_eq_singleton member
  unfold promote
  simp only [found, parseEnvironment, parsed, bind, Except.bind, pure, Except.pure, query,
    scalarOneOrNone]

/-- The name of its prompt and its number single out a row. -/
theorem id_eq_iff_of_keyed {version : Int} {row : PromptVersionModel}
    (found : getPromptByName tables name = .ok prompt) (member : row ∈ tables.versions)
    (keyed : row.versionKey = (prompt.id, version)) {owner : PromptModel}
    (ownerMember : owner ∈ tables.prompts) {candidate : PromptVersionModel}
    (candidateMember : candidate ∈ tables.versions) (ofOwner : candidate.prompt_id = owner.id) :
    candidate.id = row.id ↔ owner.name = name ∧ candidate.version = version := by
  obtain ⟨promptMember, promptNamed⟩ := getPromptByName_eq_ok_iff.mp found
  obtain ⟨ofPrompt, numbered⟩ := Prod.mk.inj keyed
  constructor
  · intro sameId
    obtain rfl := tables.versionIdUnique.eq_of_key_eq candidateMember member sameId
    obtain rfl := tables.promptIdUnique.eq_of_key_eq ownerMember promptMember
      (ofOwner.symm.trans ofPrompt)
    exact ⟨promptNamed, numbered⟩
  · rintro ⟨ownerNamed, candidateNumbered⟩
    obtain rfl := tables.promptNameUnique.eq_of_key_eq ownerMember promptMember
      (ownerNamed.trans promptNamed.symm)
    have sameKey : candidate.versionKey = row.versionKey :=
      Prod.ext (ofOwner.trans ofPrompt.symm) (candidateNumbered.trans numbered.symm)
    rw [tables.promptVersionUnique.eq_of_key_eq candidateMember member sameKey]

/-- **Relabelling one version changes which environment has that version, and nothing else.** -/
theorem mem_labelledVersions_updateEnvironment {version : Int} {row : PromptVersionModel}
    (found : getPromptByName tables name = .ok prompt) (member : row ∈ tables.versions)
    (keyed : row.versionKey = (prompt.id, version)) (target environment : PromptEnvironment)
    (other : String) (number : Int) :
    number ∈ labelledVersions (tables.updateEnvironment row.id target) other environment ↔
      if other = name ∧ number = version then target = environment
      else number ∈ labelledVersions tables other environment := by
  simp only [labelledVersions, Set.mem_ofPred_eq, updateEnvironment_prompts,
    updateEnvironment_versions, List.mem_map, exists_exists_and_eq_and, relabel_prompt_id,
    relabel_version, relabel_environment]
  split
  · rename_i isRow
    obtain ⟨rfl, rfl⟩ := isRow
    constructor
    · rintro ⟨owner, ownerMember, ownerNamed, candidate, candidateMember, ofOwner, labelled,
        candidateNumbered⟩
      rwa [if_pos ((id_eq_iff_of_keyed found member keyed ownerMember candidateMember
        ofOwner).mpr ⟨ownerNamed, candidateNumbered⟩)] at labelled
    · intro same
      obtain ⟨promptMember, promptNamed⟩ := getPromptByName_eq_ok_iff.mp found
      obtain ⟨ofPrompt, numbered⟩ := Prod.mk.inj keyed
      exact ⟨prompt, promptMember, promptNamed, row, member, ofPrompt, by simpa using same,
        numbered⟩
  · rename_i notRow
    refine exists_congr fun owner => and_congr_right fun ownerMember =>
      and_congr_right fun ownerNamed => exists_congr fun candidate =>
        and_congr_right fun candidateMember => and_congr_right fun ofOwner =>
          and_congr_left fun candidateNumbered => ?_
    have otherId : candidate.id ≠ row.id := by
      rw [Ne, id_eq_iff_of_keyed found member keyed ownerMember candidateMember ofOwner,
        ownerNamed, candidateNumbered]
      exact notRow
    rw [if_neg otherId]

/-- **A promotion adds its version to the labelled ones and removes none.** -/
theorem labelledVersions_of_promote {version : Int} {environment : PromptEnvironment}
    {result : VersionDict} {committed : PromptTables}
    (promoted : promote tables name version environment.value = .ok (result, committed)) :
    labelledVersions committed name environment =
      insert version (labelledVersions tables name environment) := by
  obtain ⟨prompt, row, target, found, parsed, member, keyed, rfl⟩ := promote_eq_ok promoted
  obtain rfl : environment = target :=
    Option.some.inj ((PromptEnvironment.ofValue_value _).symm.trans parsed)
  ext number
  rw [mem_labelledVersions_updateEnvironment found member keyed, Set.mem_insert_iff]
  by_cases isVersion : number = version <;> simp [isVersion]

end PromptManager

open PromptManager

/-- **When a promotion takes effect.** After a promotion that succeeded, reading the
prompt through the environment returns the promoted version exactly when no
version that carried the label before is newer. -/
theorem promote_takes_effect_iff (operations : List PromptOperation) (name : String)
    (version : Int) (environment : PromptEnvironment) (result : VersionDict)
    (committed : PromptTables)
    (promoted : promote (PromptTables.afterRun operations) name version environment.value =
      .ok (result, committed)) :
    (∃ served, get committed name none (some environment.value) = .ok served ∧
      served.version = version) ↔
      ∀ labelled ∈ labelledVersions (PromptTables.afterRun operations) name environment,
        labelled ≤ version := by
  rw [get_environment_iff, labelledVersions_of_promote promoted]
  constructor
  · intro greatest labelled member
    exact greatest.2 (Set.mem_insert_of_mem _ member)
  · intro bound
    refine ⟨Set.mem_insert _ _, fun labelled member => ?_⟩
    rcases Set.mem_insert_iff.mp member with rfl | earlier
    · exact le_rfl
    · exact bound labelled earlier

/-- Two versions of a prompt, the second of them in production. -/
def releasedTwice : List PromptOperation :=
  [.create 1 1 0 "greeting" "Hello" "" none,
    .createVersion 2 1 "greeting" "Good morning" none "",
    .promote "greeting" 2 "production"]

/-- The condition is met when the promoted version is the newest one. -/
theorem promote_newest_takes_effect :
    ∃ result committed,
      promote (PromptTables.afterRun releasedTwice) "greeting" 2 "production" =
          .ok (result, committed) ∧
        ((∃ served, get committed "greeting" none (some "production") = .ok served ∧
            served.version = 2) ↔
          ∀ labelled ∈ labelledVersions (PromptTables.afterRun releasedTwice) "greeting"
            .production, labelled ≤ 2) :=
  ⟨_, _, rfl, promote_takes_effect_iff releasedTwice "greeting" 2 .production _ _ rfl⟩

/-- **A rollback does not take effect.** Promoting the first version again succeeds,
and production still serves the second. -/
theorem rollback_is_not_served :
    ¬ ∀ (operations : List PromptOperation) (name : String) (version : Int)
        (environment : PromptEnvironment) (result : VersionDict) (committed : PromptTables),
      promote (PromptTables.afterRun operations) name version environment.value =
          .ok (result, committed) →
        ∃ served, get committed name none (some environment.value) = .ok served ∧
          served.version = version := by
  intro always
  obtain ⟨served, read, numbered⟩ := always releasedTwice "greeting" 1 .production _ _ rfl
  have second : served.version = 2 := by
    cases read
    rfl
  omega

end LlmopsPlatform.Prompts
