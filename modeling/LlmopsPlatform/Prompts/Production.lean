import LlmopsPlatform.Prompts.Promotion

/-!
# When production loses its prompt

A version row holds one environment label, and a promotion writes whatever label
its caller names. So a promotion to another environment takes the label
`production` away from its version, and if no other version of the prompt carries
it, production has nothing left to serve.

No other operation does that: creating prompts and versions only adds rows, and a
promotion to production only adds a label. Production serves a prompt through a
whole run exactly when no promotion of the run moves its last version away
(`production_served_iff`).
-/

set_option autoImplicit false

namespace LlmopsPlatform.Prompts

open Foundations Foundations.TransitionSystem Python Database PromptManager PromptTables

/-- The read of the production version fails because there is none. -/
def Unserved (tables : PromptTables) (name : String) : Prop :=
  get tables name none (some "production") =
    .error (.valueError ("No version in 'production' environment for prompt '" ++ name ++ "'"))

/-- The operation is a promotion of the only production version of a prompt to
another environment. -/
def MovesLastAway (tables : PromptTables) (name : String) : PromptOperation → Prop
  | .promote target version target_env =>
      target = name ∧ labelledVersions tables name .production = {version} ∧
        ∃ environment, PromptEnvironment.ofValue target_env = some environment ∧
          environment ≠ .production
  | _ => False

variable {tables : PromptTables} {name : String}

/-! ## Reading -/

/-- Reading through an environment, by whether some version carries its label. -/
theorem get_environment_cases (environment : PromptEnvironment) {prompt : PromptModel}
    (found : getPromptByName tables name = .ok prompt) :
    ((labelledVersions tables name environment).Nonempty ∧
      ∃ served, get tables name none (some environment.value) = .ok served) ∨
    (¬ (labelledVersions tables name environment).Nonempty ∧
      get tables name none (some environment.value) = .error (.valueError
        ("No version in '" ++ environment.value ++ "' environment for prompt '" ++ name ++
          "'"))) := by
  have member := mem_labelledVersions_iff found environment
  rw [get_environment_eq, found]
  cases first : (sortDescending PromptVersionModel.version
      (selectLabelled tables prompt environment)).head? with
  | none =>
      refine .inr ⟨?_, by simp only [Except.bind, first]⟩
      rintro ⟨number, inSet⟩
      obtain ⟨row, selected, -⟩ := (member number).mp inSet
      simp [head_sortDescending_eq_none.mp first] at selected
  | some top =>
      obtain ⟨selected, -⟩ := head_sortDescending first
      exact .inl ⟨⟨top.version, (member _).mpr ⟨top, selected, rfl⟩⟩, versionToDict top,
        by simp only [Except.bind, first]⟩

theorem getPromptByName_of_labelled {environment : PromptEnvironment}
    (labelled : (labelledVersions tables name environment).Nonempty) :
    ∃ prompt, getPromptByName tables name = .ok prompt := by
  obtain ⟨_, prompt, member, named, -⟩ := labelled
  exact ⟨prompt, getPromptByName_eq_ok_iff.mpr ⟨member, named⟩⟩

theorem labelled_of_get {environment : PromptEnvironment} {served : VersionDict}
    (read : get tables name none (some environment.value) = .ok served) :
    (labelledVersions tables name environment).Nonempty :=
  ⟨served.version, (get_environment_iff.mp ⟨served, read, rfl⟩).1⟩

/-- A prompt that exists is unserved exactly when no version is labelled. -/
theorem unserved_iff {prompt : PromptModel} (found : getPromptByName tables name = .ok prompt) :
    Unserved tables name ↔ ¬ (labelledVersions tables name .production).Nonempty := by
  unfold Unserved
  rcases get_environment_cases .production found with ⟨labelled, served, read⟩ | ⟨empty, read⟩
  · rw [show get tables name none (some "production") = _ from read]
    simp [labelled]
  · rw [show get tables name none (some "production") = _ from read]
    simpa [PromptEnvironment.value] using empty

/-! ## One operation -/

/-- Rows that stay keep their labels. -/
theorem labelledVersions_mono {after : PromptTables} (prompts : tables.prompts ⊆ after.prompts)
    (versions : tables.versions ⊆ after.versions) (environment : PromptEnvironment) :
    labelledVersions tables name environment ⊆ labelledVersions after name environment := by
  rintro number ⟨prompt, member, named, row, rowMember, rest⟩
  exact ⟨prompt, prompts member, named, row, versions rowMember, rest⟩

/-- A prompt is found again after any operation. -/
theorem getPromptByName_apply {prompt : PromptModel}
    (found : getPromptByName tables name = .ok prompt) (operation : PromptOperation) :
    getPromptByName (operation.apply tables) name = .ok prompt := by
  obtain ⟨member, named⟩ := getPromptByName_eq_ok_iff.mp found
  refine getPromptByName_eq_ok_iff.mpr ⟨?_, named⟩
  cases operation with
  | create promptId versionId now created template description declared =>
      simp only [PromptOperation.apply]
      split
      · rename_i success
        obtain ⟨_, _, -, -, -, prompts, -⟩ := create_eq_ok success
        simp [prompts, member]
      · exact member
  | createVersion versionId now created template declared change_note =>
      simp only [PromptOperation.apply]
      split
      · rename_i success
        obtain ⟨_, _, -, -, -, prompts, -⟩ := createVersion_eq_ok success
        rwa [prompts]
      · exact member
  | promote target version target_env =>
      simp only [PromptOperation.apply]
      split
      · rename_i success
        obtain ⟨_, _, _, -, -, -, -, rfl⟩ := promote_eq_ok success
        exact member
      · exact member

/-- A promotion that relabels a row empties production exactly when it moves the last version
away. -/
theorem labelled_updateEnvironment_iff {prompt : PromptModel} {row : PromptVersionModel}
    {target target_env : String} {version : Int} {environment : PromptEnvironment}
    (found : getPromptByName tables target = .ok prompt) (member : row ∈ tables.versions)
    (keyed : row.versionKey = (prompt.id, version))
    (parsed : PromptEnvironment.ofValue target_env = some environment)
    (labelled : (labelledVersions tables name .production).Nonempty) :
    (labelledVersions (tables.updateEnvironment row.id environment) name .production).Nonempty ↔
      ¬ MovesLastAway tables name (.promote target version target_env) := by
  have after := mem_labelledVersions_updateEnvironment found member keyed environment
    .production name
  constructor
  · rintro ⟨number, still⟩ ⟨rfl, only, moved, parsedTo, notProduction⟩
    obtain rfl := Option.some.inj (parsed.symm.trans parsedTo)
    rw [after, only] at still
    by_cases isVersion : number = version <;> simp_all
  · intro keeps
    by_cases own : target = name
    · subst own
      by_cases toProduction : environment = .production
      · exact ⟨version, (after version).mpr (by simp [toProduction])⟩
      · -- Another version carries the label, since this one is not the only one.
        obtain ⟨number, inSet, different⟩ : ∃ number ∈ labelledVersions tables target
            .production, number ≠ version := by
          by_contra none_other
          push Not at none_other
          exact keeps ⟨rfl, labelled.subset_singleton_iff.mp none_other, environment, parsed,
            toProduction⟩
        exact ⟨number, (after number).mpr (by simp [different, inSet])⟩
    · obtain ⟨number, inSet⟩ := labelled
      exact ⟨number, (after number).mpr (by simp [Ne.symm own, inSet])⟩

/-- A promotion that raises does not move the last version away. -/
theorem not_movesLastAway_of_error {target target_env : String} {version : Int}
    {failure : PyException} (raised : promote tables target version target_env = .error failure) :
    ¬ MovesLastAway tables name (.promote target version target_env) := by
  rintro ⟨rfl, only, environment, parsed, -⟩
  have inSet : version ∈ labelledVersions tables target .production := by simp [only]
  obtain ⟨prompt, promptMember, named, row, member, ofPrompt, -, numbered⟩ := inSet
  have found := getPromptByName_eq_ok_iff.mpr ⟨promptMember, named⟩
  rw [promote_of_found found parsed member (Prod.ext ofPrompt numbered)] at raised
  cases raised

/-- **One operation leaves production served unless it moves the last version away.** -/
theorem labelled_apply_iff (operation : PromptOperation)
    (labelled : (labelledVersions tables name .production).Nonempty) :
    (labelledVersions (operation.apply tables) name .production).Nonempty ↔
      ¬ MovesLastAway tables name operation := by
  cases operation with
  | create promptId versionId now created template description declared =>
      simp only [PromptOperation.apply, MovesLastAway, not_false_eq_true, iff_true]
      split
      · rename_i committed success
        obtain ⟨_, _, -, -, -, prompts, versions⟩ := create_eq_ok success
        exact labelled.mono (labelledVersions_mono (by simp [prompts]) (by simp [versions]) _)
      · exact labelled
  | createVersion versionId now created template declared change_note =>
      simp only [PromptOperation.apply, MovesLastAway, not_false_eq_true, iff_true]
      split
      · rename_i committed success
        obtain ⟨_, _, -, -, -, prompts, versions⟩ := createVersion_eq_ok success
        exact labelled.mono (labelledVersions_mono (by simp [prompts]) (by simp [versions]) _)
      · exact labelled
  | promote target version target_env =>
      simp only [PromptOperation.apply]
      split
      · rename_i committed success
        obtain ⟨prompt, row, environment, found, parsed, member, keyed, rfl⟩ :=
          promote_eq_ok success
        exact labelled_updateEnvironment_iff found member keyed parsed labelled
      · rename_i failure raised
        exact iff_of_true labelled (not_movesLastAway_of_error raised)

/-! ## Whole runs -/

/-- **When production keeps its prompt.** Once production serves a prompt, no later
state of a run leaves it unserved exactly when no step of the run is a promotion of
its only production version to another environment. -/
theorem production_served_iff (start finish : PromptTables) (name : String) (served : VersionDict)
    (transitions : List (Transition PromptTables PromptOperation))
    (read : get start name none (some "production") = .ok served)
    (run : promptSystem.Run start transitions finish) :
    (∀ step ∈ transitions, ¬ Unserved step.after name) ↔
      ∀ step ∈ transitions, ¬ MovesLastAway step.before name step.label := by
  have labelled : (labelledVersions start name .production).Nonempty := labelled_of_get read
  refine Run.good_iff_guarded
    (fun tables => (labelledVersions tables name .production).Nonempty) ?_ ?_ labelled run
  · rintro ⟨before, operation, after⟩ labelledBefore step
    obtain rfl : operation.apply before = after := Option.some.inj step
    obtain ⟨prompt, found⟩ := getPromptByName_of_labelled labelledBefore
    rw [← labelled_apply_iff operation labelledBefore,
      unserved_iff (getPromptByName_apply found operation), not_not]
  · rintro ⟨before, operation, after⟩ labelledBefore step stays
    obtain rfl : operation.apply before = after := Option.some.inj step
    exact (labelled_apply_iff operation labelledBefore).mpr stays

/-- One version of a prompt, released to production and then moved back to staging. -/
def withdrawn : List PromptOperation :=
  [.create 1 1 0 "greeting" "Hello" "" none,
    .promote "greeting" 1 "production",
    .promote "greeting" 1 "staging"]

/-- A run that only adds a version after the release keeps production served. -/
theorem new_version_keeps_production :
    ∃ (served : VersionDict) (transitions : List (Transition PromptTables PromptOperation)),
      get (afterRun (withdrawn.take 2)) "greeting" none (some "production") = .ok served ∧
        transitions.map Transition.label = [.createVersion 2 1 "greeting" "Good day" none ""] ∧
          ((∀ step ∈ transitions, ¬ Unserved step.after "greeting") ↔
            ∀ step ∈ transitions, ¬ MovesLastAway step.before "greeting" step.label) :=
  ⟨_, _, rfl, rfl, production_served_iff (afterRun (withdrawn.take 2)) _ "greeting" _ _ rfl
    (Run.nil.snoc rfl)⟩

/-- **Production can lose its prompt.** After the only released version was promoted
to staging, reading the production version fails. -/
theorem withdrawn_leaves_production_unserved :
    ¬ ∀ (earlier later : List PromptOperation) (name : String) (served : VersionDict),
      get (afterRun earlier) name none (some "production") = .ok served →
        ¬ Unserved (afterRun (earlier ++ later)) name := by
  intro never
  exact never (withdrawn.take 2) (withdrawn.drop 2) "greeting" _ rfl rfl

end LlmopsPlatform.Prompts
