import LlmopsPlatform.Foundations.TransitionSystem
import LlmopsPlatform.Prompts.Store

/-!
# The prompt manager

The operations of `PromptManager` that read and write the prompt tables. Each
one runs in a transaction of its own: an operation that raises leaves the tables
as they were, so an operation is a function to either an exception or the
returned dictionary together with the new tables.

Identifiers and creation times are arguments. The source takes them from
`uuid4` and from the clock of the database, and no result depends on which values
they are: a repeated identifier is refused by the primary key.
-/

set_option autoImplicit false

namespace LlmopsPlatform.Prompts

open Foundations Python Database

/-- The dictionary built by `_version_to_dict`. -/
structure VersionDict where
  id : Nat
  prompt_id : Nat
  version : Int
  template : String
  environment : String
  templateVariables : Variables
  change_note : String
  created_at : Timestamp
deriving DecidableEq, Repr

def versionToDict (row : PromptVersionModel) : VersionDict where
  id := row.id
  prompt_id := row.prompt_id
  version := row.version
  template := row.template
  environment := row.environment.value
  templateVariables := row.templateVariables
  change_note := row.change_note
  created_at := row.created_at

/-- The dictionary built by `_prompt_to_dict`. -/
structure PromptDict where
  id : Nat
  name : String
  description : String
  is_active : Bool
  created_at : Timestamp
  latest_version : Option VersionDict
deriving DecidableEq, Repr

def promptToDict (row : PromptModel) (latest : Option PromptVersionModel) : PromptDict where
  id := row.id
  name := row.name
  description := row.description
  is_active := row.is_active
  created_at := row.created_at
  latest_version := latest.map versionToDict

namespace PromptManager

open PromptTables

/-! ## Reading -/

/-- `_get_prompt_by_name`. -/
def getPromptByName (tables : PromptTables) (name : String) : Except PyException PromptModel := do
  match ← scalarOneOrNone (tables.prompts.filter fun row => row.name = name) with
  | none => throw (.valueError ("Prompt '" ++ name ++ "' not found"))
  | some prompt => pure prompt

/-- The query for one version number of a prompt. -/
def selectVersion (tables : PromptTables) (prompt : PromptModel) (version : Int) :
    List PromptVersionModel :=
  tables.versions.filter fun row => row.versionKey = (prompt.id, version)

/-- The query for the versions of a prompt that carry an environment label. -/
def selectLabelled (tables : PromptTables) (prompt : PromptModel)
    (environment : PromptEnvironment) : List PromptVersionModel :=
  tables.versions.filter fun row => row.prompt_id = prompt.id ∧ row.environment = environment

/-- The query for all versions of a prompt. -/
def selectVersions (tables : PromptTables) (prompt : PromptModel) : List PromptVersionModel :=
  tables.versions.filter fun row => row.prompt_id = prompt.id

/-- `.order_by(PromptVersionModel.version.desc()).limit(1)`. -/
def newest (rows : List PromptVersionModel) : List PromptVersionModel :=
  (sortDescending PromptVersionModel.version rows).take 1

/-- `PromptEnvironment(text)`. -/
def parseEnvironment (text : String) : Except PyException PromptEnvironment :=
  match PromptEnvironment.ofValue text with
  | some environment => pure environment
  | none => throw (.valueError ("'" ++ text ++ "' is not a valid PromptEnvironment"))

/-- `PromptManager.get`. -/
def get (tables : PromptTables) (name : String) (version : Option Int)
    (environment : Option String) : Except PyException VersionDict := do
  let prompt ← getPromptByName tables name
  match version with
  | some number =>
      match ← scalarOneOrNone (selectVersion tables prompt number) with
      | none => throw (.valueError
          ("Version " ++ toString number ++ " not found for prompt '" ++ name ++ "'"))
      | some row => pure (versionToDict row)
  | none =>
      -- An environment that is missing or empty selects the latest version.
      match environment.filter (· ≠ "") with
      | some label =>
          let label' ← parseEnvironment label
          match ← scalarOneOrNone (newest (selectLabelled tables prompt label')) with
          | none => throw (.valueError
              ("No version in '" ++ label ++ "' environment for prompt '" ++ name ++ "'"))
          | some row => pure (versionToDict row)
      | none =>
          match ← scalarOneOrNone (newest (selectVersions tables prompt)) with
          | none => throw (.valueError ("No versions found for prompt '" ++ name ++ "'"))
          | some row => pure (versionToDict row)

/-- `PromptManager.list_prompts`. The relationship to the versions has the newest first. -/
def listPrompts (tables : PromptTables) : List PromptDict :=
  (tables.prompts.filter PromptModel.is_active).map fun p =>
    promptToDict p (sortDescending PromptVersionModel.version (selectVersions tables p)).head?

/-- `PromptManager.list_versions`. -/
def listVersions (tables : PromptTables) (name : String) :
    Except PyException (List VersionDict) := do
  let prompt ← getPromptByName tables name
  pure <| (sortDescending PromptVersionModel.version (selectVersions tables prompt)).map
    versionToDict

/-! ## Writing -/

/-- `PromptManager.create`. -/
def create (tables : PromptTables) (promptId versionId : Nat) (now : Timestamp)
    (name template description : String) (declared : Option Variables) :
    Except PyException (PromptDict × PromptTables) := do
  let prompt : PromptModel :=
    { id := promptId, name, description, is_active := true, created_at := now }
  let flushed ← insertPrompt tables prompt
  let version : PromptVersionModel :=
    { id := versionId, prompt_id := prompt.id, version := 1, template, environment := .draft,
      templateVariables := declared.getD [], change_note := "", created_at := now }
  let committed ← insertVersion flushed version
  pure (promptToDict prompt (some version), committed)

/-- `select(func.max(PromptVersionModel.version))`, which is null for no rows. -/
def maxVersion (rows : List PromptVersionModel) : Option Int :=
  (rows.map PromptVersionModel.version).max?

/-- `PromptManager.create_version`. -/
def createVersion (tables : PromptTables) (versionId : Nat) (now : Timestamp)
    (name template : String) (declared : Option Variables) (change_note : String) :
    Except PyException (VersionDict × PromptTables) := do
  let prompt ← getPromptByName tables name
  let max_version := (maxVersion (selectVersions tables prompt)).getD 0
  let version : PromptVersionModel :=
    { id := versionId, prompt_id := prompt.id, version := max_version + 1, template,
      environment := .draft, templateVariables := declared.getD [], change_note,
      created_at := now }
  let committed ← insertVersion tables version
  pure (versionToDict version, committed)

/-- `PromptManager.promote`. -/
def promote (tables : PromptTables) (name : String) (version : Int) (target_env : String) :
    Except PyException (VersionDict × PromptTables) := do
  let prompt ← getPromptByName tables name
  let environment ← parseEnvironment target_env
  match ← scalarOneOrNone (selectVersion tables prompt version) with
  | none => throw (.valueError
      ("Version " ++ toString version ++ " not found for prompt '" ++ name ++ "'"))
  | some row =>
      pure (versionToDict { row with environment }, tables.updateEnvironment row.id environment)

/-! ## What a successful operation has done -/

section Successful

variable {tables : PromptTables} {name : String}

/-- The ordered and limited query returns the row with the greatest version. -/
theorem scalarOneOrNone_newest (rows : List PromptVersionModel) :
    scalarOneOrNone (newest rows) =
      .ok (sortDescending PromptVersionModel.version rows).head? := by
  unfold newest
  cases sortDescending PromptVersionModel.version rows <;> rfl

/-- Looking a prompt up by its name finds the one row that has it, or raises. -/
theorem getPromptByName_cases (tables : PromptTables) (name : String) :
    (∃ prompt ∈ tables.prompts, prompt.name = name ∧ getPromptByName tables name = .ok prompt) ∨
    (∀ prompt ∈ tables.prompts, prompt.name ≠ name) ∧
      getPromptByName tables name = .error (.valueError ("Prompt '" ++ name ++ "' not found")) := by
  unfold getPromptByName
  rcases scalarOneOrNone_filter_key tables.promptNameUnique name with
    ⟨row, member, named, query⟩ | ⟨absent, query⟩
  · exact .inl ⟨row, member, named, by rw [query]; rfl⟩
  · exact .inr ⟨absent, by rw [query]; rfl⟩

theorem getPromptByName_eq_ok_iff {prompt : PromptModel} :
    getPromptByName tables name = .ok prompt ↔ prompt ∈ tables.prompts ∧ prompt.name = name := by
  rcases getPromptByName_cases tables name with ⟨row, member, named, found⟩ | ⟨absent, raised⟩
  · rw [found]
    constructor
    · intro same
      obtain rfl : row = prompt := Except.ok.inj same
      exact ⟨member, named⟩
    · rintro ⟨promptMember, promptNamed⟩
      have same := tables.promptNameUnique.eq_of_key_eq member promptMember
        (named.trans promptNamed.symm)
      exact congrArg Except.ok same
  · rw [raised]
    constructor
    · intro impossible
      cases impossible
    · rintro ⟨promptMember, promptNamed⟩
      exact absurd promptNamed (absent prompt promptMember)

/-- The rows that `create` has inserted when it succeeds. -/
theorem create_inserts {promptId versionId : Nat} {now : Timestamp}
    {template description : String} {declared : Option Variables} {result : PromptDict}
    {committed : PromptTables}
    (created : create tables promptId versionId now name template description declared =
      .ok (result, committed)) :
    ∃ flushed, insertPrompt tables ⟨promptId, name, description, true, now⟩ = .ok flushed ∧
      insertVersion flushed
        ⟨versionId, promptId, 1, template, .draft, declared.getD [], "", now⟩ = .ok committed := by
  unfold create at created
  simp only [bind, Except.bind, pure, Except.pure] at created
  split at created
  · cases created
  · rename_i flushed prompts
    split at created
    · cases created
    · rename_i inserted versions
      obtain ⟨-, rfl⟩ := Prod.mk.inj (Except.ok.inj created)
      exact ⟨flushed, prompts, versions⟩

/-- What `create` has done when it succeeds: one prompt and its first version are new. -/
theorem create_eq_ok {promptId versionId : Nat} {now : Timestamp} {template description : String}
    {declared : Option Variables} {result : PromptDict} {committed : PromptTables}
    (created : create tables promptId versionId now name template description declared =
      .ok (result, committed)) :
    ∃ prompt version, prompt.name = name ∧ version.prompt_id = prompt.id ∧ version.version = 1 ∧
      committed.prompts = tables.prompts ++ [prompt] ∧
      committed.versions = tables.versions ++ [version] := by
  obtain ⟨flushed, prompts, versions⟩ := create_inserts created
  obtain ⟨-, -, morePrompts, sameVersions⟩ := insertPrompt_eq_ok prompts
  obtain ⟨-, -, -, samePrompts, moreVersions⟩ := insertVersion_eq_ok versions
  exact ⟨_, _, rfl, rfl, rfl, samePrompts.trans morePrompts, by rw [moreVersions, sameVersions]⟩

/-- The row that `create_version` has inserted when it succeeds. -/
theorem createVersion_inserts {versionId : Nat} {now : Timestamp} {template change_note : String}
    {declared : Option Variables} {result : VersionDict} {committed : PromptTables}
    (created : createVersion tables versionId now name template declared change_note =
      .ok (result, committed)) :
    ∃ prompt, getPromptByName tables name = .ok prompt ∧
      insertVersion tables
        ⟨versionId, prompt.id, (maxVersion (selectVersions tables prompt)).getD 0 + 1, template,
          .draft, declared.getD [], change_note, now⟩ = .ok committed := by
  unfold createVersion at created
  simp only [bind, Except.bind, pure, Except.pure] at created
  split at created
  · cases created
  · rename_i prompt found
    split at created
    · cases created
    · rename_i inserted versions
      obtain ⟨-, rfl⟩ := Prod.mk.inj (Except.ok.inj created)
      exact ⟨prompt, found, versions⟩

/-- What `create_version` has done when it succeeds: one version is new, numbered
one more than the greatest number the prompt had. -/
theorem createVersion_eq_ok {versionId : Nat} {now : Timestamp} {template change_note : String}
    {declared : Option Variables} {result : VersionDict} {committed : PromptTables}
    (created : createVersion tables versionId now name template declared change_note =
      .ok (result, committed)) :
    ∃ prompt version, getPromptByName tables name = .ok prompt ∧ version.prompt_id = prompt.id ∧
      version.version = (maxVersion (selectVersions tables prompt)).getD 0 + 1 ∧
      committed.prompts = tables.prompts ∧ committed.versions = tables.versions ++ [version] := by
  obtain ⟨prompt, found, versions⟩ := createVersion_inserts created
  obtain ⟨-, -, -, samePrompts, moreVersions⟩ := insertVersion_eq_ok versions
  exact ⟨prompt, _, found, rfl, rfl, samePrompts, moreVersions⟩

end Successful

end PromptManager

/-! ## Runs -/

/-- A request that changes the prompt tables, with its arguments. -/
inductive PromptOperation where
  | create (promptId versionId : Nat) (now : Timestamp) (name template description : String)
      (declared : Option Variables)
  | createVersion (versionId : Nat) (now : Timestamp) (name template : String)
      (declared : Option Variables) (change_note : String)
  | promote (name : String) (version : Int) (target_env : String)

namespace PromptOperation

/-- The tables after an operation. One that raises is rolled back. -/
def apply (tables : PromptTables) : PromptOperation → PromptTables
  | create promptId versionId now name template description declared =>
      match PromptManager.create tables promptId versionId now name template description
          declared with
      | .ok (_, committed) => committed
      | .error _ => tables
  | createVersion versionId now name template declared change_note =>
      match PromptManager.createVersion tables versionId now name template declared
          change_note with
      | .ok (_, committed) => committed
      | .error _ => tables
  | promote name version target_env =>
      match PromptManager.promote tables name version target_env with
      | .ok (_, committed) => committed
      | .error _ => tables

end PromptOperation

/-- The tables after a run of operations on a new installation. -/
def PromptTables.afterRun (operations : List PromptOperation) : PromptTables :=
  operations.foldl PromptOperation.apply PromptTables.empty

/-- The operations as a transition system, to speak of the states in the course of a run. -/
def promptSystem : TransitionSystem PromptTables PromptOperation where
  initial := fun tables => tables = PromptTables.empty
  next := fun tables operation => some (operation.apply tables)

end LlmopsPlatform.Prompts
