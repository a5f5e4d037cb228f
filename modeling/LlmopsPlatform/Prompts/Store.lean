import LlmopsPlatform.Database.Query

/-!
# The prompt tables

The tables `prompts` and `prompt_versions` with the constraints that the database
enforces on them: primary keys, the unique prompt name, the unique pair of prompt
and version number, and the foreign key from a version to its prompt. The
constraints are fields of `PromptTables`, so tables that break one cannot be
built, and an insert that would break one fails as the database does.

The columns `updated_at` and `metadata` are left out: no operation reads them.
-/

set_option autoImplicit false

namespace LlmopsPlatform.Prompts

open Foundations Python Database

/-- The declared variables of a template. -/
abbrev Variables := List (String × String)

/-- The enumeration `PromptEnvironment`. -/
inductive PromptEnvironment where
  | draft
  | staging
  | production
deriving DecidableEq, Repr

namespace PromptEnvironment

def value : PromptEnvironment → String
  | draft => "draft"
  | staging => "staging"
  | production => "production"

/-- The call `PromptEnvironment(text)`, without its exception. -/
def ofValue (text : String) : Option PromptEnvironment :=
  [draft, staging, production].find? fun environment => environment.value = text

@[simp] theorem ofValue_value (environment : PromptEnvironment) :
    ofValue environment.value = some environment := by
  cases environment <;> decide

theorem value_ne_empty (environment : PromptEnvironment) : environment.value ≠ "" := by
  cases environment <;> decide

end PromptEnvironment

/-- A row of the table `prompts`. -/
structure PromptModel where
  id : Nat
  name : String
  description : String
  is_active : Bool
  created_at : Timestamp
deriving DecidableEq, Repr

/-- A row of the table `prompt_versions`. The column `variables` is
`templateVariables` here, since `variables` is a keyword of Lean. -/
structure PromptVersionModel where
  id : Nat
  prompt_id : Nat
  version : Int
  template : String
  environment : PromptEnvironment
  templateVariables : Variables
  change_note : String
  created_at : Timestamp
deriving DecidableEq, Repr

/-- The columns of the constraint `uq_prompt_version`. -/
def PromptVersionModel.versionKey (row : PromptVersionModel) : Nat × Int :=
  (row.prompt_id, row.version)

/-- The two tables together with the constraints of the schema. -/
structure PromptTables where
  prompts : List PromptModel
  versions : List PromptVersionModel
  promptIdUnique : UniqueKey PromptModel.id prompts
  promptNameUnique : UniqueKey PromptModel.name prompts
  versionIdUnique : UniqueKey PromptVersionModel.id versions
  promptVersionUnique : UniqueKey PromptVersionModel.versionKey versions
  versionHasPrompt : ∀ row ∈ versions, row.prompt_id ∈ prompts.map PromptModel.id

namespace PromptTables

/-- The tables of a new installation. -/
def empty : PromptTables where
  prompts := []
  versions := []
  promptIdUnique := List.nodup_nil
  promptNameUnique := List.nodup_nil
  versionIdUnique := List.nodup_nil
  promptVersionUnique := List.nodup_nil
  versionHasPrompt := by simp

/-- `INSERT INTO prompts`. -/
def insertPrompt (tables : PromptTables) (row : PromptModel) : Except PyException PromptTables :=
  if fresh : row.id ∉ tables.prompts.map PromptModel.id ∧
      row.name ∉ tables.prompts.map PromptModel.name then
    .ok { tables with
      prompts := tables.prompts ++ [row]
      promptIdUnique := tables.promptIdUnique.append_fresh fresh.1
      promptNameUnique := tables.promptNameUnique.append_fresh fresh.2
      versionHasPrompt := fun version member => by
        rw [List.map_append]
        exact List.mem_append_left _ (tables.versionHasPrompt version member) }
  else
    .error integrityError

/-- `INSERT INTO prompt_versions`. -/
def insertVersion (tables : PromptTables) (row : PromptVersionModel) :
    Except PyException PromptTables :=
  if fresh : row.id ∉ tables.versions.map PromptVersionModel.id ∧
      row.versionKey ∉ tables.versions.map PromptVersionModel.versionKey ∧
      row.prompt_id ∈ tables.prompts.map PromptModel.id then
    .ok { tables with
      versions := tables.versions ++ [row]
      versionIdUnique := tables.versionIdUnique.append_fresh fresh.1
      promptVersionUnique := tables.promptVersionUnique.append_fresh fresh.2.1
      versionHasPrompt := fun version member => by
        rcases List.mem_append.mp member with earlier | isNew
        · exact tables.versionHasPrompt version earlier
        · rw [List.mem_singleton.mp isNew]
          exact fresh.2.2 }
  else
    .error integrityError

section Inserts

variable {tables after : PromptTables}

/-- What `INSERT INTO prompts` has done when the database accepted it. -/
theorem insertPrompt_eq_ok {row : PromptModel} (inserted : tables.insertPrompt row = .ok after) :
    row.id ∉ tables.prompts.map PromptModel.id ∧
      row.name ∉ tables.prompts.map PromptModel.name ∧
      after.prompts = tables.prompts ++ [row] ∧ after.versions = tables.versions := by
  unfold insertPrompt at inserted
  split at inserted
  · rename_i fresh
    cases inserted
    exact ⟨fresh.1, fresh.2, rfl, rfl⟩
  · cases inserted

/-- What `INSERT INTO prompt_versions` has done when the database accepted it. -/
theorem insertVersion_eq_ok {row : PromptVersionModel}
    (inserted : tables.insertVersion row = .ok after) :
    row.id ∉ tables.versions.map PromptVersionModel.id ∧
      row.versionKey ∉ tables.versions.map PromptVersionModel.versionKey ∧
      row.prompt_id ∈ tables.prompts.map PromptModel.id ∧
      after.prompts = tables.prompts ∧ after.versions = tables.versions ++ [row] := by
  unfold insertVersion at inserted
  split at inserted
  · rename_i fresh
    cases inserted
    exact ⟨fresh.1, fresh.2.1, fresh.2.2, rfl, rfl⟩
  · cases inserted

end Inserts

/-- The row with its environment changed, if it is the row with the given id. -/
def relabel (id : Nat) (environment : PromptEnvironment) (row : PromptVersionModel) :
    PromptVersionModel :=
  if row.id = id then { row with environment := environment } else row

section Relabel

variable (id : Nat) (environment : PromptEnvironment) (row : PromptVersionModel)

@[simp] theorem relabel_id : (relabel id environment row).id = row.id := by
  unfold relabel; split <;> rfl

@[simp] theorem relabel_prompt_id : (relabel id environment row).prompt_id = row.prompt_id := by
  unfold relabel; split <;> rfl

@[simp] theorem relabel_version : (relabel id environment row).version = row.version := by
  unfold relabel; split <;> rfl

@[simp] theorem relabel_versionKey :
    (relabel id environment row).versionKey = row.versionKey := by
  simp [PromptVersionModel.versionKey]

theorem relabel_environment : (relabel id environment row).environment =
    if row.id = id then environment else row.environment := by
  unfold relabel; split <;> rfl

end Relabel

/-- `UPDATE prompt_versions SET environment = … WHERE id = …`. -/
def updateEnvironment (tables : PromptTables) (id : Nat) (environment : PromptEnvironment) :
    PromptTables :=
  { tables with
    versions := tables.versions.map (relabel id environment)
    versionIdUnique := tables.versionIdUnique.map (relabel_id id environment)
    promptVersionUnique := tables.promptVersionUnique.map (relabel_versionKey id environment)
    versionHasPrompt := fun version member => by
      obtain ⟨row, rowMember, rfl⟩ := List.mem_map.mp member
      rw [relabel_prompt_id]
      exact tables.versionHasPrompt row rowMember }

@[simp] theorem updateEnvironment_prompts (tables : PromptTables) (id : Nat)
    (environment : PromptEnvironment) :
    (tables.updateEnvironment id environment).prompts = tables.prompts := rfl

@[simp] theorem updateEnvironment_versions (tables : PromptTables) (id : Nat)
    (environment : PromptEnvironment) :
    (tables.updateEnvironment id environment).versions =
      tables.versions.map (relabel id environment) := rfl

/-! ## Rows by their identifier -/

/-- The prompt with an identifier. -/
def promptById (tables : PromptTables) (id : Nat) : Option PromptModel :=
  tables.prompts.find? fun row => row.id = id

/-- The version with an identifier. -/
def versionById (tables : PromptTables) (id : Nat) : Option PromptVersionModel :=
  tables.versions.find? fun row => row.id = id

end PromptTables

open PromptTables

/-- A version with the same identifier and content. Only the environment may differ. -/
def SameContent (first second : PromptVersionModel) : Prop :=
  second = { first with environment := second.environment }

/-- Every version is kept with its content. -/
def KeepsVersions (before after : PromptTables) : Prop :=
  ∀ id row, before.versionById id = some row →
    ∃ later, after.versionById id = some later ∧ SameContent row later

variable {before after : PromptTables}

theorem versionById_eq_some_iff {id : Nat} {row : PromptVersionModel} :
    before.versionById id = some row ↔ row ∈ before.versions ∧ row.id = id :=
  before.versionIdUnique.find_eq_some_iff

theorem KeepsVersions.refl (tables : PromptTables) : KeepsVersions tables tables :=
  fun _ row found => ⟨row, found, rfl⟩

theorem KeepsVersions.trans {middle : PromptTables} (first : KeepsVersions before middle)
    (second : KeepsVersions middle after) : KeepsVersions before after := by
  intro id row found
  obtain ⟨later, foundLater, same⟩ := first id row found
  obtain ⟨last, foundLast, sameLast⟩ := second id later foundLater
  refine ⟨last, foundLast, ?_⟩
  rw [SameContent, sameLast, same]

/-- Rows that are added leave the others as they are. -/
theorem KeepsVersions.of_append {row : PromptVersionModel}
    (appended : after.versions = before.versions ++ [row]) : KeepsVersions before after := by
  intro id earlier found
  obtain ⟨member, isId⟩ := versionById_eq_some_iff.mp found
  refine ⟨earlier, versionById_eq_some_iff.mpr ⟨?_, isId⟩, rfl⟩
  rw [appended]
  exact List.mem_append_left _ member

/-- What a promotion does to the version with an identifier. -/
theorem versionById_updateEnvironment (tables : PromptTables) (id wanted : Nat)
    (environment : PromptEnvironment) :
    (tables.updateEnvironment id environment).versionById wanted =
      (tables.versionById wanted).map (relabel id environment) := by
  unfold versionById
  rw [updateEnvironment_versions, List.find?_map]
  congr 2
  funext row
  simp only [Function.comp_apply, relabel_id]

theorem KeepsVersions.updateEnvironment (tables : PromptTables) (id : Nat)
    (environment : PromptEnvironment) :
    KeepsVersions tables (tables.updateEnvironment id environment) := by
  intro wanted row found
  refine ⟨relabel id environment row, ?_, ?_⟩
  · rw [versionById_updateEnvironment, found, Option.map_some]
  · unfold SameContent relabel
    split <;> rfl

/-- The keys of the versions are kept. -/
theorem KeepsVersions.versionKeys (keeps : KeepsVersions before after) :
    before.versions.map PromptVersionModel.versionKey ⊆
      after.versions.map PromptVersionModel.versionKey := by
  intro key member
  obtain ⟨row, rowMember, rfl⟩ := List.mem_map.mp member
  obtain ⟨later, found, same⟩ := keeps row.id row (versionById_eq_some_iff.mpr ⟨rowMember, rfl⟩)
  refine List.mem_map.mpr ⟨later, (versionById_eq_some_iff.mp found).1, ?_⟩
  rw [same]
  rfl

/-- Prompts stay, and versions stay up to their environment. -/
structure Evolves (before after : PromptTables) : Prop where
  prompts : before.prompts ⊆ after.prompts
  versions : KeepsVersions before after

theorem Evolves.refl (tables : PromptTables) : Evolves tables tables :=
  ⟨List.Subset.refl _, .refl tables⟩

theorem Evolves.updateEnvironment (tables : PromptTables) (id : Nat)
    (environment : PromptEnvironment) :
    Evolves tables (tables.updateEnvironment id environment) :=
  ⟨List.Subset.refl _, .updateEnvironment tables id environment⟩

end LlmopsPlatform.Prompts
