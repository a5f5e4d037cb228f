import LlmopsPlatform.Prompts.Listing
import LlmopsPlatform.Prompts.Promotion

/-!
# The history of a prompt

Rows are added and never removed, and a promotion changes the environment of one row. It
also changes the time at which the row was last updated: that column has the time of the
transaction in which a column of the row was last changed. So a promotion leaves a trace
beside the environment (`promotion_stamps_the_row`), and everything else in the history of
a prompt stays (`history_and_lookups`).

In every reachable state the lookups of the latest version agree.
-/

set_option autoImplicit false

namespace LlmopsPlatform.Prompts

open Foundations Foundations.TransitionSystem Python Database PromptManager PromptTables

/-! ## The database with its time stamps -/

/-- The tables with the column `updated_at` of both of them, by the primary key. -/
structure PromptDatabase where
  tables : PromptTables
  promptUpdatedAt : Nat → Timestamp
  versionUpdatedAt : Nat → Timestamp

/-- A row with its column `updated_at`. -/
structure Stamped (Row : Type) where
  row : Row
  updated_at : Timestamp
deriving DecidableEq, Repr

/-- An operation, and the time of its transaction if it is a promotion. -/
structure PromptRequest where
  operation : PromptOperation
  promoted_at : Timestamp

/-- The time of the transaction. -/
def PromptRequest.now (request : PromptRequest) : Timestamp :=
  match request.operation with
  | .create _ _ now _ _ _ _ => now
  | .createVersion _ now _ _ _ _ => now
  | .promote _ _ _ => request.promoted_at

/-- The column `updated_at` after a transaction: `server_default` for a row that it
inserts, `onupdate` for a row in which it changes a column. -/
def stampChanges {Row : Type} [DecidableEq Row] (now : Timestamp) (before after : Nat → Option Row)
    (updated_at : Nat → Timestamp) (id : Nat) : Timestamp :=
  if after id = before id then updated_at id else now

namespace PromptDatabase

def promptRow (database : PromptDatabase) (id : Nat) : Option (Stamped PromptModel) :=
  (database.tables.promptById id).map fun row => ⟨row, database.promptUpdatedAt id⟩

def versionRow (database : PromptDatabase) (id : Nat) : Option (Stamped PromptVersionModel) :=
  (database.tables.versionById id).map fun row => ⟨row, database.versionUpdatedAt id⟩

/-- The database after a request. -/
def apply (database : PromptDatabase) (request : PromptRequest) : PromptDatabase :=
  let committed := request.operation.apply database.tables
  { tables := committed
    promptUpdatedAt := stampChanges request.now database.tables.promptById committed.promptById
      database.promptUpdatedAt
    versionUpdatedAt := stampChanges request.now database.tables.versionById
      committed.versionById database.versionUpdatedAt }

end PromptDatabase

/-- Requests one after another, on a new installation. -/
def promptDatabaseSystem : TransitionSystem PromptDatabase PromptRequest where
  initial database := database.tables = PromptTables.empty
  next database request := some (database.apply request)

/-! ## What an operation does to the tables -/

/-- The effects that an operation can have. -/
inductive PromptEffect (before : PromptTables) : PromptOperation → PromptTables → Prop where
  | raised (operation : PromptOperation) : PromptEffect before operation before
  | created {promptId versionId : Nat} {now : Timestamp} {name template description : String}
      {declared : Option Variables} {flushed committed : PromptTables}
      (newPrompt : insertPrompt before ⟨promptId, name, description, true, now⟩ = .ok flushed)
      (newVersion : insertVersion flushed
        ⟨versionId, promptId, 1, template, .draft, declared.getD [], "", now⟩ = .ok committed) :
      PromptEffect before (.create promptId versionId now name template description declared)
        committed
  | versioned {versionId : Nat} {now : Timestamp} {name template change_note : String}
      {declared : Option Variables} {prompt : PromptModel} {committed : PromptTables}
      (found : getPromptByName before name = .ok prompt)
      (newVersion : insertVersion before
        ⟨versionId, prompt.id, (maxVersion (selectVersions before prompt)).getD 0 + 1, template,
          .draft, declared.getD [], change_note, now⟩ = .ok committed) :
      PromptEffect before (.createVersion versionId now name template declared change_note)
        committed
  | promoted {name target_env : String} {version : Int} {prompt : PromptModel}
      {row : PromptVersionModel} {environment : PromptEnvironment}
      (found : getPromptByName before name = .ok prompt)
      (parsed : PromptEnvironment.ofValue target_env = some environment)
      (member : row ∈ before.versions) (keyed : row.versionKey = (prompt.id, version)) :
      PromptEffect before (.promote name version target_env)
        (before.updateEnvironment row.id environment)

theorem apply_effect (before : PromptTables) (operation : PromptOperation) :
    PromptEffect before operation (operation.apply before) := by
  cases operation with
  | create promptId versionId now name template description declared =>
      simp only [PromptOperation.apply]
      split
      · rename_i success
        obtain ⟨flushed, newPrompt, newVersion⟩ := create_inserts success
        exact .created newPrompt newVersion
      · exact .raised _
  | createVersion versionId now name template declared change_note =>
      simp only [PromptOperation.apply]
      split
      · rename_i success
        obtain ⟨prompt, found, newVersion⟩ := createVersion_inserts success
        exact .versioned found newVersion
      · exact .raised _
  | promote name version target_env =>
      simp only [PromptOperation.apply]
      split
      · rename_i success
        obtain ⟨prompt, row, environment, found, parsed, member, keyed, rfl⟩ :=
          promote_eq_ok success
        exact .promoted found parsed member keyed
      · exact .raised _

/-! ## Rows stay -/

variable {before after : PromptTables}

theorem PromptEffect.keepsVersions {operation : PromptOperation}
    (effect : PromptEffect before operation after) : KeepsVersions before after := by
  cases effect with
  | raised => exact .refl before
  | created newPrompt newVersion =>
      obtain ⟨-, -, -, sameVersions⟩ := insertPrompt_eq_ok newPrompt
      obtain ⟨-, -, -, -, moreVersions⟩ := insertVersion_eq_ok newVersion
      exact .of_append (by rw [moreVersions, sameVersions])
  | versioned found newVersion =>
      obtain ⟨-, -, -, -, moreVersions⟩ := insertVersion_eq_ok newVersion
      exact .of_append moreVersions
  | @promoted _ _ _ _ promotedRow environment found parsed member keyed =>
      exact .updateEnvironment before promotedRow.id environment

/-! ## Numbers stay consecutive -/

/-- What holds in every reachable state. -/
structure HistoryInvariant (tables : PromptTables) : Prop where
  numbered : Numbered tables
  active : ∀ prompt ∈ tables.prompts, prompt.is_active = true

theorem versionNumbers_updateEnvironment (tables : PromptTables) (id prompt_id : Nat)
    (environment : PromptEnvironment) :
    versionNumbers (tables.updateEnvironment id environment) prompt_id =
      versionNumbers tables prompt_id := by
  unfold versionNumbers
  rw [updateEnvironment_versions, List.filter_map, List.map_map]
  congr 1
  · funext row
    exact relabel_version id environment row
  · congr 1
    funext row
    simp only [Function.comp_apply, relabel_prompt_id]

theorem HistoryInvariant.apply {operation : PromptOperation}
    (invariant : HistoryInvariant before) (effect : PromptEffect before operation after) :
    HistoryInvariant after := by
  cases effect with
  | raised => exact invariant
  | created newPrompt newVersion =>
      obtain ⟨-, -, morePrompts, -⟩ := insertPrompt_eq_ok newPrompt
      obtain ⟨-, -, -, samePrompts, -⟩ := insertVersion_eq_ok newVersion
      refine ⟨invariant.numbered.insertPrompt newPrompt newVersion rfl rfl, ?_⟩
      intro prompt member
      rw [samePrompts, morePrompts, List.mem_append, List.mem_singleton] at member
      rcases member with earlier | rfl
      · exact invariant.active prompt earlier
      · rfl
  | versioned found newVersion =>
      obtain ⟨-, -, -, samePrompts, -⟩ := insertVersion_eq_ok newVersion
      have existing := invariant.numbered.maxVersion_mem (getPromptByName_eq_ok_iff.mp found).1
      refine ⟨invariant.numbered.insertVersion newVersion rfl rfl existing, ?_⟩
      rw [samePrompts]
      exact invariant.active
  | promoted found parsed member keyed =>
      refine ⟨?_, invariant.active⟩
      intro prompt isPrompt
      rw [versionNumbers_updateEnvironment]
      exact invariant.numbered prompt isPrompt

theorem HistoryInvariant.of_reachable {database : PromptDatabase}
    (reachable : promptDatabaseSystem.Reachable database) : HistoryInvariant database.tables := by
  refine @Reachable.induction _ _ promptDatabaseSystem
    (fun database => HistoryInvariant database.tables) ?_ ?_ database reachable
  · intro start initial
    rw [show start.tables = PromptTables.empty from initial]
    constructor
    · intro prompt member
      cases member
    · intro prompt member
      cases member
  · rintro earlier request later - invariant step
    cases step
    exact invariant.apply (apply_effect earlier.tables request.operation)

/-! ## Promotions -/

/-- The row is the version of the prompt with a name. -/
def IsVersion (tables : PromptTables) (name : String) (version : Int) (row : PromptVersionModel) :
    Prop :=
  ∃ prompt ∈ tables.prompts, prompt.name = name ∧ row.versionKey = (prompt.id, version)

/-- The environment of one version changes, with its time stamp as given, and nothing
else does. -/
structure PromotesOneRow (name : String) (version : Int) (environment : PromptEnvironment)
    (restamp : PromptVersionModel → Timestamp → Timestamp) (before after : PromptDatabase) :
    Prop where
  prompts : ∀ id, after.promptRow id = before.promptRow id
  absent : ∀ id, before.versionRow id = none → after.versionRow id = none
  others : ∀ id found, before.versionRow id = some found →
    ¬ IsVersion before.tables name version found.row → after.versionRow id = some found
  promoted : ∀ id found, before.versionRow id = some found →
    IsVersion before.tables name version found.row →
      after.versionRow id =
        some ⟨{ found.row with environment }, restamp found.row found.updated_at⟩

/-- The time stamp changes when the environment does. -/
def stampedAt (now : Timestamp) (environment : PromptEnvironment) (row : PromptVersionModel)
    (updated_at : Timestamp) : Timestamp :=
  if row.environment = environment then updated_at else now

/-- A transaction that changes no row leaves the column as it is. -/
theorem stampChanges_self {Row : Type} [DecidableEq Row] (now : Timestamp)
    (rows : Nat → Option Row) (updated_at : Nat → Timestamp) :
    stampChanges now rows rows updated_at = updated_at := by
  funext id
  exact if_pos rfl

/-- A promotion that raises changes nothing. -/
theorem apply_of_raised {database : PromptDatabase} {name target_env : String} {version : Int}
    {promoted_at : Timestamp} {failure : PyException}
    (raised : promote database.tables name version target_env = .error failure) :
    database.apply ⟨.promote name version target_env, promoted_at⟩ = database := by
  have same : (PromptOperation.promote name version target_env).apply database.tables =
      database.tables := by
    simp only [PromptOperation.apply, raised]
  unfold PromptDatabase.apply
  simp only [same, stampChanges_self]

/-- The version that a promotion names is the row that it finds. -/
theorem isVersion_iff {tables : PromptTables} {name : String} {version : Int}
    {prompt : PromptModel} {row other : PromptVersionModel} (isPrompt : prompt ∈ tables.prompts)
    (named : prompt.name = name) (member : row ∈ tables.versions)
    (keyed : row.versionKey = (prompt.id, version)) (isVersion : other ∈ tables.versions) :
    IsVersion tables name version other ↔ other.id = row.id := by
  constructor
  · rintro ⟨owner, isOwner, ownerNamed, ownerKeyed⟩
    obtain rfl := tables.promptNameUnique.eq_of_key_eq isOwner isPrompt
      (ownerNamed.trans named.symm)
    rw [tables.promptVersionUnique.eq_of_key_eq isVersion member (ownerKeyed.trans keyed.symm)]
  · intro sameId
    obtain rfl := tables.versionIdUnique.eq_of_key_eq isVersion member sameId
    exact ⟨prompt, isPrompt, named, keyed⟩

/-- The rows after a transaction that sets the environment of one version. -/
theorem versionRow_apply {database : PromptDatabase} {request : PromptRequest} {row_id : Nat}
    {environment : PromptEnvironment}
    (applied : request.operation.apply database.tables =
      database.tables.updateEnvironment row_id environment) (id : Nat) :
    (database.apply request).versionRow id =
      (database.tables.versionById id).map fun other =>
        ⟨relabel row_id environment other,
          if relabel row_id environment other = other then database.versionUpdatedAt id
          else request.now⟩ := by
  unfold PromptDatabase.versionRow PromptDatabase.apply
  simp only [applied, versionById_updateEnvironment, Option.map_map, stampChanges]
  cases database.tables.versionById id with
  | none => rfl
  | some other => simp

/-- The prompts stay as they are. -/
theorem promptRow_apply {database : PromptDatabase} {request : PromptRequest} {row_id : Nat}
    {environment : PromptEnvironment}
    (applied : request.operation.apply database.tables =
      database.tables.updateEnvironment row_id environment) (id : Nat) :
    (database.apply request).promptRow id = database.promptRow id := by
  unfold PromptDatabase.promptRow PromptDatabase.apply
  simp only [applied]
  rw [show (database.tables.updateEnvironment row_id environment).promptById =
    database.tables.promptById from rfl, stampChanges_self]

theorem withEnvironment_eq_self_iff {row : PromptVersionModel} {environment : PromptEnvironment} :
    { row with environment } = row ↔ row.environment = environment := by
  constructor
  · intro same
    exact (congrArg PromptVersionModel.environment same).symm
  · rintro rfl
    rfl

/-- **A promotion** changes the environment of one row, and with it the time stamp. -/
theorem promotesOneRow_of_ok {database : PromptDatabase} {name target_env : String}
    {version : Int} {promoted_at : Timestamp} {result : VersionDict} {committed : PromptTables}
    (success : promote database.tables name version target_env = .ok (result, committed)) :
    ∃ environment, PromptEnvironment.ofValue target_env = some environment ∧
      PromotesOneRow name version environment (stampedAt promoted_at environment) database
        (database.apply ⟨.promote name version target_env, promoted_at⟩) := by
  have applied : (PromptOperation.promote name version target_env).apply database.tables =
      committed := by
    simp only [PromptOperation.apply, success]
  obtain ⟨prompt, row, environment, found, parsed, member, keyed, rfl⟩ := promote_eq_ok success
  obtain ⟨isPrompt, named⟩ := getPromptByName_eq_ok_iff.mp found
  refine ⟨environment, parsed, ?_, ?_, ?_, ?_⟩
  · exact promptRow_apply applied
  · intro id absent
    rw [versionRow_apply applied, Option.map_eq_none_iff.mp absent, Option.map_none]
  · intro id found isFound different
    obtain ⟨other, isOther, rfl⟩ := Option.map_eq_some_iff.mp isFound
    have isMember := (versionById_eq_some_iff.mp isOther).1
    have same : relabel row.id environment other = other :=
      if_neg fun sameId =>
        different ((isVersion_iff isPrompt named member keyed isMember).mpr sameId)
    rw [versionRow_apply applied, isOther, Option.map_some, same, if_pos rfl]
  · intro id found isFound isVersion
    obtain ⟨other, isOther, rfl⟩ := Option.map_eq_some_iff.mp isFound
    have isMember := (versionById_eq_some_iff.mp isOther).1
    have changed : relabel row.id environment other = { other with environment } :=
      if_pos ((isVersion_iff isPrompt named member keyed isMember).mp isVersion)
    rw [versionRow_apply applied, isOther, Option.map_some, changed]
    simp only [withEnvironment_eq_self_iff, stampedAt, PromptRequest.now]

/-! ## Whole runs -/

theorem keepsVersions_of_run {before after : PromptDatabase}
    {transitions : List (Transition PromptDatabase PromptRequest)}
    (run : promptDatabaseSystem.Run before transitions after) :
    KeepsVersions before.tables after.tables := by
  induction run with
  | nil => exact .refl before.tables
  | @snoc earlierTransitions earlier later request run step ih =>
      cases step
      exact ih.trans (apply_effect earlier.tables request.operation).keepsVersions

/-- **History and lookups.** Every version that is committed keeps its content through any
further run. A promotion that raises changes nothing, and one that succeeds changes the
environment of its version, and with it the time stamp of that row. In every reachable
state the lookups of the latest version agree on every prompt. -/
theorem history_and_lookups :
    (∀ before after transitions, promptDatabaseSystem.Reachable before →
      promptDatabaseSystem.Run before transitions after →
      KeepsVersions before.tables after.tables) ∧
    (∀ (before : PromptDatabase) (name : String) (version : Int) (target_env : String)
        (promoted_at : Timestamp), promptDatabaseSystem.Reachable before →
      (∀ failure, promote before.tables name version target_env = .error failure →
        before.apply ⟨.promote name version target_env, promoted_at⟩ = before) ∧
      ∀ result, promote before.tables name version target_env = .ok result →
        ∃ environment, PromptEnvironment.ofValue target_env = some environment ∧
          PromotesOneRow name version environment (stampedAt promoted_at environment) before
            (before.apply ⟨.promote name version target_env, promoted_at⟩)) ∧
    ∀ database, promptDatabaseSystem.Reachable database →
      ∀ prompt ∈ database.tables.prompts, LookupsAgree database.tables prompt := by
  refine ⟨fun _ _ _ _ run => keepsVersions_of_run run, ?_, ?_⟩
  · intro before name version target_env promoted_at _
    refine ⟨fun failure raised => apply_of_raised raised, ?_⟩
    rintro ⟨result, committed⟩ success
    exact promotesOneRow_of_ok success
  · intro database reachable prompt member
    have invariant := HistoryInvariant.of_reachable reachable
    exact invariant.numbered.lookupsAgree member (invariant.active prompt member)

/-! ## One promotion -/

/-- A new installation. -/
def newDatabase : PromptDatabase := ⟨PromptTables.empty, fun _ => 0, fun _ => 0⟩

/-- A prompt that was created at the time 1. -/
def greetingDatabase : PromptDatabase :=
  newDatabase.apply ⟨.create 1 1 1 "greeting" "Hello" "" none, 0⟩

theorem greetingDatabase_reachable : promptDatabaseSystem.Reachable greetingDatabase :=
  (Reachable.of_initial (show promptDatabaseSystem.initial newDatabase from rfl)).step
    (show promptDatabaseSystem.next newDatabase _ = some greetingDatabase from rfl)

/-- The prompt is promoted at the time 2, and before that its lookups agree. -/
theorem greeting_history_and_lookups :
    (∃ environment, PromptEnvironment.ofValue "production" = some environment ∧
      PromotesOneRow "greeting" 1 environment (stampedAt 2 environment) greetingDatabase
        (greetingDatabase.apply ⟨.promote "greeting" 1 "production", 2⟩)) ∧
      ∀ prompt ∈ greetingDatabase.tables.prompts, LookupsAgree greetingDatabase.tables prompt := by
  obtain ⟨-, promotions, lookups⟩ := history_and_lookups
  have promotion := promotions greetingDatabase "greeting" 1 "production" 2
    greetingDatabase_reachable
  exact ⟨promotion.2 _ rfl, lookups _ greetingDatabase_reachable⟩

/-- **A promotion stamps its row.** The version was created at the time 1 and is promoted
at the time 2. Then it was last updated at the time 2. -/
theorem promotion_stamps_the_row :
    ¬ ∀ (before : PromptDatabase) (name : String) (version : Int) (target_env : String)
        (promoted_at : Timestamp), promptDatabaseSystem.Reachable before →
      ∀ result, promote before.tables name version target_env = .ok result →
        ∃ environment, PromptEnvironment.ofValue target_env = some environment ∧
          PromotesOneRow name version environment (fun _ updated_at => updated_at) before
            (before.apply ⟨.promote name version target_env, promoted_at⟩) := by
  intro always
  obtain ⟨environment, parsed, frame⟩ := always greetingDatabase "greeting" 1 "production" 2
    greetingDatabase_reachable _ rfl
  have stamped := frame.promoted 1 _ rfl ⟨_, List.mem_singleton_self _, rfl, rfl⟩
  cases parsed
  exact absurd stamped (by decide)

end LlmopsPlatform.Prompts
