import LlmopsPlatform.Prompts.Manager

/-!
# Version numbers under concurrent writers

Any number of `create` and `create_version` requests work on the prompt tables. A
creation inserts the prompt when it flushes and commits it together with the first
version. A new version is prepared in three steps: the prompt is looked up by name, the
greatest version number is read, and the row with the next number is inserted and
committed. Both read their rows again to answer. Other requests may commit between these
steps, so the number that was read may be stale.

What a transaction inserted becomes visible when it commits, and it commits only if no
constraint is broken by then. A transaction that would break one is rolled back, and
so is one that fails for another reason, such as a lost connection. Here an insertion
that conflicts with an uncommitted one is decided when the second of them commits; the
database makes the second one wait instead, which excludes some of the runs below.

A request can also fail when it reads its rows again, after its commit. The runs of
`writeSystem` are those without such a failure. In every reachable state of them the
versions of a prompt are numbered from one without a gap, no two calls return the same
number, and only calls that succeed have changed the tables (`version_numbering`).
-/

set_option autoImplicit false

namespace LlmopsPlatform.Prompts

open Foundations Foundations.TransitionSystem Python Database PromptManager PromptTables

/-! ## Requests and their steps -/

/-- A request that writes, with its arguments. -/
inductive WriteRequest where
  | create (name template description : String) (declared : Option Variables)
  | createVersion (name template : String) (declared : Option Variables) (change_note : String)

/-- The name of the prompt that a request is about. -/
def WriteRequest.name : WriteRequest → String
  | create name _ _ _ => name
  | createVersion name _ _ _ => name

/-- What a call returns. -/
inductive WriteResult where
  | prompt (returned : PromptDict)
  | version (returned : VersionDict)

/-- The version in a result. -/
def WriteResult.newVersion : WriteResult → Option VersionDict
  | prompt returned => returned.latest_version
  | version returned => some returned

/-- The answer of a creation, which has a new prompt, or of a new version. -/
def answerOf (created : Option PromptModel) (version : PromptVersionModel) : WriteResult :=
  match created with
  | some prompt => .prompt (promptToDict prompt (some version))
  | none => .version (versionToDict version)

/-- `session.refresh` on the objects that a call has inserted, and its answer. -/
def refreshed (tables : PromptTables) (created : Option PromptModel)
    (version : PromptVersionModel) : Except PyException WriteResult := do
  let created ← created.mapM fun prompt =>
    match tables.promptById prompt.id with
    | some row => pure row
    | none => throw (.exception "InvalidRequestError")
  match tables.versionById version.id with
  | some row => pure (answerOf created row)
  | none => throw (.exception "InvalidRequestError")

/-- How far a request has come, with what it has read or inserted. A request that has
committed has not read its rows again. -/
inductive WritePhase where
  | waiting
  | flushed (prompt : PromptModel)
  | found (prompt : PromptModel)
  | maximumRead (prompt : PromptModel) (max_version : Int)
  | committed (created : Option PromptModel) (version : PromptVersionModel)
  | returned (result : WriteResult)
  | raised (failure : PyException)

namespace WritePhase

/-- The call is over. -/
def isFinal : WritePhase → Bool
  | returned _ | raised _ => true
  | _ => false

/-- The call has committed, but it is not over. -/
def isCommitted : WritePhase → Bool
  | committed _ _ => true
  | _ => false

/-- The end of a call. -/
def ofAnswer : Except PyException WriteResult → WritePhase
  | .ok result => returned result
  | .error failure => raised failure

/-- The prompt and the number of the version that a call has committed. -/
def versionKey : WritePhase → Option (Nat × Int)
  | committed _ version => some version.versionKey
  | returned result => result.newVersion.map fun version => (version.prompt_id, version.version)
  | _ => none

end WritePhase

/-- A step of one request. New identifiers and clock readings are arguments. -/
inductive WriteStep (Request : Type) where
  | flushPrompt (request : Request) (promptId : Nat) (now : Timestamp)
  | commitPrompt (request : Request) (versionId : Nat)
  | findPrompt (request : Request)
  | readMaximum (request : Request)
  | commitVersion (request : Request) (versionId : Nat) (now : Timestamp)
  | refresh (request : Request)
  | fail (request : Request) (failure : PyException)

/-- The request that takes a step. -/
def WriteStep.request {Request : Type} : WriteStep Request → Request
  | flushPrompt request _ _ | commitPrompt request _ | findPrompt request | readMaximum request
  | commitVersion request _ _ | refresh request | fail request _ => request

/-- The committed tables and the phase of every request. -/
structure WriteState (Request : Type) where
  tables : PromptTables
  phase : Request → WritePhase

section System

variable {Request : Type} [DecidableEq Request] (call : Request → WriteRequest)

namespace WriteState

/-- A step that commits nothing. -/
def enter (state : WriteState Request) (request : Request) (phase : WritePhase) :
    WriteState Request :=
  { state with phase := Function.update state.phase request phase }

@[simp] theorem enter_tables (state : WriteState Request) (request : Request)
    (phase : WritePhase) : (state.enter request phase).tables = state.tables := rfl

@[simp] theorem enter_phase (state : WriteState Request) (request : Request) (phase : WritePhase) :
    (state.enter request phase).phase request = phase := Function.update_self ..

/-- The end of a transaction: its tables are committed, or it is rolled back. -/
def settle (state : WriteState Request) (request : Request) (created : Option PromptModel)
    (version : PromptVersionModel) : Except PyException PromptTables → WriteState Request
  | .ok committed =>
      { tables := committed
        phase := Function.update state.phase request (.committed created version) }
  | .error failure => state.enter request (.raised failure)

/-- A failure comes after the commit. -/
def losesAnswer (state : WriteState Request) : WriteStep Request → Bool
  | .fail request _ => (state.phase request).isCommitted
  | _ => false

end WriteState

/-- One step of a request, as `PromptManager.create` and `PromptManager.create_version`
make it. -/
def writeNext (state : WriteState Request) : WriteStep Request → Option (WriteState Request)
  | .flushPrompt request promptId now =>
      match state.phase request, call request with
      | .waiting, .create name _ description _ =>
          let prompt : PromptModel :=
            { id := promptId, name, description, is_active := true, created_at := now }
          match insertPrompt state.tables prompt with
          | .ok _ => some (state.enter request (.flushed prompt))
          | .error failure => some (state.enter request (.raised failure))
      | _, _ => none
  | .commitPrompt request versionId =>
      match state.phase request, call request with
      | .flushed prompt, .create _ template _ declared =>
          let version : PromptVersionModel :=
            { id := versionId, prompt_id := prompt.id, version := 1, template,
              environment := .draft, templateVariables := declared.getD [], change_note := "",
              created_at := prompt.created_at }
          some (state.settle request (some prompt) version do
            let flushed ← insertPrompt state.tables prompt
            insertVersion flushed version)
      | _, _ => none
  | .findPrompt request =>
      match state.phase request, call request with
      | .waiting, .createVersion name _ _ _ =>
          match getPromptByName state.tables name with
          | .ok prompt => some (state.enter request (.found prompt))
          | .error failure => some (state.enter request (.raised failure))
      | _, _ => none
  | .readMaximum request =>
      match state.phase request with
      | .found prompt =>
          let max_version := (maxVersion (selectVersions state.tables prompt)).getD 0
          some (state.enter request (.maximumRead prompt max_version))
      | _ => none
  | .commitVersion request versionId now =>
      match state.phase request, call request with
      | .maximumRead prompt max_version, .createVersion _ template declared change_note =>
          let version : PromptVersionModel :=
            { id := versionId, prompt_id := prompt.id, version := max_version + 1, template,
              environment := .draft, templateVariables := declared.getD [], change_note,
              created_at := now }
          some (state.settle request none version (insertVersion state.tables version))
      | _, _ => none
  | .refresh request =>
      match state.phase request with
      | .committed created version =>
          some (state.enter request (.ofAnswer (refreshed state.tables created version)))
      | _ => none
  | .fail request failure =>
      if (state.phase request).isFinal then none
      else some (state.enter request (.raised failure))

/-- The concurrent writers, from a new installation, as long as no call fails after its
commit. -/
def writeSystem : TransitionSystem (WriteState Request) (WriteStep Request) where
  initial state := state.tables = PromptTables.empty ∧ ∀ request, state.phase request = .waiting
  next state step := if state.losesAnswer step then none else writeNext call state step

variable {call}

/-! ## What a step can do -/

/-- The moves of a request, with all that a commit says about the rows it inserted. -/
inductive WriteMove (call : Request → WriteRequest) (before : WriteState Request) :
    WriteStep Request → WriteState Request → Prop where
  | flushed (request : Request) (promptId : Nat) (now : Timestamp)
      {name template description : String} {declared : Option Variables}
      (phase : before.phase request = .waiting)
      (requested : call request = .create name template description declared) :
      WriteMove call before (.flushPrompt request promptId now)
        (before.enter request (.flushed ⟨promptId, name, description, true, now⟩))
  | found (request : Request) {prompt : PromptModel} (phase : before.phase request = .waiting)
      (found : getPromptByName before.tables (call request).name = .ok prompt) :
      WriteMove call before (.findPrompt request) (before.enter request (.found prompt))
  | maximumRead (request : Request) {prompt : PromptModel}
      (phase : before.phase request = .found prompt) :
      WriteMove call before (.readMaximum request) (before.enter request (.maximumRead prompt
        ((maxVersion (selectVersions before.tables prompt)).getD 0)))
  | created (request : Request) (versionId : Nat) {prompt : PromptModel}
      {name template description : String} {declared : Option Variables}
      {flushed committed : PromptTables} {version : PromptVersionModel}
      (phase : before.phase request = .flushed prompt)
      (requested : call request = .create name template description declared)
      (inserted : version = ⟨versionId, prompt.id, 1, template, .draft, declared.getD [], "",
        prompt.created_at⟩)
      (newPrompt : insertPrompt before.tables prompt = .ok flushed)
      (newVersion : insertVersion flushed version = .ok committed) :
      WriteMove call before (.commitPrompt request versionId)
        ⟨committed, Function.update before.phase request (.committed (some prompt) version)⟩
  | versioned (request : Request) (versionId : Nat) (now : Timestamp) {prompt : PromptModel}
      {max_version : Int} {name template change_note : String} {declared : Option Variables}
      {committed : PromptTables} {version : PromptVersionModel}
      (phase : before.phase request = .maximumRead prompt max_version)
      (requested : call request = .createVersion name template declared change_note)
      (inserted : version = ⟨versionId, prompt.id, max_version + 1, template, .draft,
        declared.getD [], change_note, now⟩)
      (newVersion : insertVersion before.tables version = .ok committed) :
      WriteMove call before (.commitVersion request versionId now)
        ⟨committed, Function.update before.phase request (.committed none version)⟩
  | answered (request : Request) {created : Option PromptModel} {version : PromptVersionModel}
      (phase : before.phase request = .committed created version) :
      WriteMove call before (.refresh request)
        (before.enter request (.ofAnswer (refreshed before.tables created version)))
  | failed (label : WriteStep Request) (failure : PyException)
      (early : (before.phase label.request).isCommitted = true →
        before.losesAnswer label = true) :
      WriteMove call before label (before.enter label.request (.raised failure))

/-- Every step is one of these moves, and only a call that is not over makes a step. -/
theorem writeNext_move {before after : WriteState Request} {label : WriteStep Request}
    (step : writeNext call before label = some after) :
    (before.phase label.request).isFinal = false ∧ WriteMove call before label after := by
  cases label with
  | flushPrompt request promptId now =>
      simp only [writeNext] at step
      split at step
      · rename_i phase requested
        refine ⟨by simp [WriteStep.request, phase, WritePhase.isFinal], ?_⟩
        split at step
        · obtain rfl := Option.some.inj step
          exact .flushed request promptId now phase requested
        · obtain rfl := Option.some.inj step
          exact .failed (.flushPrompt request promptId now) _
            (by simp [WriteStep.request, phase, WritePhase.isCommitted])
      · cases step
  | commitPrompt request versionId =>
      simp only [writeNext] at step
      split at step
      · rename_i prompt _ template _ declared phase requested
        refine ⟨by simp [WriteStep.request, phase, WritePhase.isFinal], ?_⟩
        have early : (before.phase (WriteStep.commitPrompt request versionId).request).isCommitted =
            true → before.losesAnswer (.commitPrompt request versionId) = true := by
          simp [WriteStep.request, phase, WritePhase.isCommitted]
        obtain rfl := Option.some.inj step
        cases newPrompt : insertPrompt before.tables prompt with
        | error failure => exact .failed (.commitPrompt request versionId) _ early
        | ok flushed =>
            simp only [bind, Except.bind]
            cases newVersion : insertVersion flushed _ with
            | error failure => exact .failed (.commitPrompt request versionId) _ early
            | ok committed =>
                exact .created request versionId phase requested rfl newPrompt newVersion
      · cases step
  | findPrompt request =>
      simp only [writeNext] at step
      split at step
      · rename_i phase requested
        refine ⟨by simp [WriteStep.request, phase, WritePhase.isFinal], ?_⟩
        split at step
        · rename_i found
          obtain rfl := Option.some.inj step
          exact .found request phase (by simpa [requested, WriteRequest.name] using found)
        · obtain rfl := Option.some.inj step
          exact .failed (.findPrompt request) _
            (by simp [WriteStep.request, phase, WritePhase.isCommitted])
      · cases step
  | readMaximum request =>
      simp only [writeNext] at step
      split at step
      · rename_i prompt phase
        obtain rfl := Option.some.inj step
        exact ⟨by simp [WriteStep.request, phase, WritePhase.isFinal], .maximumRead request phase⟩
      · cases step
  | commitVersion request versionId now =>
      simp only [writeNext] at step
      split at step
      · rename_i prompt max_version _ template declared change_note phase requested
        refine ⟨by simp [WriteStep.request, phase, WritePhase.isFinal], ?_⟩
        obtain rfl := Option.some.inj step
        cases newVersion : insertVersion before.tables _ with
        | error failure =>
            exact .failed (.commitVersion request versionId now) _
              (by simp [WriteStep.request, phase, WritePhase.isCommitted])
        | ok committed => exact .versioned request versionId now phase requested rfl newVersion
      · cases step
  | refresh request =>
      simp only [writeNext] at step
      split at step
      · rename_i created version phase
        obtain rfl := Option.some.inj step
        exact ⟨by simp [WriteStep.request, phase, WritePhase.isFinal], .answered request phase⟩
      · cases step
  | fail request failure =>
      simp only [writeNext] at step
      split at step
      · cases step
      · rename_i notFinal
        obtain rfl := Option.some.inj step
        exact ⟨by simpa [WriteStep.request] using notFinal,
          .failed (.fail request failure) failure id⟩

/-- A step changes the phase of no other request. -/
theorem WriteMove.phase_other {before after : WriteState Request} {label : WriteStep Request}
    {other : Request} (move : WriteMove call before label after)
    (different : other ≠ label.request) : after.phase other = before.phase other := by
  cases move <;> exact Function.update_of_ne different ..

/-- The commits add rows, and the other steps leave the tables alone. -/
theorem WriteMove.evolves {before after : WriteState Request} {label : WriteStep Request}
    (move : WriteMove call before label after) : Evolves before.tables after.tables := by
  cases move with
  | created request versionId phase requested inserted newPrompt newVersion =>
      obtain ⟨-, -, morePrompts, sameVersions⟩ := insertPrompt_eq_ok newPrompt
      obtain ⟨-, -, -, samePrompts, moreVersions⟩ := insertVersion_eq_ok newVersion
      exact ⟨by simp [samePrompts, morePrompts], .of_append (by rw [moreVersions, sameVersions])⟩
  | versioned request versionId now phase requested inserted newVersion =>
      obtain ⟨-, -, -, samePrompts, moreVersions⟩ := insertVersion_eq_ok newVersion
      exact ⟨by simp [samePrompts], .of_append moreVersions⟩
  | _ => exact .refl _

/-! ## Numbering -/

/-- The version numbers of a prompt, in the order of insertion. -/
def versionNumbers (tables : PromptTables) (prompt_id : Nat) : List Int :=
  (tables.versions.filter fun row => row.prompt_id = prompt_id).map PromptVersionModel.version

/-- A version number of a prompt, seen as a key of the table. -/
theorem mem_versionNumbers {tables : PromptTables} {prompt_id : Nat} {number : Int} :
    number ∈ versionNumbers tables prompt_id ↔
      (prompt_id, number) ∈ tables.versions.map PromptVersionModel.versionKey := by
  simp only [versionNumbers, List.mem_map, List.mem_filter, decide_eq_true_eq,
    PromptVersionModel.versionKey, Prod.mk.injEq]
  constructor
  · rintro ⟨row, ⟨member, ofPrompt⟩, numbered⟩
    exact ⟨row, member, ofPrompt, numbered⟩
  · rintro ⟨row, member, ofPrompt, numbered⟩
    exact ⟨row, ⟨member, ofPrompt⟩, numbered⟩

/-- An appended row adds its number to its own prompt. -/
theorem versionNumbers_append {before after : PromptTables} {row : PromptVersionModel}
    (appended : after.versions = before.versions ++ [row]) (prompt_id : Nat) :
    versionNumbers after prompt_id = versionNumbers before prompt_id ++
      if row.prompt_id = prompt_id then [row.version] else [] := by
  unfold versionNumbers
  rw [appended, List.filter_append, List.map_append, List.filter_singleton]
  by_cases own : row.prompt_id = prompt_id <;> simp [own]

/-- The versions of every prompt are numbered from one to their count. -/
def Numbered (tables : PromptTables) : Prop :=
  ∀ prompt ∈ tables.prompts, ∃ count : Nat, 1 ≤ count ∧
    versionNumbers tables prompt.id = oneTo count

/-- A new prompt with a first version is numbered, and the others are as before. -/
theorem Numbered.insertPrompt {before flushed committed : PromptTables} {prompt : PromptModel}
    {version : PromptVersionModel} (numbered : Numbered before)
    (newPrompt : insertPrompt before prompt = .ok flushed)
    (newVersion : insertVersion flushed version = .ok committed)
    (ofPrompt : version.prompt_id = prompt.id) (first : version.version = 1) :
    Numbered committed := by
  obtain ⟨freshId, -, morePrompts, sameVersions⟩ := insertPrompt_eq_ok newPrompt
  obtain ⟨-, -, -, samePrompts, moreVersions⟩ := insertVersion_eq_ok newVersion
  rw [sameVersions] at moreVersions
  intro owner member
  rw [samePrompts, morePrompts, List.mem_append, List.mem_singleton] at member
  rcases member with earlier | rfl
  · obtain ⟨count, positive, numbers⟩ := numbered owner earlier
    have other : version.prompt_id ≠ owner.id := fun same =>
      freshId (ofPrompt ▸ same ▸ List.mem_map_of_mem earlier)
    exact ⟨count, positive, by simp [versionNumbers_append moreVersions, other, numbers]⟩
  · -- No version can refer to an identifier that was not in use.
    have none_before : versionNumbers before owner.id = [] := by
      rw [versionNumbers, List.map_eq_nil_iff, List.filter_eq_nil_iff]
      intro row rowMember own
      exact freshId (of_decide_eq_true own ▸ before.versionHasPrompt row rowMember)
    refine ⟨1, le_rfl, ?_⟩
    simp [versionNumbers_append moreVersions, none_before, ofPrompt, first, oneTo]

/-- An insertion of the number after one that exists continues the numbering: the
unique constraint accepts it only after the greatest number. -/
theorem Numbered.insertVersion {before committed : PromptTables} {prompt : PromptModel}
    {version : PromptVersionModel} {max_version : Int} (numbered : Numbered before)
    (newVersion : insertVersion before version = .ok committed)
    (ofPrompt : version.prompt_id = prompt.id) (next : version.version = max_version + 1)
    (existing : max_version ∈ versionNumbers before prompt.id) :
    Numbered committed := by
  obtain ⟨-, freshKey, -, samePrompts, moreVersions⟩ := insertVersion_eq_ok newVersion
  intro owner member
  rw [samePrompts] at member
  obtain ⟨count, positive, numbers⟩ := numbered owner member
  by_cases own : version.prompt_id = owner.id
  · have sameOwner : prompt.id = owner.id := ofPrompt.symm.trans own
    rw [sameOwner, numbers, mem_oneTo] at existing
    have absent : version.version ∉ oneTo count := by
      rwa [← numbers, ← own, mem_versionNumbers]
    rw [mem_oneTo, next] at absent
    obtain rfl : max_version = count := by omega
    refine ⟨count + 1, by omega, ?_⟩
    rw [versionNumbers_append moreVersions, if_pos own, numbers, next, oneTo_succ]
  · refine ⟨count, positive, ?_⟩
    rw [versionNumbers_append moreVersions, if_neg own, List.append_nil, numbers]

/-- The maximum that is read is the number of an existing version. -/
theorem Numbered.maxVersion_mem {tables : PromptTables} {prompt : PromptModel}
    (numbered : Numbered tables) (member : prompt ∈ tables.prompts) :
    (maxVersion (selectVersions tables prompt)).getD 0 ∈ versionNumbers tables prompt.id := by
  obtain ⟨count, positive, numbers⟩ := numbered prompt member
  have greatest : maxVersion (selectVersions tables prompt) = some (count : Int) := by
    rw [maxVersion, ← max_oneTo positive, ← numbers]
    rfl
  rw [greatest, numbers]
  exact mem_oneTo.mpr ⟨by rw [Option.getD_some]; omega, le_rfl⟩

/-! ## The invariant -/

/-- The row is still there. Its environment may have changed. -/
def StillThere (tables : PromptTables) (pv : PromptVersionModel) : Prop :=
  ∃ row, tables.versionById pv.id = some row ∧ SameContent pv row

theorem StillThere.mono {before after : PromptTables} (evolves : Evolves before after)
    {pv : PromptVersionModel} (there : StillThere before pv) : StillThere after pv := by
  obtain ⟨row, found, same⟩ := there
  obtain ⟨later, foundLater, sameLater⟩ := evolves.versions pv.id row found
  exact ⟨later, foundLater, by rw [SameContent, sameLater, same]⟩

/-- What a request knows about the committed tables, which no later commit undoes. -/
def PhaseHolds (tables : PromptTables) (name : String) : WritePhase → Prop
  | .waiting | .raised _ => True
  | .flushed prompt => prompt.name = name
  | .found prompt => prompt ∈ tables.prompts ∧ prompt.name = name
  | .maximumRead prompt max_version => prompt ∈ tables.prompts ∧ prompt.name = name ∧
      max_version ∈ versionNumbers tables prompt.id
  | .committed created version => StillThere tables version ∧ ∃ prompt ∈ tables.prompts,
      prompt.name = name ∧ version.prompt_id = prompt.id ∧ ∀ inserted ∈ created, inserted = prompt
  | .returned result => ∃ prompt ∈ tables.prompts, prompt.name = name ∧
      ∃ version, result.newVersion = some version ∧ version.prompt_id = prompt.id ∧
        version.version ∈ versionNumbers tables prompt.id

theorem Evolves.versionNumbers {before after : PromptTables} (evolves : Evolves before after)
    (prompt_id : Nat) : versionNumbers before prompt_id ⊆ versionNumbers after prompt_id := by
  intro number member
  rw [mem_versionNumbers] at member ⊢
  exact evolves.versions.versionKeys member

theorem PhaseHolds.mono {before after : PromptTables} (evolves : Evolves before after)
    {name : String} {phase : WritePhase} (known : PhaseHolds before name phase) :
    PhaseHolds after name phase := by
  cases phase with
  | waiting => trivial
  | raised failure => trivial
  | flushed prompt => exact known
  | found prompt => exact ⟨evolves.prompts known.1, known.2⟩
  | maximumRead prompt max_version =>
      exact ⟨evolves.prompts known.1, known.2.1, evolves.versionNumbers _ known.2.2⟩
  | committed created version =>
      obtain ⟨there, prompt, member, owner⟩ := known
      exact ⟨there.mono evolves, prompt, evolves.prompts member, owner⟩
  | returned result =>
      obtain ⟨prompt, member, named, version, inResult, ofPrompt, numbered⟩ := known
      exact ⟨prompt, evolves.prompts member, named, version, inResult, ofPrompt,
        evolves.versionNumbers _ numbered⟩

/-- The version that a call has committed is in the tables. -/
theorem PhaseHolds.key_mem {tables : PromptTables} {name : String} {phase : WritePhase}
    (known : PhaseHolds tables name phase) {key : Nat × Int}
    (isKey : phase.versionKey = some key) :
    key ∈ tables.versions.map PromptVersionModel.versionKey := by
  cases phase with
  | committed created version =>
      obtain ⟨⟨row, found, same⟩, -⟩ := known
      obtain rfl := Option.some.inj isKey
      refine List.mem_map.mpr ⟨row, (versionById_eq_some_iff.mp found).1, ?_⟩
      rw [same]
      rfl
  | returned result =>
      obtain ⟨prompt, -, -, version, inResult, ofPrompt, numbered⟩ := known
      rw [WritePhase.versionKey, inResult] at isKey
      obtain rfl := Option.some.inj isKey
      change (version.prompt_id, version.version) ∈ _
      rwa [ofPrompt, ← mem_versionNumbers]
  | _ => cases isKey

theorem refreshed_eq_ok {tables : PromptTables} {created : Option PromptModel}
    {version row : PromptVersionModel} (found : tables.versionById version.id = some row)
    (stored : ∀ prompt ∈ created, prompt ∈ tables.prompts) :
    refreshed tables created version = .ok (answerOf created row) := by
  cases created with
  | none => simp [refreshed, found, pure, Except.pure, bind, Except.bind]
  | some prompt =>
      have isRow : tables.promptById prompt.id = some prompt :=
        tables.promptIdUnique.find_eq_some_iff.mpr ⟨stored prompt rfl, rfl⟩
      simp [refreshed, isRow, found, pure, Except.pure, bind, Except.bind]

/-- A row that is still there is read again, with its present environment. -/
theorem PhaseHolds.refreshed {tables : PromptTables} {name : String}
    {created : Option PromptModel} {version : PromptVersionModel}
    (known : PhaseHolds tables name (.committed created version)) :
    ∃ row, tables.versionById version.id = some row ∧ SameContent version row ∧
      refreshed tables created version = .ok (answerOf created row) := by
  obtain ⟨⟨row, found, same⟩, prompt, member, -, -, inserted⟩ := known
  exact ⟨row, found, same,
    refreshed_eq_ok found fun other isOther => inserted other isOther ▸ member⟩

/-- What holds of the committed tables and of all requests together. -/
structure WriteInvariant (call : Request → WriteRequest) (state : WriteState Request) : Prop where
  numbered : Numbered state.tables
  phases : ∀ request, PhaseHolds state.tables (call request).name (state.phase request)
  distinct : ∀ first second, first ≠ second → ∀ key, (state.phase first).versionKey = some key →
    (state.phase second).versionKey ≠ some key

omit [DecidableEq Request] in
theorem WriteInvariant.of_initial {state : WriteState Request}
    (initial : state.tables = PromptTables.empty ∧ ∀ request, state.phase request = .waiting) :
    WriteInvariant call state := by
  obtain ⟨empty, waiting⟩ := initial
  constructor
  · simp [Numbered, empty, PromptTables.empty]
  · simp [waiting, PhaseHolds]
  · simp [waiting, WritePhase.versionKey]

/-- A step keeps the invariant if the new phase knows no more than the tables say, and has
a version of its own. -/
theorem WriteInvariant.set {state : WriteState Request} (invariant : WriteInvariant call state)
    (request : Request) {tables : PromptTables} {phase : WritePhase}
    (evolves : Evolves state.tables tables) (numbered : Numbered tables)
    (known : PhaseHolds tables (call request).name phase)
    (own : ∀ key, phase.versionKey = some key → (state.phase request).versionKey = some key ∨
      key ∉ state.tables.versions.map PromptVersionModel.versionKey) :
    WriteInvariant call ⟨tables, Function.update state.phase request phase⟩ := by
  -- No other call has the version of the new phase.
  have others : ∀ other, other ≠ request → ∀ key, phase.versionKey = some key →
      (state.phase other).versionKey ≠ some key := by
    intro other different key isKey otherKey
    rcases own key isKey with before | fresh
    · exact invariant.distinct request other different.symm key before otherKey
    · exact fresh ((invariant.phases other).key_mem otherKey)
  refine ⟨numbered, fun other => ?_, fun first second different key => ?_⟩
  · by_cases same : other = request
    · subst same
      simpa using known
    · simpa [same] using (invariant.phases other).mono evolves
  · by_cases firstIs : first = request
    · subst firstIs
      simpa [different.symm] using others second different.symm key
    · by_cases secondIs : second = request
      · subst secondIs
        simp only [Function.update_self, Function.update_of_ne firstIs]
        exact fun before after => others first firstIs key after before
      · simpa [firstIs, secondIs] using invariant.distinct first second different key

/-- **Every step keeps the invariant.** -/
theorem WriteMove.keeps {before after : WriteState Request} {label : WriteStep Request}
    (move : WriteMove call before label after) (invariant : WriteInvariant call before) :
    WriteInvariant call after := by
  have evolves := move.evolves
  cases move with
  | flushed request promptId now phase requested =>
      exact invariant.set request evolves invariant.numbered
        (by simp [PhaseHolds, requested, WriteRequest.name]) (by simp [WritePhase.versionKey])
  | found request phase found =>
      exact invariant.set request evolves invariant.numbered
        (getPromptByName_eq_ok_iff.mp found) (by simp [WritePhase.versionKey])
  | maximumRead request phase =>
      have known := invariant.phases request
      rw [phase] at known
      exact invariant.set request evolves invariant.numbered
        ⟨known.1, known.2, invariant.numbered.maxVersion_mem known.1⟩
        (by simp [WritePhase.versionKey])
  | @created request versionId prompt name template description declared flushed committed version
      phase requested inserted newPrompt newVersion =>
      have known := invariant.phases request
      rw [phase] at known
      obtain ⟨-, -, morePrompts, sameVersions⟩ := insertPrompt_eq_ok newPrompt
      obtain ⟨-, freshKey, -, samePrompts, moreVersions⟩ := insertVersion_eq_ok newVersion
      rw [sameVersions] at freshKey
      refine invariant.set request evolves
        (invariant.numbered.insertPrompt newPrompt newVersion (by rw [inserted])
          (by rw [inserted])) ⟨?_, prompt, ?_, known, by rw [inserted], by simp⟩ ?_
      · exact ⟨version, versionById_eq_some_iff.mpr ⟨by simp [moreVersions], rfl⟩, rfl⟩
      · simp [samePrompts, morePrompts]
      · rintro key ⟨⟩
        exact .inr freshKey
  | @versioned request versionId now prompt max_version name template change_note declared committed
      version phase requested inserted newVersion =>
      have known := invariant.phases request
      rw [phase] at known
      obtain ⟨promptMember, named, existing⟩ := known
      obtain ⟨-, freshKey, -, samePrompts, moreVersions⟩ := insertVersion_eq_ok newVersion
      refine invariant.set request evolves
        (invariant.numbered.insertVersion newVersion (by rw [inserted]) (by rw [inserted]) existing)
        ⟨?_, prompt, by rwa [samePrompts], named, by rw [inserted], by simp⟩ ?_
      · exact ⟨version, versionById_eq_some_iff.mpr ⟨by simp [moreVersions], rfl⟩, rfl⟩
      · rintro key ⟨⟩
        exact .inr freshKey
  | @answered request created version phase =>
      have known := invariant.phases request
      rw [phase] at known
      obtain ⟨row, found, same, isAnswer⟩ := known.refreshed
      have sameKey : row.versionKey = version.versionKey := by
        rw [same]
        rfl
      have hasVersion : (answerOf created row).newVersion = some (versionToDict row) := by
        cases created <;> rfl
      rw [isAnswer]
      refine invariant.set request evolves invariant.numbered ?_ fun key isKey => .inl ?_
      · obtain ⟨-, prompt, member, named, ofPrompt, -⟩ := known
        refine ⟨prompt, member, named, versionToDict row, hasVersion,
          (congrArg Prod.fst sameKey).trans ofPrompt, ?_⟩
        rw [mem_versionNumbers]
        refine List.mem_map.mpr ⟨row, (versionById_eq_some_iff.mp found).1, ?_⟩
        exact Prod.ext ((congrArg Prod.fst sameKey).trans ofPrompt) rfl
      · rw [WritePhase.ofAnswer, WritePhase.versionKey, hasVersion] at isKey
        rw [phase, ← isKey]
        exact congrArg some sameKey.symm
  | failed label failure early =>
      exact invariant.set label.request evolves invariant.numbered trivial
        (by simp [WritePhase.versionKey])

/-- A step of the system is a move that loses no answer. -/
theorem writeSystem_move {before after : WriteState Request} {label : WriteStep Request}
    (step : (writeSystem call).next before label = some after) :
    before.losesAnswer label = false ∧ (before.phase label.request).isFinal = false ∧
      WriteMove call before label after := by
  simp only [writeSystem] at step
  split at step
  · cases step
  · rename_i kept
    exact ⟨by simpa using kept, writeNext_move step⟩

theorem WriteInvariant.of_reachable {state : WriteState Request}
    (reachable : (writeSystem call).Reachable state) : WriteInvariant call state := by
  refine Reachable.induction (fun _ => WriteInvariant.of_initial) ?_ reachable
  intro before label after _ invariant step
  exact (writeSystem_move step).2.2.keeps invariant

/-! ## Reading the latest version -/

section Newest

variable {tables : PromptTables} {prompt : PromptModel} {count : Nat}

/-- The versions of a numbered prompt, in descending order. -/
theorem map_version_selectVersions
    (numbers : versionNumbers tables prompt.id = oneTo count) :
    (sortDescending PromptVersionModel.version (selectVersions tables prompt)).map
      PromptVersionModel.version = (oneTo count).reverse := by
  apply map_sortDescending
  · rw [← numbers]
    exact (List.reverse_perm _).symm
  · exact List.pairwise_reverse.mpr (pairwise_oneTo count)

/-- The first version in descending order has the number of versions as its number. -/
theorem exists_newest (positive : 1 ≤ count)
    (numbers : versionNumbers tables prompt.id = oneTo count) :
    ∃ row ∈ selectVersions tables prompt, row.version = count ∧
      (sortDescending PromptVersionModel.version (selectVersions tables prompt)).head? =
        some row := by
  have ordered := map_version_selectVersions numbers
  obtain ⟨further, rfl⟩ := Nat.exists_eq_add_of_le' positive
  rw [oneTo_succ, List.reverse_append] at ordered
  obtain ⟨row, rest, split, isNewest, -⟩ := List.map_eq_cons_iff.mp ordered
  refine ⟨row, mem_sortDescending.mp (split ▸ List.mem_cons_self), ?_, by rw [split]; rfl⟩
  rw [isNewest]
  exact_mod_cast rfl

/-- Reading a prompt without a version or an environment returns its greatest version. -/
theorem Numbered.get_latest (member : prompt ∈ tables.prompts) (positive : 1 ≤ count)
    (numbers : versionNumbers tables prompt.id = oneTo count) :
    ∃ served, PromptManager.get tables prompt.name none none = .ok served ∧
      served.version = count := by
  have found := getPromptByName_eq_ok_iff.mpr ⟨member, rfl⟩
  obtain ⟨row, -, isNewest, first⟩ := exists_newest positive numbers
  refine ⟨versionToDict row, ?_, isNewest⟩
  unfold PromptManager.get
  simp only [found, bind, Except.bind, Option.filter_none, scalarOneOrNone_newest, first]
  rfl

end Newest

/-- The latest version of any name can be read unless there is no prompt of that name. -/
theorem Numbered.get_ne_no_versions {tables : PromptTables} (numbered : Numbered tables)
    (name : String) :
    PromptManager.get tables name none none ≠
      .error (.valueError ("No versions found for prompt '" ++ name ++ "'")) := by
  rcases getPromptByName_cases tables name with ⟨prompt, member, rfl, -⟩ | ⟨-, missing⟩
  · obtain ⟨count, positive, numbers⟩ := numbered prompt member
    obtain ⟨served, read, -⟩ := Numbered.get_latest member positive numbers
    simp [read]
  · have different : "Prompt '" ++ name ++ "' not found" ≠
        "No versions found for prompt '" ++ name ++ "'" := by
      intro same
      have heads := congrArg (fun text : String => text.toList.head?) same
      simp at heads
    simpa [PromptManager.get, missing, bind, Except.bind] using different

/-! ## Whole runs -/

/-- A step that changes the tables commits a version. -/
theorem WriteMove.tables_eq_or_committed {before after : WriteState Request}
    {label : WriteStep Request} (move : WriteMove call before label after) :
    after.tables = before.tables ∨ ∃ key, (after.phase label.request).versionKey = some key := by
  cases move with
  | @created request versionId _ _ _ _ _ _ _ version phase requested inserted newPrompt
      newVersion =>
      exact .inr ⟨version.versionKey, by simp [WriteStep.request, WritePhase.versionKey]⟩
  | @versioned request versionId now _ _ _ _ _ _ _ version phase requested inserted newVersion =>
      exact .inr ⟨version.versionKey, by simp [WriteStep.request, WritePhase.versionKey]⟩
  | _ => exact .inl rfl

/-- A call that has committed returns its version. -/
theorem WriteMove.keepsVersion {before after : WriteState Request} {label : WriteStep Request}
    {key : Nat × Int} (move : WriteMove call before label after)
    (invariant : WriteInvariant call before) (kept : before.losesAnswer label = false)
    (notFinal : (before.phase label.request).isFinal = false)
    (isKey : (before.phase label.request).versionKey = some key) :
    ∃ key, (after.phase label.request).versionKey = some key := by
  cases found : before.phase label.request with
  | committed created version =>
      cases move with
      | flushed request promptId now phase requested => cases phase.symm.trans found
      | found request phase _ => cases phase.symm.trans found
      | maximumRead request phase => cases phase.symm.trans found
      | created request versionId phase requested inserted newPrompt newVersion =>
          cases phase.symm.trans found
      | versioned request versionId now phase requested inserted newVersion =>
          cases phase.symm.trans found
      | answered request phase =>
          have known := invariant.phases request
          rw [phase] at known
          obtain ⟨row, -, -, isAnswer⟩ := known.refreshed
          rw [show WriteStep.request _ = request from rfl, WriteState.enter_phase, isAnswer]
          cases created <;> cases phase.symm.trans found <;> exact ⟨_, rfl⟩
      | failed label failure early =>
          rw [early (by rw [found]; rfl)] at kept
          cases kept
  | returned result =>
      rw [found] at notFinal
      cases notFinal
  | _ =>
      rw [found] at isKey
      cases isKey

/-- **Version numbering under concurrent writers.** In every run, the committed versions
of every prompt are numbered from one without gap or duplicate and the latest one can
be read; different calls on a prompt that succeeded returned different numbers; and no
step of a call that failed has changed the tables. -/
theorem version_numbering (start finish : WriteState Request)
    (transitions : List (Transition (WriteState Request) (WriteStep Request)))
    (initial : (writeSystem call).initial start)
    (run : (writeSystem call).Run start transitions finish) :
    (∀ prompt ∈ finish.tables.prompts, ∃ count : Nat, 1 ≤ count ∧
      ((selectVersions finish.tables prompt).map PromptVersionModel.version).Perm (oneTo count) ∧
      ∃ served, PromptManager.get finish.tables prompt.name none none = .ok served ∧
        served.version = count) ∧
    (∀ name, PromptManager.get finish.tables name none none ≠
      .error (.valueError ("No versions found for prompt '" ++ name ++ "'"))) ∧
    (∀ first second, first ≠ second → (call first).name = (call second).name →
      ∀ result other, finish.phase first = .returned result →
        finish.phase second = .returned other →
        ∃ version ∈ result.newVersion, ∃ otherVersion ∈ other.newVersion,
          version.version ≠ otherVersion.version) ∧
    (∀ step ∈ transitions, ∀ failure, finish.phase step.label.request = .raised failure →
      step.after.tables = step.before.tables) := by
  have invariant : WriteInvariant call finish := .of_reachable ⟨start, transitions, initial, run⟩
  refine ⟨fun prompt member => ?_, invariant.numbered.get_ne_no_versions, ?_, ?_⟩
  · obtain ⟨count, positive, numbers⟩ := invariant.numbered prompt member
    exact ⟨count, positive, .of_eq numbers, Numbered.get_latest member positive numbers⟩
  · intro first second different sameName result other firstReturned secondReturned
    have firstKnown := invariant.phases first
    have secondKnown := invariant.phases second
    rw [firstReturned] at firstKnown
    rw [secondReturned] at secondKnown
    obtain ⟨prompt, member, named, version, inResult, ofPrompt, -⟩ := firstKnown
    obtain ⟨owner, ownerMember, ownerNamed, otherVersion, inOther, ofOwner, -⟩ := secondKnown
    obtain rfl := finish.tables.promptNameUnique.eq_of_key_eq member ownerMember
      (named.trans (sameName.trans ownerNamed.symm))
    refine ⟨version, inResult, otherVersion, inOther, fun sameNumber => ?_⟩
    refine invariant.distinct first second different (version.prompt_id, version.version) ?_ ?_
    · rw [firstReturned, WritePhase.versionKey, inResult]
      rfl
    · rw [secondReturned, WritePhase.versionKey, inOther, ofPrompt, ← ofOwner, sameNumber]
      rfl
  · -- A call that changed the tables has a version, which it never loses.
    have recorded := run.recorded (WriteInvariant call)
      (fun step state => step.after.tables = step.before.tables ∨
        ∃ key, (state.phase step.label.request).versionKey = some key)
      (fun _ holds taken => (writeSystem_move taken).2.2.keeps holds)
      (fun _ _ taken => (writeSystem_move taken).2.2.tables_eq_or_committed)
      ?_ (.of_initial initial)
    · intro step member failure raised
      rcases recorded step member with same | ⟨key, isKey⟩
      · exact same
      · rw [raised] at isKey
        cases isKey
    · rintro earlier later holds taken (same | ⟨key, isKey⟩)
      · exact .inl same
      · obtain ⟨kept, notFinal, move⟩ := writeSystem_move taken
        by_cases sameCall : earlier.label.request = later.label.request
        · rw [sameCall] at isKey ⊢
          exact .inr (move.keepsVersion holds kept notFinal isKey)
        · exact .inr ⟨key, (congrArg WritePhase.versionKey (move.phase_other sameCall)).trans isKey⟩

/-- A prompt is created, and then two writers of a new version interleave. -/
def twoWriters : Option Bool → WriteRequest
  | none => .create "greeting" "Hello" "" none
  | some _ => .createVersion "greeting" "Good morning" none ""

/-- Both writers read the same maximum, and the one that commits last is refused. -/
def interleavedWriters : List (WriteStep (Option Bool)) :=
  [.flushPrompt none 1 0, .commitPrompt none 1,
    .findPrompt (some false), .findPrompt (some true),
    .readMaximum (some false), .readMaximum (some true),
    .commitVersion (some false) 2 1, .commitVersion (some true) 3 1]

/-- The refused writer has changed nothing. -/
theorem refused_writer_changes_nothing :
    ∃ (finish : WriteState (Option Bool))
      (transitions : List (Transition (WriteState (Option Bool)) (WriteStep (Option Bool)))),
      transitions.map Transition.label = interleavedWriters ∧
        finish.phase (some true) = .raised integrityError ∧
        ∀ step ∈ transitions, ∀ failure,
          finish.phase step.label.request = .raised failure →
            step.after.tables = step.before.tables := by
  have executed : (writeSystem twoWriters).execute interleavedWriters
      ⟨PromptTables.empty, fun _ => .waiting⟩ = some _ := rfl
  obtain ⟨transitions, run, labels⟩ := exists_run_of_execute executed
  exact ⟨_, transitions, labels, rfl,
    (version_numbering _ _ transitions ⟨rfl, fun _ => rfl⟩ run).2.2.2⟩

/-! ## A request that nobody interrupts -/

/-- The end of a call. -/
def WriteState.conclude (state : WriteState Request) (request : Request) :
    Except PyException (WriteResult × PromptTables) → WriteState Request
  | .ok (result, committed) =>
      { tables := committed, phase := Function.update state.phase request (.returned result) }
  | .error failure => state.enter request (.raised failure)

/-- The commit and the reading of the rows, taken one after the other. -/
theorem conclude_of_commit {state : WriteState Request} {request : Request}
    {created : Option PromptModel} {version : PromptVersionModel}
    {label : WriteStep Request} (outcome : Except PyException PromptTables)
    (step : (writeSystem call).next state label =
      some (state.settle request created version outcome))
    (inserted : ∀ committed, outcome = .ok committed →
      version ∈ committed.versions ∧ ∀ prompt ∈ created, prompt ∈ committed.prompts) :
    ∃ steps, steps <+: [label, .refresh request] ∧
      (writeSystem call).execute steps state = some (state.conclude request
        (outcome.map fun committed => (answerOf created version, committed))) := by
  cases outcome with
  | error failure => exact ⟨[label], by simp, execute_cons step⟩
  | ok committed =>
      obtain ⟨member, stored⟩ := inserted committed rfl
      have answer := refreshed_eq_ok (versionById_eq_some_iff.mpr ⟨member, rfl⟩) stored
      refine ⟨_, List.prefix_rfl, (execute_cons step).trans ?_⟩
      simp [execute, writeSystem, WriteState.losesAnswer, writeNext, WriteState.settle,
        WriteState.enter, answer, WritePhase.ofAnswer, WriteState.conclude, Except.map]

theorem WriteState.conclude_enter (state : WriteState Request) (request : Request)
    (phase : WritePhase) (outcome : Except PyException (WriteResult × PromptTables)) :
    (state.enter request phase).conclude request outcome = state.conclude request outcome := by
  cases outcome <;> simp [WriteState.conclude, WriteState.enter]

/-- The steps of a creation, taken one after another, do what `PromptManager.create` does. -/
theorem execute_create {state : WriteState Request} {request : Request}
    {name template description : String} {declared : Option Variables}
    (waiting : state.phase request = .waiting)
    (requested : call request = .create name template description declared)
    (promptId versionId : Nat) (now : Timestamp) :
    ∃ steps, steps <+: [.flushPrompt request promptId now, .commitPrompt request versionId,
        .refresh request] ∧
      (writeSystem call).execute steps state = some (state.conclude request
        ((create state.tables promptId versionId now name template description declared).map
          fun (result, committed) => (.prompt result, committed))) := by
  cases newPrompt : insertPrompt state.tables
      { id := promptId, name, description, is_active := true, created_at := now } with
  | error failure =>
      refine ⟨[.flushPrompt request promptId now], by simp, ?_⟩
      simp [execute, writeSystem, WriteState.losesAnswer, writeNext, waiting, requested, newPrompt,
        create, bind, Except.bind, Except.map, WriteState.conclude]
  | ok flushed =>
      let prompt : PromptModel :=
        { id := promptId, name, description, is_active := true, created_at := now }
      let version : PromptVersionModel :=
        ⟨versionId, promptId, 1, template, .draft, declared.getD [], "", now⟩
      have flush : (writeSystem call).next state (.flushPrompt request promptId now) =
          some (state.enter request (.flushed prompt)) := by
        simp [writeSystem, WriteState.losesAnswer, writeNext, waiting, requested, newPrompt, prompt]
      have commit : (writeSystem call).next (state.enter request (.flushed prompt))
          (.commitPrompt request versionId) =
            some ((state.enter request (.flushed prompt)).settle request (some prompt) version
              (insertVersion flushed version)) := by
        simp [writeSystem, WriteState.losesAnswer, writeNext, requested, newPrompt, prompt, version,
          bind, Except.bind]
      obtain ⟨steps, isPrefix, executed⟩ := conclude_of_commit _ commit
        fun committed newVersion => by
          obtain ⟨-, -, morePrompts, -⟩ := insertPrompt_eq_ok newPrompt
          obtain ⟨-, -, -, samePrompts, moreVersions⟩ := insertVersion_eq_ok newVersion
          exact ⟨by simp [moreVersions], by simp [samePrompts, morePrompts, prompt]⟩
      refine ⟨_, List.cons_prefix_cons.mpr ⟨rfl, isPrefix⟩, (execute_cons flush).trans ?_⟩
      rw [executed, WriteState.conclude_enter]
      simp only [create, newPrompt, bind, Except.bind]
      cases insertVersion flushed version <;>
        simp [version, prompt, Except.map, answerOf, pure, Except.pure]

/-- The steps of a new version, taken one after another, do what
`PromptManager.create_version` does. -/
theorem execute_createVersion {state : WriteState Request} {request : Request}
    {name template change_note : String} {declared : Option Variables}
    (waiting : state.phase request = .waiting)
    (requested : call request = .createVersion name template declared change_note)
    (versionId : Nat) (now : Timestamp) :
    ∃ steps, steps <+: [.findPrompt request, .readMaximum request,
        .commitVersion request versionId now, .refresh request] ∧
      (writeSystem call).execute steps state = some (state.conclude request
        ((createVersion state.tables versionId now name template declared change_note).map
          fun (result, committed) => (.version result, committed))) := by
  cases found : getPromptByName state.tables name with
  | error failure =>
      refine ⟨[.findPrompt request], by simp, ?_⟩
      simp [execute, writeSystem, WriteState.losesAnswer, writeNext, waiting, requested, found,
        createVersion, bind, Except.bind, Except.map, WriteState.conclude]
  | ok prompt =>
      let max_version := (maxVersion (selectVersions state.tables prompt)).getD 0
      let version : PromptVersionModel := ⟨versionId, prompt.id, max_version + 1, template, .draft,
        declared.getD [], change_note, now⟩
      let read := (state.enter request (.found prompt)).enter request
        (.maximumRead prompt max_version)
      have find : (writeSystem call).next state (.findPrompt request) =
          some (state.enter request (.found prompt)) := by
        simp [writeSystem, WriteState.losesAnswer, writeNext, waiting, requested, found]
      have maximum : (writeSystem call).next (state.enter request (.found prompt))
          (.readMaximum request) = some read := by
        simp [writeSystem, WriteState.losesAnswer, writeNext, read, max_version]
      have commit : (writeSystem call).next read (.commitVersion request versionId now) =
          some (read.settle request none version (insertVersion state.tables version)) := by
        simp [writeSystem, WriteState.losesAnswer, writeNext, requested, read, version]
      obtain ⟨steps, isPrefix, executed⟩ := conclude_of_commit _ commit
        fun committed newVersion => by
          obtain ⟨-, -, -, -, moreVersions⟩ := insertVersion_eq_ok newVersion
          exact ⟨by simp [moreVersions], by simp⟩
      refine ⟨_, List.cons_prefix_cons.mpr ⟨rfl, List.cons_prefix_cons.mpr ⟨rfl, isPrefix⟩⟩,
        (execute_cons find).trans ((execute_cons maximum).trans ?_)⟩
      rw [executed, WriteState.conclude_enter, WriteState.conclude_enter]
      simp only [createVersion, found, bind, Except.bind]
      cases insertVersion state.tables version <;>
        simp [version, max_version, Except.map, answerOf, pure, Except.pure]

end System

end LlmopsPlatform.Prompts
