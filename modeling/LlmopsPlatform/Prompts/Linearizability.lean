import LlmopsPlatform.Foundations.Linearization
import LlmopsPlatform.Prompts.ConcurrentPromotions

/-!
# Concurrent writers take effect one at a time

Every run of interleaved creations, new versions and promotions is explained by whole
operations one after another (`writers_linearizable`). A creation and a new version take
effect when they commit. A promotion takes effect when it commits, unless it has nothing
to write: then it takes effect when it loads the row, where the operation is the identity.

The answer of a call is the one of the sequential operation except for the environment of
the version: it is read after the commit, and may already be that of another promotion.
-/

set_option autoImplicit false

namespace LlmopsPlatform.Prompts

open Foundations Foundations.TransitionSystem Python Database PromptManager PromptTables

/-! ## The prompt tables as a sequential object -/

/-- What an operation returns or raises. -/
def PromptOperation.respond (tables : PromptTables) :
    PromptOperation → Except PyException WriteResult
  | create promptId versionId now name template description declared =>
      (PromptManager.create tables promptId versionId now name template description declared).map
        fun done => .prompt done.1
  | createVersion versionId now name template declared change_note =>
      (PromptManager.createVersion tables versionId now name template declared change_note).map
        fun done => .version done.1
  | promote name version target_env =>
      (PromptManager.promote tables name version target_env).map fun done => .version done.1

/-- The prompt tables with whole operations. -/
def promptObject : SequentialObject PromptTables PromptOperation (Except PyException WriteResult)
    where
  apply tables operation := operation.apply tables
  respond := PromptOperation.respond

/-- An operation does what a request asks for. New identifiers and the time are free. -/
def WriteRequest.Asks : WriteRequest → PromptOperation → Prop
  | create name template description declared, operation => ∃ promptId versionId now,
      operation = .create promptId versionId now name template description declared
  | createVersion name template declared change_note, operation => ∃ versionId now,
      operation = .createVersion versionId now name template declared change_note

def PromoteRequest.operation (request : PromoteRequest) : PromptOperation :=
  .promote request.name request.version request.target_env

/-- An operation that succeeds, with what it does. -/
theorem explains_of_create {tables committed : PromptTables} {promptId versionId : Nat}
    {now : Timestamp} {name template description : String} {declared : Option Variables}
    {result : PromptDict} {Caller : Type} (caller : Caller)
    (created : PromptManager.create tables promptId versionId now name template description
      declared = .ok (result, committed)) :
    promptObject.Explains tables committed (some ⟨caller,
      .create promptId versionId now name template description declared,
      .ok (.prompt result)⟩) := by
  simp [SequentialObject.Explains, promptObject, PromptOperation.respond, PromptOperation.apply,
    created, Except.map]

theorem explains_of_createVersion {tables committed : PromptTables} {versionId : Nat}
    {now : Timestamp} {name template change_note : String} {declared : Option Variables}
    {result : VersionDict} {Caller : Type} (caller : Caller)
    (created : PromptManager.createVersion tables versionId now name template declared
      change_note = .ok (result, committed)) :
    promptObject.Explains tables committed (some ⟨caller,
      .createVersion versionId now name template declared change_note,
      .ok (.version result)⟩) := by
  simp [SequentialObject.Explains, promptObject, PromptOperation.respond, PromptOperation.apply,
    created, Except.map]

theorem explains_of_promote {tables committed : PromptTables} {request : PromoteRequest}
    {result : VersionDict} {Caller : Type} (caller : Caller)
    (promoted : PromptManager.promote tables request.name request.version request.target_env =
      .ok (result, committed)) :
    promptObject.Explains tables committed
      (some ⟨caller, request.operation, .ok (.version result)⟩) := by
  simp [SequentialObject.Explains, promptObject, PromoteRequest.operation,
    PromptOperation.respond, PromptOperation.apply, promoted, Except.map]

/-! ## Where the calls take effect -/

section Points

variable {Writer Promoter : Type} (call : Writer → WriteRequest)
  (promotion : Promoter → PromoteRequest)

/-- A creation or a new version takes effect when it commits. -/
def writePoint (before after : WriteState Writer) : WriteStep Writer →
    Option (Entry (Writer ⊕ Promoter) PromptOperation (Except PyException WriteResult))
  | .commitPrompt request versionId =>
      match before.phase request, call request, after.phase request with
      | .flushed prompt, .create name template description declared, .committed created version =>
          some ⟨.inl request, .create prompt.id versionId prompt.created_at name template
            description declared, .ok (answerOf created version)⟩
      | _, _, _ => none
  | .commitVersion request versionId now =>
      match call request, after.phase request with
      | .createVersion name template declared change_note, .committed created version =>
          some ⟨.inl request, .createVersion versionId now name template declared change_note,
            .ok (answerOf created version)⟩
      | _, _ => none
  | _ => none

/-- A promotion takes effect when it commits, or when it loads a row that has the target
environment already. -/
def promotePoint (promoter : Promoter) (before after : PromotePhase) : PromoteAction →
    Option (Entry (Writer ⊕ Promoter) PromptOperation (Except PyException WriteResult))
  | .selectVersion =>
      match after with
      | .loaded pv environment =>
          if pv.environment = environment then
            some ⟨.inr promoter, (promotion promoter).operation,
              .ok (.version (versionToDict { pv with environment }))⟩
          else none
      | _ => none
  | .commit =>
      match before with
      | .loaded pv environment =>
          if pv.environment = environment then none
          else some ⟨.inr promoter, (promotion promoter).operation,
            .ok (.version (versionToDict { pv with environment }))⟩
      | _ => none
  | _ => none

/-- The entry that a step makes, if a call takes effect there. -/
def linearizationPoint
    (step : Transition (PromptWriters Writer Promoter) (PromptStep Writer Promoter)) :
    Option (Entry (Writer ⊕ Promoter) PromptOperation (Except PyException WriteResult)) :=
  match step.label with
  | .write label => writePoint call step.before.writes step.after.writes label
  | .promote promoter action => promotePoint promotion promoter
      (step.before.promotions promoter) (step.after.promotions promoter) action

end Points

/-! ## Every step is explained -/

section Runs

variable {Writer Promoter : Type} [DecidableEq Writer] [DecidableEq Promoter]
  {call : Writer → WriteRequest} {promotion : Promoter → PromoteRequest}

/-- The number that was read is still the greatest one if the constraint accepts the next. -/
theorem Numbered.maxVersion_of_insertVersion {before committed : PromptTables}
    {prompt : PromptModel} {version : PromptVersionModel} {max_version : Int}
    (numbered : Numbered before) (member : prompt ∈ before.prompts)
    (existing : max_version ∈ versionNumbers before prompt.id)
    (newVersion : before.insertVersion version = .ok committed)
    (ofPrompt : version.prompt_id = prompt.id) (next : version.version = max_version + 1) :
    (maxVersion (selectVersions before prompt)).getD 0 = max_version := by
  obtain ⟨-, freshKey, -, -, -⟩ := insertVersion_eq_ok newVersion
  obtain ⟨count, positive, numbers⟩ := numbered prompt member
  have greatest := numbered.maxVersion_mem member
  have accepted : max_version + 1 ∉ versionNumbers before prompt.id := by
    rwa [mem_versionNumbers, ← next, ← ofPrompt]
  have isMaximum : maxVersion (selectVersions before prompt) = some (count : Int) := by
    rw [maxVersion, ← max_oneTo positive, ← numbers]
    rfl
  rw [numbers, mem_oneTo] at existing accepted
  rw [isMaximum, Option.getD_some]
  omega

omit [DecidableEq Writer] [DecidableEq Promoter] in
theorem writePoint_eq_none {before after : WriteState Writer} {label : WriteStep Writer}
    (notCommitted : (after.phase label.request).isCommitted = false) :
    (writePoint call before after label :
      Option (Entry (Writer ⊕ Promoter) PromptOperation (Except PyException WriteResult))) =
        none := by
  cases label with
  | commitPrompt request versionId =>
      simp only [writePoint]
      split
      · rename_i committed
        rw [WriteStep.request, committed] at notCommitted
        cases notCommitted
      · rfl
  | commitVersion request versionId now =>
      simp only [writePoint]
      split
      · rename_i committed
        rw [WriteStep.request, committed] at notCommitted
        cases notCommitted
      · rfl
  | _ => rfl

omit [DecidableEq Promoter] in
/-- **A commit of a writer is a whole operation.** -/
theorem WriteMove.explained {before after : WriteState Writer} {label : WriteStep Writer}
    (move : WriteMove call before label after) (invariant : WriteInvariant call before)
    (flushed : ∀ writer, FlushedHolds (call writer) (before.phase writer)) :
    promptObject.Explains before.tables after.tables
      (writePoint call before after label :
        Option (Entry (Writer ⊕ Promoter) PromptOperation (Except PyException WriteResult))) := by
  cases move with
  | failed label failure early =>
      rw [writePoint_eq_none (by simp [WritePhase.isCommitted])]
      exact rfl
  | @created request versionId prompt name template description declared flushedTables committed
      version phase requested inserted newPrompt newVersion =>
      have described := flushed request
      rw [phase] at described
      have isPrompt := described name template description declared requested
      have created : PromptManager.create before.tables prompt.id versionId prompt.created_at name
          template description declared =
            .ok (promptToDict prompt (some version), committed) := by
        subst inserted
        unfold PromptManager.create
        rw [← isPrompt]
        simp [newPrompt, newVersion, bind, Except.bind, pure, Except.pure]
      simpa [writePoint, phase, requested, answerOf] using
        explains_of_create (Sum.inl request) created
  | @versioned request versionId now prompt max_version name template change_note declared
      committed version phase requested inserted newVersion =>
      have known := invariant.phases request
      rw [phase, requested] at known
      obtain ⟨member, named, existing⟩ := known
      have sameMaximum := invariant.numbered.maxVersion_of_insertVersion member existing newVersion
        (by rw [inserted]) (by rw [inserted])
      have created : PromptManager.createVersion before.tables versionId now name template declared
          change_note = .ok (versionToDict version, committed) := by
        have found : getPromptByName before.tables name = .ok prompt :=
          getPromptByName_eq_ok_iff.mpr ⟨member, named⟩
        subst inserted
        unfold PromptManager.createVersion
        simp [found, sameMaximum, newVersion, bind, Except.bind, pure, Except.pure]
      simpa [writePoint, requested, answerOf] using
        explains_of_createVersion (Sum.inl request) created
  | _ => exact rfl

omit [DecidableEq Writer] [DecidableEq Promoter] in
/-- **A promotion is a whole operation where it takes effect.** -/
theorem PromoteMove.explained {promoter : Promoter} {before after : PromptTables}
    {phase later : PromotePhase} {action : PromoteAction}
    (move : PromoteMove (promotion promoter) before phase action after later)
    (known : PromoteHolds (promotion promoter) before phase) :
    promptObject.Explains before after
      (promotePoint promotion promoter phase later action :
        Option (Entry (Writer ⊕ Promoter) PromptOperation (Except PyException WriteResult))) := by
  cases move with
  | found found parsed => exact rfl
  | @loaded prompt environment pv member keyed =>
      obtain ⟨promptMember, named, parsed⟩ := known
      have found := getPromptByName_eq_ok_iff.mpr ⟨promptMember, named⟩
      by_cases same : pv.environment = environment
      · have promoted := promote_of_found found parsed member keyed
        rw [← same, updateEnvironment_same member, same] at promoted
        simpa only [promotePoint, if_pos same] using explains_of_promote (Sum.inr promoter) promoted
      · simp only [promotePoint, if_neg same]
        exact rfl
  | unchanged same =>
      simp only [promotePoint, if_pos same]
      exact rfl
  | @updated pv environment different =>
      -- The row may have got another environment since it was loaded.
      obtain ⟨parsed, ⟨row, isRow, sameContent⟩, prompt, promptMember, named, keyed⟩ := known
      obtain ⟨member, sameId⟩ := versionById_eq_some_iff.mp isRow
      have found := getPromptByName_eq_ok_iff.mpr ⟨promptMember, named⟩
      have rowKeyed : row.versionKey = (prompt.id, (promotion promoter).version) := by
        rw [sameContent]
        exact keyed
      have promoted := promote_of_found found parsed member rowKeyed
      have sameResult : { row with environment } = { pv with environment } := by rw [sameContent]
      rw [sameResult, sameId] at promoted
      simpa only [promotePoint, if_neg different] using
        explains_of_promote (Sum.inr promoter) promoted
  | refreshed found => exact rfl
  | raised action failure notCommit notFinal =>
      cases action with
      | commit => exact absurd rfl notCommit
      | _ => exact rfl

/-! ## What is known about an entry -/

/-- The result with another environment. -/
def WriteResult.withEnvironment (environment : String) : WriteResult → WriteResult
  | prompt returned => .prompt { returned with
      latest_version := returned.latest_version.map fun version => { version with environment } }
  | version returned => .version { returned with environment }

/-- What the phase of a writer that took effect says about its answer. -/
def WriteAnswers (response : Except PyException WriteResult) : WritePhase → Prop
  | .committed created version => response = .ok (answerOf created version)
  | .returned result => ∃ environment, response = .ok (result.withEnvironment environment)
  | .raised _ => True
  | _ => False

/-- A writer that took effect and has not failed since. -/
def WritePhase.IsAnswered : WritePhase → Prop
  | committed _ _ | returned _ => True
  | _ => False

/-- What the phase of a promotion that took effect says about its answer. -/
def PromoteAnswers (response : Except PyException WriteResult) : PromotePhase → Prop
  | .waiting | .found _ _ => False
  | .loaded pv environment => pv.environment = environment ∧
      response = .ok (.version (versionToDict { pv with environment }))
  | .committed pv => response = .ok (.version (versionToDict pv))
  | .returned result => ∃ environment, response = .ok (.version { result with environment })
  | .raised _ => True

/-- A promotion that took effect and has not failed since. -/
def PromotePhase.IsAnswered : PromotePhase → Prop
  | loaded pv environment => pv.environment = environment
  | committed _ | returned _ => True
  | _ => False

/-- What is known about an entry: it does what its call asks for, and its answer is the
one that the call returns. -/
def EntryRecorded (call : Writer → WriteRequest) (promotion : Promoter → PromoteRequest)
    (entry : Entry (Writer ⊕ Promoter) PromptOperation (Except PyException WriteResult))
    (state : PromptWriters Writer Promoter) : Prop :=
  match entry.caller with
  | .inl writer => (call writer).Asks entry.operation ∧
      WriteAnswers entry.response (state.writes.phase writer)
  | .inr promoter => entry.operation = (promotion promoter).operation ∧
      PromoteAnswers entry.response (state.promotions promoter)

/-- The call has been answered, or its answer is certain unless it fails. -/
def CallAnswered (state : PromptWriters Writer Promoter) : Writer ⊕ Promoter → Prop
  | .inl writer => (state.writes.phase writer).IsAnswered
  | .inr promoter => (state.promotions promoter).IsAnswered

omit [DecidableEq Writer] [DecidableEq Promoter] in
/-- What a step of a writer says about its entry. -/
theorem writePoint_eq_some {before after : WriteState Writer} {label : WriteStep Writer}
    {entry : Entry (Writer ⊕ Promoter) PromptOperation (Except PyException WriteResult)}
    (atPoint : writePoint call before after label = some entry) :
    entry.caller = .inl label.request ∧ (call label.request).Asks entry.operation ∧
      ∃ created version, after.phase label.request = .committed created version ∧
        entry.response = .ok (answerOf created version) := by
  cases label with
  | commitPrompt request versionId =>
      simp only [writePoint] at atPoint
      split at atPoint
      · rename_i requested committed
        cases atPoint
        exact ⟨rfl, by rw [WriteStep.request, requested]; exact ⟨_, _, _, rfl⟩, _, _, committed,
          rfl⟩
      · cases atPoint
  | commitVersion request versionId now =>
      simp only [writePoint] at atPoint
      split at atPoint
      · rename_i requested committed
        cases atPoint
        exact ⟨rfl, by rw [WriteStep.request, requested]; exact ⟨_, _, rfl⟩, _, _, committed, rfl⟩
      · cases atPoint
  | _ => cases atPoint

omit [DecidableEq Writer] [DecidableEq Promoter] in
/-- What a step of a promotion says about its entry. -/
theorem PromoteMove.point_eq_some {promoter : Promoter} {before after : PromptTables}
    {phase later : PromotePhase} {action : PromoteAction}
    {entry : Entry (Writer ⊕ Promoter) PromptOperation (Except PyException WriteResult)}
    (move : PromoteMove (promotion promoter) before phase action after later)
    (atPoint : promotePoint promotion promoter phase later action = some entry) :
    entry.caller = .inr promoter ∧ entry.operation = (promotion promoter).operation ∧
      PromoteAnswers entry.response later ∧ ∀ response, ¬ PromoteAnswers response phase := by
  cases move with
  | found found parsed => cases atPoint
  | @loaded prompt environment pv member keyed =>
      by_cases same : pv.environment = environment
      · simp only [promotePoint, if_pos same] at atPoint
        cases atPoint
        exact ⟨rfl, rfl, ⟨same, rfl⟩, fun _ => id⟩
      · simp only [promotePoint, if_neg same] at atPoint
        cases atPoint
  | unchanged same =>
      simp only [promotePoint, if_pos same] at atPoint
      cases atPoint
  | updated different =>
      simp only [promotePoint, if_neg different] at atPoint
      cases atPoint
      exact ⟨rfl, rfl, rfl, fun response known => different known.1⟩
  | refreshed found => cases atPoint
  | raised action failure notCommit notFinal =>
      cases action with
      | commit => exact absurd rfl notCommit
      | _ => cases atPoint

/-- A promotion keeps the answer that it has. -/
theorem PromoteMove.answers {request : PromoteRequest} {before after : PromptTables}
    {phase later : PromotePhase} {action : PromoteAction}
    {response : Except PyException WriteResult}
    (move : PromoteMove request before phase action after later)
    (known : PromoteHolds request before phase) (answers : PromoteAnswers response phase) :
    PromoteAnswers response later := by
  cases move with
  | found found parsed => exact answers.elim
  | loaded member keyed => exact answers.elim
  | unchanged same => exact answers.2
  | updated different => exact absurd answers.1 different
  | @refreshed pv row found =>
      obtain ⟨current, isCurrent, sameContent⟩ := known
      obtain rfl : current = row := Option.some.inj (isCurrent.symm.trans found)
      refine ⟨pv.environment.value, ?_⟩
      rw [show response = _ from answers, sameContent]
      rfl
  | raised action failure notCommit notFinal => trivial

omit [DecidableEq Writer] [DecidableEq Promoter] in
/-- A promotion is answered from the point where it takes effect. -/
theorem PromoteMove.isAnswered {promoter : Promoter} {before after : PromptTables}
    {phase later : PromotePhase} {action : PromoteAction}
    (move : PromoteMove (promotion promoter) before phase action after later)
    (answered : later.IsAnswered) :
    phase.IsAnswered ∨ (promotePoint promotion promoter phase later action :
      Option (Entry (Writer ⊕ Promoter) PromptOperation (Except PyException WriteResult))).map
        Entry.caller = some (.inr promoter) := by
  cases move with
  | found found parsed => exact answered.elim
  | loaded member keyed =>
      refine .inr ?_
      simp only [promotePoint, if_pos (show _ = _ from answered), Option.map_some]
  | unchanged same => exact .inl same
  | updated different =>
      refine .inr ?_
      simp only [promotePoint, if_neg different, Option.map_some]
  | refreshed found => exact .inl trivial
  | raised action failure notCommit notFinal => exact answered.elim

omit [DecidableEq Promoter] in
/-- A writer has no answer before the step in which it takes effect. -/
theorem WriteMove.fresh {before after : WriteState Writer} {label : WriteStep Writer}
    {entry : Entry (Writer ⊕ Promoter) PromptOperation (Except PyException WriteResult)}
    (move : WriteMove call before label after)
    (atPoint : writePoint call before after label = some entry)
    (response : Except PyException WriteResult) :
    ¬ WriteAnswers response (before.phase label.request) := by
  cases move with
  | created request versionId phase requested inserted newPrompt newVersion =>
      rw [WriteStep.request, phase]
      exact id
  | versioned request versionId now phase requested inserted newVersion =>
      rw [WriteStep.request, phase]
      exact id
  | failed label failure early =>
      rw [writePoint_eq_none (by simp [WritePhase.isCommitted])] at atPoint
      cases atPoint
  | _ => cases atPoint

/-- A writer keeps the answer that it has. -/
theorem WriteMove.answers {before after : WriteState Writer} {label : WriteStep Writer}
    {name : String} {response : Except PyException WriteResult}
    (move : WriteMove call before label after)
    (known : PhaseHolds before.tables name (before.phase label.request))
    (answers : WriteAnswers response (before.phase label.request)) :
    WriteAnswers response (after.phase label.request) := by
  cases move with
  | flushed request promptId now phase requested =>
      rw [WriteStep.request, phase] at answers
      exact answers.elim
  | found request phase found =>
      rw [WriteStep.request, phase] at answers
      exact answers.elim
  | maximumRead request phase =>
      rw [WriteStep.request, phase] at answers
      exact answers.elim
  | created request versionId phase requested inserted newPrompt newVersion =>
      rw [WriteStep.request, phase] at answers
      exact answers.elim
  | versioned request versionId now phase requested inserted newVersion =>
      rw [WriteStep.request, phase] at answers
      exact answers.elim
  | @answered request created version phase =>
      rw [WriteStep.request, phase] at known answers
      obtain ⟨row, -, same, isAnswer⟩ := known.refreshed
      rw [WriteStep.request, WriteState.enter_phase, isAnswer]
      refine ⟨version.environment.value, ?_⟩
      rw [show response = _ from answers]
      cases created <;> rw [same] <;> rfl
  | failed label failure early =>
      rw [WriteState.enter_phase]
      trivial

omit [DecidableEq Promoter] in
/-- A writer is answered from its commit on. -/
theorem WriteMove.isAnswered {before after : WriteState Writer} {label : WriteStep Writer}
    (move : WriteMove call before label after)
    (answered : (after.phase label.request).IsAnswered) :
    (before.phase label.request).IsAnswered ∨ (writePoint call before after label :
      Option (Entry (Writer ⊕ Promoter) PromptOperation (Except PyException WriteResult))).map
        Entry.caller = some (.inl label.request) := by
  cases move with
  | created request versionId phase requested inserted newPrompt newVersion =>
      exact .inr (by simp [writePoint, phase, requested, WriteStep.request])
  | versioned request versionId now phase requested inserted newVersion =>
      exact .inr (by simp [writePoint, requested, WriteStep.request])
  | answered request phase =>
      rw [WriteStep.request, phase]
      exact .inl trivial
  | failed label failure early =>
      rw [WriteState.enter_phase] at answered
      exact answered.elim
  | _ =>
      rw [WriteStep.request, WriteState.enter_phase] at answered
      exact answered.elim

/-! ## Whole runs -/

theorem PromptWritersInvariant.of_initial {state : PromptWriters Writer Promoter}
    (initial : (promptWriters call promotion).initial state) :
    PromptWritersInvariant call promotion state := by
  obtain ⟨writes, promotions⟩ := initial
  refine ⟨.of_initial writes, fun writer => ?_, fun promoter => ?_⟩
  · rw [writes.2 writer]
    trivial
  · rw [promotions promoter]
    trivial

/-- The records of the entries stay. -/
theorem entryRecorded_stays {before after : PromptWriters Writer Promoter}
    {label : PromptStep Writer Promoter} (invariant : PromptWritersInvariant call promotion before)
    (step : promptNext call promotion before label = some after)
    {entry : Entry (Writer ⊕ Promoter) PromptOperation (Except PyException WriteResult)}
    (recorded : EntryRecorded call promotion entry before) :
    EntryRecorded call promotion entry after := by
  obtain ⟨caller, operation, response⟩ := entry
  rcases promptNext_cases step with ⟨writeLabel, writes, rfl, written, rfl⟩ |
    ⟨promoter, action, committed, later, rfl, move, rfl⟩
  · cases caller with
    | inl writer =>
        obtain ⟨asks, answers⟩ := recorded
        have move := (writeNext_move written).2
        refine ⟨asks, ?_⟩
        by_cases same : writer = writeLabel.request
        · subst same
          exact move.answers (invariant.writes.phases _) answers
        · exact (move.phase_other same).symm ▸ answers
    | inr promoter => exact recorded
  · cases caller with
    | inl writer => exact recorded
    | inr other =>
        obtain ⟨asks, answers⟩ := recorded
        refine ⟨asks, ?_⟩
        by_cases same : other = promoter
        · subst same
          simpa using move.answers (invariant.promotions other) answers
        · simpa [same] using answers

section Step

variable {before after : PromptWriters Writer Promoter} {label : PromptStep Writer Promoter}

/-- What a step does to the tables is explained by the entry it makes. -/
theorem linearizationPoint_explains (invariant : PromptWritersInvariant call promotion before)
    (step : promptNext call promotion before label = some after) :
    promptObject.Explains before.tables after.tables
      (linearizationPoint call promotion ⟨before, label, after⟩) := by
  rcases promptNext_cases step with ⟨writeLabel, writes, rfl, written, rfl⟩ |
    ⟨promoter, action, committed, later, rfl, move, rfl⟩
  · exact (writeNext_move written).2.explained invariant.writes invariant.flushed
  · simp only [linearizationPoint, Function.update_self]
    exact move.explained (invariant.promotions promoter)

variable {entry : Entry (Writer ⊕ Promoter) PromptOperation (Except PyException WriteResult)}

/-- The entry of a step is one of the call that takes the step, and it is recorded. -/
theorem linearizationPoint_recorded (step : promptNext call promotion before label = some after)
    (atPoint : linearizationPoint call promotion ⟨before, label, after⟩ = some entry) :
    entry.caller = label.caller ∧ EntryRecorded call promotion entry after := by
  obtain ⟨caller, operation, response⟩ := entry
  rcases promptNext_cases step with ⟨writeLabel, writes, rfl, written, rfl⟩ |
    ⟨promoter, action, committed, later, rfl, move, rfl⟩
  · obtain ⟨rfl, asks, created, version, committed, answer⟩ := writePoint_eq_some atPoint
    refine ⟨rfl, asks, ?_⟩
    rw [committed]
    exact answer
  · simp only [linearizationPoint, Function.update_self] at atPoint
    obtain ⟨rfl, asks, answers, -⟩ := move.point_eq_some atPoint
    exact ⟨rfl, asks, by simpa using answers⟩

/-- A call that has an entry makes no other. -/
theorem linearizationPoint_once (step : promptNext call promotion before label = some after)
    (atPoint : linearizationPoint call promotion ⟨before, label, after⟩ = some entry)
    {earlier : Entry (Writer ⊕ Promoter) PromptOperation (Except PyException WriteResult)}
    (recorded : EntryRecorded call promotion earlier before) : earlier.caller ≠ entry.caller := by
  intro sameCaller
  obtain ⟨caller, operation, response⟩ := entry
  obtain ⟨earlierCaller, earlierOperation, earlierResponse⟩ := earlier
  obtain rfl : earlierCaller = caller := sameCaller
  rcases promptNext_cases step with ⟨writeLabel, writes, rfl, written, rfl⟩ |
    ⟨promoter, action, committed, later, rfl, move, rfl⟩
  · obtain ⟨rfl, -⟩ := writePoint_eq_some atPoint
    exact (writeNext_move written).2.fresh atPoint earlierResponse recorded.2
  · simp only [linearizationPoint, Function.update_self] at atPoint
    obtain ⟨rfl, -, -, fresh⟩ := move.point_eq_some atPoint
    exact fresh earlierResponse recorded.2

/-- A call that becomes answered takes effect in that step. -/
theorem linearizationPoint_answers (step : promptNext call promotion before label = some after)
    {caller : Writer ⊕ Promoter} (answered : CallAnswered after caller) :
    CallAnswered before caller ∨
      (linearizationPoint call promotion ⟨before, label, after⟩).map Entry.caller =
        some caller := by
  rcases promptNext_cases step with ⟨writeLabel, writes, rfl, written, rfl⟩ |
    ⟨promoter, action, committed, later, rfl, move, rfl⟩
  · cases caller with
    | inl writer =>
        have move := (writeNext_move written).2
        by_cases same : writer = writeLabel.request
        · subst same
          exact move.isAnswered answered
        · left
          rw [CallAnswered, show _ = before.writes.phase writer from move.phase_other same]
            at answered
          exact answered
    | inr promoter => exact .inl answered
  · cases caller with
    | inl writer => exact .inl answered
    | inr other =>
        by_cases same : other = promoter
        · subst same
          simp only [CallAnswered, Function.update_self] at answered
          simp only [linearizationPoint, Function.update_self]
          exact move.isAnswered answered
        · refine .inl ?_
          simpa [CallAnswered, same] using answered

end Step

/-- No call is answered in a new installation. -/
theorem not_callAnswered_of_initial {state : PromptWriters Writer Promoter}
    (initial : (promptWriters call promotion).initial state) (caller : Writer ⊕ Promoter) :
    ¬ CallAnswered state caller := by
  intro answered
  cases caller with
  | inl writer =>
      rw [CallAnswered, initial.1.2 writer] at answered
      exact answered
  | inr promoter =>
      rw [CallAnswered, initial.2 promoter] at answered
      exact answered

/-- The linearization points of the prompt writers. -/
def promptLinearization (call : Writer → WriteRequest) (promotion : Promoter → PromoteRequest) :
    Linearization (promptWriters call promotion) promptObject (Writer ⊕ Promoter) where
  abstraction := PromptWriters.tables
  point := linearizationPoint call promotion
  holds := PromptWritersInvariant call promotion
  records := EntryRecorded call promotion
  answered := CallAnswered
  initially _ initial := ⟨.of_initial initial, not_callAnswered_of_initial initial⟩
  keeps _ invariant taken := invariant.step taken
  explains _ invariant taken := linearizationPoint_explains invariant taken
  noted _ _ taken _ atPoint := (linearizationPoint_recorded taken atPoint).2
  stays _ invariant taken _ recorded := entryRecorded_stays invariant taken recorded
  once _ _ taken _ atPoint _ recorded := linearizationPoint_once taken atPoint recorded
  answers _ _ taken _ answered := linearizationPoint_answers taken answered

/-- The calls of a run in the order in which they take effect, with their answers. -/
def serialOrder (call : Writer → WriteRequest) (promotion : Promoter → PromoteRequest)
    (transitions : List (Transition (PromptWriters Writer Promoter) (PromptStep Writer Promoter))) :
    List (Entry (Writer ⊕ Promoter) PromptOperation (Except PyException WriteResult)) :=
  transitions.filterMap (linearizationPoint call promotion)

/-- **Concurrent writers take effect one at a time.** In every run of interleaved
creations, new versions and promotions, each call takes effect at most once, at one of its
own steps. Whole operations in this order lead to the same tables. A call that has
returned took effect, by the operation that it asks for, and returned the answer of that
operation, possibly with another environment. -/
theorem writers_linearizable (start finish : PromptWriters Writer Promoter)
    (transitions : List (Transition (PromptWriters Writer Promoter) (PromptStep Writer Promoter)))
    (initial : (promptWriters call promotion).initial start)
    (run : (promptWriters call promotion).Run start transitions finish) :
    promptObject.History PromptTables.empty (serialOrder call promotion transitions)
      finish.tables ∧
    ((serialOrder call promotion transitions).map Entry.caller).Nodup ∧
    (∀ step ∈ transitions, ∀ entry ∈ linearizationPoint call promotion step,
      entry.caller = step.label.caller) ∧
    (∀ writer result, finish.writes.phase writer = .returned result →
      ∃ entry ∈ serialOrder call promotion transitions, entry.caller = .inl writer ∧
        (call writer).Asks entry.operation ∧
        ∃ environment, entry.response = .ok (result.withEnvironment environment)) ∧
    (∀ promoter result, finish.promotions promoter = .returned result →
      ∃ entry ∈ serialOrder call promotion transitions, entry.caller = .inr promoter ∧
        entry.operation = (promotion promoter).operation ∧
        ∃ environment, entry.response = .ok (.version { result with environment })) := by
  obtain ⟨-, explained⟩ := (promptLinearization call promotion).explained initial run
  have empty : start.tables = PromptTables.empty := initial.1.1
  refine ⟨empty ▸ explained.history, explained.distinct, fun step member entry atPoint => ?_,
    fun writer result returned => ?_, fun promoter result returned => ?_⟩
  · exact (linearizationPoint_recorded (run.step_of_mem member) atPoint).1
  · have answered : CallAnswered finish (.inl writer) := by
      rw [CallAnswered, returned]
      trivial
    obtain ⟨⟨caller, operation, response⟩, member, rfl⟩ :=
      List.mem_map.mp (explained.complete (.inl writer) answered)
    obtain ⟨asks, answers⟩ := explained.recorded _ member
    dsimp only at answers
    rw [returned] at answers
    exact ⟨_, member, rfl, asks, answers⟩
  · have answered : CallAnswered finish (.inr promoter) := by
      rw [CallAnswered, returned]
      trivial
    obtain ⟨⟨caller, operation, response⟩, member, rfl⟩ :=
      List.mem_map.mp (explained.complete (.inr promoter) answered)
    obtain ⟨asks, answers⟩ := explained.recorded _ member
    dsimp only at answers
    rw [returned] at answers
    exact ⟨_, member, rfl, asks, answers⟩

end Runs

/-- One prompt is created, and its first version is promoted to two environments. -/
def greetingWriter : Unit → WriteRequest := fun _ => .create "greeting" "Hello" "" none

def greetingPromotions : Bool → PromoteRequest
  | false => ⟨"greeting", 1, "draft"⟩
  | true => ⟨"greeting", 1, "production"⟩

/-- The first promotion loads the row, and the second one commits before it does. -/
def overtakenPromotion : List (PromptStep Unit Bool) :=
  [.write (.flushPrompt () 1 0), .write (.commitPrompt () 1),
    .promote false .findPrompt, .promote false .selectVersion,
    .promote true .findPrompt, .promote true .selectVersion, .promote true .commit,
    .promote false .commit, .promote false .refresh, .write (.refresh ())]

/-- The overtaken promotion to `draft` writes nothing and answers `production`, and so does
the creation, which reads its rows again at the end. -/
theorem overtaken_promotion_is_explained :
    ∃ (finish : PromptWriters Unit Bool)
      (transitions : List (Transition (PromptWriters Unit Bool) (PromptStep Unit Bool))),
      transitions.map Transition.label = overtakenPromotion ∧
        (∃ result, finish.promotions false = .returned result ∧
          result.environment = "production") ∧
        (∃ result, finish.writes.phase () = .returned result ∧
          result.newVersion.map VersionDict.environment = some "production") ∧
        promptObject.History PromptTables.empty
          (serialOrder greetingWriter greetingPromotions transitions) finish.tables := by
  have executed : (promptWriters greetingWriter greetingPromotions).execute overtakenPromotion
      ⟨⟨PromptTables.empty, fun _ => .waiting⟩, fun _ => .waiting⟩ = some _ := rfl
  obtain ⟨transitions, run, labels⟩ := exists_run_of_execute executed
  exact ⟨_, transitions, labels, ⟨_, rfl, rfl⟩, ⟨_, rfl, rfl⟩,
    (writers_linearizable _ _ transitions ⟨⟨rfl, fun _ => rfl⟩, fun _ => rfl⟩ run).1⟩

end LlmopsPlatform.Prompts
