import LlmopsPlatform.Prompts.ConcurrentVersions
import LlmopsPlatform.Prompts.History

/-!
# Promotions beside the other writers

Creations, new versions and promotions of prompts interleave. A promotion finds its
prompt, loads the version, and changes the environment of the loaded row when it
commits; then it reads the row again to answer. The unit of work writes an attribute only
if its value differs from the loaded one, so a promotion to the environment that the row
had when it was loaded writes nothing, whatever the row has by then.

Prompts stay, and so do versions up to their environment (`Evolves`). What each call knows
about the committed tables is kept by all steps (`PromptWritersInvariant.step`).
-/

set_option autoImplicit false

namespace LlmopsPlatform.Prompts

open Foundations Foundations.TransitionSystem Python Database PromptManager PromptTables

/-! ## Promotions step by step -/

/-- The arguments of `PromptManager.promote`. -/
structure PromoteRequest where
  name : String
  version : Int
  target_env : String

/-- How far a promotion has come. The loaded row is the object `pv`. -/
inductive PromotePhase where
  | waiting
  | found (prompt : PromptModel) (environment : PromptEnvironment)
  | loaded (pv : PromptVersionModel) (environment : PromptEnvironment)
  | committed (pv : PromptVersionModel)
  | returned (result : VersionDict)
  | raised (failure : PyException)

def PromotePhase.isFinal : PromotePhase → Bool
  | returned _ | raised _ => true
  | _ => false

inductive PromoteAction where
  | findPrompt
  | selectVersion
  | commit
  | refresh
  | fail (failure : PyException)

/-- One step of `PromptManager.promote`. -/
def promoteNext (request : PromoteRequest) (tables : PromptTables) :
    PromotePhase → PromoteAction → Option (PromptTables × PromotePhase)
  | .waiting, .findPrompt =>
      match getPromptByName tables request.name with
      | .error failure => some (tables, .raised failure)
      | .ok prompt =>
          match parseEnvironment request.target_env with
          | .error failure => some (tables, .raised failure)
          | .ok environment => some (tables, .found prompt environment)
  | .found prompt environment, .selectVersion =>
      match scalarOneOrNone (selectVersion tables prompt request.version) with
      | .error failure => some (tables, .raised failure)
      | .ok none => some (tables, .raised (.valueError ("Version " ++ toString request.version ++
          " not found for prompt '" ++ request.name ++ "'")))
      | .ok (some pv) => some (tables, .loaded pv environment)
  | .loaded pv environment, .commit =>
      -- An attribute that was set to the value it was loaded with is not written.
      let committed := if pv.environment = environment then tables
        else tables.updateEnvironment pv.id environment
      some (committed, .committed { pv with environment })
  | .committed pv, .refresh =>
      match tables.versionById pv.id with
      | some row => some (tables, .returned (versionToDict row))
      | none => some (tables, .raised (.exception "InvalidRequestError"))
  | phase, .fail failure => if phase.isFinal then none else some (tables, .raised failure)
  | _, _ => none

/-! ## All writers together -/

/-- The writers with the committed tables, and the phase of every promotion. -/
structure PromptWriters (Writer Promoter : Type) where
  writes : WriteState Writer
  promotions : Promoter → PromotePhase

/-- The committed tables. -/
def PromptWriters.tables {Writer Promoter : Type} (state : PromptWriters Writer Promoter) :
    PromptTables :=
  state.writes.tables

inductive PromptStep (Writer Promoter : Type) where
  | write (step : WriteStep Writer)
  | promote (promoter : Promoter) (action : PromoteAction)

/-- The call that takes a step. -/
def PromptStep.caller {Writer Promoter : Type} : PromptStep Writer Promoter → Writer ⊕ Promoter
  | write step => .inl step.request
  | promote promoter _ => .inr promoter

section System

variable {Writer Promoter : Type} [DecidableEq Writer] [DecidableEq Promoter]
  (call : Writer → WriteRequest) (promotion : Promoter → PromoteRequest)

/-- One step of one call. -/
def promptNext (state : PromptWriters Writer Promoter) :
    PromptStep Writer Promoter → Option (PromptWriters Writer Promoter)
  | .write step => (writeNext call state.writes step).map fun writes => { state with writes }
  | .promote promoter action =>
      (promoteNext (promotion promoter) state.tables (state.promotions promoter) action).map
        fun done => { writes := { state.writes with tables := done.1 },
                      promotions := Function.update state.promotions promoter done.2 }

/-- The writers and promotions, from a new installation. -/
def promptWriters : TransitionSystem (PromptWriters Writer Promoter) (PromptStep Writer Promoter)
    where
  initial state := (writeSystem call).initial state.writes ∧
    ∀ promoter, state.promotions promoter = .waiting
  next := promptNext call promotion

end System

/-! ## What a step can do -/

/-- The moves of a promotion. -/
inductive PromoteMove (request : PromoteRequest) (tables : PromptTables) :
    PromotePhase → PromoteAction → PromptTables → PromotePhase → Prop where
  | found {prompt : PromptModel} {environment : PromptEnvironment}
      (found : getPromptByName tables request.name = .ok prompt)
      (parsed : PromptEnvironment.ofValue request.target_env = some environment) :
      PromoteMove request tables .waiting .findPrompt tables (.found prompt environment)
  | loaded {prompt : PromptModel} {environment : PromptEnvironment} {pv : PromptVersionModel}
      (member : pv ∈ tables.versions) (keyed : pv.versionKey = (prompt.id, request.version)) :
      PromoteMove request tables (.found prompt environment) .selectVersion tables
        (.loaded pv environment)
  | unchanged {pv : PromptVersionModel} {environment : PromptEnvironment}
      (same : pv.environment = environment) :
      PromoteMove request tables (.loaded pv environment) .commit tables
        (.committed { pv with environment })
  | updated {pv : PromptVersionModel} {environment : PromptEnvironment}
      (different : pv.environment ≠ environment) :
      PromoteMove request tables (.loaded pv environment) .commit
        (tables.updateEnvironment pv.id environment) (.committed { pv with environment })
  | refreshed {pv row : PromptVersionModel} (found : tables.versionById pv.id = some row) :
      PromoteMove request tables (.committed pv) .refresh tables (.returned (versionToDict row))
  | raised {phase : PromotePhase} (action : PromoteAction) (failure : PyException)
      (notCommit : action ≠ .commit) (notFinal : phase.isFinal = false) :
      PromoteMove request tables phase action tables (.raised failure)

theorem promoteNext_move {request : PromoteRequest} {tables after : PromptTables}
    {phase later : PromotePhase} {action : PromoteAction}
    (step : promoteNext request tables phase action = some (after, later)) :
    PromoteMove request tables phase action after later := by
  unfold promoteNext at step
  split at step
  · split at step
    · cases step
      exact .raised _ _ (by simp) rfl
    · rename_i prompt found
      unfold parseEnvironment at step
      cases parsed : PromptEnvironment.ofValue request.target_env with
      | none =>
          rw [parsed] at step
          cases step
          exact .raised _ _ (by simp) rfl
      | some environment =>
          rw [parsed] at step
          cases step
          exact .found found parsed
  · rename_i prompt environment
    rcases scalarOneOrNone_filter_key tables.promptVersionUnique (prompt.id, request.version) with
      ⟨row, member, keyed, query⟩ | ⟨-, query⟩
    · rw [show scalarOneOrNone (selectVersion tables prompt request.version) = _ from query]
        at step
      cases step
      exact .loaded member keyed
    · rw [show scalarOneOrNone (selectVersion tables prompt request.version) = _ from query]
        at step
      cases step
      exact .raised _ _ (by simp) rfl
  · rename_i pv environment
    dsimp only at step
    split at step
    · rename_i same
      cases step
      exact .unchanged same
    · rename_i different
      cases step
      exact .updated different
  · split at step
    · rename_i found
      cases step
      exact .refreshed found
    · cases step
      exact .raised _ _ (by simp) rfl
  · split at step
    · cases step
    · rename_i notFinal
      cases step
      exact .raised _ _ (by simp) (by simpa using notFinal)
  · cases step

/-! ## What stays of the tables -/

/-- Two tables with the same rows are the same. -/
theorem tables_eq {first second : PromptTables} (prompts : first.prompts = second.prompts)
    (versions : first.versions = second.versions) : first = second := by
  cases first
  cases second
  cases prompts
  cases versions
  rfl

/-- Setting the environment that a row has already changes nothing. -/
theorem updateEnvironment_same {tables : PromptTables} {row : PromptVersionModel}
    (member : row ∈ tables.versions) :
    tables.updateEnvironment row.id row.environment = tables := by
  refine tables_eq rfl ?_
  rw [updateEnvironment_versions]
  conv_rhs => rw [← List.map_id tables.versions]
  refine List.map_congr_left fun other otherMember => ?_
  unfold relabel
  split
  · rename_i sameId
    rw [tables.versionIdUnique.eq_of_key_eq otherMember member sameId]
    rfl
  · rfl

theorem PromoteMove.evolves {request : PromoteRequest} {before after : PromptTables}
    {phase later : PromotePhase} {action : PromoteAction}
    (move : PromoteMove request before phase action after later) : Evolves before after := by
  cases move
  case updated => exact .updateEnvironment _ _ _
  all_goals exact .refl _

/-- The invariant of the writers speaks of no environment. -/
theorem WriteInvariant.updateEnvironment {Writer : Type} {call : Writer → WriteRequest}
    {state : WriteState Writer}
    (invariant : WriteInvariant call state) (id : Nat) (environment : PromptEnvironment) :
    WriteInvariant call { state with tables := state.tables.updateEnvironment id environment } := by
  refine ⟨fun prompt member => ?_, fun request => ?_, invariant.distinct⟩
  · rw [versionNumbers_updateEnvironment]
    exact invariant.numbered prompt member
  · exact (invariant.phases request).mono (.updateEnvironment state.tables id environment)

/-! ## What the calls know -/

/-- A prompt that was flushed is the one that its call describes. -/
def FlushedHolds (request : WriteRequest) : WritePhase → Prop
  | .flushed prompt => ∀ name template description declared,
      request = .create name template description declared →
        prompt = ⟨prompt.id, name, description, true, prompt.created_at⟩
  | _ => True

/-- What a promotion knows about the committed tables. -/
def PromoteHolds (request : PromoteRequest) (tables : PromptTables) : PromotePhase → Prop
  | .found prompt environment => prompt ∈ tables.prompts ∧ prompt.name = request.name ∧
      PromptEnvironment.ofValue request.target_env = some environment
  | .loaded pv environment => PromptEnvironment.ofValue request.target_env = some environment ∧
      StillThere tables pv ∧ ∃ prompt ∈ tables.prompts, prompt.name = request.name ∧
        pv.versionKey = (prompt.id, request.version)
  | .committed pv => StillThere tables pv
  | _ => True

theorem PromoteHolds.mono {before after : PromptTables} (evolves : Evolves before after)
    {request : PromoteRequest} {phase : PromotePhase}
    (known : PromoteHolds request before phase) : PromoteHolds request after phase := by
  cases phase with
  | found prompt environment => exact ⟨evolves.prompts known.1, known.2⟩
  | loaded pv environment =>
      obtain ⟨parsed, there, prompt, member, named, keyed⟩ := known
      exact ⟨parsed, there.mono evolves, prompt, evolves.prompts member, named, keyed⟩
  | committed pv => exact StillThere.mono evolves known
  | waiting => trivial
  | returned result => trivial
  | raised failure => trivial

/-- A promotion keeps what it knows. -/
theorem PromoteMove.holds {request : PromoteRequest} {before after : PromptTables}
    {phase later : PromotePhase} {action : PromoteAction}
    (move : PromoteMove request before phase action after later)
    (known : PromoteHolds request before phase) : PromoteHolds request after later := by
  cases move with
  | found found parsed =>
      obtain ⟨member, named⟩ := getPromptByName_eq_ok_iff.mp found
      exact ⟨member, named, parsed⟩
  | @loaded prompt environment pv member keyed =>
      obtain ⟨promptMember, named, parsed⟩ := known
      exact ⟨parsed, ⟨pv, versionById_eq_some_iff.mpr ⟨member, rfl⟩, rfl⟩, prompt, promptMember,
        named, keyed⟩
  | unchanged same =>
      obtain ⟨row, found, sameContent⟩ := known.2.1
      exact ⟨row, found, sameContent⟩
  | updated different =>
      obtain ⟨row, found, sameContent⟩ := known.2.1.mono (.updateEnvironment before _ _)
      exact ⟨row, found, sameContent⟩
  | refreshed found => trivial
  | raised action failure notCommit notFinal => trivial

section Runs

variable {Writer Promoter : Type} [DecidableEq Writer] [DecidableEq Promoter]
  {call : Writer → WriteRequest} {promotion : Promoter → PromoteRequest}

/-- What holds of the committed tables and of all calls together. -/
structure PromptWritersInvariant (call : Writer → WriteRequest)
    (promotion : Promoter → PromoteRequest) (state : PromptWriters Writer Promoter) : Prop where
  writes : WriteInvariant call state.writes
  flushed : ∀ writer, FlushedHolds (call writer) (state.writes.phase writer)
  promotions : ∀ promoter,
    PromoteHolds (promotion promoter) state.tables (state.promotions promoter)

theorem WriteMove.flushedHolds {before after : WriteState Writer} {label : WriteStep Writer}
    (move : WriteMove call before label after)
    (known : ∀ writer, FlushedHolds (call writer) (before.phase writer)) (writer : Writer) :
    FlushedHolds (call writer) (after.phase writer) := by
  by_cases same : writer = label.request
  · subst same
    cases move with
    | flushed request promptId now phase requested =>
        rw [WriteStep.request, WriteState.enter_phase]
        intro name template description declared asked
        cases requested.symm.trans asked
        rfl
    | created => simp [FlushedHolds, WriteStep.request]
    | versioned => simp [FlushedHolds, WriteStep.request]
    | answered =>
        simp only [WriteStep.request, WriteState.enter_phase]
        cases refreshed _ _ _ <;> trivial
    | _ => simp [FlushedHolds, WriteStep.request]
  · rw [move.phase_other same]
    exact known writer

/-- The parts of a step, by the call that takes it. -/
theorem promptNext_cases {before after : PromptWriters Writer Promoter}
    {label : PromptStep Writer Promoter}
    (step : promptNext call promotion before label = some after) :
    (∃ writeLabel writes, label = .write writeLabel ∧
      writeNext call before.writes writeLabel = some writes ∧
      after = { before with writes }) ∨
    ∃ promoter action committed later, label = .promote promoter action ∧
      PromoteMove (promotion promoter) before.tables (before.promotions promoter) action
        committed later ∧
      after = { writes := { before.writes with tables := committed },
                promotions := Function.update before.promotions promoter later } := by
  cases label with
  | write writeLabel =>
      obtain ⟨writes, written, rfl⟩ := Option.map_eq_some_iff.mp step
      exact .inl ⟨writeLabel, writes, rfl, written, rfl⟩
  | promote promoter action =>
      obtain ⟨⟨committed, later⟩, moved, rfl⟩ := Option.map_eq_some_iff.mp step
      exact .inr ⟨promoter, action, committed, later, rfl, promoteNext_move moved, rfl⟩

omit [DecidableEq Writer] in
/-- A promotion leaves the invariant of the writers as it is. -/
theorem PromoteMove.writeInvariant {request : PromoteRequest} {writes : WriteState Writer}
    {after : PromptTables} {phase later : PromotePhase} {action : PromoteAction}
    (move : PromoteMove request writes.tables phase action after later)
    (invariant : WriteInvariant call writes) :
    WriteInvariant call { writes with tables := after } := by
  cases move
  case updated => exact invariant.updateEnvironment _ _
  all_goals exact invariant

/-- **Every step keeps the invariant.** -/
theorem PromptWritersInvariant.step {before after : PromptWriters Writer Promoter}
    {label : PromptStep Writer Promoter} (invariant : PromptWritersInvariant call promotion before)
    (step : promptNext call promotion before label = some after) :
    PromptWritersInvariant call promotion after := by
  rcases promptNext_cases step with ⟨writeLabel, writes, rfl, written, rfl⟩ |
    ⟨promoter, action, committed, later, rfl, move, rfl⟩
  · have writeMove := (writeNext_move written).2
    exact ⟨writeMove.keeps invariant.writes, writeMove.flushedHolds invariant.flushed,
      fun promoter => (invariant.promotions promoter).mono writeMove.evolves⟩
  · refine ⟨move.writeInvariant invariant.writes, invariant.flushed, fun other => ?_⟩
    by_cases same : other = promoter
    · subst same
      simpa [PromptWriters.tables] using move.holds (invariant.promotions other)
    · simpa [PromptWriters.tables, same] using
        (invariant.promotions other).mono move.evolves

end Runs

end LlmopsPlatform.Prompts
