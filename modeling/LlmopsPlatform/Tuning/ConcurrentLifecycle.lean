import LlmopsPlatform.Foundations.TransitionSystem
import LlmopsPlatform.Tuning.Experiment

/-!
# Concurrent requests on one experiment

Any number of start, conclude and cancel requests work on the row of one experiment.
A request reads the row and checks its status, and later commits an update by
primary key of the columns it changed. Nothing locks the row in between, so the row
may have changed by then, and the check is not repeated.

The intended life of an experiment is the relation `LifecycleEdge`. A run stays in
it, with at most one successful start, at most one successful conclusion and a
conclusion that is final, exactly when every commit finds the row in a status that
its request may still leave (`lifecycle_iff_commits_current`). For a start or a
conclusion this is the status that was checked. A cancellation checks nothing, and
the condition is that the experiment is not completed. Cancelling twice leaves the
status as it is and does no harm.
-/

set_option autoImplicit false

namespace LlmopsPlatform.Tuning

open Foundations Python Database

/-- The edges along which the status of an experiment is meant to move. -/
inductive LifecycleEdge : ExperimentStatus → ExperimentStatus → Prop where
  | start : LifecycleEdge .draft .running
  | conclude : LifecycleEdge .running .completed
  | cancelDraft : LifecycleEdge .draft .cancelled
  | cancelRunning : LifecycleEdge .running .cancelled

/-- A request that changes the status. -/
inductive LifecycleRequest where
  | start
  | conclude (winner_variant_id : Option String)
  | cancel
deriving DecidableEq

namespace LifecycleRequest

def isStart : LifecycleRequest → Bool
  | start => true
  | _ => false

def isConclude : LifecycleRequest → Bool
  | conclude _ => true
  | _ => false

/-- Whether the request raises when it finds this status in the row it read. -/
def refuses : LifecycleRequest → ExperimentStatus → Bool
  | start, status => status ≠ .draft
  | conclude _, status => status ≠ .running
  | cancel, _ => false

/-- The statuses from which the request is meant to move the experiment. -/
def mayLeave : LifecycleRequest → ExperimentStatus → Prop
  | start, status => status = .draft
  | conclude _, status => status = .running
  | cancel, status => status ≠ .completed

end LifecycleRequest

/-- The attributes a request assigns on the object it loaded. -/
structure Assignment where
  status : ExperimentStatus
  winner_variant_id : Option (Option String)
  concluded_at : Option Timestamp

/-- What a request assigns. `detected` is the variant of the first result row, which
a conclusion without a winner reads before it commits. -/
def LifecycleRequest.assignment (detected : Option String) (now : Timestamp) :
    LifecycleRequest → Assignment
  | start => ⟨.running, none, none⟩
  | conclude given =>
      let winner :=
        match given.filter (· ≠ "") with
        | some winner => some winner
        | none => if detected.isSome then detected else given
      ⟨.completed, some winner, some now⟩
  | cancel => ⟨.cancelled, none, none⟩

/-- The `UPDATE` of a commit. A column is written when the assigned value differs from
the loaded one; `concluded_at` is assigned an expression and always written. -/
def Assignment.flush (assigned : Assignment) (loaded row : ExperimentModel) : ExperimentModel :=
  { row with
    status := if assigned.status = loaded.status then row.status else assigned.status
    winner_variant_id :=
      match assigned.winner_variant_id with
      | none => row.winner_variant_id
      | some winner => if winner = loaded.winner_variant_id then row.winner_variant_id else winner
    concluded_at :=
      match assigned.concluded_at with
      | none => row.concluded_at
      | some now => some now }

/-- How far a request has come. -/
inductive RequestPhase where
  | waiting
  | loaded (row : ExperimentModel)
  | succeeded
  | rejected

/-- The committed row and the phase of every request. -/
structure LifecycleState (Request : Type) where
  row : ExperimentModel
  phase : Request → RequestPhase

/-- A step of one request. The arguments of a commit are what the request read from
the trials and the clock. -/
inductive LifecycleStep (Request : Type) where
  | read (request : Request)
  | commit (request : Request) (detected : Option String) (now : Timestamp)

section System

variable {Request : Type} [DecidableEq Request] (kind : Request → LifecycleRequest)

/-- The phase after the row was read and its status checked. -/
def LifecycleRequest.afterRead (request : LifecycleRequest) (row : ExperimentModel) :
    RequestPhase :=
  if request.refuses row.status then .rejected else .loaded row

/-- The state after a request read the committed row. -/
def LifecycleState.afterRead (state : LifecycleState Request) (request : Request) :
    LifecycleState Request :=
  { state with phase := Function.update state.phase request ((kind request).afterRead state.row) }

/-- The state after a request that had loaded a row committed its update. -/
def LifecycleState.afterCommit (state : LifecycleState Request) (request : Request)
    (loaded : ExperimentModel) (detected : Option String) (now : Timestamp) :
    LifecycleState Request where
  row := ((kind request).assignment detected now).flush loaded state.row
  phase := Function.update state.phase request .succeeded

def lifecycleNext (state : LifecycleState Request) :
    LifecycleStep Request → Option (LifecycleState Request)
  | .read request =>
      match state.phase request with
      | .waiting => some (state.afterRead kind request)
      | _ => none
  | .commit request detected now =>
      match state.phase request with
      | .loaded loaded => some (state.afterCommit kind request loaded detected now)
      | _ => none

/-- The concurrent requests on one experiment. At the start the experiment is as
`create` leaves it, and no request has begun. -/
def lifecycleSystem : TransitionSystem (LifecycleState Request) (LifecycleStep Request) where
  initial state :=
    state.row.status = .draft ∧ state.row.winner_variant_id = none ∧
      state.row.concluded_at = none ∧ ∀ request, state.phase request = .waiting
  next := lifecycleNext kind

/-! ## What a run should do -/

/-- A step keeps to the lifecycle: the status stays or moves along an edge, a winner
and a conclusion time that are set stay as they are, and afterwards at most one start
and at most one conclusion have reported success. -/
structure KeepsLifecycle
    (transition : Transition (LifecycleState Request) (LifecycleStep Request)) : Prop where
  edge : transition.after.row.status = transition.before.row.status ∨
    LifecycleEdge transition.before.row.status transition.after.row.status
  winnerKept : ∀ winner, transition.before.row.winner_variant_id = some winner →
    transition.after.row.winner_variant_id = some winner
  concludedKept : ∀ time, transition.before.row.concluded_at = some time →
    transition.after.row.concluded_at = some time
  oneStart : ∀ first second, (kind first).isStart → (kind second).isStart →
    transition.after.phase first = .succeeded → transition.after.phase second = .succeeded →
    first = second
  oneConclude : ∀ first second, (kind first).isConclude → (kind second).isConclude →
    transition.after.phase first = .succeeded → transition.after.phase second = .succeeded →
    first = second

/-- A commit finds the row in a status that its request may leave. -/
def CommitsCurrent (transition : Transition (LifecycleState Request) (LifecycleStep Request)) :
    Prop :=
  match transition.label with
  | .read _ => True
  | .commit request _ _ => (kind request).mayLeave transition.before.row.status

/-! ## The invariant -/

/-- What holds as long as every commit was current. -/
structure LifecycleInvariant (state : LifecycleState Request) : Prop where
  loadedAccepted : ∀ request loaded, state.phase request = .loaded loaded →
    (kind request).refuses loaded.status = false
  loadedLeftDraft : ∀ request loaded, state.phase request = .loaded loaded →
    loaded.status ≠ .draft → state.row.status ≠ .draft
  loadedCancelled : ∀ request loaded, state.phase request = .loaded loaded →
    loaded.status = .cancelled → state.row.status = .cancelled
  startedLeftDraft : ∀ request, (kind request).isStart → state.phase request = .succeeded →
    state.row.status ≠ .draft
  runningWasStarted : state.row.status = .running →
    ∃ request, (kind request).isStart ∧ state.phase request = .succeeded
  concludedIsCompleted : ∀ request, (kind request).isConclude →
    state.phase request = .succeeded → state.row.status = .completed
  completedWasConcluded : state.row.status = .completed →
    ∃ request, (kind request).isConclude ∧ state.phase request = .succeeded
  openIsUnset : state.row.status ≠ .completed →
    state.row.winner_variant_id = none ∧ state.row.concluded_at = none
  oneStart : ∀ first second, (kind first).isStart → (kind second).isStart →
    state.phase first = .succeeded → state.phase second = .succeeded → first = second
  oneConclude : ∀ first second, (kind first).isConclude → (kind second).isConclude →
    state.phase first = .succeeded → state.phase second = .succeeded → first = second

/-! ## What a commit writes -/

namespace LifecycleRequest

variable {request : LifecycleRequest} {detected : Option String} {now : Timestamp}
  {status : ExperimentStatus}

theorem assignment_status_ne_draft : (request.assignment detected now).status ≠ .draft := by
  cases request <;> simp [assignment]

theorem assignment_status_eq_running :
    (request.assignment detected now).status = .running ↔ request.isStart := by
  cases request <;> simp [assignment, isStart]

theorem assignment_status_eq_completed :
    (request.assignment detected now).status = .completed ↔ request.isConclude := by
  cases request <;> simp [assignment, isConclude]

theorem mayLeave_of_isStart (isStart : request.isStart) :
    request.mayLeave status ↔ status = .draft := by
  cases request <;> simp_all [mayLeave, LifecycleRequest.isStart]

/-- No request may leave a completed experiment. -/
theorem ne_completed_of_mayLeave (current : request.mayLeave status) : status ≠ .completed := by
  rintro rfl
  cases request <;> simp [mayLeave] at current

/-- Only a cancellation may find the experiment cancelled. -/
theorem assignment_status_of_mayLeave_cancelled (current : request.mayLeave .cancelled) :
    (request.assignment detected now).status = .cancelled := by
  cases request with
  | start => simp [mayLeave] at current
  | conclude given => simp [mayLeave] at current
  | cancel => rfl

/-- A request moves the status along an edge from where it may leave, or a second
cancellation leaves the experiment cancelled. -/
theorem edge_of_mayLeave (current : request.mayLeave status) :
    (request.assignment detected now).status = status ∨
      LifecycleEdge status (request.assignment detected now).status := by
  cases request with
  | start =>
      obtain rfl : status = .draft := current
      exact .inr .start
  | conclude given =>
      obtain rfl : status = .running := current
      exact .inr .conclude
  | cancel =>
      cases status with
      | draft => exact .inr .cancelDraft
      | running => exact .inr .cancelRunning
      | completed => exact absurd rfl current
      | cancelled => exact .inl rfl

/-- An edge to the assigned status starts where the request may leave. -/
theorem mayLeave_of_edge (edge : LifecycleEdge status (request.assignment detected now).status) :
    request.mayLeave status := by
  cases request with
  | start => cases edge; rfl
  | conclude given => cases edge; rfl
  | cancel => cases edge <;> simp [mayLeave]

/-- A request that does not conclude leaves the winner and the time of conclusion. -/
theorem flush_of_not_isConclude (other : ¬ request.isConclude) (detected : Option String)
    (now : Timestamp) (loaded row : ExperimentModel) :
    ((request.assignment detected now).flush loaded row).winner_variant_id =
        row.winner_variant_id ∧
      ((request.assignment detected now).flush loaded row).concluded_at = row.concluded_at := by
  cases request with
  | start => exact ⟨rfl, rfl⟩
  | conclude given => simp [isConclude] at other
  | cancel => exact ⟨rfl, rfl⟩

end LifecycleRequest

/-! ## Steps -/

/-- Everything a step can be: a request that was waiting reads, or a request that
holds a row commits. -/
theorem lifecycleNext_cases {before after : LifecycleState Request} {label : LifecycleStep Request}
    (step : lifecycleNext kind before label = some after) :
    (∃ request, label = .read request ∧ before.phase request = .waiting ∧
      after = before.afterRead kind request) ∨
    (∃ request detected now loaded, label = .commit request detected now ∧
      before.phase request = .loaded loaded ∧
      after = before.afterCommit kind request loaded detected now) := by
  cases label with
  | read request =>
      cases phase : before.phase request with
      | waiting =>
          refine .inl ⟨request, rfl, phase, ?_⟩
          simpa [lifecycleNext, phase] using step.symm
      | loaded row => simp [lifecycleNext, phase] at step
      | succeeded => simp [lifecycleNext, phase] at step
      | rejected => simp [lifecycleNext, phase] at step
  | commit request detected now =>
      cases phase : before.phase request with
      | loaded loaded =>
          refine .inr ⟨request, detected, now, loaded, rfl, phase, ?_⟩
          simpa [lifecycleNext, phase] using step.symm
      | waiting => simp [lifecycleNext, phase] at step
      | succeeded => simp [lifecycleNext, phase] at step
      | rejected => simp [lifecycleNext, phase] at step

/-- The initial states have the invariant. -/
theorem LifecycleInvariant.of_initial {state : LifecycleState Request}
    (initial : (lifecycleSystem kind).initial state) : LifecycleInvariant kind state := by
  obtain ⟨draft, unsetWinner, unsetTime, waiting⟩ := initial
  constructor <;> simp [draft, unsetWinner, unsetTime, waiting]

variable {kind}

/-- A read gives no request success. -/
theorem succeeded_afterRead {phase : Request → RequestPhase} {request other : Request}
    {row : ExperimentModel}
    (succeeded : Function.update phase request ((kind request).afterRead row) other = .succeeded) :
    phase other = .succeeded := by
  by_cases same : other = request
  · subst same
    rw [Function.update_self, LifecycleRequest.afterRead] at succeeded
    split at succeeded <;> cases succeeded
  · rwa [Function.update_of_ne same] at succeeded

/-- A read changes the phase of a waiting request only, so it takes away no success. -/
theorem succeeded_of_waiting {phase : Request → RequestPhase} {request other : Request}
    {next : RequestPhase} (waiting : phase request = .waiting)
    (succeeded : phase other = .succeeded) :
    Function.update phase request next other = .succeeded := by
  have different : other ≠ request := by
    rintro rfl
    rw [waiting] at succeeded
    cases succeeded
  rwa [Function.update_of_ne different]

/-- After a commit, the committing request has succeeded besides those that had. -/
theorem succeeded_afterCommit {phase : Request → RequestPhase} {request other : Request} :
    Function.update phase request .succeeded other = .succeeded ↔
      other = request ∨ phase other = .succeeded := by
  by_cases same : other = request <;> simp [same]

/-- The rows held after a commit were held before it, by other requests. -/
theorem loaded_afterCommit {phase : Request → RequestPhase} {request other : Request}
    {loaded : ExperimentModel}
    (holding : Function.update phase request .succeeded other = .loaded loaded) :
    phase other = .loaded loaded := by
  by_cases same : other = request
  · simp [same] at holding
  · rwa [Function.update_of_ne same] at holding

/-- At most one request of a sort has succeeded after a commit, if this was so before
and a committing request of the sort is the first. -/
theorem one_afterCommit {phase : Request → RequestPhase} {request : Request}
    {sort : Request → Prop}
    (one : ∀ first second, sort first → sort second → phase first = .succeeded →
      phase second = .succeeded → first = second)
    (isFirst : sort request → ∀ other, sort other → phase other ≠ .succeeded) :
    ∀ first second, sort first → sort second →
      Function.update phase request .succeeded first = .succeeded →
      Function.update phase request .succeeded second = .succeeded → first = second := by
  intro first second firstSort secondSort firstDone secondDone
  rcases succeeded_afterCommit.mp firstDone with rfl | firstEarlier
  · rcases succeeded_afterCommit.mp secondDone with rfl | secondEarlier
    · rfl
    · exact absurd secondEarlier (isFirst firstSort second secondSort)
  · rcases succeeded_afterCommit.mp secondDone with rfl | secondEarlier
    · exact absurd firstEarlier (isFirst secondSort first firstSort)
    · exact one first second firstSort secondSort firstEarlier secondEarlier

namespace LifecycleInvariant

variable {state : LifecycleState Request}

/-- A read keeps the invariant: the row it takes is the committed one. -/
theorem afterRead (invariant : LifecycleInvariant kind state) {request : Request}
    (waiting : state.phase request = .waiting) :
    LifecycleInvariant kind (state.afterRead kind request) := by
  -- A row held after the read was held before, or it is the committed row and accepted.
  have held : ∀ other loaded,
      (state.afterRead kind request).phase other = .loaded loaded →
      state.phase other = .loaded loaded ∨
        loaded = state.row ∧ (kind other).refuses loaded.status = false := by
    intro other loaded holding
    simp only [LifecycleState.afterRead] at holding
    by_cases same : other = request
    · subst same
      rw [Function.update_self, LifecycleRequest.afterRead] at holding
      split at holding
      · cases holding
      · rename_i accepted
        cases holding
        exact .inr ⟨rfl, by simpa using accepted⟩
    · rw [Function.update_of_ne same] at holding
      exact .inl holding
  refine
    { loadedAccepted := fun other loaded holding => ?_
      loadedLeftDraft := fun other loaded holding leftDraft => ?_
      loadedCancelled := fun other loaded holding cancelled => ?_
      startedLeftDraft := fun other isStart succeeded =>
        invariant.startedLeftDraft other isStart (succeeded_afterRead succeeded)
      runningWasStarted := fun running => ?_
      concludedIsCompleted := fun other isConclude succeeded =>
        invariant.concludedIsCompleted other isConclude (succeeded_afterRead succeeded)
      completedWasConcluded := fun completed => ?_
      openIsUnset := invariant.openIsUnset
      oneStart := fun first second isFirst isSecond firstDone secondDone =>
        invariant.oneStart first second isFirst isSecond (succeeded_afterRead firstDone)
          (succeeded_afterRead secondDone)
      oneConclude := fun first second isFirst isSecond firstDone secondDone =>
        invariant.oneConclude first second isFirst isSecond (succeeded_afterRead firstDone)
          (succeeded_afterRead secondDone) }
  · rcases held other loaded holding with before | ⟨-, accepted⟩
    · exact invariant.loadedAccepted other loaded before
    · exact accepted
  · rcases held other loaded holding with before | ⟨rfl, -⟩
    · exact invariant.loadedLeftDraft other loaded before leftDraft
    · exact leftDraft
  · rcases held other loaded holding with before | ⟨rfl, -⟩
    · exact invariant.loadedCancelled other loaded before cancelled
    · exact cancelled
  · obtain ⟨starter, isStart, succeeded⟩ := invariant.runningWasStarted running
    exact ⟨starter, isStart, succeeded_of_waiting waiting succeeded⟩
  · obtain ⟨concluder, isConclude, succeeded⟩ := invariant.completedWasConcluded completed
    exact ⟨concluder, isConclude, succeeded_of_waiting waiting succeeded⟩

/-- A commit leaves the row in the status that the request assigns, whether or not
the `UPDATE` writes the column. -/
theorem committed_status (invariant : LifecycleInvariant kind state) {request : Request}
    {loaded : ExperimentModel} (holding : state.phase request = .loaded loaded)
    (detected : Option String) (now : Timestamp) :
    (state.afterCommit kind request loaded detected now).row.status =
      ((kind request).assignment detected now).status := by
  have accepted := invariant.loadedAccepted request loaded holding
  simp only [LifecycleState.afterCommit, Assignment.flush]
  split
  · rename_i unchanged
    cases request_kind : kind request with
    | start =>
        simp [request_kind, LifecycleRequest.assignment,
          LifecycleRequest.refuses] at accepted unchanged
        simp [accepted] at unchanged
    | conclude given =>
        simp [request_kind, LifecycleRequest.assignment,
          LifecycleRequest.refuses] at accepted unchanged
        simp [accepted] at unchanged
    | cancel =>
        -- The object already says cancelled, and then so does the row.
        simp only [request_kind, LifecycleRequest.assignment] at unchanged ⊢
        exact invariant.loadedCancelled request loaded holding unchanged.symm
  · rfl

/-- A current commit keeps the invariant. -/
theorem afterCommit (invariant : LifecycleInvariant kind state) {request : Request}
    {loaded : ExperimentModel} (holding : state.phase request = .loaded loaded)
    (detected : Option String) (now : Timestamp)
    (current : (kind request).mayLeave state.row.status) :
    LifecycleInvariant kind (state.afterCommit kind request loaded detected now) := by
  have status := invariant.committed_status holding detected now
  constructor
  case loadedAccepted =>
    exact fun other row held => invariant.loadedAccepted other row (loaded_afterCommit held)
  case loadedLeftDraft =>
    intro other row held leftDraft
    rw [status]
    exact LifecycleRequest.assignment_status_ne_draft
  case loadedCancelled =>
    intro other row held cancelled
    have was := invariant.loadedCancelled other row (loaded_afterCommit held) cancelled
    rw [was] at current
    rw [status]
    exact LifecycleRequest.assignment_status_of_mayLeave_cancelled current
  case startedLeftDraft =>
    intro other isStart succeeded
    rw [status]
    exact LifecycleRequest.assignment_status_ne_draft
  case runningWasStarted =>
    intro running
    rw [status, LifecycleRequest.assignment_status_eq_running] at running
    exact ⟨request, running, succeeded_afterCommit.mpr (.inl rfl)⟩
  case concludedIsCompleted =>
    intro other isConclude succeeded
    rw [status, LifecycleRequest.assignment_status_eq_completed]
    rcases succeeded_afterCommit.mp succeeded with rfl | earlier
    · exact isConclude
    · have was := invariant.concludedIsCompleted other isConclude earlier
      exact absurd was (LifecycleRequest.ne_completed_of_mayLeave current)
  case completedWasConcluded =>
    intro completed
    rw [status, LifecycleRequest.assignment_status_eq_completed] at completed
    exact ⟨request, completed, succeeded_afterCommit.mpr (.inl rfl)⟩
  case openIsUnset =>
    intro isOpen
    rw [status, Ne, LifecycleRequest.assignment_status_eq_completed] at isOpen
    have unset := invariant.openIsUnset (LifecycleRequest.ne_completed_of_mayLeave current)
    have untouched :=
      LifecycleRequest.flush_of_not_isConclude isOpen detected now loaded state.row
    exact ⟨untouched.1.trans unset.1, untouched.2.trans unset.2⟩
  case oneStart =>
    refine one_afterCommit invariant.oneStart fun isStart other otherStarts succeeded => ?_
    exact invariant.startedLeftDraft other otherStarts succeeded
      ((LifecycleRequest.mayLeave_of_isStart isStart).mp current)
  case oneConclude =>
    refine one_afterCommit invariant.oneConclude fun isConclude other otherConcludes succeeded => ?_
    exact LifecycleRequest.ne_completed_of_mayLeave current
      (invariant.concludedIsCompleted other otherConcludes succeeded)

/-- A commit that keeps to the lifecycle finds a status that its request may leave. -/
theorem mayLeave_of_keeps (invariant : LifecycleInvariant kind state) {request : Request}
    {loaded : ExperimentModel} (holding : state.phase request = .loaded loaded)
    {detected : Option String} {now : Timestamp}
    (keeps : KeepsLifecycle kind ⟨state, .commit request detected now,
      state.afterCommit kind request loaded detected now⟩) :
    (kind request).mayLeave state.row.status := by
  have edge := keeps.edge
  rw [invariant.committed_status holding detected now] at edge
  rcases edge with same | moved
  · -- The status did not move, so its earlier success was of the same sort.
    have earlierIsOther : ∀ other, state.phase other = .succeeded → other ≠ request := by
      rintro other succeeded rfl
      rw [holding] at succeeded
      cases succeeded
    cases request_kind : kind request with
    | start =>
        rw [request_kind] at same
        obtain ⟨other, isStart, succeeded⟩ := invariant.runningWasStarted same.symm
        refine absurd (keeps.oneStart other request isStart ?_ ?_ ?_)
          (earlierIsOther other succeeded)
        · simp [request_kind, LifecycleRequest.isStart]
        · exact succeeded_afterCommit.mpr (.inr succeeded)
        · exact succeeded_afterCommit.mpr (.inl rfl)
    | conclude given =>
        rw [request_kind] at same
        obtain ⟨other, isConclude, succeeded⟩ := invariant.completedWasConcluded same.symm
        refine absurd (keeps.oneConclude other request isConclude ?_ ?_ ?_)
          (earlierIsOther other succeeded)
        · simp [request_kind, LifecycleRequest.isConclude]
        · exact succeeded_afterCommit.mpr (.inr succeeded)
        · exact succeeded_afterCommit.mpr (.inl rfl)
    | cancel =>
        rw [request_kind] at same
        rw [← same]
        simp [LifecycleRequest.mayLeave, LifecycleRequest.assignment]
  · exact LifecycleRequest.mayLeave_of_edge moved

end LifecycleInvariant

/-! ## The guard is exact -/

/-- From a state with the invariant, a step keeps to the lifecycle exactly if it is
current. -/
theorem keepsLifecycle_iff_commitsCurrent
    (transition : Transition (LifecycleState Request) (LifecycleStep Request))
    (invariant : LifecycleInvariant kind transition.before)
    (step : lifecycleNext kind transition.before transition.label = some transition.after) :
    KeepsLifecycle kind transition ↔ CommitsCurrent kind transition := by
  obtain ⟨before, label, after⟩ := transition
  dsimp only at invariant step
  rcases lifecycleNext_cases kind step with
    ⟨request, rfl, waiting, rfl⟩ | ⟨request, detected, now, loaded, rfl, holding, rfl⟩
  · have kept := invariant.afterRead waiting
    exact iff_of_true
      ⟨.inl rfl, fun _ => id, fun _ => id, kept.oneStart, kept.oneConclude⟩ trivial
  · constructor
    · exact fun keeps => invariant.mayLeave_of_keeps holding keeps
    · intro current
      have kept := invariant.afterCommit holding detected now current
      refine
        { edge := ?_
          winnerKept := fun winner set => ?_
          concludedKept := fun time set => ?_
          oneStart := kept.oneStart
          oneConclude := kept.oneConclude }
      · rw [invariant.committed_status holding detected now]
        exact LifecycleRequest.edge_of_mayLeave current
      · have unset := invariant.openIsUnset (LifecycleRequest.ne_completed_of_mayLeave current)
        simp [unset.1] at set
      · have unset := invariant.openIsUnset (LifecycleRequest.ne_completed_of_mayLeave current)
        simp [unset.2] at set

/-- A current step keeps the invariant. -/
theorem LifecycleInvariant.step
    (transition : Transition (LifecycleState Request) (LifecycleStep Request))
    (invariant : LifecycleInvariant kind transition.before)
    (step : lifecycleNext kind transition.before transition.label = some transition.after)
    (current : CommitsCurrent kind transition) : LifecycleInvariant kind transition.after := by
  obtain ⟨before, label, after⟩ := transition
  dsimp only at invariant step
  rcases lifecycleNext_cases kind step with
    ⟨request, rfl, waiting, rfl⟩ | ⟨request, detected, now, loaded, rfl, holding, rfl⟩
  · exact invariant.afterRead waiting
  · exact invariant.afterCommit holding detected now current

/-! ## Whole runs -/

/-- **A run keeps to the lifecycle exactly if all its commits are current.** -/
theorem lifecycle_iff_commits_current {start finish : LifecycleState Request}
    {transitions : List (Transition (LifecycleState Request) (LifecycleStep Request))}
    (initial : (lifecycleSystem kind).initial start)
    (run : (lifecycleSystem kind).Run start transitions finish) :
    (∀ transition ∈ transitions, KeepsLifecycle kind transition) ↔
      ∀ transition ∈ transitions, CommitsCurrent kind transition :=
  run.good_iff_guarded (LifecycleInvariant kind) keepsLifecycle_iff_commitsCurrent
    LifecycleInvariant.step (.of_initial kind initial)

/-- A new experiment. -/
def newExperiment : ExperimentModel where
  id := 1
  name := "temperature"
  description := ""
  status := .draft
  allocation_strategy := "random"
  parameter_space := .dict []
  variants := []
  scoring_pipeline_id := none
  traffic_percentage := 100
  winner_variant_id := none
  concluded_at := none
  created_at := 0

/-- A new experiment on which a start and a cancellation are about to begin. -/
def openingState : LifecycleState Bool := ⟨newExperiment, fun _ => .waiting⟩

/-- The first request starts the experiment, the second cancels it. -/
def startOrCancel (first : Bool) : LifecycleRequest := if first then .start else .cancel

/-- Both requests have read the draft. -/
def bothLoaded : LifecycleState Bool :=
  (openingState.afterRead startOrCancel true).afterRead startOrCancel false

/-- The start commits before the cancellation. -/
theorem start_then_cancel_keeps_lifecycle :
    let started := bothLoaded.afterCommit startOrCancel true newExperiment none 1
    let cancelled := started.afterCommit startOrCancel false newExperiment none 2
    let transitions : List (Transition (LifecycleState Bool) (LifecycleStep Bool)) := [
      ⟨openingState, .read true, openingState.afterRead startOrCancel true⟩,
      ⟨openingState.afterRead startOrCancel true, .read false, bothLoaded⟩,
      ⟨bothLoaded, .commit true none 1, started⟩,
      ⟨started, .commit false none 2, cancelled⟩]
    (lifecycleSystem startOrCancel).Run openingState transitions cancelled ∧
      ∀ transition ∈ transitions, KeepsLifecycle startOrCancel transition := by
  intro started cancelled transitions
  have run : (lifecycleSystem startOrCancel).Run openingState transitions cancelled :=
    (((TransitionSystem.Run.nil.snoc rfl).snoc rfl).snoc rfl).snoc rfl
  refine ⟨run, (lifecycle_iff_commits_current ⟨rfl, rfl, rfl, fun _ => rfl⟩ run).mpr ?_⟩
  have cancelMayLeave : started.row.status ≠ .completed := by decide
  simp only [transitions, List.forall_mem_cons]
  exact ⟨trivial, trivial, rfl, cancelMayLeave, fun _ member => absurd member (by simp)⟩

/-- A start that read the draft commits after the cancellation, and the cancelled
experiment is running. -/
theorem late_start_revives_a_cancelled_experiment :
    ¬ ∀ (Request : Type) (_ : DecidableEq Request) (kind : Request → LifecycleRequest)
        (start finish : LifecycleState Request)
        (transitions : List (Transition (LifecycleState Request) (LifecycleStep Request))),
        (lifecycleSystem kind).initial start →
        (lifecycleSystem kind).Run start transitions finish →
        ∀ transition ∈ transitions, KeepsLifecycle kind transition := by
  intro always
  let cancelled := bothLoaded.afterCommit startOrCancel false newExperiment none 1
  let revived := cancelled.afterCommit startOrCancel true newExperiment none 2
  have run : (lifecycleSystem startOrCancel).Run openingState [
      ⟨openingState, .read true, openingState.afterRead startOrCancel true⟩,
      ⟨openingState.afterRead startOrCancel true, .read false, bothLoaded⟩,
      ⟨bothLoaded, .commit false none 1, cancelled⟩,
      ⟨cancelled, .commit true none 2, revived⟩] revived :=
    (((TransitionSystem.Run.nil.snoc rfl).snoc rfl).snoc rfl).snoc rfl
  have keeps := always Bool _ startOrCancel _ _ _ ⟨rfl, rfl, rfl, fun _ => rfl⟩ run
    ⟨cancelled, .commit true none 2, revived⟩ (by simp)
  rcases keeps.edge with same | moved
  · exact absurd same (by decide)
  · cases moved

/-- Along a run of current commits, the committed status moves from draft along the
edges of the lifecycle. -/
theorem lifecycle_of_commits_current {start finish : LifecycleState Request}
    {transitions : List (Transition (LifecycleState Request) (LifecycleStep Request))}
    (initial : (lifecycleSystem kind).initial start)
    (run : (lifecycleSystem kind).Run start transitions finish)
    (current : ∀ transition ∈ transitions, CommitsCurrent kind transition) :
    Relation.ReflTransGen LifecycleEdge .draft finish.row.status := by
  rw [← initial.1]
  refine run.simulates (fun state => state.row.status) (LifecycleInvariant kind)
    LifecycleInvariant.step ?_ (.of_initial kind initial) current
  intro transition invariant step isCurrent
  exact ((keepsLifecycle_iff_commitsCurrent transition invariant step).mpr isCurrent).edge

end System

/-! ## Requests that are not interrupted -/

/-- The operation of the runner that a request calls. -/
def LifecycleRequest.runAlone (tables : ExperimentTables) (order : RowOrder) (now : Timestamp)
    (experiment_id : Nat) :
    LifecycleRequest → Except PyException (ExperimentModel × ExperimentTables)
  | start => ExperimentRunner.start tables experiment_id
  | conclude winner_variant_id =>
      ExperimentRunner.conclude tables order now experiment_id winner_variant_id
  | cancel => ExperimentRunner.cancel tables experiment_id

/-- The variant of the first result row. -/
def detectedWinner (tables : ExperimentTables) (order : RowOrder) (experiment_id : Nat) :
    Option String :=
  (ExperimentRunner.getResults tables order experiment_id).toOption.bind fun found =>
    found.results.head?.map VariantResult.variant_id

/-- Writing what was assigned to the object into the row it was loaded from. -/
theorem flush_loaded (assigned : Assignment) (row : ExperimentModel) :
    assigned.flush row row =
      { row with
        status := assigned.status
        winner_variant_id := assigned.winner_variant_id.getD row.winner_variant_id
        concluded_at := assigned.concluded_at.or row.concluded_at } := by
  obtain ⟨status, winner, time⟩ := assigned
  cases winner <;> cases time <;> simp [Assignment.flush] <;> grind

/-- **Requests that are not interrupted.** When nothing comes between the read and
the commit of a request, the two steps are the operation of the runner: it raises when
the request is refused, and otherwise stores what the commit leaves. -/
theorem runAlone_eq (request : LifecycleRequest) {tables : ExperimentTables} {order : RowOrder}
    {now : Timestamp} {experiment_id : Nat} {row : ExperimentModel}
    (found : ExperimentRunner.getExperiment tables experiment_id = .ok row) :
    match request.afterRead row with
    | .loaded loaded =>
        let stored :=
          (request.assignment (detectedWinner tables order experiment_id) now).flush loaded row
        request.runAlone tables order now experiment_id =
          .ok (stored, tables.updateExperiment stored)
    | _ => ∃ message,
        request.runAlone tables order now experiment_id = .error (.valueError message) := by
  have results : ExperimentRunner.getResults tables order experiment_id = .ok
      { experiment := row
        results :=
          ExperimentRunner.variantResults (order.arrange (tables.scoredTrials experiment_id))
        total_trials := (order.arrange (tables.scoredTrials experiment_id)).length } := by
    simp [ExperimentRunner.getResults, found, bind, Except.bind, pure, Except.pure]
  cases request with
  | start =>
      by_cases draft : row.status = .draft <;>
        simp [LifecycleRequest.runAlone, LifecycleRequest.afterRead, LifecycleRequest.refuses,
          LifecycleRequest.assignment, flush_loaded, ExperimentRunner.start, found, draft, bind,
          Except.bind, pure, Except.pure, throw, throwThe, MonadExceptOf.throw]
  | conclude given =>
      by_cases running : row.status = .running
      · simp only [LifecycleRequest.runAlone, LifecycleRequest.afterRead, LifecycleRequest.refuses,
          LifecycleRequest.assignment, ExperimentRunner.conclude, found, running, detectedWinner,
          results, Except.toOption]
        cases chosen : given.filter (· ≠ "") with
        | some winner => simp [flush_loaded, bind, Except.bind, pure, Except.pure, running]
        | none =>
            cases ExperimentRunner.variantResults
              (order.arrange (tables.scoredTrials experiment_id)) with
            | nil => simp [flush_loaded, bind, Except.bind, pure, Except.pure, running]
            | cons best rest => simp [flush_loaded, bind, Except.bind, pure, Except.pure, running]
      · simp [LifecycleRequest.runAlone, LifecycleRequest.afterRead, LifecycleRequest.refuses,
          ExperimentRunner.conclude, found, running, bind, Except.bind, throw, throwThe,
          MonadExceptOf.throw]
  | cancel =>
      simp [LifecycleRequest.runAlone, LifecycleRequest.afterRead, LifecycleRequest.refuses,
        LifecycleRequest.assignment, flush_loaded, ExperimentRunner.cancel, found, bind,
        Except.bind, pure, Except.pure]

end LlmopsPlatform.Tuning
