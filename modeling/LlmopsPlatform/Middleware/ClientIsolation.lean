import LlmopsPlatform.Foundations.Noninterference
import LlmopsPlatform.Middleware.RateLimitSafety

/-!
# The rate limits of clients are apart

`rate_limit_dependency` checks a request under the name of its service, or under the host of
its client if it names none. When the check raises anything but the refusal, because Redis is
not available, the request is let through.

What happens to the requests of one client depends only on its own requests and on the time:
requests of others, however many and in whatever interleaving, and failures of Redis in
their checks, change nothing (`clients_are_isolated`). And a request is never refused but by
a window of its own client that was full.
-/

set_option autoImplicit false

namespace LlmopsPlatform.Middleware

open Foundations TransitionSystem

/-- What the dependency reads of a request: the header "X-Service-Name" and the host of the
client. -/
structure LimitedRequest where
  service_name : Option String
  client_host : Option String

/-- `service_name or (request.client.host if request.client else "unknown")` -/
def LimitedRequest.key (request : LimitedRequest) : String :=
  let service_name := request.service_name.getD ""
  if service_name ≠ "" then service_name else request.client_host.getD "unknown"

/-- A step of a check, or its end because Redis is not available. Its commands may have been
executed although the reply was lost. -/
inductive DependencyStep (Call : Type) where
  | check (step : LimiterStep Call)
  | unavailable (call : Call) (executed : Bool)

section System

variable {Call : Type} [DecidableEq Call] (limiter : RateLimiter) (request : Call → LimitedRequest)

/-- The key of the request of a call. -/
def callKey (call : Call) : String := (request call).key

/-- `rate_limit_dependency`, step by step. A call that passes was let through unchecked. -/
def dependencyNext (state : LimiterState Call) : DependencyStep Call → Option (LimiterState Call)
  | .check step => limiterNext limiter (callKey request) state step
  | .unavailable call executed =>
      match state.phase call with
      | .waiting => some (state.setPhase call .passed)
      | .read now =>
          if executed then
            some ((state.afterExecute limiter (callKey request) call now).setPhase call .passed)
          else some (state.setPhase call .passed)
      | _ => none

/-- The concurrent requests. At the start none has come and Redis holds no window. -/
def dependencySystem : TransitionSystem (LimiterState Call) (DependencyStep Call) where
  initial := (limiterSystem limiter (callKey request)).initial
  next := dependencyNext limiter request

/-- The call that a step belongs to. Time passes for all. -/
def DependencyStep.call : DependencyStep Call → Option Call
  | .check (.readClock call _) | .check (.execute call) | .unavailable call _ => some call
  | .check (.elapse _) => none

/-- The step is one of the client's own, or time passes. -/
def Concerns (client : String) (step : DependencyStep Call) : Bool :=
  match step.call with
  | some call => callKey request call = client
  | none => true

/-- Two states are the same for a client. -/
structure SameFor (client : String) (state other : LimiterState Call) : Prop where
  clock : other.redis.clock = state.redis.clock
  window : other.redis.keys (redisKey client) = state.redis.keys (redisKey client)
  phase : ∀ call, callKey request call = client → other.phase call = state.phase call

variable {limiter request} {client : String} {state other : LimiterState Call} {call : Call}

namespace SameFor

omit [DecidableEq Call] in
theorem refl (state : LimiterState Call) : SameFor request client state state :=
  ⟨rfl, rfl, fun _ _ => rfl⟩

omit [DecidableEq Call] in
/-- The client sees the same window. -/
theorem members (same : SameFor request client state other) :
    other.redis.members (redisKey client) = state.redis.members (redisKey client) := by
  rw [Redis.members, Redis.members, same.window, same.clock]

theorem setPhase (same : SameFor request client state other) (call : Call) (phase : CheckPhase) :
    SameFor request client (state.setPhase call phase) (other.setPhase call phase) where
  clock := same.clock
  window := same.window
  phase mine own := by
    by_cases isCall : mine = call
    · rw [isCall, LimiterState.setPhase_phase_self, LimiterState.setPhase_phase_self]
    · rw [LimiterState.setPhase_phase_of_ne _ isCall, LimiterState.setPhase_phase_of_ne _ isCall,
        same.phase mine own]

theorem afterExecute (same : SameFor request client state other)
    (own : callKey request call = client) (now : ℚ) :
    SameFor request client (state.afterExecute limiter (callKey request) call now)
      (other.afterExecute limiter (callKey request) call now) where
  clock := same.clock
  window := by
    subst own
    rw [LimiterState.afterExecute_key_self, LimiterState.afterExecute_key_self, same.members,
      same.clock]
  phase mine isOwn := by
    by_cases isCall : mine = call
    · subst isCall own
      rw [LimiterState.afterExecute_phase_self, LimiterState.afterExecute_phase_self, same.members]
    · rw [LimiterState.afterExecute_phase_of_ne _ _ isCall,
        LimiterState.afterExecute_phase_of_ne _ _ isCall, same.phase mine isOwn]

/-- What another client's call does to its phase and its window is not seen. -/
theorem ignoresPhase (same : SameFor request client state other)
    (foreign : callKey request call ≠ client) (phase : CheckPhase) :
    SameFor request client (state.setPhase call phase) other where
  clock := same.clock
  window := same.window
  phase mine own := by
    have different : mine ≠ call := by
      rintro rfl
      exact foreign own
    rw [LimiterState.setPhase_phase_of_ne _ different, same.phase mine own]

theorem ignoresExecute (same : SameFor request client state other)
    (foreign : callKey request call ≠ client) (now : ℚ) :
    SameFor request client (state.afterExecute limiter (callKey request) call now) other where
  clock := same.clock
  window := by
    have different : redisKey client ≠ redisKey (callKey request call) :=
      fun equal => foreign (redisKey_injective equal).symm
    rw [LimiterState.afterExecute_key_of_ne _ _ different, same.window]
  phase mine own := by
    have different : mine ≠ call := by
      rintro rfl
      exact foreign own
    rw [LimiterState.afterExecute_phase_of_ne _ _ different, same.phase mine own]

end SameFor

/-- The steps of others are not seen by a client, and its own do not depend on them. -/
theorem client_unwinding (limiter : RateLimiter) (request : Call → LimitedRequest)
    (client : String) :
    Unwinding (dependencySystem limiter request) (Concerns request client)
      (SameFor request client) where
  follows := by
    intro state other label next same concerns step
    change dependencyNext limiter request state label = some next at step
    change ∃ answer, dependencyNext limiter request other label = some answer ∧ _
    cases label with
    | check step' =>
        cases step' with
        | readClock call now =>
            have own : callKey request call = client := of_decide_eq_true concerns
            simp only [dependencyNext, limiterNext, same.phase call own] at step ⊢
            split at step
            · cases step
              exact ⟨_, rfl, same.setPhase call _⟩
            · cases step
        | execute call =>
            have own : callKey request call = client := of_decide_eq_true concerns
            simp only [dependencyNext, limiterNext, same.phase call own] at step ⊢
            split at step
            · cases step
              exact ⟨_, rfl, same.afterExecute own _⟩
            · cases step
        | elapse seconds =>
            simp only [dependencyNext, limiterNext] at step ⊢
            split at step
            · rename_i forward
              cases step
              refine ⟨_, if_pos forward, ?_, same.window, same.phase⟩
              exact congrArg (· + seconds) same.clock
            · cases step
    | unavailable call executed =>
        have own : callKey request call = client := of_decide_eq_true concerns
        simp only [dependencyNext, same.phase call own] at step ⊢
        split at step
        · cases step
          exact ⟨_, rfl, same.setPhase call _⟩
        · cases executed with
          | true =>
              cases step
              exact ⟨_, rfl, (same.afterExecute own _).setPhase call _⟩
          | false =>
              cases step
              exact ⟨_, rfl, same.setPhase call _⟩
        · cases step
  ignores := by
    intro state other label next same foreign step
    change dependencyNext limiter request state label = some next at step
    cases label with
    | check step' =>
        cases step' with
        | readClock call now =>
            have others : callKey request call ≠ client := of_decide_eq_false foreign
            simp only [dependencyNext, limiterNext] at step
            split at step
            · cases step
              exact same.ignoresPhase others _
            · cases step
        | execute call =>
            have others : callKey request call ≠ client := of_decide_eq_false foreign
            simp only [dependencyNext, limiterNext] at step
            split at step
            · cases step
              exact same.ignoresExecute others _
            · cases step
        | elapse seconds => cases foreign
    | unavailable call executed =>
        have others : callKey request call ≠ client := of_decide_eq_false foreign
        simp only [dependencyNext] at step
        split at step
        · cases step
          exact same.ignoresPhase others _
        · cases executed with
          | true =>
              cases step
              exact (same.ignoresExecute others _).ignoresPhase others _
          | false =>
              cases step
              exact same.ignoresPhase others _
        · cases step

/-- **Clients are isolated.** The client's own steps can be taken alone, and then each of its
requests is where it is at the end of the run. -/
theorem clients_are_isolated (limiter : RateLimiter) (request : Call → LimitedRequest)
    (client : String) {start finish : LimiterState Call}
    {transitions : List (Transition (LimiterState Call) (DependencyStep Call))}
    (run : (dependencySystem limiter request).Run start transitions finish) :
    ∃ alone, (dependencySystem limiter request).execute
        ((transitions.map Transition.label).filter (Concerns request client)) start =
          some alone ∧
      ∀ call, callKey request call = client → alone.phase call = finish.phase call := by
  obtain ⟨alone, executed, same⟩ :=
    (client_unwinding limiter request client).purge (.refl start) run
  exact ⟨alone, executed, same.phase⟩

/-! ## Refusals -/

/-- The pipeline that a step has Redis execute: the request and its reading of the clock. -/
def executed (step : Transition (LimiterState Call) (DependencyStep Call)) : List (Call × ℚ) :=
  match step.label with
  | .check (.execute call) | .unavailable call true =>
      match step.before.phase call with
      | .read now => [(call, now)]
      | _ => []
  | _ => []

/-- As many requests of the same client as the limit allows were executed, and none of their
readings is in the range that the request removed. -/
def FullWindow (limiter : RateLimiter) (request : Call → LimitedRequest)
    (executions : List (Call × ℚ)) (call : Call) (now : ℚ) : Prop :=
  ∃ earlier : Finset Call, limiter.rpm ≤ earlier.card ∧ call ∉ earlier ∧
    ∀ other ∈ earlier, callKey request other = callKey request call ∧
      ∃ reading, (other, reading) ∈ executions ∧ ¬ (0 ≤ reading ∧ reading ≤ now - 60)

/-- What is known of a state after the executions so far. -/
structure LimiterHistory (limiter : RateLimiter) (request : Call → LimitedRequest)
    (executions : List (Call × ℚ)) (state : LimiterState Call) : Prop where
  once : (executions.map Prod.fst).Nodup
  done : ∀ call reading, (call, reading) ∈ executions →
    state.phase call ≠ .waiting ∧ ∀ now, state.phase call ≠ .read now
  entries : ∀ client member score,
    SortedSet.zscore (state.redis.keys (redisKey client)).members member = some score →
      member = str score ∧ ∃ call, (call, score) ∈ executions ∧ callKey request call = client
  refused : ∀ call now error, state.phase call = .finished now (.error error) →
    FullWindow limiter request executions call now

omit [DecidableEq Call] in
theorem FullWindow.mono {executions further : List (Call × ℚ)} {now : ℚ}
    (full : FullWindow limiter request executions call now) :
    FullWindow limiter request (executions ++ further) call now := by
  obtain ⟨earlier, enough, notSelf, each⟩ := full
  refine ⟨earlier, enough, notSelf, fun other member => ?_⟩
  obtain ⟨sameKey, reading, wasExecuted, kept⟩ := each other member
  exact ⟨sameKey, reading, List.mem_append_left _ wasExecuted, kept⟩

namespace LimiterHistory

variable {executions : List (Call × ℚ)}

theorem of_initial (initial : (dependencySystem limiter request).initial state) :
    LimiterHistory limiter request [] state := by
  obtain ⟨noKeys, waiting⟩ := initial
  refine ⟨List.nodup_nil, by simp, ?_, ?_⟩
  · intro client member score found
    rw [noKeys] at found
    cases found
  · intro call now error refused
    rw [waiting call] at refused
    cases refused

omit [DecidableEq Call] in
/-- A request that is still to execute has not executed. -/
theorem not_executed (history : LimiterHistory limiter request executions state) {reading : ℚ}
    (pending : state.phase call = .waiting ∨ ∃ now, state.phase call = .read now) :
    (call, reading) ∉ executions := by
  intro member
  obtain ⟨notWaiting, notRead⟩ := history.done call reading member
  rcases pending with waiting | ⟨now, hasRead⟩
  · exact notWaiting waiting
  · exact notRead now hasRead

/-- Moving a request to a phase in which it has no answer keeps the history, if no request
that has executed is moved back. -/
theorem setPhase (history : LimiterHistory limiter request executions state) {phase : CheckPhase}
    (forward : ∀ reading, (call, reading) ∈ executions →
      phase ≠ .waiting ∧ ∀ now, phase ≠ .read now)
    (unfinished : ∀ reading outcome, phase ≠ .finished reading outcome) :
    LimiterHistory limiter request executions (state.setPhase call phase) where
  once := history.once
  done other reading member := by
    by_cases isCall : other = call
    · subst isCall
      rw [LimiterState.setPhase_phase_self]
      exact forward reading member
    · rw [LimiterState.setPhase_phase_of_ne _ isCall]
      exact history.done other reading member
  entries := history.entries
  refused other now error refused := by
    by_cases isCall : other = call
    · subst isCall
      rw [LimiterState.setPhase_phase_self] at refused
      exact absurd refused (unfinished _ _)
    · rw [LimiterState.setPhase_phase_of_ne _ isCall] at refused
      exact history.refused other now error refused

/-- A request that gives up has no answer. -/
theorem pass (history : LimiterHistory limiter request executions state) (call : Call) :
    LimiterHistory limiter request executions (state.setPhase call .passed) :=
  history.setPhase (fun _ _ => ⟨by simp, by simp⟩) (by simp)

/-- The requests whose entries a pipeline counts. -/
theorem exists_counted (history : LimiterHistory limiter request executions state) (now : ℚ)
    (client : String) :
    ∃ earlier : Finset Call,
      earlier.card = Redis.requestCount (state.redis.members (redisKey client)) now ∧
      ∀ other ∈ earlier, callKey request other = client ∧
        ∃ reading, (other, reading) ∈ executions ∧ ¬ (0 ≤ reading ∧ reading ≤ now - 60) := by
  obtain ⟨members, counted, present⟩ := SortedSet.exists_card_eq_zcard
    (SortedSet.zremrangebyscore (state.redis.members (redisKey client)) 0 (now - 60))
  have owner : ∀ member ∈ members, ∃ other, callKey request other = client ∧
      ∃ reading, (other, reading) ∈ executions ∧ member = str reading ∧
        ¬ (0 ≤ reading ∧ reading ≤ now - 60) := by
    intro member isMember
    obtain ⟨score, found⟩ := present member isMember
    obtain ⟨held, kept⟩ := (SortedSet.zscore_zremrangebyscore _ _ _ _ _).mp found
    obtain ⟨isText, other, wasExecuted, sameKey⟩ :=
      history.entries client member score (Redis.zscore_members held)
    exact ⟨other, sameKey, score, wasExecuted, isText, kept⟩
  choose asker sameKey reading wasExecuted isText kept using owner
  refine ⟨members.attach.image fun member => asker member.1 member.2, ?_, ?_⟩
  · rw [Finset.card_image_of_injective, Finset.card_attach, counted]
    · rfl
    · -- a request executes once, so its entry is known by the request
      intro first second same
      have sameEntry := List.inj_on_of_nodup_map history.once
        (wasExecuted first.1 first.2) (wasExecuted second.1 second.2) same
      apply Subtype.ext
      rw [isText first.1 first.2, isText second.1 second.2, (Prod.mk.inj sameEntry).2]
  · intro other isOther
    obtain ⟨⟨member, isMember⟩, -, rfl⟩ := Finset.mem_image.mp isOther
    exact ⟨sameKey member isMember, reading member isMember, wasExecuted member isMember,
      kept member isMember⟩

/-- Executing the pipeline keeps the history. -/
theorem afterExecute (history : LimiterHistory limiter request executions state) {now : ℚ}
    (hasRead : state.phase call = .read now) :
    LimiterHistory limiter request (executions ++ [(call, now)])
      (state.afterExecute limiter (callKey request) call now) where
  once := by
    rw [List.map_append, List.map_singleton]
    refine List.Nodup.append history.once (List.nodup_singleton _) ?_
    intro other isOther isCall
    obtain ⟨⟨same, reading⟩, member, rfl⟩ := List.mem_map.mp isOther
    rw [List.mem_singleton] at isCall
    subst isCall
    exact history.not_executed (.inr ⟨now, hasRead⟩) member
  done other reading member := by
    rcases List.mem_append.mp member with earlier | own
    · have different : other ≠ call := by
        rintro rfl
        exact history.not_executed (.inr ⟨now, hasRead⟩) earlier
      rw [LimiterState.afterExecute_phase_of_ne _ _ different]
      exact history.done other reading earlier
    · rw [List.mem_singleton] at own
      cases own
      rw [LimiterState.afterExecute_phase_self]
      exact ⟨by simp, by simp⟩
  entries client member score found := by
    rcases LimiterState.zscore_afterExecute found with ⟨isKey, rfl, rfl⟩ | before
    · exact ⟨rfl, call, by simp, (redisKey_injective isKey).symm⟩
    · obtain ⟨isText, other, wasExecuted, sameKey⟩ := history.entries client member score before
      exact ⟨isText, other, List.mem_append_left _ wasExecuted, sameKey⟩
  refused other reading error refused := by
    by_cases isCall : other = call
    · subst isCall
      rw [LimiterState.afterExecute_phase_self] at refused
      obtain ⟨rfl, decided⟩ := CheckPhase.finished.inj refused
      obtain ⟨earlier, counted, each⟩ := history.exists_counted now (callKey request other)
      have notSelf : other ∉ earlier := by
        intro isSelf
        obtain ⟨-, reading, wasExecuted, -⟩ := each other isSelf
        exact history.not_executed (.inr ⟨_, hasRead⟩) wasExecuted
      have enough : limiter.rpm ≤ earlier.card := by
        rw [counted]
        by_contra below
        rw [RateLimiter.decide, if_neg below] at decided
        cases decided
      exact FullWindow.mono ⟨earlier, enough, notSelf, each⟩
    · rw [LimiterState.afterExecute_phase_of_ne _ _ isCall] at refused
      exact (history.refused other reading error refused).mono

/-- Every step keeps the history, with what it has executed. -/
theorem step (transition : Transition (LimiterState Call) (DependencyStep Call))
    (history : LimiterHistory limiter request executions transition.before)
    (step : dependencyNext limiter request transition.before transition.label =
      some transition.after) :
    LimiterHistory limiter request (executions ++ executed transition) transition.after := by
  obtain ⟨before, label, after⟩ := transition
  dsimp only at history step ⊢
  cases label with
  | check inner =>
      rcases limiterNext_cases step with ⟨call, now, phase, rfl, waiting, unfinished, rfl⟩ |
        ⟨call, now, rfl, hasRead, rfl⟩ | ⟨seconds, rfl, -, rfl⟩
      · rw [executed, List.append_nil]
        exact history.setPhase (fun _ member => absurd member (history.not_executed (.inl waiting)))
          unfinished
      · have sent : executed ⟨before, .check (.execute call),
            before.afterExecute limiter (callKey request) call now⟩ = [(call, now)] := by
          simp only [executed, hasRead]
        rw [sent]
        exact history.afterExecute hasRead
      · rw [executed, List.append_nil]
        exact ⟨history.once, history.done, history.entries, history.refused⟩
  | unavailable call sent =>
      simp only [dependencyNext] at step
      split at step
      · rename_i waiting
        cases step
        have nothing : executed ⟨before, .unavailable call sent, before.setPhase call .passed⟩ =
            [] := by
          cases sent <;> simp only [executed, waiting]
        rw [nothing, List.append_nil]
        exact history.pass call
      · rename_i now hasRead
        cases sent with
        | true =>
            cases step
            simp only [executed, hasRead]
            exact (history.afterExecute hasRead).pass call
        | false =>
            cases step
            rw [executed, List.append_nil]
            exact history.pass call
      · cases step

theorem of_run {start finish : LimiterState Call}
    {transitions : List (Transition (LimiterState Call) (DependencyStep Call))}
    (initial : (dependencySystem limiter request).initial start)
    (run : (dependencySystem limiter request).Run start transitions finish) :
    LimiterHistory limiter request (transitions.flatMap executed) finish := by
  induction run with
  | nil => exact .of_initial initial
  | snoc earlier taken ih =>
      rw [List.flatMap_append, List.flatMap_singleton]
      exact ih.step ⟨_, _, _⟩ taken

end LimiterHistory

/-- **No request is refused without a cause.** As many other requests of its own client as
the limit allows had been executed, each with a reading outside the range from zero to a
minute before its own. -/
theorem refused_only_when_full (limiter : RateLimiter) (request : Call → LimitedRequest)
    {start finish : LimiterState Call}
    {transitions : List (Transition (LimiterState Call) (DependencyStep Call))}
    (initial : (dependencySystem limiter request).initial start)
    (run : (dependencySystem limiter request).Run start transitions finish)
    {call : Call} {now : ℚ} {error : HTTPException}
    (refused : finish.phase call = .finished now (.error error)) :
    FullWindow limiter request (transitions.flatMap executed) call now :=
  (LimiterHistory.of_run initial run).refused call now error refused

end System

/-! ## A noisy neighbour -/

/-- One request in a minute. -/
def oneInAMinute : RateLimiter := ⟨1⟩

/-- Two requests of a service, and one that comes from a host. -/
inductive NeighbourCall where
  | first
  | second
  | host
deriving DecidableEq

def neighbours : NeighbourCall → LimitedRequest
  | .host => ⟨none, some "10.0.0.7"⟩
  | .first | .second => ⟨some "batch", some "10.0.0.9"⟩

/-- No request has come. -/
def noRequests : LimiterState NeighbourCall where
  redis := { keys := fun _ => ⟨.empty, none⟩, clock := 0 }
  phase _ := .waiting

/-- The second request of "batch" is refused, the first of the host is not. -/
def neighbourSteps : List (DependencyStep NeighbourCall) :=
  [.check (.readClock .first 100), .check (.readClock .host 100), .check (.execute .first),
    .check (.readClock .second 101), .check (.execute .second), .check (.execute .host)]

/-- The requests take these steps. -/
theorem exists_neighbour_run :
    ∃ transitions finish,
      (dependencySystem oneInAMinute neighbours).Run noRequests transitions finish ∧
        transitions.map Transition.label = neighbourSteps ∧
        ∃ error, finish.phase .second = .finished 101 (.error error) := by
  have phases : ((dependencySystem oneInAMinute neighbours).execute neighbourSteps
      noRequests).map (fun state => state.phase .second) =
        some (.finished 101 (oneInAMinute.decide 1)) := by
    decide +kernel
  obtain ⟨finish, executed, phase⟩ := Option.map_eq_some_iff.mp phases
  obtain ⟨transitions, run, labels⟩ := exists_run_of_execute executed
  exact ⟨transitions, finish, run, labels, _, phase⟩

theorem noisy_neighbour_is_ignored :
    ∃ (transitions : List (Transition (LimiterState NeighbourCall) (DependencyStep NeighbourCall)))
        (finish : LimiterState NeighbourCall), transitions.map Transition.label = neighbourSteps ∧
      ∃ alone, (dependencySystem oneInAMinute neighbours).execute
          ((transitions.map Transition.label).filter (Concerns neighbours "10.0.0.7"))
            noRequests = some alone ∧
        ∀ call, callKey neighbours call = "10.0.0.7" → alone.phase call = finish.phase call := by
  obtain ⟨transitions, finish, run, labels, -⟩ := exists_neighbour_run
  exact ⟨transitions, finish, labels, clients_are_isolated _ _ _ run⟩

theorem second_request_finds_the_first :
    ∃ (transitions : List (Transition (LimiterState NeighbourCall) (DependencyStep NeighbourCall))),
      transitions.map Transition.label = neighbourSteps ∧
      FullWindow oneInAMinute neighbours (transitions.flatMap executed) .second 101 := by
  obtain ⟨transitions, finish, run, labels, error, refused⟩ := exists_neighbour_run
  exact ⟨transitions, labels,
    refused_only_when_full _ _ ⟨fun _ => rfl, fun _ => rfl⟩ run refused⟩

end LlmopsPlatform.Middleware
