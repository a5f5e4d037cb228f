import LlmopsPlatform.Middleware.RateLimiter
import Mathlib.Tactic.Linarith
import Mathlib.Data.Fintype.Basic
import Mathlib.Tactic.FinCases
import Mathlib.Tactic.NormNum

/-!
# How many calls of the rate limiter are admitted in a minute

A call counts the entries that Redis still holds. An admitted call that is less than a
minute older has lost its entry when it had to share it with a call of the same reading,
when a call with a reading more than a minute later executed first and removed it, or
when the key expired.

In every run in which each call finds the entries of the recent admitted calls, and none
of them has its own reading, at most the limit is admitted in any minute
(`admitted_within_limit`). Calls that read the same time are all admitted
(`same_reading_exceeds_the_limit`).
-/

set_option autoImplicit false

namespace LlmopsPlatform.Middleware

open Foundations TransitionSystem

section System

variable {Call : Type} [DecidableEq Call] (limiter : RateLimiter) (key : Call → String)

/-- The call was admitted with a reading in the minute up to the given time. -/
def AdmittedWithin (state : LimiterState Call) (time : ℚ) (call : Call) : Prop :=
  ∃ reading, state.phase call = .finished reading (.ok ()) ∧ time - 60 < reading ∧ reading ≤ time

/-- In every minute at most the limit of the calls on one key are admitted. -/
def WithinLimit (state : LimiterState Call) : Prop :=
  ∀ (name : String) (time : ℚ) (calls : Finset Call),
    (∀ call ∈ calls, key call = name ∧ AdmittedWithin state time call) →
      (calls.card : Int) ≤ limiter.rpm

/-- When a call executes its pipeline, no call that was admitted on the key has the same
reading, and those that are less than a minute older still have their entries. -/
def FindsRecentCalls (transition : Transition (LimiterState Call) (LimiterStep Call)) : Prop :=
  match transition.label with
  | .execute call =>
      let members := transition.before.redis.members (redisKey (key call))
      ∀ now, transition.before.phase call = .read now →
        ∀ earlier reading, transition.before.phase earlier = .finished reading (.ok ()) →
          key earlier = key call →
            reading ≠ now ∧
              (now - 60 < reading → (SortedSet.zscore members (str reading)).isSome)
  | _ => True

/-- What holds as long as every call found the recent calls. -/
structure LimiterInvariant (state : LimiterState Call) : Prop where
  scored : ∀ name member score,
    SortedSet.zscore (state.redis.keys name).members member = some score → member = str score
  distinct : ∀ first second reading, state.phase first = .finished reading (.ok ()) →
    state.phase second = .finished reading (.ok ()) → key first = key second → first = second
  within : WithinLimit limiter key state

variable {limiter key} {state : LimiterState Call}

omit [DecidableEq Call] in
/-- The score of an entry is its member. -/
theorem LimiterInvariant.eq_str (invariant : LimiterInvariant limiter key state) {name : String}
    {member : FloatText} {score : ℚ}
    (found : SortedSet.zscore (state.redis.members name) member = some score) :
    member = str score :=
  invariant.scored name member score (Redis.zscore_members found)

theorem LimiterInvariant.of_initial (positive : 0 < limiter.rpm)
    (initial : (limiterSystem limiter key).initial state) : LimiterInvariant limiter key state := by
  obtain ⟨noKeys, waiting⟩ := initial
  refine ⟨?_, ?_, ?_⟩
  · intro name member score found
    rw [noKeys name] at found
    cases found
  · intro first second reading finished
    rw [waiting first] at finished
    cases finished
  · intro name time calls admitted
    have nobody : calls = ∅ := by
      refine Finset.eq_empty_of_forall_notMem fun call member => ?_
      obtain ⟨-, reading, finished, -⟩ := admitted call member
      rw [waiting call] at finished
      cases finished
    rw [nobody, Finset.card_empty]
    exact_mod_cast positive.le

/-! ## Calls that do not reach Redis -/

/-- Moving a call to a phase in which it is not finished keeps the invariant. -/
theorem LimiterInvariant.setPhase (invariant : LimiterInvariant limiter key state) {call : Call}
    {phase : CheckPhase} (waiting : state.phase call = .waiting)
    (unfinished : ∀ reading outcome, phase ≠ .finished reading outcome) :
    LimiterInvariant limiter key (state.setPhase call phase) := by
  refine ⟨invariant.scored, ?_, ?_⟩
  · intro first second reading firstFinished secondFinished
    exact invariant.distinct first second reading
      ((LimiterState.finished_setPhase waiting unfinished).mp firstFinished)
      ((LimiterState.finished_setPhase waiting unfinished).mp secondFinished)
  · intro name time calls admitted
    refine invariant.within name time calls fun call member => ?_
    obtain ⟨named, reading, finished, inMinute⟩ := admitted call member
    exact ⟨named, reading, (LimiterState.finished_setPhase waiting unfinished).mp finished,
      inMinute⟩

/-! ## Calls that execute their pipeline -/

/-- The reading of a call that is finished. -/
def LimiterState.reading (state : LimiterState Call) (call : Call) : ℚ :=
  match state.phase call with
  | .finished now _ => now
  | _ => 0

omit [DecidableEq Call] in
/-- Calls with different readings of the last minute, each of which has its entry, are
counted. -/
theorem LimiterState.card_le_requestCount (state : LimiterState Call)
    {members : SortedSet FloatText ℚ} {now : ℚ} {calls : Finset Call}
    (different : Set.InjOn state.reading calls)
    (entered : ∀ call ∈ calls, SortedSet.zscore members (str (state.reading call)) =
      some (state.reading call) ∧ now - 60 < state.reading call) :
    calls.card ≤ Redis.requestCount members now := by
  have texts : Set.InjOn (fun call => str (state.reading call)) calls := by
    intro first isFirst second isSecond same
    exact different isFirst isSecond (congrArg FloatText.value same)
  calc
    calls.card = (calls.image fun call => str (state.reading call)).card :=
      (Finset.card_image_of_injOn texts).symm
    _ ≤ Redis.requestCount members now := by
      refine SortedSet.card_le_zcard _ _ fun member isMember => ?_
      obtain ⟨call, isCall, rfl⟩ := Finset.mem_image.mp isMember
      obtain ⟨found, recent⟩ := entered call isCall
      refine ⟨state.reading call, ?_⟩
      rw [SortedSet.zscore_zremrangebyscore]
      exact ⟨found, fun range => not_lt.mpr range.2 recent⟩

omit [DecidableEq Call] in
theorem LimiterState.reading_of_finished {call : Call} {reading : ℚ}
    {outcome : Except HTTPException Unit}
    (finished : state.phase call = .finished reading outcome) :
    state.reading call = reading := by
  rw [LimiterState.reading, finished]

omit [DecidableEq Call] in
/-- The calls that were admitted in a minute are counted by a call of that minute. -/
theorem LimiterInvariant.card_le_requestCount (invariant : LimiterInvariant limiter key state)
    {call : Call} {now time : ℚ} {others : Finset Call}
    (recent : ∀ earlier reading, state.phase earlier = .finished reading (.ok ()) →
      key earlier = key call → now - 60 < reading →
        (SortedSet.zscore (state.redis.members (redisKey (key call))) (str reading)).isSome)
    (admitted : ∀ other ∈ others, key other = key call ∧ AdmittedWithin state time other)
    (inMinute : now ≤ time) :
    others.card ≤ Redis.requestCount (state.redis.members (redisKey (key call))) now := by
  apply state.card_le_requestCount
  · intro first firstMember second secondMember same
    obtain ⟨firstNamed, reading, firstFinished, -⟩ := admitted first firstMember
    obtain ⟨secondNamed, other, secondFinished, -⟩ := admitted second secondMember
    rw [LimiterState.reading_of_finished firstFinished,
      LimiterState.reading_of_finished secondFinished] at same
    subst same
    exact invariant.distinct first second reading firstFinished secondFinished
      (firstNamed.trans secondNamed.symm)
  · intro other otherMember
    obtain ⟨named, reading, finished, after, -⟩ := admitted other otherMember
    have later : now - 60 < reading := by linarith
    obtain ⟨score, found⟩ := Option.isSome_iff_exists.mp
      (recent other reading finished named later)
    have isScore : reading = score := congrArg FloatText.value (invariant.eq_str found)
    subst isScore
    rw [LimiterState.reading_of_finished finished]
    exact ⟨found, later⟩

/-- A call that finds the recent calls keeps the invariant. -/
theorem LimiterInvariant.afterExecute (invariant : LimiterInvariant limiter key state)
    {call : Call} {now : ℚ}
    (newReading : ∀ earlier, state.phase earlier = .finished now (.ok ()) →
      key earlier ≠ key call)
    (recent : ∀ earlier reading, state.phase earlier = .finished reading (.ok ()) →
      key earlier = key call → now - 60 < reading →
        (SortedSet.zscore (state.redis.members (redisKey (key call))) (str reading)).isSome) :
    LimiterInvariant limiter key (state.afterExecute limiter key call now) := by
  refine ⟨?_, ?_, ?_⟩
  · intro name member score found
    rcases LimiterState.zscore_afterExecute found with ⟨-, isOwn, rfl⟩ | before
    · exact isOwn
    · exact invariant.scored name member score before
  · intro first second reading firstFinished secondFinished sameKey
    rcases LimiterState.finished_cases firstFinished with ⟨rfl, rfl⟩ | firstBefore
    · rcases LimiterState.finished_cases secondFinished with ⟨rfl, -⟩ | secondBefore
      · rfl
      · exact absurd sameKey.symm (newReading second secondBefore)
    · rcases LimiterState.finished_cases secondFinished with ⟨rfl, rfl⟩ | secondBefore
      · exact absurd sameKey (newReading first firstBefore)
      · exact invariant.distinct first second reading firstBefore secondBefore sameKey
  · intro name time calls admitted
    have earlierAdmitted : ∀ other ∈ calls.erase call,
        key other = name ∧ AdmittedWithin state time other := by
      intro other member
      obtain ⟨different, isCall⟩ := Finset.mem_erase.mp member
      obtain ⟨named, reading, finished, inMinute⟩ := admitted other isCall
      rw [state.afterExecute_phase_of_ne now different] at finished
      exact ⟨named, reading, finished, inMinute⟩
    by_cases amongThem : call ∈ calls
    · obtain ⟨named, reading, finished, -, inMinute⟩ := admitted call amongThem
      rw [state.afterExecute_phase_self now] at finished
      obtain ⟨rfl, decided⟩ := CheckPhase.finished.inj finished
      have below : (Redis.requestCount (state.redis.members (redisKey (key call))) now : Int) <
          limiter.rpm := by
        by_contra full
        rw [RateLimiter.decide, if_pos (not_lt.mp full)] at decided
        cases decided
      have counted := invariant.card_le_requestCount recent
        (fun other member => named ▸ earlierAdmitted other member) inMinute
      have split := Finset.card_erase_add_one amongThem
      omega
    · rw [Finset.erase_eq_of_notMem amongThem] at earlierAdmitted
      exact invariant.within name time calls earlierAdmitted

/-- Every step that meets the condition keeps the invariant. -/
theorem LimiterInvariant.step (transition : Transition (LimiterState Call) (LimiterStep Call))
    (invariant : LimiterInvariant limiter key transition.before)
    (step : limiterNext limiter key transition.before transition.label = some transition.after)
    (finds : FindsRecentCalls key transition) :
    LimiterInvariant limiter key transition.after := by
  obtain ⟨before, label, after⟩ := transition
  dsimp only at invariant step ⊢
  rcases limiterNext_cases step with ⟨call, now, phase, rfl, waiting, unfinished, rfl⟩ |
    ⟨call, now, rfl, hasRead, rfl⟩ | ⟨seconds, rfl, -, rfl⟩
  · exact invariant.setPhase waiting unfinished
  · have found := finds now hasRead
    exact invariant.afterExecute
      (fun earlier finished sameKey => (found earlier now finished sameKey).1 rfl)
      (fun earlier reading finished sameKey => (found earlier reading finished sameKey).2)
  · exact ⟨invariant.scored, invariant.distinct, invariant.within⟩

/-- **At most the limit is admitted in any minute**, in every state of a run in which each
call that executes finds the recent calls. -/
theorem admitted_within_limit (limiter : RateLimiter) (key : Call → String)
    (positive : 0 < limiter.rpm) {start finish : LimiterState Call}
    {transitions : List (Transition (LimiterState Call) (LimiterStep Call))}
    (initial : (limiterSystem limiter key).initial start)
    (run : (limiterSystem limiter key).Run start transitions finish)
    (finds : ∀ transition ∈ transitions, FindsRecentCalls key transition) :
    WithinLimit limiter key finish ∧
      ∀ transition ∈ transitions, WithinLimit limiter key transition.before := by
  have kept := run.invariant (LimiterInvariant limiter key)
    (fun transition invariant step guarded => invariant.step transition step guarded)
    (.of_initial positive initial) finds
  exact ⟨kept.1.within, fun transition member => (kept.2 transition member).within⟩

end System

/-! ## Calls of one service -/

/-- Two calls are admitted in a minute. -/
def twoPerMinute : RateLimiter := ⟨2⟩

/-- Three calls use the same key. -/
def service : Fin 3 → String := fun _ => "svc"

/-- No call has begun. -/
def quietLimiter : LimiterState (Fin 3) where
  redis := { keys := fun _ => ⟨.empty, none⟩, clock := 0 }
  phase _ := .waiting

/-- A call that reads the clock. -/
def readsAt (state : LimiterState (Fin 3)) (call : Fin 3) (now : ℚ) :
    Transition (LimiterState (Fin 3)) (LimiterStep (Fin 3)) :=
  ⟨state, .readClock call now, state.setPhase call (.read now)⟩

/-- A call that executes its pipeline. -/
def executesAt (state : LimiterState (Fin 3)) (call : Fin 3) (now : ℚ) :
    Transition (LimiterState (Fin 3)) (LimiterStep (Fin 3)) :=
  ⟨state, .execute call, state.afterExecute twoPerMinute service call now⟩

/-- The first call is finished and the second has read the clock. -/
def oneFinished : LimiterState (Fin 3) :=
  ((quietLimiter.setPhase 0 (.read 100)).afterExecute twoPerMinute service 0 100).setPhase 1
    (.read 101)

/-- Two calls, one second apart. -/
def twoCalls : List (Transition (LimiterState (Fin 3)) (LimiterStep (Fin 3))) :=
  [readsAt quietLimiter 0 100, executesAt (quietLimiter.setPhase 0 (.read 100)) 0 100,
    readsAt ((quietLimiter.setPhase 0 (.read 100)).afterExecute twoPerMinute service 0 100) 1 101,
    executesAt oneFinished 1 101]

theorem two_calls_within_limit :
    WithinLimit twoPerMinute service (oneFinished.afterExecute twoPerMinute service 1 101) ∧
      ∀ transition ∈ twoCalls, WithinLimit twoPerMinute service transition.before := by
  have initial : (limiterSystem twoPerMinute service).initial quietLimiter :=
    ⟨fun _ => rfl, fun _ => rfl⟩
  refine admitted_within_limit twoPerMinute service (by decide) initial
    ((((TransitionSystem.Run.nil.snoc rfl).snoc rfl).snoc rfl).snoc rfl) ?_
  intro transition member
  simp only [twoCalls, List.mem_cons, List.not_mem_nil, or_false] at member
  rcases member with rfl | rfl | rfl | rfl
  · trivial
  · intro now hasRead earlier reading finished
    fin_cases earlier <;> cases finished
  · trivial
  · intro now hasRead earlier reading finished sameKey
    cases hasRead
    fin_cases earlier
    · cases finished
      exact ⟨by decide +kernel, fun _ => by decide +kernel⟩
    · cases finished
    · cases finished

/-- Three calls read the clock at the same time, and then each executes. -/
def sameReading : List (LimiterStep (Fin 3)) :=
  [.readClock 0 100, .readClock 1 100, .readClock 2 100, .execute 0, .execute 1, .execute 2]

/-- **Calls that read the same time exceed the limit.** They share one entry, so each of
them counts at most one. -/
theorem same_reading_exceeds_the_limit :
    ¬ ∀ (Call : Type) (_ : DecidableEq Call) (limiter : RateLimiter) (key : Call → String)
        (state : LimiterState Call), 0 < limiter.rpm →
        (limiterSystem limiter key).Reachable state → WithinLimit limiter key state := by
  intro always
  have admitted : ((limiterSystem twoPerMinute service).execute sameReading quietLimiter).map
      (fun state => decide (∀ call, state.phase call = .finished 100 (.ok ()))) = some true := by
    decide +kernel
  obtain ⟨finish, executed, allAdmitted⟩ := Option.map_eq_some_iff.mp admitted
  obtain ⟨transitions, run, -⟩ := exists_run_of_execute executed
  have within := always (Fin 3) _ twoPerMinute service finish (by decide)
    ⟨quietLimiter, transitions, ⟨fun _ => rfl, fun _ => rfl⟩, run⟩ "svc" 100 Finset.univ
    fun call _ => ⟨rfl, 100, of_decide_eq_true allAdmitted call, by norm_num, le_rfl⟩
  revert within
  decide

end LlmopsPlatform.Middleware
