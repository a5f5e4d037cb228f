import LlmopsPlatform.Foundations.SortedSet
import LlmopsPlatform.Foundations.TransitionSystem
import Mathlib.Data.Rat.Defs
import Mathlib.Algebra.Order.Ring.Unbundled.Rat
import Mathlib.Logic.Function.Basic

/-!
# The rate limiter

`RateLimiter.check` reads the clock and later executes a pipeline of four commands,
which Redis runs as one: it removes the entries of the last window, counts what is left,
adds its own entry and sets the expiry of the key. The call is admitted if the count is
below the limit. An entry is added whether the call is admitted or not.

The entry is the text of the reading, so two calls with the same reading share one
entry.

Readings are exact numbers of seconds. Subtracting a minute is exact for the float that
a clock returns.
-/

set_option autoImplicit false

namespace LlmopsPlatform.Middleware

open Foundations TransitionSystem

/-- The text of a float. Different floats have different texts, so the text is known by
the float. -/
structure FloatText where
  value : ℚ
deriving DecidableEq

/-- `str(value)`, for a float. -/
def str (value : ℚ) : FloatText := ⟨value⟩

/-- A key of Redis that holds a sorted set, with the time on the clock of Redis at which
it expires. -/
structure RedisKey where
  members : SortedSet FloatText ℚ
  expires_at : Option ℚ

structure Redis where
  keys : String → RedisKey
  clock : ℚ

namespace Redis

/-- The sorted set under a key. A key that has expired holds none. -/
def members (redis : Redis) (redis_key : String) : SortedSet FloatText ℚ :=
  match (redis.keys redis_key).expires_at with
  | none => (redis.keys redis_key).members
  | some deadline =>
      if deadline ≤ redis.clock then .empty else (redis.keys redis_key).members

/-- The sorted set after the four commands. -/
def afterCommands (members : SortedSet FloatText ℚ) (now : ℚ) : SortedSet FloatText ℚ :=
  SortedSet.zadd (SortedSet.zremrangebyscore members 0 (now - 60)) (str now) now

/-- The reply to `ZCARD`. -/
def requestCount (members : SortedSet FloatText ℚ) (now : ℚ) : Nat :=
  SortedSet.zcard (SortedSet.zremrangebyscore members 0 (now - 60))

/-- An entry that can be read is an entry of the key. -/
theorem zscore_members {redis : Redis} {name : String} {member : FloatText} {score : ℚ}
    (found : SortedSet.zscore (redis.members name) member = some score) :
    SortedSet.zscore (redis.keys name).members member = some score := by
  unfold members at found
  split at found
  · exact found
  · split at found
    · cases found
    · exact found

/-- The pipeline of `check`. -/
def execute (redis : Redis) (redis_key : String) (now : ℚ) : Redis :=
  { redis with
    keys := Function.update redis.keys redis_key
      { members := afterCommands (redis.members redis_key) now
        expires_at := some (redis.clock + 120) } }

end Redis

/-- The exception with which a request is refused. -/
structure HTTPException where
  status_code : Nat
  detail : String
  headers : List (String × String)
deriving DecidableEq, Repr

structure RateLimiter where
  rpm : Int

/-- The key of the sorted set. -/
def redisKey (key : String) : String := "llmops:ratelimit:" ++ key

/-- What `check` does with the count. -/
def RateLimiter.decide (limiter : RateLimiter) (request_count : Nat) :
    Except HTTPException Unit :=
  if limiter.rpm ≤ request_count then
    .error
      { status_code := 429
        detail := "Rate limit exceeded: " ++ toString limiter.rpm ++ " requests/minute"
        headers := [("Retry-After", "60")] }
  else .ok ()

/-- How far a call of `check` has come. -/
inductive CheckPhase where
  | waiting
  | read (now : ℚ)
  | finished (now : ℚ) (outcome : Except HTTPException Unit)
  /-- The limiter is off. The call returned without reading the clock. -/
  | passed
deriving DecidableEq

/-- Redis and the phase of every call. -/
structure LimiterState (Call : Type) where
  redis : Redis
  phase : Call → CheckPhase

inductive LimiterStep (Call : Type) where
  | readClock (call : Call) (now : ℚ)
  | execute (call : Call)
  /-- Time passes on the clock of Redis. -/
  | elapse (seconds : ℚ)

section System

variable {Call : Type} [DecidableEq Call] (limiter : RateLimiter) (key : Call → String)

namespace LimiterState

variable (state : LimiterState Call)

def setPhase (call : Call) (phase : CheckPhase) : LimiterState Call :=
  { state with phase := Function.update state.phase call phase }

@[simp] theorem setPhase_phase_self (call : Call) (phase : CheckPhase) :
    (state.setPhase call phase).phase call = phase :=
  Function.update_self _ _ _

theorem setPhase_phase_of_ne {call other : Call} (different : other ≠ call) (phase : CheckPhase) :
    (state.setPhase call phase).phase other = state.phase other :=
  Function.update_of_ne different _ _

/-- The state after a call executed its pipeline and compared the count. -/
def afterExecute (call : Call) (now : ℚ) : LimiterState Call :=
  { state with redis := state.redis.execute (redisKey (key call)) now }.setPhase call
    (.finished now (limiter.decide
      (Redis.requestCount (state.redis.members (redisKey (key call))) now)))

end LimiterState

def limiterNext (state : LimiterState Call) : LimiterStep Call → Option (LimiterState Call)
  | .readClock call now =>
      match state.phase call with
      | .waiting =>
          some (state.setPhase call (if limiter.rpm ≤ 0 then .passed else .read now))
      | _ => none
  | .execute call =>
      match state.phase call with
      | .read now => some (state.afterExecute limiter key call now)
      | _ => none
  | .elapse seconds =>
      if 0 ≤ seconds then
        some { state with redis := { state.redis with clock := state.redis.clock + seconds } }
      else none

/-- The concurrent calls of `check`, each with its key. At the start no call has begun and
Redis holds no window. -/
def limiterSystem : TransitionSystem (LimiterState Call) (LimiterStep Call) where
  initial state :=
    (∀ name, state.redis.keys name = ⟨.empty, none⟩) ∧ ∀ call, state.phase call = .waiting
  next := limiterNext limiter key

/-! ## What a step does -/

variable {limiter key}

theorem redisKey_injective : Function.Injective redisKey :=
  fun _ _ same => (String.append_right_inj "llmops:ratelimit:").mp same

namespace LimiterState

variable (state : LimiterState Call) {call : Call} (now : ℚ)

theorem afterExecute_phase_self :
    (state.afterExecute limiter key call now).phase call =
      .finished now (limiter.decide
        (Redis.requestCount (state.redis.members (redisKey (key call))) now)) :=
  Function.update_self _ _ _

theorem afterExecute_phase_of_ne {other : Call} (different : other ≠ call) :
    (state.afterExecute limiter key call now).phase other = state.phase other :=
  Function.update_of_ne different _ _

theorem afterExecute_key_self :
    (state.afterExecute limiter key call now).redis.keys (redisKey (key call)) =
      { members := Redis.afterCommands (state.redis.members (redisKey (key call))) now
        expires_at := some (state.redis.clock + 120) } :=
  Function.update_self _ _ _

theorem afterExecute_key_of_ne {name : String} (different : name ≠ redisKey (key call)) :
    (state.afterExecute limiter key call now).redis.keys name = state.redis.keys name :=
  Function.update_of_ne different _ _

variable {state now} {other : Call} {reading : ℚ} {outcome : Except HTTPException Unit}

/-- An entry is then the one that the call made, or it was there before. -/
theorem zscore_afterExecute {name : String} {member : FloatText} {score : ℚ}
    (found : SortedSet.zscore ((state.afterExecute limiter key call now).redis.keys name).members
      member = some score) :
    (name = redisKey (key call) ∧ member = str now ∧ score = now) ∨
      SortedSet.zscore (state.redis.keys name).members member = some score := by
  by_cases isKey : name = redisKey (key call)
  · subst isKey
    rw [state.afterExecute_key_self now, Redis.afterCommands, SortedSet.zscore_zadd] at found
    split at found
    · rename_i isOwn
      cases found
      exact .inl ⟨rfl, isOwn, rfl⟩
    · exact .inr (Redis.zscore_members ((SortedSet.zscore_zremrangebyscore _ _ _ _ _).mp found).1)
  · rw [state.afterExecute_key_of_ne now isKey] at found
    exact .inr found

/-- After a call moved to a phase in which it is not finished, the calls that are finished
are the same. -/
theorem finished_setPhase {phase : CheckPhase} (waiting : state.phase call = .waiting)
    (unfinished : ∀ reading outcome, phase ≠ .finished reading outcome) :
    (state.setPhase call phase).phase other = .finished reading outcome ↔
      state.phase other = .finished reading outcome := by
  by_cases same : other = call
  · subst same
    rw [setPhase_phase_self, waiting]
    exact ⟨fun finished => absurd finished (unfinished _ _), fun finished => by cases finished⟩
  · rw [setPhase_phase_of_ne _ same]

/-- A call that finished before is finished after a call executed its pipeline. -/
theorem finished_afterExecute (hasRead : state.phase call = .read now)
    (finished : state.phase other = .finished reading outcome) :
    (state.afterExecute limiter key call now).phase other = .finished reading outcome := by
  have different : other ≠ call := by
    rintro rfl
    rw [hasRead] at finished
    cases finished
  rw [state.afterExecute_phase_of_ne now different, finished]

/-- A call that is finished then either had finished before, or it is the one that executed. -/
theorem finished_cases
    (finished : (state.afterExecute limiter key call now).phase other =
      .finished reading outcome) :
    (other = call ∧ reading = now) ∨ state.phase other = .finished reading outcome := by
  by_cases same : other = call
  · subst same
    rw [state.afterExecute_phase_self now] at finished
    exact .inl ⟨rfl, (CheckPhase.finished.inj finished).1.symm⟩
  · rw [state.afterExecute_phase_of_ne now same] at finished
    exact .inr finished

end LimiterState

/-- **The steps.** A call reads the clock, or it executes its pipeline, or time passes. -/
theorem limiterNext_cases {before after : LimiterState Call} {label : LimiterStep Call}
    (step : limiterNext limiter key before label = some after) :
    (∃ call now phase, label = .readClock call now ∧ before.phase call = .waiting ∧
        (∀ reading outcome, phase ≠ .finished reading outcome) ∧
        after = before.setPhase call phase) ∨
      (∃ call now, label = .execute call ∧ before.phase call = .read now ∧
        after = before.afterExecute limiter key call now) ∨
      ∃ seconds, label = .elapse seconds ∧ 0 ≤ seconds ∧
        after = { before with
          redis := { before.redis with clock := before.redis.clock + seconds } } := by
  cases label with
  | readClock call now =>
      rw [limiterNext] at step
      split at step
      · rename_i waiting
        cases step
        refine .inl ⟨call, now, _, rfl, waiting, fun reading outcome => ?_, rfl⟩
        split <;> simp
      · cases step
  | execute call =>
      rw [limiterNext] at step
      split at step
      · rename_i now hasRead
        cases step
        exact .inr (.inl ⟨call, now, rfl, hasRead, rfl⟩)
      · cases step
  | elapse seconds =>
      rw [limiterNext] at step
      split at step
      · rename_i forward
        cases step
        exact .inr (.inr ⟨seconds, rfl, forward, rfl⟩)
      · cases step

end System

end LlmopsPlatform.Middleware
