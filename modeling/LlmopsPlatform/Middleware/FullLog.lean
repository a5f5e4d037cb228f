import LlmopsPlatform.Middleware.RateLimiter
import Mathlib.Algebra.Order.Ring.Rat
import Mathlib.Tactic.Linarith

/-!
# The window of the limiter and the log of all calls

When the calls of `check` are executed one after another, each at a later reading of one
clock, Redis keeps of every key only what the last call on it left: the entries of its
window, until the key expires. A limiter with a log of all calls would count those on the
key whose reading is less than a minute old.

Both count the same. What Redis holds of a key at any later time, without the entries that
the next call removes first, are the calls of the log in the minute before that time
(`windowAt_afterCalls`). So the decisions of a whole run are those of the log
(`decisions_eq_fullLog`), and a call is rejected exactly when the limit is reached by earlier
calls on its key, admitted or not, in the minute before it (`rejected_iff`).
-/

set_option autoImplicit false

namespace LlmopsPlatform.Middleware

open Foundations

/-- A call of `check`, with the reading of the clock. -/
structure CheckCall where
  key : String
  now : ℚ
deriving DecidableEq

namespace Redis

/-- Redis without any key. -/
def empty : Redis where
  keys _ := ⟨.empty, none⟩
  clock := 0

/-- Redis at a time of its clock. -/
def atTime (redis : Redis) (time : ℚ) : Redis := { redis with clock := time }

end Redis

namespace RateLimiter

variable (limiter : RateLimiter)

/-- `RateLimiter.check`, which Redis executes at the time that was read. -/
def check (redis : Redis) (call : CheckCall) : Except HTTPException Unit × Redis :=
  if limiter.rpm ≤ 0 then (.ok (), redis)
  else
    let current := redis.atTime call.now
    (limiter.decide (Redis.requestCount (current.members (redisKey call.key)) call.now),
      current.execute (redisKey call.key) call.now)

/-- Redis after some calls. -/
def afterCalls (calls : List CheckCall) : Redis :=
  calls.foldl (fun redis call => (limiter.check redis call).2) .empty

/-- The decisions on some calls, one after another. -/
def decisions : Redis → List CheckCall → List (Except HTTPException Unit)
  | _, [] => []
  | redis, call :: rest =>
      (limiter.check redis call).1 :: decisions (limiter.check redis call).2 rest

end RateLimiter

/-! ## The log -/

/-- The calls of a log on a key in the minute before a time. -/
def recentCalls (log : List CheckCall) (key : String) (now : ℚ) : List CheckCall :=
  log.filter fun earlier => earlier.key = key ∧ now - 60 < earlier.now

/-- The decisions of a limiter that keeps the log of all calls. -/
def RateLimiter.fullLogDecisions (limiter : RateLimiter) :
    List CheckCall → List CheckCall → List (Except HTTPException Unit)
  | _, [] => []
  | log, call :: rest =>
      limiter.decide (recentCalls log call.key call.now).length ::
        fullLogDecisions limiter (log ++ [call]) rest

/-- Readings that grow from call to call, and are numbers of seconds since the epoch. -/
structure InTime (calls : List CheckCall) : Prop where
  increasing : calls.Pairwise fun first second => first.now < second.now
  nonneg : ∀ call ∈ calls, 0 ≤ call.now

/-- Calls can be left out of a run. -/
theorem InTime.sublist {calls fewer : List CheckCall} (inTime : InTime calls)
    (sublist : fewer.Sublist calls) : InTime fewer :=
  ⟨inTime.increasing.sublist sublist, fun other member =>
    inTime.nonneg other (sublist.subset member)⟩

theorem InTime.init {calls : List CheckCall} {call : CheckCall}
    (inTime : InTime (calls ++ [call])) : InTime calls :=
  inTime.sublist (List.sublist_append_left calls [call])

/-- The part of a run up to a call. -/
theorem InTime.upTo {earlier later : List CheckCall} {call : CheckCall}
    (inTime : InTime (earlier ++ call :: later)) : InTime (earlier ++ [call]) :=
  inTime.sublist ((List.Sublist.refl earlier).append
    (List.singleton_sublist.mpr List.mem_cons_self))

theorem InTime.lt_last {calls : List CheckCall} {call : CheckCall}
    (inTime : InTime (calls ++ [call])) : ∀ earlier ∈ calls, earlier.now < call.now :=
  fun earlier member =>
    (List.pairwise_append.mp inTime.increasing).2.2 earlier member call (List.mem_singleton_self _)

/-! ## The window -/

/-- The entry that a call adds. -/
def CheckCall.entry (call : CheckCall) : FloatText × ℚ := (str call.now, call.now)

/-- What a call on a key finds at a time, after it removed the older entries. -/
def windowAt (redis : Redis) (key : String) (time : ℚ) : List (FloatText × ℚ) :=
  (SortedSet.zremrangebyscore ((redis.atTime time).members (redisKey key)) 0 (time - 60)).entries

variable {limiter : RateLimiter} {redis : Redis} {call : CheckCall} {time : ℚ}

theorem check_of_positive (positive : 0 < limiter.rpm) (redis : Redis) (call : CheckCall) :
    limiter.check redis call =
      (limiter.decide (windowAt redis call.key call.now).length,
        (redis.atTime call.now).execute (redisKey call.key) call.now) :=
  if_neg (not_le.mpr positive)

theorem afterCalls_concat (limiter : RateLimiter) (calls : List CheckCall) (call : CheckCall) :
    limiter.afterCalls (calls ++ [call]) = (limiter.check (limiter.afterCalls calls) call).2 := by
  rw [RateLimiter.afterCalls, List.foldl_append]
  rfl

/-- A call on another key does not change the window of a key. -/
theorem windowAt_execute_of_ne {key : String} (other : key ≠ call.key) :
    windowAt ((redis.atTime call.now).execute (redisKey call.key) call.now) key time =
      windowAt redis key time := by
  have different := redisKey_injective.ne other
  unfold windowAt Redis.members Redis.execute Redis.atTime
  simp only [Function.update_of_ne different]

/-- **The window after a call on its key**: what the call found and its own entry, as far as
they are less than a minute old, until the key expires. -/
theorem windowAt_execute_self
    (fresh : str call.now ∉ (windowAt redis call.key call.now).map Prod.fst) :
    windowAt ((redis.atTime call.now).execute (redisKey call.key) call.now) call.key time =
      if call.now + 120 ≤ time then []
      else (windowAt redis call.key call.now ++ [call.entry]).filter fun entry =>
        ¬(0 ≤ entry.2 ∧ entry.2 ≤ time - 60) := by
  have added : (Redis.afterCommands ((redis.atTime call.now).members (redisKey call.key))
      call.now).entries = windowAt redis call.key call.now ++ [call.entry] :=
    OrderedDict.write_of_not_mem fresh _
  rw [← added]
  unfold windowAt Redis.execute Redis.atTime
  rw [Redis.members]
  simp only [Function.update_self]
  split
  · rfl
  · rfl

/-- Entries that are recent at a later time are recent before. -/
theorem filter_recentCalls {log : List CheckCall} {key : String} {now : ℚ} (later : now ≤ time)
    (nonneg : ∀ earlier ∈ log, 0 ≤ earlier.now) :
    ((recentCalls log key now).map CheckCall.entry).filter
        (fun entry => ¬(0 ≤ entry.2 ∧ entry.2 ≤ time - 60)) =
      (recentCalls log key time).map CheckCall.entry := by
  rw [List.filter_map, recentCalls, List.filter_filter]
  congr 1
  refine List.filter_congr fun earlier member => ?_
  have started := nonneg earlier member
  rw [Bool.eq_iff_iff]
  simp only [Function.comp_apply, CheckCall.entry, started, true_and, not_le, Bool.and_eq_true,
    decide_eq_true_eq]
  constructor
  · rintro ⟨recent, named, -⟩
    exact ⟨named, recent⟩
  · rintro ⟨named, recent⟩
    exact ⟨recent, named, by linarith⟩

/-- The calls before the last one, and the last one if it is recent. -/
theorem recentCalls_concat (log : List CheckCall) (call : CheckCall) (key : String) (now : ℚ) :
    recentCalls (log ++ [call]) key now =
      recentCalls log key now ++
        if call.key = key ∧ now - 60 < call.now then [call] else [] := by
  rw [recentCalls, List.filter_append]
  by_cases recent : call.key = key ∧ now - 60 < call.now
  · rw [if_pos recent, List.filter_cons_of_pos (by simpa using recent), List.filter_nil]
    rfl
  · rw [if_neg recent, List.filter_cons_of_neg (by simpa using recent), List.filter_nil]
    rfl

/-- Nothing is recent two minutes after the last call. -/
theorem recentCalls_of_old {log : List CheckCall} {now : ℚ}
    (old : ∀ earlier ∈ log, earlier.now ≤ now - 60) (key : String) :
    recentCalls log key now = [] := by
  refine List.filter_eq_nil_iff.mpr fun earlier member => ?_
  simp only [decide_eq_true_eq, not_and, not_lt]
  exact fun _ => old earlier member

/-- The last call on a key adds itself to a window that is the log before it. -/
theorem windowAt_execute_of_log {calls : List CheckCall} (inTime : InTime (calls ++ [call]))
    (found : windowAt redis call.key call.now =
      (recentCalls calls call.key call.now).map CheckCall.entry) (later : call.now < time) :
    windowAt ((redis.atTime call.now).execute (redisKey call.key) call.now) call.key time =
      (recentCalls (calls ++ [call]) call.key time).map CheckCall.entry := by
  have fresh : str call.now ∉ (windowAt redis call.key call.now).map Prod.fst := by
    rw [found, List.map_map]
    intro member
    obtain ⟨earlier, recent, sameText⟩ := List.mem_map.mp member
    have before := inTime.lt_last earlier (List.mem_filter.mp recent).1
    exact before.ne (congrArg FloatText.value sameText)
  rw [windowAt_execute_self fresh, found]
  by_cases expired : call.now + 120 ≤ time
  · -- The key has expired, and no call is recent any more.
    have old : ∀ earlier ∈ calls ++ [call], earlier.now ≤ time - 60 := by
      intro earlier member
      rcases List.mem_append.mp member with before | last
      · linarith [inTime.lt_last earlier before]
      · rw [List.mem_singleton.mp last]
        linarith
    rw [if_pos expired, recentCalls_of_old old]
    rfl
  · rw [if_neg expired, List.filter_append, filter_recentCalls later.le inTime.init.nonneg,
      recentCalls_concat, List.map_append]
    congr 1
    have started : 0 ≤ call.now := inTime.nonneg call (by simp)
    by_cases recent : time - 60 < call.now
    · simp [CheckCall.entry, recent, started]
    · simp [CheckCall.entry, recent, started]

/-- **The window is the log.** After some calls, what a later call finds on a key are the calls
of the log on this key in the minute before it. -/
theorem windowAt_afterCalls (positive : 0 < limiter.rpm) {calls : List CheckCall}
    (inTime : InTime calls) (key : String) (later : ∀ call ∈ calls, call.now < time) :
    windowAt (limiter.afterCalls calls) key time =
      (recentCalls calls key time).map CheckCall.entry := by
  induction calls using List.reverseRecOn generalizing key time with
  | nil => rfl
  | append_singleton calls call ih =>
      have callLater : call.now < time := later call (by simp)
      have earlierLater : ∀ earlier ∈ calls, earlier.now < time := fun earlier member =>
        later earlier (List.mem_append_left _ member)
      rw [afterCalls_concat, check_of_positive positive]
      by_cases own : key = call.key
      · rw [own]
        exact windowAt_execute_of_log inTime (ih inTime.init call.key inTime.lt_last) callLater
      · have notOwn : ¬(call.key = key ∧ time - 60 < call.now) := fun both =>
          own both.1.symm
        rw [windowAt_execute_of_ne own, ih inTime.init key earlierLater, recentCalls_concat,
          if_neg notOwn, List.append_nil]

/-! ## Decisions -/

/-- **A decision** is that of the log. -/
theorem check_eq_fullLog (positive : 0 < limiter.rpm) {log : List CheckCall} {call : CheckCall}
    (inTime : InTime (log ++ [call])) :
    (limiter.check (limiter.afterCalls log) call).1 =
      limiter.decide (recentCalls log call.key call.now).length := by
  rw [check_of_positive positive,
    windowAt_afterCalls positive inTime.init call.key inTime.lt_last, List.length_map]

/-- **The decisions of a run** are those of the log. -/
theorem decisions_eq_fullLog (positive : 0 < limiter.rpm) {log calls : List CheckCall}
    (inTime : InTime (log ++ calls)) :
    limiter.decisions (limiter.afterCalls log) calls = limiter.fullLogDecisions log calls := by
  induction calls generalizing log with
  | nil => rfl
  | cons call rest ih =>
      have whole : log ++ call :: rest = (log ++ [call]) ++ rest := by simp
      rw [RateLimiter.decisions, RateLimiter.fullLogDecisions,
        check_eq_fullLog positive inTime.upTo, ← afterCalls_concat, ih (whole ▸ inTime)]

theorem decide_eq_error_iff (limiter : RateLimiter) (request_count : Nat) :
    (∃ refusal, limiter.decide request_count = .error refusal) ↔ limiter.rpm ≤ request_count := by
  unfold RateLimiter.decide
  split
  · rename_i reached
    exact iff_of_true ⟨_, rfl⟩ reached
  · rename_i below
    refine iff_of_false ?_ below
    rintro ⟨refusal, isError⟩
    cases isError

theorem recentCalls_filter (log : List CheckCall) (key : String) (now : ℚ) :
    recentCalls (log.filter fun earlier => earlier.key = key) key now =
      recentCalls log key now := by
  rw [recentCalls, List.filter_filter]
  refine List.filter_congr fun earlier _ => ?_
  rw [Bool.eq_iff_iff]
  simp only [Bool.and_eq_true, decide_eq_true_eq]
  tauto

/-- **The pruned window decides like the full log.** In every sequence of calls at increasing
readings a call is rejected exactly when at least as many earlier calls on its key as the
limit, admitted or rejected, have readings in the minute before it. The decision is the
same as without the calls on other keys. -/
theorem rejected_iff (limiter : RateLimiter) (positive : 0 < limiter.rpm)
    (earlier later : List CheckCall) (call : CheckCall)
    (inTime : InTime (earlier ++ call :: later)) :
    ((∃ refusal, (limiter.check (limiter.afterCalls earlier) call).1 = .error refusal) ↔
      limiter.rpm ≤ (earlier.filter fun other =>
        other.key = call.key ∧ call.now - 60 < other.now).length) ∧
    (limiter.check (limiter.afterCalls earlier) call).1 =
      (limiter.check (limiter.afterCalls
        (earlier.filter fun other => other.key = call.key)) call).1 := by
  have decision := check_eq_fullLog positive inTime.upTo
  have alone : InTime ((earlier.filter fun other => other.key = call.key) ++ [call]) :=
    inTime.upTo.sublist (List.filter_sublist.append_right [call])
  refine ⟨?_, ?_⟩
  · rw [decision, decide_eq_error_iff]
    rfl
  · rw [decision, check_eq_fullLog positive alone, recentCalls_filter]

/-- With a limit of one call, an entry of exactly a minute ago is not counted, and the next
call on the key is. -/
theorem one_call_a_minute :
    ((∃ refusal, ((⟨1⟩ : RateLimiter).check ((⟨1⟩ : RateLimiter).afterCalls
        [⟨"a", 0⟩, ⟨"b", 1⟩, ⟨"a", 60⟩]) ⟨"a", 100⟩).1 = .error refusal) ↔
      (1 : Int) ≤ ([⟨"a", 0⟩, ⟨"b", 1⟩, ⟨"a", 60⟩].filter fun other : CheckCall =>
        other.key = "a" ∧ (100 : ℚ) - 60 < other.now).length) ∧
    ((⟨1⟩ : RateLimiter).check ((⟨1⟩ : RateLimiter).afterCalls
        [⟨"a", 0⟩, ⟨"b", 1⟩, ⟨"a", 60⟩]) ⟨"a", 100⟩).1 =
      ((⟨1⟩ : RateLimiter).check ((⟨1⟩ : RateLimiter).afterCalls
        ([⟨"a", 0⟩, ⟨"b", 1⟩, ⟨"a", 60⟩].filter fun other : CheckCall => other.key = "a"))
        ⟨"a", 100⟩).1 :=
  rejected_iff ⟨1⟩ (by decide) [⟨"a", 0⟩, ⟨"b", 1⟩, ⟨"a", 60⟩] [] ⟨"a", 100⟩
    ⟨by decide +kernel, by decide +kernel⟩

end LlmopsPlatform.Middleware
