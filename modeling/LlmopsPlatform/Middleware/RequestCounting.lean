import LlmopsPlatform.Middleware.RateLimitSafety

/-!
# Which calls use up the limit

Every call adds its entry in the pipeline that counts the others, so a call that is
rejected is counted by later calls like one that was admitted. When the pipelines are
executed in the order of their readings, a call is admitted if fewer calls than the limit
have readings in the minute before its own, and, as long as the key does not expire early,
only then (`all_calls_use_quota`).

A client that goes on calling while it is rejected is therefore not released when its
admitted calls leave the window (`retrying_client_stays_blocked`).
-/

set_option autoImplicit false

namespace LlmopsPlatform.Middleware

open Foundations TransitionSystem

section System

variable {Call : Type} [DecidableEq Call] (limiter : RateLimiter) (key : Call → String)

/-- The calls on a key that finished with a reading in the minute before a time. -/
def callsWithin (state : LimiterState Call) (name : String) (now : ℚ) : Set Call :=
  {call | key call = name ∧ ∃ reading outcome, state.phase call = .finished reading outcome ∧
    now - 60 < reading ∧ reading < now}

/-- Those among them that were admitted. -/
def admittedWithin (state : LimiterState Call) (name : String) (now : ℚ) : Set Call :=
  {call | key call = name ∧ ∃ reading, state.phase call = .finished reading (.ok ()) ∧
    now - 60 < reading ∧ reading < now}

/-- There are fewer calls than the limit. -/
def FewerThan (limit : Int) (calls : Set Call) : Prop :=
  ∀ chosen : Finset Call, (∀ call ∈ chosen, call ∈ calls) → (chosen.card : Int) < limit

/-- A call is admitted when fewer calls than the limit, of those that count, have readings
in the minute before. -/
def AdmitsBelow (counted : LimiterState Call → String → ℚ → Set Call)
    (transition : Transition (LimiterState Call) (LimiterStep Call)) : Prop :=
  match transition.label with
  | .execute call =>
      ∀ now, transition.before.phase call = .read now →
        FewerThan limiter.rpm (counted transition.before (key call) now) →
        transition.after.phase call = .finished now (.ok ())
  | _ => True

/-- A call is admitted only then. -/
def AdmitsOnlyBelow (counted : LimiterState Call → String → ℚ → Set Call)
    (transition : Transition (LimiterState Call) (LimiterStep Call)) : Prop :=
  match transition.label with
  | .execute call =>
      ∀ now, transition.before.phase call = .read now →
        transition.after.phase call = .finished now (.ok ()) →
        FewerThan limiter.rpm (counted transition.before (key call) now)
  | _ => True

/-- The pipelines on one key are executed in the order of their readings. A reading is a
number of seconds since the epoch. -/
def ExecutesInOrder (transition : Transition (LimiterState Call) (LimiterStep Call)) : Prop :=
  match transition.label with
  | .execute call =>
      ∀ now, transition.before.phase call = .read now → 0 ≤ now ∧
        ∀ earlier reading outcome, transition.before.phase earlier = .finished reading outcome →
          key earlier = key call → reading < now
  | _ => True

/-- The pipeline is executed within a minute of the reading, where the clock of Redis is
ahead of the readings by an offset. -/
def ExecutesPromptly (offset : ℚ)
    (transition : Transition (LimiterState Call) (LimiterStep Call)) : Prop :=
  match transition.label with
  | .execute call =>
      ∀ now, transition.before.phase call = .read now →
        offset + now ≤ transition.before.redis.clock ∧
          transition.before.redis.clock < offset + now + 60
  | _ => True

/-- Every entry is the reading of a call that finished on the key, and on one key every
reading is that of one call. -/
structure EntriesInvariant (state : LimiterState Call) : Prop where
  entries : ∀ name member score,
    SortedSet.zscore (state.redis.keys (redisKey name)).members member = some score →
      member = str score ∧ 0 ≤ score ∧
        ∃ call outcome, key call = name ∧ state.phase call = .finished score outcome
  distinct : ∀ first second reading firstOutcome secondOutcome,
    state.phase first = .finished reading firstOutcome →
      state.phase second = .finished reading secondOutcome → key first = key second →
        first = second

/-- Every call has its entry until another call on the key reads a time that is a minute
later, and the key does not expire before that. -/
structure KeptInvariant (offset : ℚ) (state : LimiterState Call) : Prop where
  kept : ∀ call reading outcome, state.phase call = .finished reading outcome →
    SortedSet.zscore (state.redis.keys (redisKey (key call))).members (str reading) =
        some reading ∨
      ∃ later now outcome, key later = key call ∧ state.phase later = .finished now outcome ∧
        reading + 60 ≤ now
  expires : ∀ call reading outcome, state.phase call = .finished reading outcome →
    ∃ deadline, (state.redis.keys (redisKey (key call))).expires_at = some deadline ∧
      offset + reading + 120 ≤ deadline

variable {limiter key} {state : LimiterState Call} {call : Call} {now : ℚ}

/-! ## Entries are calls -/

theorem EntriesInvariant.of_initial (initial : (limiterSystem limiter key).initial state) :
    EntriesInvariant key state := by
  obtain ⟨noKeys, waiting⟩ := initial
  constructor
  · intro name member score found
    rw [noKeys] at found
    cases found
  · intro first second reading firstOutcome secondOutcome finished
    rw [waiting] at finished
    cases finished

theorem EntriesInvariant.afterExecute (invariant : EntriesInvariant key state)
    (hasRead : state.phase call = .read now) (nonneg : 0 ≤ now)
    (ordered : ∀ earlier reading outcome, state.phase earlier = .finished reading outcome →
      key earlier = key call → reading < now) :
    EntriesInvariant key (state.afterExecute limiter key call now) := by
  constructor
  · intro name member score found
    rcases LimiterState.zscore_afterExecute found with ⟨isKey, isOwn, rfl⟩ | before
    · exact ⟨isOwn, nonneg, call, _, (redisKey_injective isKey).symm,
        state.afterExecute_phase_self score⟩
    · obtain ⟨isText, scoreNonneg, other, outcome, named, finished⟩ :=
        invariant.entries _ _ _ before
      exact ⟨isText, scoreNonneg, other, outcome, named,
        LimiterState.finished_afterExecute hasRead finished⟩
  · intro first second reading firstOutcome secondOutcome firstFinished secondFinished sameKey
    rcases LimiterState.finished_cases firstFinished with ⟨rfl, rfl⟩ | firstBefore
    · rcases LimiterState.finished_cases secondFinished with ⟨rfl, -⟩ | secondBefore
      · rfl
      · exact absurd (ordered second _ _ secondBefore sameKey.symm) (lt_irrefl _)
    · rcases LimiterState.finished_cases secondFinished with ⟨rfl, rfl⟩ | secondBefore
      · exact absurd (ordered first _ _ firstBefore sameKey) (lt_irrefl _)
      · exact invariant.distinct first second reading _ _ firstBefore secondBefore sameKey

theorem EntriesInvariant.step (transition : Transition (LimiterState Call) (LimiterStep Call))
    (invariant : EntriesInvariant key transition.before)
    (step : limiterNext limiter key transition.before transition.label = some transition.after)
    (inOrder : ExecutesInOrder key transition) : EntriesInvariant key transition.after := by
  obtain ⟨before, label, after⟩ := transition
  dsimp only at invariant step ⊢
  rcases limiterNext_cases step with ⟨call, now, phase, rfl, waiting, unfinished, rfl⟩ |
    ⟨call, now, rfl, hasRead, rfl⟩ | ⟨seconds, rfl, -, rfl⟩
  · constructor
    · intro name member score found
      obtain ⟨isText, nonneg, other, outcome, named, finished⟩ := invariant.entries _ _ _ found
      exact ⟨isText, nonneg, other, outcome, named,
        (LimiterState.finished_setPhase waiting unfinished).mpr finished⟩
    · intro first second reading firstOutcome secondOutcome firstFinished secondFinished
      exact invariant.distinct first second reading _ _
        ((LimiterState.finished_setPhase waiting unfinished).mp firstFinished)
        ((LimiterState.finished_setPhase waiting unfinished).mp secondFinished)
  · obtain ⟨nonneg, ordered⟩ := inOrder now hasRead
    exact invariant.afterExecute hasRead nonneg ordered
  · exact ⟨invariant.entries, invariant.distinct⟩

/-! ## Calls keep their entries -/

theorem KeptInvariant.of_initial {offset : ℚ}
    (initial : (limiterSystem limiter key).initial state) : KeptInvariant key offset state := by
  obtain ⟨-, waiting⟩ := initial
  constructor <;>
    intro call reading outcome finished <;> rw [waiting] at finished <;> cases finished

omit [DecidableEq Call] in
/-- What a call finds of the calls before, when it executes promptly. -/
theorem KeptInvariant.zscore_members {offset : ℚ} (invariant : KeptInvariant key offset state)
    (prompt : state.redis.clock < offset + now + 60) {earlier : Call} {reading : ℚ}
    {outcome : Except HTTPException Unit}
    (finished : state.phase earlier = .finished reading outcome) (recent : now < reading + 60)
    (ordered : ∀ later reading outcome, state.phase later = .finished reading outcome →
      key later = key earlier → reading < now) :
    SortedSet.zscore (state.redis.members (redisKey (key earlier))) (str reading) =
      some reading := by
  obtain ⟨deadline, expires, isLate⟩ := invariant.expires earlier reading outcome finished
  rcases invariant.kept earlier reading outcome finished with found | ⟨later, other, _, named,
    laterFinished, isLater⟩
  · rw [Redis.members, expires]
    dsimp only
    rw [if_neg (by linarith)]
    exact found
  · linarith [ordered later other _ laterFinished named]

theorem KeptInvariant.afterExecute {offset : ℚ} (invariant : KeptInvariant key offset state)
    (hasRead : state.phase call = .read now)
    (late : offset + now ≤ state.redis.clock) (prompt : state.redis.clock < offset + now + 60)
    (ordered : ∀ earlier reading outcome, state.phase earlier = .finished reading outcome →
      key earlier = key call → reading < now) :
    KeptInvariant key offset (state.afterExecute limiter key call now) := by
  constructor
  · intro other reading outcome finished
    by_cases sameKey : key other = key call
    · rw [sameKey, state.afterExecute_key_self now, Redis.afterCommands, SortedSet.zscore_zadd]
      rcases LimiterState.finished_cases finished with ⟨rfl, rfl⟩ | before
      · exact .inl (if_pos rfl)
      · have earlier := ordered other reading outcome before sameKey
        by_cases recent : now < reading + 60
        · left
          have found := invariant.zscore_members prompt before recent
            fun later laterReading laterOutcome laterFinished named =>
              ordered later laterReading laterOutcome laterFinished (named.trans sameKey)
          rw [sameKey] at found
          have different : str reading ≠ str now :=
            fun same => (ne_of_lt earlier) (congrArg FloatText.value same)
          rw [if_neg different, SortedSet.zscore_zremrangebyscore]
          exact ⟨found, fun range => by linarith [range.2]⟩
        · exact .inr ⟨call, now, _, rfl, state.afterExecute_phase_self now, not_lt.mp recent⟩
    · have different : other ≠ call := fun same => sameKey (congrArg key same)
      rw [state.afterExecute_phase_of_ne now different] at finished
      rw [state.afterExecute_key_of_ne now (redisKey_injective.ne sameKey)]
      rcases invariant.kept other reading outcome finished with found | ⟨later, time, laterOutcome,
        named, laterFinished, isLater⟩
      · exact .inl found
      · exact .inr ⟨later, time, laterOutcome, named,
          LimiterState.finished_afterExecute hasRead laterFinished, isLater⟩
  · intro other reading outcome finished
    by_cases sameKey : key other = key call
    · rw [sameKey, state.afterExecute_key_self now]
      refine ⟨_, rfl, ?_⟩
      rcases LimiterState.finished_cases finished with ⟨rfl, rfl⟩ | before
      · linarith
      · linarith [ordered other reading outcome before sameKey]
    · have different : other ≠ call := fun same => sameKey (congrArg key same)
      rw [state.afterExecute_phase_of_ne now different] at finished
      rw [state.afterExecute_key_of_ne now (redisKey_injective.ne sameKey)]
      exact invariant.expires other reading outcome finished

theorem KeptInvariant.step {offset : ℚ}
    (transition : Transition (LimiterState Call) (LimiterStep Call))
    (invariant : KeptInvariant key offset transition.before)
    (step : limiterNext limiter key transition.before transition.label = some transition.after)
    (guarded : ExecutesInOrder key transition ∧ ExecutesPromptly offset transition) :
    KeptInvariant key offset transition.after := by
  obtain ⟨before, label, after⟩ := transition
  dsimp only at invariant step ⊢
  rcases limiterNext_cases step with ⟨call, now, phase, rfl, waiting, unfinished, rfl⟩ |
    ⟨call, now, rfl, hasRead, rfl⟩ | ⟨seconds, rfl, -, rfl⟩
  · constructor
    · intro other reading outcome finished
      rcases invariant.kept other reading outcome
        ((LimiterState.finished_setPhase waiting unfinished).mp finished) with found | ⟨later, time,
          laterOutcome, named, laterFinished, isLater⟩
      · exact .inl found
      · exact .inr ⟨later, time, laterOutcome, named,
          (LimiterState.finished_setPhase waiting unfinished).mpr laterFinished, isLater⟩
    · intro other reading outcome finished
      exact invariant.expires other reading outcome
        ((LimiterState.finished_setPhase waiting unfinished).mp finished)
  · obtain ⟨late, prompt⟩ := guarded.2 now hasRead
    exact invariant.afterExecute hasRead late prompt (guarded.1 now hasRead).2
  · exact ⟨invariant.kept, invariant.expires⟩

/-! ## The count -/

/-- A call that counts as many entries as the limit is rejected for as many calls in the
minute before. -/
theorem EntriesInvariant.requestCount_lt (invariant : EntriesInvariant key state)
    (ordered : ∀ earlier reading outcome, state.phase earlier = .finished reading outcome →
      key earlier = key call → reading < now)
    (few : FewerThan limiter.rpm (callsWithin key state (key call) now)) :
    (Redis.requestCount (state.redis.members (redisKey (key call))) now : Int) < limiter.rpm := by
  obtain ⟨members, counted, present⟩ := SortedSet.exists_card_eq_zcard
    (SortedSet.zremrangebyscore (state.redis.members (redisKey (key call))) 0 (now - 60))
  have entered : ∀ member ∈ members, ∃ earlier ∈ callsWithin key state (key call) now,
      str (state.reading earlier) = member := by
    intro member isMember
    obtain ⟨score, found⟩ := present member isMember
    rw [SortedSet.zscore_zremrangebyscore] at found
    obtain ⟨isText, nonneg, earlier, outcome, named, finished⟩ := invariant.entries _ _ _
      (Redis.zscore_members found.1)
    have recent : now - 60 < score := by
      by_contra old
      exact found.2 ⟨nonneg, not_lt.mp old⟩
    refine ⟨earlier, ⟨named, score, outcome, finished, recent, ordered _ _ _ finished named⟩, ?_⟩
    rw [isText, LimiterState.reading_of_finished finished]
  have : Nonempty Call := ⟨call⟩
  choose! caller isRecent isReading using entered
  have different : Set.InjOn caller members := by
    intro first isFirst second isSecond same
    rw [← isReading first isFirst, ← isReading second isSecond, same]
  have fewer := few (members.image caller) fun earlier isCaller => by
    obtain ⟨member, isMember, rfl⟩ := Finset.mem_image.mp isCaller
    exact isRecent member isMember
  rwa [Finset.card_image_of_injOn different, counted] at fewer

omit [DecidableEq Call] in
/-- The calls in the minute before are counted. -/
theorem KeptInvariant.le_requestCount {offset : ℚ} (invariant : KeptInvariant key offset state)
    (entries : EntriesInvariant key state) (prompt : state.redis.clock < offset + now + 60)
    (ordered : ∀ earlier reading outcome, state.phase earlier = .finished reading outcome →
      key earlier = key call → reading < now)
    {chosen : Finset Call}
    (within : ∀ earlier ∈ chosen, earlier ∈ callsWithin key state (key call) now) :
    chosen.card ≤ Redis.requestCount (state.redis.members (redisKey (key call))) now := by
  apply state.card_le_requestCount
  · intro first isFirst second isSecond same
    obtain ⟨firstNamed, reading, _, firstFinished, -⟩ := within first isFirst
    obtain ⟨secondNamed, other, _, secondFinished, -⟩ := within second isSecond
    rw [LimiterState.reading_of_finished firstFinished,
      LimiterState.reading_of_finished secondFinished] at same
    subst same
    exact entries.distinct first second reading _ _ firstFinished secondFinished
      (firstNamed.trans secondNamed.symm)
  · intro earlier isChosen
    obtain ⟨named, reading, outcome, finished, recent, -⟩ := within earlier isChosen
    have found := invariant.zscore_members prompt finished (by linarith)
      fun later laterReading laterOutcome laterFinished sameKey =>
        ordered later laterReading laterOutcome laterFinished (sameKey.trans named)
    rw [named] at found
    rw [LimiterState.reading_of_finished finished]
    exact ⟨found, recent⟩

theorem admitsBelow_of_invariant
    (transition : Transition (LimiterState Call) (LimiterStep Call))
    (invariant : EntriesInvariant key transition.before)
    (step : limiterNext limiter key transition.before transition.label = some transition.after)
    (inOrder : ExecutesInOrder key transition) :
    AdmitsBelow limiter key (callsWithin key) transition := by
  obtain ⟨before, label, after⟩ := transition
  dsimp only at invariant step
  rcases limiterNext_cases step with ⟨call, now, phase, rfl, -, -, -⟩ |
    ⟨call, now, rfl, hasRead, rfl⟩ | ⟨seconds, rfl, -, -⟩
  · trivial
  · intro reading isReading few
    obtain rfl : now = reading := CheckPhase.read.inj (hasRead.symm.trans isReading)
    have below := invariant.requestCount_lt (inOrder now hasRead).2 few
    rw [before.afterExecute_phase_self now, RateLimiter.decide, if_neg (not_le.mpr below)]
  · trivial

theorem admitsOnlyBelow_of_invariant {offset : ℚ}
    (transition : Transition (LimiterState Call) (LimiterStep Call))
    (entries : EntriesInvariant key transition.before)
    (kept : KeptInvariant key offset transition.before)
    (step : limiterNext limiter key transition.before transition.label = some transition.after)
    (inOrder : ExecutesInOrder key transition) (promptly : ExecutesPromptly offset transition) :
    AdmitsOnlyBelow limiter key (callsWithin key) transition := by
  obtain ⟨before, label, after⟩ := transition
  dsimp only at entries kept step
  rcases limiterNext_cases step with ⟨call, now, phase, rfl, -, -, -⟩ |
    ⟨call, now, rfl, hasRead, rfl⟩ | ⟨seconds, rfl, -, -⟩
  · trivial
  · intro reading isReading admitted chosen within
    obtain rfl : now = reading := CheckPhase.read.inj (hasRead.symm.trans isReading)
    have counted := kept.le_requestCount entries (promptly now hasRead).2 (inOrder now hasRead).2
      within
    rw [before.afterExecute_phase_self now, RateLimiter.decide] at admitted
    split at admitted
    · cases admitted
    · omega
  · trivial

/-- **Admitted and rejected calls use up the limit.** In every run whose pipelines are
executed in the order of their readings, a call is admitted when fewer calls on its key
than the limit, admitted or rejected, have readings in the minute before. When all
pipelines are executed promptly, it is admitted only then. -/
theorem all_calls_use_quota (limiter : RateLimiter) (key : Call → String)
    {start finish : LimiterState Call}
    {transitions : List (Transition (LimiterState Call) (LimiterStep Call))}
    (initial : (limiterSystem limiter key).initial start)
    (run : (limiterSystem limiter key).Run start transitions finish)
    (inOrder : ∀ transition ∈ transitions, ExecutesInOrder key transition) :
    (∀ transition ∈ transitions, AdmitsBelow limiter key (callsWithin key) transition) ∧
      ∀ offset, (∀ transition ∈ transitions, ExecutesPromptly offset transition) →
        ∀ transition ∈ transitions, AdmitsOnlyBelow limiter key (callsWithin key) transition := by
  have entries := (run.invariant (EntriesInvariant key)
    (fun transition invariant step guarded => invariant.step transition step guarded)
    (.of_initial initial) inOrder).2
  constructor
  · intro transition member
    exact admitsBelow_of_invariant transition (entries transition member) (run.step_of_mem member)
      (inOrder transition member)
  · intro offset promptly transition member
    have kept := (run.invariant (KeptInvariant key offset)
      (fun transition invariant step guarded => invariant.step transition step guarded)
      (.of_initial initial)
      fun transition member => ⟨inOrder transition member, promptly transition member⟩).2
    exact admitsOnlyBelow_of_invariant transition (entries transition member)
      (kept transition member) (run.step_of_mem member) (inOrder transition member)
      (promptly transition member)

end System

/-- The two calls, one second apart. The clock of Redis reads zero all the time. -/
theorem two_calls_use_quota :
    (∀ transition ∈ twoCalls, AdmitsBelow twoPerMinute service (callsWithin service) transition) ∧
      ∀ transition ∈ twoCalls,
        AdmitsOnlyBelow twoPerMinute service (callsWithin service) transition := by
  have initial : (limiterSystem twoPerMinute service).initial quietLimiter :=
    ⟨fun _ => rfl, fun _ => rfl⟩
  have inOrder : ∀ transition ∈ twoCalls, ExecutesInOrder service transition := by
    intro transition member
    simp only [twoCalls, List.mem_cons, List.not_mem_nil, or_false] at member
    rcases member with rfl | rfl | rfl | rfl
    · trivial
    · intro now hasRead
      cases hasRead
      refine ⟨by norm_num, fun earlier reading outcome finished => ?_⟩
      fin_cases earlier <;> cases finished
    · trivial
    · intro now hasRead
      cases hasRead
      refine ⟨by norm_num, fun earlier reading outcome finished _ => ?_⟩
      fin_cases earlier
      · cases finished
        norm_num
      · cases finished
      · cases finished
  have promptly : ∀ transition ∈ twoCalls, ExecutesPromptly (-101) transition := by
    intro transition member
    simp only [twoCalls, List.mem_cons, List.not_mem_nil, or_false] at member
    rcases member with rfl | rfl | rfl | rfl
    · trivial
    · intro now hasRead
      cases hasRead
      exact ⟨by decide +kernel, by decide +kernel⟩
    · trivial
    · intro now hasRead
      cases hasRead
      exact ⟨by decide +kernel, by decide +kernel⟩
  have law := all_calls_use_quota twoPerMinute service initial
    ((((TransitionSystem.Run.nil.snoc rfl).snoc rfl).snoc rfl).snoc rfl) inOrder
  exact ⟨law.1, law.2 (-101) promptly⟩

/-! ## A client that retries -/

/-- One call is admitted in a minute. -/
def onePerMinute : RateLimiter := ⟨1⟩

/-- The state in which another call has read the clock, some seconds later. -/
def afterReading (state : LimiterState (Fin 3)) (seconds : ℚ) (call : Fin 3) (now : ℚ) :
    LimiterState (Fin 3) :=
  { state with redis := { state.redis with clock := state.redis.clock + seconds } }.setPhase call
    (.read now)

/-- The state in which the call has ended. -/
def afterRetry (state : LimiterState (Fin 3)) (seconds : ℚ) (call : Fin 3) (now : ℚ) :
    LimiterState (Fin 3) :=
  (afterReading state seconds call now).afterExecute onePerMinute service call now

/-- The transitions in which time passes and another call runs. -/
def retry (state : LimiterState (Fin 3)) (seconds : ℚ) (call : Fin 3) (now : ℚ) :
    List (Transition (LimiterState (Fin 3)) (LimiterStep (Fin 3))) :=
  let waited : LimiterState (Fin 3) :=
    { state with redis := { state.redis with clock := state.redis.clock + seconds } }
  [⟨state, .elapse seconds, waited⟩,
    ⟨waited, .readClock call now, afterReading state seconds call now⟩,
    ⟨afterReading state seconds call now, .execute call, afterRetry state seconds call now⟩]

theorem retry_inOrder {state : LimiterState (Fin 3)} {seconds now : ℚ} {call : Fin 3}
    (nonneg : 0 ≤ now)
    (ordered : ∀ earlier reading outcome, state.phase earlier = .finished reading outcome →
      reading < now) :
    ∀ transition ∈ retry state seconds call now, ExecutesInOrder service transition := by
  intro transition member
  simp only [retry, List.mem_cons, List.not_mem_nil, or_false] at member
  rcases member with rfl | rfl | rfl
  · trivial
  · trivial
  · intro reading hasRead
    rw [afterReading, LimiterState.setPhase_phase_self] at hasRead
    cases hasRead
    refine ⟨nonneg, fun earlier reading outcome finished _ => ?_⟩
    by_cases same : earlier = call
    · subst same
      rw [afterReading, LimiterState.setPhase_phase_self] at finished
      cases finished
    · rw [afterReading, LimiterState.setPhase_phase_of_ne _ same] at finished
      exact ordered earlier reading outcome finished

/-- One call is admitted at 100. -/
def firstAdmitted (first : Fin 3) : LimiterState (Fin 3) := afterRetry quietLimiter 0 first 100

/-- A second call is rejected at 140. -/
def secondRejected (first second : Fin 3) : LimiterState (Fin 3) :=
  afterRetry (firstAdmitted first) 40 second 140

/-- **A blocked client that retries is not released.** One call is allowed in a minute.
Calls are made at the times 100, 140 and 170. The second is rejected, and the third is
rejected because of the second, although no call was admitted in the minute before it. -/
theorem retrying_client_stays_blocked :
    ¬ ∀ (Call : Type) (_ : DecidableEq Call) (limiter : RateLimiter) (key : Call → String)
        (start finish : LimiterState Call)
        (transitions : List (Transition (LimiterState Call) (LimiterStep Call))),
      0 < limiter.rpm → (limiterSystem limiter key).initial start →
      (limiterSystem limiter key).Run start transitions finish →
      (∀ transition ∈ transitions, ExecutesInOrder key transition) →
      ∀ transition ∈ transitions, AdmitsBelow limiter key (admittedWithin key) transition := by
  intro always
  have initial : (limiterSystem onePerMinute service).initial quietLimiter :=
    ⟨fun _ => rfl, fun _ => rfl⟩
  have run : (limiterSystem onePerMinute service).Run quietLimiter
      (retry quietLimiter 0 0 100 ++ retry (firstAdmitted 0) 40 1 140 ++
        retry (secondRejected 0 1) 30 2 170)
      (afterRetry (secondRejected 0 1) 30 2 170) :=
    ((((((((TransitionSystem.Run.nil.snoc rfl).snoc rfl).snoc rfl).snoc rfl).snoc rfl).snoc
      rfl).snoc rfl).snoc rfl).snoc rfl
  have inOrder : ∀ transition ∈ retry quietLimiter 0 0 100 ++ retry (firstAdmitted 0) 40 1 140 ++
      retry (secondRejected 0 1) 30 2 170, ExecutesInOrder service transition := by
    simp only [List.forall_mem_append]
    refine ⟨⟨retry_inOrder (by norm_num) ?_, retry_inOrder (by norm_num) ?_⟩,
      retry_inOrder (by norm_num) ?_⟩
    · intro earlier reading outcome finished
      cases finished
    · intro earlier reading outcome finished
      fin_cases earlier <;> cases finished
      norm_num
    · intro earlier reading outcome finished
      fin_cases earlier <;> cases finished <;> norm_num
  have isLast : ⟨afterReading (secondRejected 0 1) 30 2 170, .execute 2,
      afterRetry (secondRejected 0 1) 30 2 170⟩ ∈ retry (secondRejected 0 1) 30 2 170 := by
    simp [retry]
  have released := always (Fin 3) _ onePerMinute service _ _ _ (by decide) initial run inOrder _
    (List.mem_append_right _ isLast) 170 rfl
  -- The first call has left the window, and the second was rejected.
  have nobody : ∀ call,
      call ∉ admittedWithin service (afterReading (secondRejected 0 1) 30 2 170) "svc" 170 := by
    have rejected : (afterReading (secondRejected 0 1) 30 2 170).phase 1 =
        .finished 140 (onePerMinute.decide 1) := by decide +kernel
    rintro call ⟨-, reading, finished, recent, -⟩
    fin_cases call
    · cases finished
      norm_num at recent
    · exact absurd (CheckPhase.finished.inj (rejected.symm.trans finished)).2 (by decide)
    · cases finished
  refine absurd (released fun chosen within => ?_) (by decide +kernel)
  rw [Finset.eq_empty_of_forall_notMem fun call isChosen => nobody call (within call isChosen)]
  decide

end LlmopsPlatform.Middleware
