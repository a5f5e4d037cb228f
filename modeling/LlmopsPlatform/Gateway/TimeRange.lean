import LlmopsPlatform.Gateway.Langfuse
import LlmopsPlatform.Gateway.RecordedTotals

/-!
# Summaries of a range of time

A summary can be asked for a range of time. What it should count is said here for a run of
calls, each with its service, its tokens and its time (`totalsOf`, `callsBetween`). Both
trackers are compared with that: the one that keeps observations in Langfuse, and the one
that keeps counters in Redis.

Langfuse filters the observations. The counters in Redis have no times, and their tracker
does not read the bounds. So a summary honours its range exactly when Langfuse is
configured, or when all calls of the service are in the range (`honours_range_iff`).
-/

set_option autoImplicit false

namespace LlmopsPlatform.Gateway

open Foundations Python Database

/-! ## What a summary should count -/

/-- A call as a summary sees it. It has no service when what is stored for it names none. -/
structure TimedCall where
  service_name : Option String
  input_tokens : Int
  output_tokens : Int
  time : Timestamp

/-- The counts and tokens that a summary of one service shows. -/
structure UsageTotals where
  total_requests : Int
  total_input_tokens : Int
  total_output_tokens : Int
deriving DecidableEq

/-- The totals of some calls. -/
def totalsOf (calls : List TimedCall) : UsageTotals where
  total_requests := calls.length
  total_input_tokens := (calls.map TimedCall.input_tokens).sum
  total_output_tokens := (calls.map TimedCall.output_tokens).sum

/-- Whether a range includes its bounds. The contract of `get_summary` does not say. -/
structure RangeEnds where
  fromIncluded : Bool
  toIncluded : Bool

/-- A time lies within the bounds that are given. -/
def RangeEnds.isWithin (ends : RangeEnds) (from_time to_time : Option Timestamp)
    (time : Timestamp) : Bool :=
  from_time.all (fun start => start < time || (ends.fromIncluded && start = time)) &&
    to_time.all (fun stop => time < stop || (ends.toIncluded && stop = time))

/-- The calls of a service within some bounds. -/
def callsBetween (ends : RangeEnds) (service_name : String)
    (from_time to_time : Option Timestamp) (run : List TimedCall) : List TimedCall :=
  run.filter fun call =>
    call.service_name = some service_name && ends.isWithin from_time to_time call.time

/-! ## The trackers -/

/-- `ObservabilityBackendType`. -/
inductive ObservabilityBackendType where
  | langfuse
  | noop
deriving DecidableEq

/-- The classes of trackers. -/
inductive CostTracker where
  | langfuse
  | redis
deriving DecidableEq

/-- `get_cost_tracker`, for the configured backend. -/
def getCostTracker : ObservabilityBackendType → CostTracker
  | .langfuse => .langfuse
  | _ => .redis

/-- What the trackers read: the hashes of Redis with the answers to a scan, and the API of
Langfuse. -/
structure UsageStores where
  redis : RedisHashes
  replies : List ScanReply
  api : ObservationsApi

/-- The totals in the summary of one service. -/
def RedisSummary.totals? : RedisSummary → Option UsageTotals
  | .service totals =>
      some ⟨totals.total_requests, totals.total_input_tokens, totals.total_output_tokens⟩
  | .services _ => none

/-- The totals in the summary of one service. -/
def UsageSummary.totals? : UsageSummary → Option UsageTotals
  | .service summary =>
      some ⟨summary.total_requests, summary.total_input_tokens, summary.total_output_tokens⟩
  | .services _ | .failed => none

/-- The totals that `get_summary` of a tracker shows. -/
def CostTracker.summaryTotals (stores : UsageStores) (service_name : Option String)
    (from_time to_time : Option Timestamp) :
    CostTracker → Except PyException (Option UsageTotals)
  | .langfuse => do
      let summary ← LangfuseCostTracker.getSummary stores.api service_name from_time to_time
      pure summary.totals?
  | .redis => do
      -- `RedisCostTracker.get_summary` has the bounds as parameters and does not use them
      let summary ← RedisCostTracker.getSummary stores.redis stores.replies service_name
      pure (summary.bind RedisSummary.totals?)

/-! ## Recorded runs -/

/-- A call that `RedisCostTracker.record` was told. -/
def TimedCall.ofRecord (recorded : Timestamp × CostRecord) : TimedCall where
  service_name := some recorded.2.service_name
  input_tokens := recorded.2.input_tokens
  output_tokens := recorded.2.output_tokens
  time := recorded.1

/-- A call that Langfuse keeps as an observation with a start time. -/
def TimedCall.ofObservation (observed : Timestamp × Observation) : TimedCall where
  service_name :=
    match observed.2.service with
    | .str name => some name
    | _ => none
  input_tokens := observed.2.tokens "input"
  output_tokens := observed.2.tokens "output"
  time := observed.1

/-- The API answers the requests for a range with the pages of one listing. It has the
observations that start within the range, in some order. -/
def FiltersByStartTime (ends : RangeEnds) (api : ObservationsApi)
    (observations : List (Timestamp × Observation)) : Prop :=
  ∀ from_time to_time, ∃ pages, api.answers from_time to_time = pages.map .ok ∧
    CompletePages pages ∧
    (pages.flatMap ObservationPage.data).Perm
      ((observations.filter fun observed => ends.isWithin from_time to_time observed.1).map
        Prod.snd)

/-- The store of a tracker has a run of calls. -/
inductive Tracks (ends : RangeEnds) (stores : UsageStores) : CostTracker → List TimedCall → Prop
  | langfuse (observations : List (Timestamp × Observation))
      (filters : FiltersByStartTime ends stores.api observations) :
      Tracks ends stores .langfuse (observations.map TimedCall.ofObservation)
  | redis (calls : List (Timestamp × CostRecord))
      (recorded : stores.redis = RedisCostTracker.recordAll (calls.map Prod.snd)) :
      Tracks ends stores .redis (calls.map TimedCall.ofRecord)

/-- The summary of a service counts its calls within the bounds, and no others. -/
def HonoursRange (ends : RangeEnds) (stores : UsageStores) (tracker : CostTracker)
    (run : List TimedCall) (service_name : String) (from_time to_time : Option Timestamp) : Prop :=
  tracker.summaryTotals stores (some service_name) from_time to_time =
    .ok (some (totalsOf (callsBetween ends service_name from_time to_time run)))

/-! ## Langfuse -/

/-- An observation belongs to a service when its metadata names it. -/
theorem equalsText_service_iff (observed : Timestamp × Observation) (service_name : String) :
    observed.2.service.equalsText service_name =
      decide ((TimedCall.ofObservation observed).service_name = some service_name) := by
  unfold TimedCall.ofObservation
  cases observed.2.service <;> simp [Json.equalsText]

/-- The totals that `_aggregate` returns for a service. -/
theorem totals?_aggregate (observations : List Observation) {wanted : String}
    (nonempty : wanted ≠ "") :
    ∃ summary, LangfuseCostTracker.aggregate observations (some wanted) = .ok summary ∧
      summary.totals? = some
        ⟨(observations.filter fun obs => obs.service.equalsText wanted).length,
          ((observations.filter fun obs => obs.service.equalsText wanted).map fun obs =>
            obs.tokens "input").sum,
          ((observations.filter fun obs => obs.service.equalsText wanted).map fun obs =>
            obs.tokens "output").sum⟩ := by
  obtain ⟨summary, returned, counts⟩ :=
    LangfuseCostTracker.aggregate_of_wanted observations nonempty
  refine ⟨.service summary, returned, ?_⟩
  rw [UsageSummary.totals?, counts.requests, counts.input, counts.output]

section Summary

variable {ends : RangeEnds} {stores : UsageStores} {service_name : String}
  {from_time to_time : Option Timestamp}

/-- The observations of a service within the bounds are its calls within them. -/
theorem callsBetween_ofObservation (observations : List (Timestamp × Observation)) :
    callsBetween ends service_name from_time to_time
        (observations.map TimedCall.ofObservation) =
      ((observations.filter fun observed => ends.isWithin from_time to_time observed.1).filter
        fun observed => observed.2.service.equalsText service_name).map
          TimedCall.ofObservation := by
  rw [callsBetween, List.filter_map, List.filter_filter]
  congr 1
  refine List.filter_congr fun observed _ => ?_
  rw [equalsText_service_iff]
  rfl

/-- **The summary of Langfuse** counts the calls of the service within the bounds. -/
theorem honoursRange_langfuse (named : service_name ≠ "")
    {observations : List (Timestamp × Observation)}
    (filters : FiltersByStartTime ends stores.api observations) :
    HonoursRange ends stores .langfuse (observations.map TimedCall.ofObservation) service_name
      from_time to_time := by
  obtain ⟨pages, answered, complete, perm⟩ := filters from_time to_time
  obtain ⟨summary, returned, totals⟩ :=
    totals?_aggregate (pages.flatMap ObservationPage.data) named
  have collected := LangfuseCostTracker.collectPages_of_complete complete []
  have query : LangfuseCostTracker.getSummary stores.api (some service_name) from_time to_time =
      .ok summary := by
    rw [← answered] at collected
    rw [LangfuseCostTracker.getSummary, LangfuseCostTracker.queryLangfuse_of_collected collected,
      List.nil_append, returned]
  have shown : CostTracker.summaryTotals stores (some service_name) from_time to_time .langfuse =
      .ok summary.totals? := by
    rw [CostTracker.summaryTotals, query]
    rfl
  have ofService := (perm.filter fun obs => obs.service.equalsText service_name)
  rw [HonoursRange, shown, totals, callsBetween_ofObservation, ofService.length_eq,
    (ofService.map _).sum_eq, (ofService.map _).sum_eq, List.filter_map]
  simp only [totalsOf, List.length_map, List.map_map]
  rfl

/-! ## Redis -/

/-- **The summary of Redis** counts all calls of the service. -/
theorem summaryTotals_redis (named : service_name ≠ "") {calls : List (Timestamp × CostRecord)}
    (recorded : stores.redis = RedisCostTracker.recordAll (calls.map Prod.snd)) :
    CostTracker.summaryTotals stores (some service_name) from_time to_time .redis =
      .ok (some (totalsOf ((calls.map TimedCall.ofRecord).filter fun call =>
        call.service_name = some service_name))) := by
  have ofService : callsUnder service_name (calls.map Prod.snd) =
      (calls.filter fun call => call.2.service_name = service_name).map Prod.snd := by
    rw [callsUnder, List.filter_map]
    rfl
  rw [CostTracker.summaryTotals, RedisCostTracker.getSummary_of_named named, recorded,
    RedisCostTracker.getServiceSummary_recordAll, ofService, List.filter_map]
  simp [Except.map, bind, Except.bind, pure, Except.pure, RedisSummary.totals?,
    ServiceTotals.ofCalls, totalsOf, TimedCall.ofRecord, Function.comp_def]

/-- Filtering by a range as well leaves the totals the same only if nothing is left out. -/
theorem honoursRange_redis_iff (named : service_name ≠ "")
    {calls : List (Timestamp × CostRecord)}
    (recorded : stores.redis = RedisCostTracker.recordAll (calls.map Prod.snd)) :
    HonoursRange ends stores .redis (calls.map TimedCall.ofRecord) service_name from_time
        to_time ↔
      ∀ call ∈ calls.map TimedCall.ofRecord, call.service_name = some service_name →
        ends.isWithin from_time to_time call.time = true := by
  have split : callsBetween ends service_name from_time to_time (calls.map TimedCall.ofRecord) =
      ((calls.map TimedCall.ofRecord).filter fun call =>
        call.service_name = some service_name).filter fun call =>
          ends.isWithin from_time to_time call.time := by
    rw [callsBetween, List.filter_filter]
    exact List.filter_congr fun call _ => Bool.and_comm _ _
  rw [HonoursRange, summaryTotals_redis named recorded, split, Except.ok.injEq,
    Option.some.injEq]
  constructor
  · intro same call member ofService
    have lengths : (_ : Int) = _ := congrArg UsageTotals.total_requests same
    have all := List.length_filter_eq_length_iff.mp (Int.ofNat_inj.mp lengths).symm
    exact all call (List.mem_filter.mpr ⟨member, by simpa using ofService⟩)
  · intro inside
    refine congrArg totalsOf (List.filter_eq_self.mpr ?_).symm
    intro call member
    obtain ⟨recordedCall, ofService⟩ := List.mem_filter.mp member
    exact inside call recordedCall (by simpa using ofService)

/-! ## Both trackers -/

/-- **Ranges of summaries.** Whatever calls the configured tracker has, the summary of a
service counts its calls within the bounds and no others exactly when Langfuse is
configured, or all calls of the service lie within the bounds. -/
theorem honours_range_iff (backend : ObservabilityBackendType) (run : List TimedCall)
    (tracks : Tracks ends stores (getCostTracker backend) run) (named : service_name ≠ "") :
    HonoursRange ends stores (getCostTracker backend) run service_name from_time to_time ↔
      backend = .langfuse ∨
        ∀ call ∈ run, call.service_name = some service_name →
          ends.isWithin from_time to_time call.time = true := by
  cases backend with
  | langfuse =>
      rw [or_iff_left_of_imp fun _ => rfl, iff_true_right rfl]
      rcases tracks with ⟨observations, filters⟩
      exact honoursRange_langfuse named filters
  | noop =>
      rcases tracks with - | ⟨calls, recorded⟩
      rw [or_iff_right (by simp)]
      exact honoursRange_redis_iff named recorded

end Summary

/-- Stores in which only Redis has calls. -/
def redisStores (calls : List (Timestamp × CostRecord)) : UsageStores where
  redis := RedisCostTracker.recordAll (calls.map Prod.snd)
  replies := []
  api := ⟨fun _ _ => []⟩

/-- A range with all calls of the service, and one call of another service outside it. -/
theorem whole_range_is_honoured :
    HonoursRange ⟨true, false⟩
      (redisStores [(12, ⟨"chat", "gemini-a", 3, 4⟩), (40, ⟨"search", "gemini-a", 5, 6⟩)])
      (getCostTracker .noop)
      ([(12, ⟨"chat", "gemini-a", 3, 4⟩), (40, ⟨"search", "gemini-a", 5, 6⟩)].map
        TimedCall.ofRecord) "chat" (some 10) (some 20) :=
  (honours_range_iff .noop _ (.redis _ rfl) (by decide)).mpr (.inr (by decide))

/-- Redis counts a call that was made before the range. -/
theorem earlier_call_is_counted :
    ¬∀ (ends : RangeEnds) (stores : UsageStores) (backend : ObservabilityBackendType)
        (run : List TimedCall), Tracks ends stores (getCostTracker backend) run →
      ∀ (service_name : String) (from_time to_time : Option Timestamp), service_name ≠ "" →
        HonoursRange ends stores (getCostTracker backend) run service_name from_time to_time := by
  intro always
  have honoured := always ⟨true, false⟩ (redisStores [(5, ⟨"chat", "gemini-a", 3, 4⟩)]) .noop _
    (.redis _ rfl) "chat" (some 10) none (by decide)
  have inside := (honoursRange_redis_iff (by decide) rfl).mp honoured _ List.mem_cons_self rfl
  exact absurd inside (by decide)

end LlmopsPlatform.Gateway
