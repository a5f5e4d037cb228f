import LlmopsPlatform.Gateway.CostTracker
import Mathlib.Algebra.BigOperators.Ring.Finset

/-!
# The totals of a service in Redis

The model key of one call can be the service key of another: both names are arbitrary
texts, and the separator can occur in them. Such calls write the same hash. But the fields
of a service and those of a model have different names, so each total of a service has
grown by exactly the calls under that service (`counter_recordAll`).

The cost of each call is rounded once, and the sum is not rounded again. So the total cost
is off by at most half of the last decimal for each call (`recorded_totals`).
-/

set_option autoImplicit false

namespace LlmopsPlatform.Gateway

open Foundations Python CounterStore

/-- The calls under a service. -/
def callsUnder (service : String) (calls : List CostRecord) : List CostRecord :=
  calls.filter fun entry => entry.service_name = service

/-- The totals of some calls of a service. -/
def ServiceTotals.ofCalls (service : String) (calls : List CostRecord) : ServiceTotals where
  service
  total_cost := (calls.map CostRecord.cost).sum
  total_input_tokens := (calls.map CostRecord.input_tokens).sum
  total_output_tokens := (calls.map CostRecord.output_tokens).sum
  total_requests := calls.length

/-- The fields of a service, with the amount that a call adds to each. -/
def totalFields : List (String × (CostRecord → ℚ)) := [
  ("total_cost", CostRecord.cost),
  ("total_input_tokens", fun entry => entry.input_tokens),
  ("total_output_tokens", fun entry => entry.output_tokens),
  ("total_requests", fun _ => 1)
]

namespace RedisCostTracker

@[simp] theorem serviceKey_inj {first second : String} :
    serviceKey first = serviceKey second ↔ first = second := by
  unfold serviceKey
  exact String.append_right_inj _

/-- A call changes a total of its own service, and no total of another, not even where its
model key is the key of that service. -/
theorem amountsFor_recordCommands {field : String} {amount : CostRecord → ℚ}
    (total : (field, amount) ∈ totalFields) (entry : CostRecord) (service : String) :
    amountsFor (recordCommands entry) (serviceKey service) field =
      if entry.service_name = service then [amount entry] else [] := by
  simp only [totalFields, List.mem_cons, Prod.mk.injEq, List.not_mem_nil, or_false] at total
  by_cases own : entry.service_name = service
  · rcases total with ⟨rfl, rfl⟩ | ⟨rfl, rfl⟩ | ⟨rfl, rfl⟩ | ⟨rfl, rfl⟩ <;>
      simp [amountsFor, recordCommands, own]
  · rcases total with ⟨rfl, rfl⟩ | ⟨rfl, rfl⟩ | ⟨rfl, rfl⟩ | ⟨rfl, rfl⟩ <;>
      simp [amountsFor, recordCommands, own]

/-- The calls write their commands one after another. -/
theorem recordAll_eq (calls : List CostRecord) :
    recordAll calls = incrementAll .empty (calls.flatMap recordCommands) := by
  unfold recordAll incrementAll
  rw [List.foldl_flatMap]
  rfl

/-- A counter that a call of its own increases once, and no other call, has the sum over
its own calls. -/
theorem counter_recordAll_of_own {key field : String} {own : CostRecord → Prop}
    [DecidablePred own] {amount : CostRecord → ℚ}
    (writes : ∀ entry, amountsFor (recordCommands entry) key field =
      if own entry then [amount entry] else []) (calls : List CostRecord) :
    counter (recordAll calls) key field =
      ((calls.filter fun entry => own entry).map amount).sum := by
  rw [recordAll_eq, counter_incrementAll, counter_empty, zero_add, amountsFor_flatMap]
  congr 1
  induction calls with
  | nil => rfl
  | cons entry rest ih =>
      rw [List.flatMap_cons, writes, ih]
      by_cases isOwn : own entry
      · simp [isOwn]
      · simp [isOwn]

/-- **A total of a service** is the sum over the calls under that service. -/
theorem counter_recordAll {field : String} {amount : CostRecord → ℚ}
    (total : (field, amount) ∈ totalFields) (calls : List CostRecord) (service : String) :
    counter (recordAll calls) (serviceKey service) field =
      ((callsUnder service calls).map amount).sum :=
  counter_recordAll_of_own (fun entry => amountsFor_recordCommands total entry service) calls

theorem intOfText_intCast (amount : Int) : intOfText amount = .ok amount := rfl

/-- A whole amount of the calls is read back as a whole number. -/
theorem intOfText_recordAll {field : String} {amount : CostRecord → Int}
    (total : (field, fun entry => (amount entry : ℚ)) ∈ totalFields)
    (calls : List CostRecord) (service : String) :
    intOfText (counter (recordAll calls) (serviceKey service) field) =
      .ok ((callsUnder service calls).map amount).sum := by
  have whole : ((callsUnder service calls).map fun entry => (amount entry : ℚ)).sum =
      (((callsUnder service calls).map amount).sum : Int) := by
    rw [Int.cast_list_sum, List.map_map]
    rfl
  rw [counter_recordAll total, whole, intOfText_intCast]

/-- **The summary of a service** has the totals of its calls. The counts are whole numbers,
so that reading them does not fail. -/
theorem getServiceSummary_recordAll (calls : List CostRecord) (service : String) :
    getServiceSummary (recordAll calls) service =
      .ok (.ofCalls service (callsUnder service calls)) := by
  have cost : counter (recordAll calls) (serviceKey service) "total_cost" =
      ((callsUnder service calls).map CostRecord.cost).sum :=
    counter_recordAll (by simp [totalFields]) calls service
  have input : intOfText (counter (recordAll calls) (serviceKey service) "total_input_tokens") =
      .ok ((callsUnder service calls).map CostRecord.input_tokens).sum :=
    intOfText_recordAll (by simp [totalFields]) calls service
  have output : intOfText (counter (recordAll calls) (serviceKey service) "total_output_tokens") =
      .ok ((callsUnder service calls).map CostRecord.output_tokens).sum :=
    intOfText_recordAll (by simp [totalFields]) calls service
  have requests : intOfText (counter (recordAll calls) (serviceKey service) "total_requests") =
      .ok ((callsUnder service calls).map fun _ => (1 : Int)).sum :=
    intOfText_recordAll (by simp [totalFields]) calls service
  unfold counter at cost input output requests
  simp only [getServiceSummary, cost, input, output, requests]
  simp [ServiceTotals.ofCalls, Bind.bind, Except.bind, Pure.pure, Except.pure]

end RedisCostTracker

/-! ## Rounding -/

/-- Half of the last decimal of a recorded cost. -/
theorem CostRecord.abs_cost_sub_exactPrice_le (entry : CostRecord) :
    |entry.cost - entry.exactPrice| ≤ 5 / 10 ^ 9 := by
  have rounded : |entry.cost - entry.exactPrice| ≤ 1 / 2 / 10 ^ 8 :=
    abs_roundDecimals_sub_le 8 entry.exactPrice
  norm_num at rounded ⊢
  exact rounded

/-- The errors of the calls add up. -/
theorem abs_sum_cost_sub_le (calls : List CostRecord) :
    |(calls.map CostRecord.cost).sum - (calls.map CostRecord.exactPrice).sum| ≤
      5 / 10 ^ 9 * calls.length := by
  induction calls with
  | nil => simp
  | cons entry rest ih =>
      have here := entry.abs_cost_sub_exactPrice_le
      rw [List.map_cons, List.map_cons, List.sum_cons, List.sum_cons, add_sub_add_comm,
        List.length_cons, Nat.cast_add, Nat.cast_one, mul_add, mul_one, add_comm (_ * _)]
      exact (abs_add_le _ _).trans (add_le_add here ih)

namespace RedisCostTracker

/-- **Totals of a service.** Whatever calls were recorded, the summary of a service counts the
calls under that service and adds up their tokens, and its cost differs from their exact
price by at most half of the eighth decimal for each. -/
theorem recorded_totals (calls : List CostRecord) (replies : List ScanReply) (service : String)
    (named : service ≠ "") :
    ∃ totals, getSummary (recordAll calls) replies (some service) =
        .ok (some (.service totals)) ∧
      totals.service = service ∧
      totals.total_requests = (callsUnder service calls).length ∧
      totals.total_input_tokens = ((callsUnder service calls).map CostRecord.input_tokens).sum ∧
      totals.total_output_tokens = ((callsUnder service calls).map CostRecord.output_tokens).sum ∧
      |totals.total_cost - ((callsUnder service calls).map CostRecord.exactPrice).sum| ≤
        5 / 10 ^ 9 * (callsUnder service calls).length := by
  refine ⟨.ofCalls service (callsUnder service calls), ?_, rfl, rfl, rfl, rfl,
    abs_sum_cost_sub_le (callsUnder service calls)⟩
  rw [getSummary_of_named named, getServiceSummary_recordAll]
  rfl

/-- The model key of the first call is the service key of the second. -/
theorem colliding_totals :
    ∃ totals, getSummary (recordAll [⟨"team", "app", 1000, 200⟩, ⟨"team:app", "team", 5, 7⟩]) []
        (some "team:app") = .ok (some (.service totals)) ∧
      totals.total_requests = 1 ∧ totals.total_input_tokens = 5 := by
  obtain ⟨totals, summary, -, requests, input, -⟩ :=
    recorded_totals [⟨"team", "app", 1000, 200⟩, ⟨"team:app", "team", 5, 7⟩] [] "team:app"
      (by decide)
  exact ⟨totals, summary, requests, input⟩

end RedisCostTracker

end LlmopsPlatform.Gateway
