import LlmopsPlatform.Foundations.Separators
import LlmopsPlatform.Gateway.UsageListing

/-!
# The counters of a model in Redis

A call also writes a hash for its service and its model. The key of this hash joins both
names with a colon, and either name can have colons of its own. So two pairs of a service
and a model have one key when the text of the key can be cut at two of its colons, and
then the calls of both pairs are added up in one hash.

The counters of every recorded pair are exact just when no two recorded calls cut one text
at different colons (`exactCounters_iff`).
-/

set_option autoImplicit false

namespace LlmopsPlatform.Gateway

open Foundations Python CounterStore

/-- The calls under a service and a model. -/
def callsOfModel (service model : String) (calls : List CostRecord) : List CostRecord :=
  calls.filter fun entry => entry.service_name = service ∧ entry.model = model

/-- The fields of a model, with the amount that a call adds to each. -/
def modelFields : List (String × (CostRecord → ℚ)) := [
  ("cost", CostRecord.cost),
  ("input_tokens", fun entry => entry.input_tokens),
  ("output_tokens", fun entry => entry.output_tokens),
  ("requests", fun _ => 1)
]

namespace RedisCostTracker

/-- A counter of the hash under the key of a service and a model. -/
def modelCounter (redis : RedisHashes) (service model field : String) : ℚ :=
  counter redis (modelKey service model) field

/-- The counters of each recorded service and model have the amounts of its own calls, and
no two of these pairs share a hash. -/
structure ExactCounters (calls : List CostRecord) : Prop where
  requests : ∀ call ∈ calls,
    modelCounter (recordAll calls) call.service_name call.model "requests" =
      (callsOfModel call.service_name call.model calls).length
  input_tokens : ∀ call ∈ calls,
    modelCounter (recordAll calls) call.service_name call.model "input_tokens" =
      (((callsOfModel call.service_name call.model calls).map CostRecord.input_tokens).sum : Int)
  output_tokens : ∀ call ∈ calls,
    modelCounter (recordAll calls) call.service_name call.model "output_tokens" =
      (((callsOfModel call.service_name call.model calls).map CostRecord.output_tokens).sum : Int)
  separate : ∀ first ∈ calls, ∀ second ∈ calls,
    modelKey first.service_name first.model = modelKey second.service_name second.model →
      first.service_name = second.service_name ∧ first.model = second.model

/-- The service of one call goes on, after a colon, with a text that the model of the other
starts with, and what the latter has after a further colon is the model of the former. -/
def OneTextCutTwice (first second : CostRecord) : Prop :=
  ∃ middle, second.service_name = first.service_name ++ ":" ++ middle ∧
    first.model = middle ++ ":" ++ second.model

/-! ## Keys -/

/-- A later cut of a text, in the characters of both names. -/
theorem oneTextCutTwice_iff {first second : CostRecord} :
    OneTextCutTwice first second ↔
      LaterCut ':' first.service_name.toList first.model.toList second.service_name.toList
        second.model.toList := by
  constructor
  · rintro ⟨middle, service, model⟩
    refine ⟨middle.toList, ?_, ?_⟩
    · rw [service]
      simp
    · rw [model]
      simp
  · rintro ⟨middle, service, model⟩
    refine ⟨String.ofList middle, String.toList_injective ?_, String.toList_injective ?_⟩
    · rw [service]
      simp
    · rw [model]
      simp

theorem modelKey_toList (service model : String) :
    (modelKey service model).toList =
      "llmops:usage:".toList ++ (service.toList ++ ':' :: model.toList) := by
  change ("llmops:usage:" ++ service ++ ":" ++ model).toList = _
  simp [String.toList_append]

/-- **Two calls have one model key** when they have the same service and model, or when they
cut one text at different colons. -/
theorem modelKey_eq_iff {first second : CostRecord} :
    modelKey first.service_name first.model = modelKey second.service_name second.model ↔
      (first.service_name = second.service_name ∧ first.model = second.model) ∨
        OneTextCutTwice first second ∨ OneTextCutTwice second first := by
  rw [← String.toList_inj, modelKey_toList, modelKey_toList, List.append_right_inj,
    append_separator_eq_iff, String.toList_inj, String.toList_inj, oneTextCutTwice_iff,
    oneTextCutTwice_iff]

/-! ## Counters -/

/-- A call changes the fields of a model under its own model key, and under no other key, not
even where that key is the key of its service. -/
theorem amountsFor_recordCommands_model {field : String} {amount : CostRecord → ℚ}
    (ofModel : (field, amount) ∈ modelFields) (entry : CostRecord) (key : String) :
    amountsFor (recordCommands entry) key field =
      if modelKey entry.service_name entry.model = key then [amount entry] else [] := by
  simp only [modelFields, List.mem_cons, Prod.mk.injEq, List.not_mem_nil, or_false] at ofModel
  by_cases own : modelKey entry.service_name entry.model = key
  · rcases ofModel with ⟨rfl, rfl⟩ | ⟨rfl, rfl⟩ | ⟨rfl, rfl⟩ | ⟨rfl, rfl⟩ <;>
      simp [amountsFor, recordCommands, own]
  · rcases ofModel with ⟨rfl, rfl⟩ | ⟨rfl, rfl⟩ | ⟨rfl, rfl⟩ | ⟨rfl, rfl⟩ <;>
      simp [amountsFor, recordCommands, own]

/-- **A counter of a model** is the sum over all calls with its key. -/
theorem modelCounter_recordAll {field : String} {amount : CostRecord → ℚ}
    (ofModel : (field, amount) ∈ modelFields) (calls : List CostRecord)
    (service model : String) :
    modelCounter (recordAll calls) service model field =
      ((calls.filter fun entry =>
        modelKey entry.service_name entry.model = modelKey service model).map amount).sum :=
  counter_recordAll_of_own (fun entry => amountsFor_recordCommands_model ofModel entry _) calls

/-! ## Calls that cut no text twice -/

section Apart

variable {calls : List CostRecord}
  (apart : ∀ first ∈ calls, ∀ second ∈ calls, ¬OneTextCutTwice first second)

include apart

/-- One key is one pair. -/
theorem pair_of_modelKey_eq {first second : CostRecord} (recorded : first ∈ calls)
    (other : second ∈ calls)
    (same : modelKey first.service_name first.model = modelKey second.service_name second.model) :
    first.service_name = second.service_name ∧ first.model = second.model := by
  rcases modelKey_eq_iff.mp same with pair | cut | cut
  · exact pair
  · exact absurd cut (apart first recorded second other)
  · exact absurd cut (apart second other first recorded)

variable {call : CostRecord} (recorded : call ∈ calls)

include recorded

/-- The calls with the key of a recorded call are those of its service and model. -/
theorem filter_modelKey_eq :
    (calls.filter fun entry =>
        modelKey entry.service_name entry.model = modelKey call.service_name call.model) =
      callsOfModel call.service_name call.model calls := by
  refine List.filter_congr fun entry member => ?_
  rw [decide_eq_decide]
  constructor
  · exact pair_of_modelKey_eq apart member recorded
  · rintro ⟨service, model⟩
    rw [service, model]

/-- A whole amount of such calls. -/
theorem modelCounter_of_apart {field : String} {amount : CostRecord → Int}
    (ofModel : (field, fun entry => (amount entry : ℚ)) ∈ modelFields) :
    modelCounter (recordAll calls) call.service_name call.model field =
      (((callsOfModel call.service_name call.model calls).map amount).sum : Int) := by
  rw [modelCounter_recordAll ofModel, filter_modelKey_eq apart recorded, Int.cast_list_sum,
    List.map_map]
  rfl

end Apart

/-- **The counters of a model.** After calls under any services and models, the counters of
every recorded pair are exact just when no two recorded calls cut one text at different
colons. -/
theorem exactCounters_iff (calls : List CostRecord) :
    ExactCounters calls ↔
      ∀ first ∈ calls, ∀ second ∈ calls, ¬OneTextCutTwice first second := by
  constructor
  · intro counters first recorded second other cut
    have sameKey := modelKey_eq_iff.mpr (.inr (.inl cut))
    have samePair := counters.separate first recorded second other sameKey
    exact (oneTextCutTwice_iff.mp cut).ne (congrArg String.toList samePair.1.symm)
  · intro apart
    refine ⟨fun call recorded => ?_, fun call recorded => ?_, fun call recorded => ?_, ?_⟩
    · have oneEach : ("requests", fun _ => ((1 : Int) : ℚ)) ∈ modelFields := by
        simp [modelFields]
      rw [modelCounter_of_apart apart recorded oneEach]
      simp
    · exact modelCounter_of_apart apart recorded (by simp [modelFields])
    · exact modelCounter_of_apart apart recorded (by simp [modelFields])
    · intro first recorded second other same
      exact pair_of_modelKey_eq apart recorded other same

/-- The services "team" and "team:gemini-a" are recorded with models such that both calls have
the key of one hash. -/
theorem shared_model_hash :
    ¬ExactCounters
      [⟨"team", "gemini-a:gemini-b", 10, 20⟩, ⟨"team:gemini-a", "gemini-b", 1, 2⟩] := by
  intro counters
  have same := counters.separate _ List.mem_cons_self _ (List.mem_cons_of_mem _ List.mem_cons_self)
    (by decide)
  exact absurd same.1 (by decide)

end RedisCostTracker

end LlmopsPlatform.Gateway
