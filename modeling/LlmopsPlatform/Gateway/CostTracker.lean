import LlmopsPlatform.Foundations.CounterStore
import LlmopsPlatform.Foundations.Rounding
import LlmopsPlatform.Gateway.Router
import LlmopsPlatform.Python.Text

/-!
# Usage and cost in Redis

The cost tracker keeps two hashes for a call in Redis: one under the service name, and
one under the service name and the model. The summary of a service reads the first. The
summary of all services scans the keys, and recovers the service name from a key.

The amounts are exact: prices are decimals, and a cost is rounded to eight decimals. The
counters have no bound here, while Redis keeps the token counts in 64 bits.
-/

set_option autoImplicit false

namespace LlmopsPlatform.Gateway

open Foundations Python

/-- The price of a million tokens, in USD. -/
structure Pricing where
  input : ℚ
  output : ℚ

/-- `COST_PER_MILLION`. -/
def costPerMillion : List (String × Pricing) := [
  ("claude-opus-4-20250514", ⟨15.0, 75.0⟩),
  ("claude-sonnet-4-20250514", ⟨3.0, 15.0⟩),
  ("claude-haiku-4-20250506", ⟨0.80, 4.0⟩),
  ("gemini-2.5-pro-preview-05-06", ⟨1.25, 10.0⟩),
  ("gemini-2.5-flash-preview-05-20", ⟨0.15, 0.60⟩),
  ("gemini-2.0-flash", ⟨0.10, 0.40⟩),
  ("gemini-2.0-flash-lite", ⟨0.075, 0.30⟩)
]

/-- The price of a model. An unknown model has a default. -/
def pricingOf (model : String) : Pricing := (costPerMillion.lookup model).getD ⟨1.0, 3.0⟩

/-- The cost of some tokens before it is rounded. -/
def exactCost (model : String) (input_tokens output_tokens : Int) : ℚ :=
  let pricing := pricingOf model
  let input_cost := ((input_tokens : ℚ) / 1000000) * pricing.input
  let output_cost := ((output_tokens : ℚ) / 1000000) * pricing.output
  input_cost + output_cost

/-- `estimate_cost`. -/
def estimateCost (model : String) (input_tokens output_tokens : Int) : ℚ :=
  roundDecimals 8 (exactCost model input_tokens output_tokens)

namespace CostRecord

/-- The cost that is recorded for a call. -/
def cost (entry : CostRecord) : ℚ :=
  estimateCost entry.model entry.input_tokens entry.output_tokens

/-- The unrounded price of a call. -/
def exactPrice (entry : CostRecord) : ℚ :=
  exactCost entry.model entry.input_tokens entry.output_tokens

end CostRecord

/-! ## Redis -/

/-- The hashes of Redis. Their fields hold decimal numbers. -/
abbrev RedisHashes := CounterStore String String ℚ

/-- An answer to `SCAN`: some keys, and the cursor of the next request. -/
structure ScanReply where
  cursor : Nat
  keys : List String

/-- `int(text)` for the text of a decimal number. -/
def intOfText (amount : ℚ) : Except PyException Int :=
  if amount.den = 1 then .ok amount.num
  else .error (.valueError "invalid literal for int() with base 10")

/-- The totals of a service. -/
structure ServiceTotals where
  service : String
  total_cost : ℚ
  total_input_tokens : Int
  total_output_tokens : Int
  total_requests : Int

/-- What `get_summary` returns: the totals of one service, or those of all services. -/
inductive RedisSummary where
  | service (totals : ServiceTotals)
  | services (services : OrderedDict String ServiceTotals)

namespace RedisCostTracker

open CounterStore

def serviceKey (service_name : String) : String := "llmops:usage:" ++ service_name

def modelKey (service_name model : String) : String :=
  "llmops:usage:" ++ service_name ++ ":" ++ model

/-- The pipeline of `record`. Redis executes it as one transaction. -/
def recordCommands (entry : CostRecord) : List (Increment String String ℚ) :=
  let svc_key := serviceKey entry.service_name
  let model_key := modelKey entry.service_name entry.model
  [⟨svc_key, "total_cost", entry.cost⟩,
    ⟨svc_key, "total_input_tokens", entry.input_tokens⟩,
    ⟨svc_key, "total_output_tokens", entry.output_tokens⟩,
    ⟨svc_key, "total_requests", 1⟩,
    ⟨model_key, "cost", entry.cost⟩,
    ⟨model_key, "input_tokens", entry.input_tokens⟩,
    ⟨model_key, "output_tokens", entry.output_tokens⟩,
    ⟨model_key, "requests", 1⟩]

/-- `RedisCostTracker.record`, with the hashes that it leaves. -/
def record (redis : RedisHashes) (entry : CostRecord) : ℚ × RedisHashes :=
  (entry.cost, redis.incrementAll (recordCommands entry))

/-- `_get_service_summary`. -/
def getServiceSummary (redis : RedisHashes) (service_name : String) :
    Except PyException ServiceTotals := do
  let data := redis.hashAt (serviceKey service_name)
  let total_input_tokens ← intOfText (amountIn data "total_input_tokens")
  let total_output_tokens ← intOfText (amountIn data "total_output_tokens")
  let total_requests ← intOfText (amountIn data "total_requests")
  pure {
    service := service_name
    total_cost := amountIn data "total_cost"
    total_input_tokens, total_output_tokens, total_requests }

/-- The body of the loop over the keys of one answer. -/
def addKey (redis : RedisHashes) (services : OrderedDict String ServiceTotals) (key : String) :
    Except PyException (OrderedDict String ServiceTotals) :=
  match split ':' key with
  | [_, _, svc] =>
      if (services.get? svc).isSome then .ok services
      else do
        let totals ← getServiceSummary redis svc
        pure (services.set svc totals)
  | _ => .ok services

/-- The loop over the answers to `SCAN`. It ends with the cursor 0, and has no result while
there is no such answer. -/
def scanServices (redis : RedisHashes) :
    List ScanReply → OrderedDict String ServiceTotals →
      Except PyException (Option (OrderedDict String ServiceTotals))
  | [], _ => .ok none
  | reply :: further, services => do
      let services ← reply.keys.foldlM (addKey redis) services
      if reply.cursor = 0 then pure (some services) else scanServices redis further services

/-- `RedisCostTracker.get_summary`, with the answers of Redis to the successive `SCAN`
requests for the pattern "llmops:usage:*". -/
def getSummary (redis : RedisHashes) (replies : List ScanReply) (service_name : Option String) :
    Except PyException (Option RedisSummary) :=
  match service_name.filter (· ≠ "") with
  | some service_name => do
      let totals ← getServiceSummary redis service_name
      pure (some (.service totals))
  | none => do
      let services ← scanServices redis replies .empty
      pure (services.map .services)

theorem getSummary_of_named {service : String} (named : service ≠ "") (redis : RedisHashes)
    (replies : List ScanReply) :
    getSummary redis replies (some service) =
      (getServiceSummary redis service).map fun totals => some (.service totals) := by
  have kept : (some service).filter (· ≠ "") = some service := by simp [named]
  unfold getSummary
  rw [kept]
  rfl

/-- The hashes after some calls of `record`. -/
def recordAll (calls : List CostRecord) : RedisHashes :=
  calls.foldl (fun redis entry => (record redis entry).2) .empty

end RedisCostTracker

end LlmopsPlatform.Gateway
