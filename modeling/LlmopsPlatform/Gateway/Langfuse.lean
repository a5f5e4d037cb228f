import LlmopsPlatform.Database.Query
import LlmopsPlatform.Foundations.Tallies
import LlmopsPlatform.Gateway.Router
import LlmopsPlatform.Python.Float

/-!
# The Langfuse backend and the Langfuse cost tracker

The backend turns a logged generation into an observation of the Langfuse service. The
cost tracker records nothing itself: it reads the observations back, page by page, and
adds them up by service and model. The service is found in the metadata of an
observation.

The service that stores the observations and computes their cost is not part of the
repository. Its answers are a parameter, `ObservationsApi`.

Where every observation names a service in its metadata, the summary of a service
counts exactly the observations that name it (`aggregate_of_named`).
-/

set_option autoImplicit false

namespace LlmopsPlatform.Gateway

open Foundations Python Database

/-- The arguments of `start_observation` for a generation. -/
structure StartedGeneration where
  trace_id : String
  name : String
  model : String
  input : List Message
  output : String
  usage_details : List (String × Int)
  metadata : List (String × Json)

/-- `LangfuseBackend.log_generation`, for the usage dictionary that the router passes,
which has all three keys. -/
def LangfuseBackend.logGeneration (log : GenerationLog) : StartedGeneration where
  trace_id := log.trace_id
  name := log.name
  model := log.model
  input := log.input
  output := log.output
  usage_details := [
    ("input", log.usage.input_tokens),
    ("output", log.usage.output_tokens),
    ("total", log.usage.total_tokens)]
  metadata := log.metadata

/-- An observation as the API returns it. -/
structure Observation where
  metadata : Option Json
  provided_model_name : Option String
  total_cost : Option ℚ
  usage_details : Option (List (String × Option Int))

/-- One answer of the API. -/
structure ObservationPage where
  data : List Observation
  next_cursor : Option String

/-- The pages of one listing: each has a cursor to the next, except the last. -/
def CompletePages (pages : List ObservationPage) : Prop :=
  ∃ before last, pages = before ++ [last] ∧
    (∀ page ∈ before, ∃ cursor, page.next_cursor = some cursor ∧ cursor ≠ "") ∧
    (last.next_cursor = none ∨ last.next_cursor = some "")

/-- The answers of the API to the successive requests for one time range. -/
structure ObservationsApi where
  answers : Option Timestamp → Option Timestamp → List (Except PyException ObservationPage)

/-- The totals of one model of a service. -/
structure ModelUsage where
  cost : ℚ
  input_tokens : Int
  output_tokens : Int
  requests : Int

/-- The totals of one service while they are added up. -/
structure ServiceUsage where
  total_cost : ℚ
  total_input_tokens : Int
  total_output_tokens : Int
  total_requests : Int
  models : OrderedDict String ModelUsage

/-- The summary of one service. Without observations it has no models. -/
structure ServiceSummary where
  service : DictKey
  total_cost : ℚ
  total_input_tokens : Int
  total_output_tokens : Int
  total_requests : Int
  models : Option (OrderedDict String ModelUsage)

/-- What `get_summary` returns: the summary of the service that was asked for, those of
all services, or an error. -/
inductive UsageSummary where
  | service (summary : ServiceSummary)
  | services (summaries : List ServiceSummary)
  | failed

namespace Observation

/-- The service name in the metadata. -/
def service (obs : Observation) : Json :=
  match obs.metadata with
  | some (.dict (entry :: rest)) =>
      (OrderedDict.find "service_name" (entry :: rest)).getD (.str "unknown")
  | _ => .str "unknown"

/-- `usage.get(key, 0) or 0`. -/
def tokens (obs : Observation) (key : String) : Int :=
  ((OrderedDict.find key (obs.usage_details.getD [])).getD (some 0)).getD 0

def model (obs : Observation) : String := (obs.provided_model_name.filter (· ≠ "")).getD "unknown"

end Observation

def ModelUsage.zero : ModelUsage := ⟨0, 0, 0, 0⟩

def ServiceUsage.zero : ServiceUsage := ⟨0, 0, 0, 0, .empty⟩

/-- The summary of a service without observations. It has no models. -/
def ServiceSummary.zero (wanted : String) : ServiceSummary := ⟨.str wanted, 0, 0, 0, 0, none⟩

section Arithmetic

-- how a result of the arithmetic on costs is rounded
variable (float : ℚ → ℚ)

def ModelUsage.addWith (usage : ModelUsage) (obs : Observation) : ModelUsage where
  cost := float (usage.cost + obs.total_cost.getD 0)
  input_tokens := usage.input_tokens + obs.tokens "input"
  output_tokens := usage.output_tokens + obs.tokens "output"
  requests := usage.requests + 1

/-- One round of the loop of `_aggregate`, on the totals of the service. -/
def ServiceUsage.addWith (usage : ServiceUsage) (obs : Observation) : ServiceUsage where
  total_cost := float (usage.total_cost + obs.total_cost.getD 0)
  total_input_tokens := usage.total_input_tokens + obs.tokens "input"
  total_output_tokens := usage.total_output_tokens + obs.tokens "output"
  total_requests := usage.total_requests + 1
  models := usage.models.upsert obs.model fun old => (old.getD .zero).addWith float obs

def ServiceUsage.summaryWith (service : DictKey) (usage : ServiceUsage) : ServiceSummary where
  service
  total_cost := float (roundDecimals 8 usage.total_cost)
  total_input_tokens := usage.total_input_tokens
  total_output_tokens := usage.total_output_tokens
  total_requests := usage.total_requests
  models := some usage.models

namespace LangfuseCostTracker

/-- One round of the loop of `_aggregate`, on the totals of all services. -/
def addObservationWith (service_name : Option String)
    (services : OrderedDict DictKey ServiceUsage) (obs : Observation) :
    Except PyException (OrderedDict DictKey ServiceUsage) :=
  if (service_name.filter (· ≠ "")).any fun wanted => !obs.service.equalsText wanted then
    .ok services
  else do
    let svc ← obs.service.hashKey
    pure (services.upsert svc fun old => (old.getD .zero).addWith float obs)

/-- `_aggregate`, for any rounding of the arithmetic. -/
def aggregateWith (observations : List Observation) (service_name : Option String) :
    Except PyException UsageSummary := do
  let services ← observations.foldlM (addObservationWith float service_name) .empty
  match service_name.filter (· ≠ "") with
  | some wanted =>
      match services.get? (.str wanted) with
      | some usage => pure (.service (usage.summaryWith float (.str wanted)))
      | none => pure (.service (.zero wanted))
  | none =>
      pure (.services (services.entries.map fun (svc, usage) => usage.summaryWith float svc))

/-- `_aggregate`, which adds floats. -/
def aggregate (observations : List Observation) (service_name : Option String) :
    Except PyException UsageSummary := aggregateWith toFloat observations service_name

/-- The loop over the pages. It ends at the first page without a cursor. -/
def collectPages : List (Except PyException ObservationPage) → List Observation →
    Except PyException (List Observation)
  | [], all_observations => .ok all_observations
  | answer :: further, all_observations => do
      let response ← answer
      if (response.next_cursor.filter (· ≠ "")).isNone then
        pure (all_observations ++ response.data)
      else
        collectPages further (all_observations ++ response.data)

/-- `_query_langfuse`, for any rounding of the arithmetic. -/
def queryLangfuseWith (api : ObservationsApi) (service_name : Option String)
    (from_time to_time : Option Timestamp) : Except PyException UsageSummary := do
  let all_observations ← collectPages (api.answers from_time to_time) []
  aggregateWith float all_observations service_name

/-- `_query_langfuse`. -/
def queryLangfuse : ObservationsApi → Option String → Option Timestamp → Option Timestamp →
    Except PyException UsageSummary := queryLangfuseWith toFloat

/-- `LangfuseCostTracker.get_summary`. -/
def getSummary (api : ObservationsApi) (service_name : Option String)
    (from_time to_time : Option Timestamp) : Except PyException UsageSummary :=
  match queryLangfuse api service_name from_time to_time with
  | .ok summary => .ok summary
  | .error failure => if failure.isException then .ok .failed else .error failure

end LangfuseCostTracker

end Arithmetic

/-! ## What a summary counts -/

/-- The summary of a service counts some observations and adds up their tokens. -/
structure ServiceSummary.Counts (summary : ServiceSummary) (wanted : String)
    (observations : List Observation) : Prop where
  named : summary.service = .str wanted
  requests : summary.total_requests = observations.length
  input : summary.total_input_tokens = (observations.map fun obs => obs.tokens "input").sum
  output : summary.total_output_tokens = (observations.map fun obs => obs.tokens "output").sum

namespace ServiceUsage

/-- The summary of what was added up from nothing. -/
theorem counts_foldl_addWith (float : ℚ → ℚ) (wanted : String) (observations : List Observation) :
    ((observations.foldl (addWith float) zero).summaryWith float (.str wanted)).Counts wanted
      observations where
  named := rfl
  requests := by
    have total := @foldl_quantity _ _ _ _ (addWith float) total_requests (fun _ => 1)
      (fun _ _ => rfl) observations zero
    simpa [summaryWith, zero] using total
  input := by
    have total := @foldl_quantity _ _ _ _ (addWith float) total_input_tokens _ (fun _ _ => rfl)
      observations zero
    simpa [summaryWith, zero] using total
  output := by
    have total := @foldl_quantity _ _ _ _ (addWith float) total_output_tokens _ (fun _ _ => rfl)
      observations zero
    simpa [summaryWith, zero] using total

end ServiceUsage

namespace LangfuseCostTracker

variable {float : ℚ → ℚ} {wanted : String}

/-- A value equals a text when it is this text. -/
theorem equalsText_iff {data : Json} {text : String} :
    data.equalsText text = true ↔ data = .str text := by
  cases data <;> simp [Json.equalsText]

/-- Asked for a service, an observation of this service is counted for it, and any other is
skipped. -/
theorem addObservationWith_of_wanted (nonempty : wanted ≠ "") (obs : Observation)
    (services : OrderedDict DictKey ServiceUsage) :
    addObservationWith float (some wanted) services obs =
      if obs.service.equalsText wanted then
        .ok (services.upsert (.str wanted) fun old => (old.getD .zero).addWith float obs)
      else .ok services := by
  unfold addObservationWith
  by_cases same : obs.service.equalsText wanted
  · rw [equalsText_iff.mp same]
    simp [nonempty, Json.equalsText, Json.hashKey]
  · simp [same, nonempty]

/-- The loop accumulates the observations of the service that is asked for. -/
theorem foldlM_addObservationWith_of_wanted (observations : List Observation)
    (nonempty : wanted ≠ "") (services : OrderedDict DictKey ServiceUsage) :
    observations.foldlM (addObservationWith float (some wanted)) services =
      .ok (OrderedDict.accumulate (fun _ => DictKey.str wanted)
        (fun old obs => (old.getD .zero).addWith float obs)
        (observations.filter fun obs => obs.service.equalsText wanted) services) := by
  induction observations generalizing services with
  | nil => rfl
  | cons obs rest ih =>
      rw [List.foldlM_cons, addObservationWith_of_wanted nonempty]
      by_cases same : obs.service.equalsText wanted
      · rw [if_pos same, List.filter_cons_of_pos (by simpa using same)]
        exact ih _
      · rw [if_neg same, List.filter_cons_of_neg (by simpa using same)]
        exact ih _

/-- **The summary of a service** counts exactly the observations of this service. -/
theorem aggregate_of_wanted (observations : List Observation) (nonempty : wanted ≠ "") :
    ∃ summary, aggregate observations (some wanted) = .ok (.service summary) ∧
      summary.Counts wanted (observations.filter fun obs => obs.service.equalsText wanted) := by
  have isWanted : (some wanted).filter (· ≠ "") = some wanted := by
    simpa using nonempty
  have found := OrderedDict.get?_accumulate (fun _ => DictKey.str wanted)
    (fun (old : Option ServiceUsage) obs => (old.getD .zero).addWith toFloat obs)
    (observations.filter fun obs => obs.service.equalsText wanted) .empty (.str wanted)
  unfold aggregate aggregateWith
  rw [foldlM_addObservationWith_of_wanted observations nonempty, isWanted]
  simp only [decide_true, List.filter_true, OrderedDict.get?_empty, foldl_created] at found
  dsimp only [bind, Except.bind]
  rw [found]
  split_ifs with absent
  · rw [absent]
    exact ⟨_, rfl, rfl, rfl, rfl, rfl⟩
  · exact ⟨_, rfl, ServiceUsage.counts_foldl_addWith toFloat wanted _⟩

/-- Where every observation names a service, these are the ones that name it. -/
theorem aggregate_of_named {name : Observation → String} {observations : List Observation}
    (named : ∀ obs ∈ observations, obs.service = .str (name obs)) (nonempty : wanted ≠ "") :
    ∃ summary, aggregate observations (some wanted) = .ok (.service summary) ∧
      summary.Counts wanted (observations.filter fun obs => name obs = wanted) := by
  have same : (observations.filter fun obs => name obs = wanted) =
      observations.filter fun obs => obs.service.equalsText wanted := by
    refine List.filter_congr fun obs member => ?_
    rw [named obs member, Json.equalsText]
  rw [same]
  exact aggregate_of_wanted observations nonempty

/-- The pages of a listing are collected to the last. -/
theorem collectPages_of_complete {pages : List ObservationPage} (complete : CompletePages pages)
    (all_observations : List Observation) :
    collectPages (pages.map .ok) all_observations =
      .ok (all_observations ++ pages.flatMap ObservationPage.data) := by
  obtain ⟨before, last, rfl, further, -⟩ := complete
  induction before generalizing all_observations with
  | nil => simp [collectPages, bind, Except.bind, pure, Except.pure]
  | cons page rest ih =>
      obtain ⟨cursor, next, nonempty⟩ := further page List.mem_cons_self
      have notLast : ¬(page.next_cursor.filter (· ≠ "")).isNone := by
        rw [next]
        simp [nonempty]
      have later := ih (all_observations ++ page.data)
        fun other member => further other (List.mem_cons_of_mem _ member)
      rw [List.cons_append, List.flatMap_cons, ← List.append_assoc, ← later, List.map_cons,
        collectPages]
      exact if_neg notLast

/-- Once the pages were collected, the rest is `_aggregate`. -/
theorem queryLangfuse_of_collected {api : ObservationsApi} {service_name : Option String}
    {from_time to_time : Option Timestamp} {observations : List Observation}
    (collected : collectPages (api.answers from_time to_time) [] = .ok observations) :
    queryLangfuse api service_name from_time to_time = aggregate observations service_name := by
  rw [queryLangfuse, queryLangfuseWith, collected]
  rfl

/-- Without a name the summaries of all services are returned. -/
theorem aggregate_of_empty {observations : List Observation} {summary : ServiceSummary} :
    aggregate observations (some "") ≠ .ok (.service summary) := by
  intro returned
  unfold aggregate aggregateWith at returned
  cases added : observations.foldlM (addObservationWith toFloat (some "")) .empty with
  | error failure =>
      rw [added] at returned
      cases returned
  | ok services =>
      rw [added] at returned
      cases returned

end LangfuseCostTracker

end LlmopsPlatform.Gateway
