import LlmopsPlatform.Gateway.Langfuse
import LlmopsPlatform.Gateway.UsageAccounting

/-!
# Attribution of usage to services with Langfuse

The cost tracker looks for the service name in the metadata of the generations. The
router puts it into the metadata of the trace only, and the metadata of a generation
has no such key (`service_of_logged`). So every call is counted for the service
"unknown", and the summary of any other service is zero.

In a run of calls the summaries attribute the usage correctly exactly when every call
was made under the name "unknown" (`attribution_iff`).
-/

set_option autoImplicit false

namespace LlmopsPlatform.Gateway

open Foundations Python LLMRouter LangfuseCostTracker

/-- What a provider answers to a call: one response, or a stream that is consumed. -/
inductive ProviderAnswer where
  | chat (response : ChatResponse)
  | chatStream (chunks : List ChatResponseChunk)

/-- The usage of the response, or the last one of the stream. -/
def ProviderAnswer.usage : ProviderAnswer → Usage
  | chat response => response.usage
  | chatStream chunks => (lastUsage chunks).getD ⟨0, 0, 0⟩

/-- A call of the router, with the name of its provider, the id that its trace gets, and
what the provider answers. -/
structure RouterCall where
  request : ChatRequest
  service_name : String
  request_id : Option String
  provider_name : String
  trace_id : String
  answer : ProviderAnswer

namespace RouterCall

/-- The collaborators of a router that uses Langfuse. The `record` of the cost tracker
does nothing. -/
def collaborators (call : RouterCall) : Collaborators where
  resolve _ := .ok call.provider_name
  trace _ := .ok call.trace_id
  endTrace _ := .ok ()
  logGeneration _ := .ok ()
  record _ := .ok ()

/-- The effects after a call. -/
def run (effects : List GatewayEffect) (call : RouterCall) : List GatewayEffect :=
  match call.answer with
  | .chat response =>
      ((LLMRouter.chat call.collaborators call.request call.service_name call.request_id
        (.ok response)).run effects).2
  | .chatStream chunks =>
      ((LLMRouter.chatStream call.collaborators call.request call.service_name call.request_id
        ⟨chunks, .ok ()⟩ none).run effects).2

/-- What a call logs. -/
def log (call : RouterCall) : GenerationLog :=
  match call.answer with
  | .chat response => chatLog call.request call.provider_name call.trace_id response
  | .chatStream chunks =>
      streamLog call.request call.provider_name call.trace_id
        (chunks.foldl (fun text chunk => text ++ chunk.delta_content) "") call.answer.usage

end RouterCall

/-- The generations that were logged among some effects. -/
def logsOf (effects : List GatewayEffect) : List GenerationLog :=
  effects.filterMap GatewayEffect.logGeneration?

/-- What a run of calls starts at the Langfuse service. -/
def startedGenerations (calls : List RouterCall) : List StartedGeneration :=
  (logsOf (calls.foldl RouterCall.run [])).map LangfuseBackend.logGeneration

/-- An observation with the metadata, the model and the usage that were passed. The cost
is up to the service. -/
structure ObservationOf (started : StartedGeneration) (obs : Observation) : Prop where
  metadata : obs.metadata = some (.dict started.metadata)
  model : obs.provided_model_name = some started.model
  usage_details : obs.usage_details =
    some (started.usage_details.map fun entry => (entry.1, some entry.2))

/-- The API serves one observation for each started generation, in any order and cut
into pages in any way. -/
def Serves (api : ObservationsApi) (started : List StartedGeneration) : Prop :=
  ∃ arranged observations, arranged.Perm started ∧
    List.Forall₂ ObservationOf arranged observations ∧
    collectPages (api.answers none none) [] = .ok observations

/-- The calls that were made under a service name. -/
def callsOf (service_name : String) (calls : List RouterCall) : List RouterCall :=
  calls.filter fun call => call.service_name = service_name

/-- The summary of a service counts its calls and adds up their tokens. -/
structure ServiceSummary.Attributes (summary : ServiceSummary) (calls : List RouterCall)
    (service_name : String) : Prop where
  named : summary.service = .str service_name
  requests : summary.total_requests = (callsOf service_name calls).length
  input : summary.total_input_tokens =
    ((callsOf service_name calls).map fun call => call.answer.usage.input_tokens).sum
  output : summary.total_output_tokens =
    ((callsOf service_name calls).map fun call => call.answer.usage.output_tokens).sum

/-! ## What a run logs -/

@[simp] theorem logsOf_nil : logsOf [] = [] := rfl

@[simp] theorem logsOf_cons (effect : GatewayEffect) (rest : List GatewayEffect) :
    logsOf (effect :: rest) = effect.logGeneration?.toList ++ logsOf rest := by
  cases effect <;> rfl

@[simp] theorem logsOf_append (first second : List GatewayEffect) :
    logsOf (first ++ second) = logsOf first ++ logsOf second :=
  List.filterMap_append

@[simp] theorem logsOf_map_yield (chunks : List ChatResponseChunk) :
    logsOf (chunks.map GatewayEffect.yield) = [] := by
  induction chunks with
  | nil => rfl
  | cons chunk rest ih => exact ih

/-- A call logs one generation. -/
theorem logsOf_run (effects : List GatewayEffect) (call : RouterCall) :
    logsOf (call.run effects) = logsOf effects ++ [call.log] := by
  have resolved : call.collaborators.resolve call.request.model = .ok call.provider_name := rfl
  unfold RouterCall.run RouterCall.log
  cases answered : call.answer with
  | chat response =>
      dsimp only
      rw [effects_chat resolved rfl response]
      simp [RouterCall.collaborators, GatewayEffect.logGeneration?]
  | chatStream chunks =>
      have completes := ProviderStream.completes_of_consumed chunks
      dsimp only
      rw [effects_chatStream_of_completes resolved rfl completes rfl]
      simp [RouterCall.collaborators, GatewayEffect.logGeneration?, ProviderAnswer.usage]

theorem logsOf_foldl (calls : List RouterCall) (effects : List GatewayEffect) :
    logsOf (calls.foldl RouterCall.run effects) = logsOf effects ++ calls.map RouterCall.log := by
  induction calls generalizing effects with
  | nil => simp
  | cons call rest ih =>
      rw [List.foldl_cons, ih, logsOf_run, List.map_cons, List.append_assoc]
      rfl

/-- A run starts one generation for each call. -/
theorem startedGenerations_eq (calls : List RouterCall) :
    startedGenerations calls = calls.map fun call => LangfuseBackend.logGeneration call.log := by
  rw [startedGenerations, logsOf_foldl, logsOf_nil, List.nil_append, List.map_map]
  rfl

/-! ## What the tracker reads of it -/

/-- The metadata of a generation does not name a service. -/
theorem service_of_logged {call : RouterCall} {obs : Observation}
    (observed : ObservationOf (LangfuseBackend.logGeneration call.log) obs) :
    obs.service = .str "unknown" := by
  unfold Observation.service
  rw [observed.metadata]
  unfold RouterCall.log
  cases call.answer <;> rfl

/-- The number of tokens that was passed under a key. -/
def StartedGeneration.tokens (started : StartedGeneration) (key : String) : Int :=
  (OrderedDict.find key started.usage_details).getD 0

theorem tokens_of_observed {started : StartedGeneration} {obs : Observation}
    (observed : ObservationOf started obs) (key : String) :
    obs.tokens key = started.tokens key := by
  unfold Observation.tokens StartedGeneration.tokens
  rw [observed.usage_details, Option.getD_some, OrderedDict.find_map]
  cases OrderedDict.find key started.usage_details <;> rfl

theorem usage_of_log (call : RouterCall) : call.log.usage = call.answer.usage := by
  unfold RouterCall.log
  cases answered : call.answer <;> rfl

section Served

variable {api : ObservationsApi} {calls : List RouterCall} {arranged : List StartedGeneration}
  {observations : List Observation}

theorem services_of_observed (all : List.Forall₂ ObservationOf arranged observations)
    (logged : ∀ started ∈ arranged, ∃ call : RouterCall,
      LangfuseBackend.logGeneration call.log = started) :
    ∀ obs ∈ observations, obs.service = .str "unknown" := by
  induction all with
  | nil => simp
  | cons observed others ih =>
      obtain ⟨call, rfl⟩ := logged _ List.mem_cons_self
      have restLogged := fun started member => logged started (List.mem_cons_of_mem _ member)
      intro obs member
      rcases List.mem_cons.mp member with rfl | inRest
      · exact service_of_logged observed
      · exact ih restLogged obs inRest

theorem tokens_of_all (all : List.Forall₂ ObservationOf arranged observations) (key : String) :
    (observations.map fun obs => obs.tokens key) = arranged.map fun started =>
      started.tokens key := by
  induction all with
  | nil => rfl
  | cons observed others ih =>
      rw [List.map_cons, List.map_cons, tokens_of_observed observed, ih]

/-- The tokens that were served add up to those of the calls. -/
theorem sum_tokens_of_served (all : List.Forall₂ ObservationOf arranged observations)
    (perm : arranged.Perm (startedGenerations calls)) (key : String) :
    (observations.map fun obs => obs.tokens key).sum =
      (calls.map fun call => (LangfuseBackend.logGeneration call.log).tokens key).sum := by
  rw [tokens_of_all all, (perm.map _).sum_eq, startedGenerations_eq, List.map_map]
  rfl

/-- Every observation that was served is counted for the service "unknown". -/
theorem services_of_served (all : List.Forall₂ ObservationOf arranged observations)
    (perm : arranged.Perm (startedGenerations calls)) :
    ∀ obs ∈ observations, obs.service = .str "unknown" := by
  refine services_of_observed all ?_
  intro started member
  rw [perm.mem_iff, startedGenerations_eq] at member
  obtain ⟨call, _, isStarted⟩ := List.mem_map.mp member
  exact ⟨call, isStarted⟩

/-- Once the pages were collected, a summary of one service is what `_aggregate` returns. -/
theorem getSummary_of_collected {service_name : String} {summary : ServiceSummary}
    (collected : collectPages (api.answers none none) [] = .ok observations) :
    getSummary api (some service_name) none none = .ok (.service summary) ↔
      aggregate observations (some service_name) = .ok (.service summary) := by
  rw [getSummary, queryLangfuse_of_collected collected]
  cases aggregate observations (some service_name) with
  | error failure => by_cases caught : failure.isException <;> simp [caught]
  | ok total => rfl

/-- The summary of a service counts every call for "unknown" and no call for another
service. -/
theorem summary_of_served (served : Serves api (startedGenerations calls)) {service_name : String}
    (nonempty : service_name ≠ "") :
    ∃ summary, getSummary api (some service_name) none none = .ok (.service summary) ∧
      summary.service = .str service_name ∧
      (service_name ≠ "unknown" → summary.total_requests = 0) ∧
      (service_name = "unknown" → summary.total_requests = calls.length ∧
        summary.total_input_tokens =
          (calls.map fun call => call.answer.usage.input_tokens).sum ∧
        summary.total_output_tokens =
          (calls.map fun call => call.answer.usage.output_tokens).sum) := by
  obtain ⟨arranged, observations, perm, all, collected⟩ := served
  obtain ⟨summary, returned, counts⟩ :=
    aggregate_of_named (services_of_served all perm) nonempty
  refine ⟨summary, (getSummary_of_collected collected).mpr returned, counts.named, ?_, ?_⟩
  · intro other
    rw [counts.requests, List.filter_eq_nil_iff.mpr]
    · rfl
    · intro obs _
      simpa using other.symm
  · rintro rfl
    have everything : (observations.filter fun _ => "unknown" = "unknown") = observations := by
      simp
    rw [everything] at counts
    have numbers : observations.length = calls.length := by
      rw [← all.length_eq, perm.length_eq, startedGenerations_eq, List.length_map]
    refine ⟨?_, ?_, ?_⟩
    · rw [counts.requests, numbers]
    · rw [counts.input, sum_tokens_of_served all perm]
      simp only [← usage_of_log]
      rfl
    · rw [counts.output, sum_tokens_of_served all perm]
      simp only [← usage_of_log]
      rfl

/-- Without a name there is no summary of one service. -/
theorem no_summary_of_empty (served : Serves api (startedGenerations calls))
    {summary : ServiceSummary} :
    getSummary api (some "") none none ≠ .ok (.service summary) := by
  obtain ⟨_, _, _, _, collected⟩ := served
  rw [ne_eq, getSummary_of_collected collected]
  exact aggregate_of_empty

end Served

/-- **Attribution of usage.** The summary of every service of a run counts its calls and
their tokens, exactly if every call was made under the name "unknown". -/
theorem attribution_iff (api : ObservationsApi) (calls : List RouterCall)
    (served : Serves api (startedGenerations calls)) :
    (∀ service_name ∈ calls.map RouterCall.service_name, ∃ summary,
        getSummary api (some service_name) none none = .ok (.service summary) ∧
          summary.Attributes calls service_name) ↔
      ∀ call ∈ calls, call.service_name = "unknown" := by
  constructor
  · intro attributed call member
    obtain ⟨summary, returned, attributes⟩ :=
      attributed call.service_name (List.mem_map_of_mem member)
    by_contra other
    have nonempty : call.service_name ≠ "" := by
      intro isEmpty
      rw [isEmpty] at returned
      exact no_summary_of_empty served returned
    obtain ⟨same, again, _, zero, _⟩ := summary_of_served served nonempty
    rw [returned] at again
    cases again
    have counted := attributes.requests
    rw [zero other] at counted
    have isCounted : call ∈ callsOf call.service_name calls := by
      simp [callsOf, member]
    have some_call := List.length_pos_of_mem isCounted
    omega
  · intro unknown service_name member
    obtain ⟨call, isCall, rfl⟩ := List.mem_map.mp member
    rw [unknown call isCall]
    have everyCall : callsOf "unknown" calls = calls := by
      apply List.filter_eq_self.mpr
      intro other isOther
      simpa using unknown other isOther
    obtain ⟨summary, returned, named, _, totals⟩ :=
      summary_of_served served (show "unknown" ≠ "" by decide)
    obtain ⟨requests, input, output⟩ := totals rfl
    refine ⟨summary, returned, named, ?_, ?_, ?_⟩
    · rw [everyCall, requests]
    · rw [everyCall, input]
    · rw [everyCall, output]

/-! ## A call by one service -/

/-- A call with one question and an answer of five tokens. -/
def questionCall (service_name : String) : RouterCall where
  request := questionRequest
  service_name
  request_id := none
  provider_name := "gemini"
  trace_id := "trace-1"
  answer := .chat ⟨"chatcmpl-1", "gemini-2.5-flash", [], ⟨3, 5, 8⟩, []⟩

/-- The observation of a generation, priced at nothing. -/
def observe (started : StartedGeneration) : Observation where
  metadata := some (.dict started.metadata)
  provided_model_name := some started.model
  total_cost := none
  usage_details := some (started.usage_details.map fun entry => (entry.1, some entry.2))

/-- An API that serves the observation of one generation. -/
def oneObservationApi (started : StartedGeneration) : ObservationsApi where
  answers _ _ := [.ok ⟨[observe started], none⟩]

theorem serves_questionCall (service_name : String) :
    Serves (oneObservationApi (LangfuseBackend.logGeneration (questionCall service_name).log))
      (startedGenerations [questionCall service_name]) := by
  rw [startedGenerations_eq]
  refine ⟨_, _, List.Perm.refl _, ?_, rfl⟩
  exact List.Forall₂.cons ⟨rfl, rfl, rfl⟩ List.Forall₂.nil

/-- A call under the name "unknown" is attributed. -/
theorem unknown_question_is_attributed :
    ∃ summary,
      getSummary (oneObservationApi (LangfuseBackend.logGeneration (questionCall "unknown").log))
          (some "unknown") none none = .ok (.service summary) ∧
        summary.Attributes [questionCall "unknown"] "unknown" := by
  refine (attribution_iff _ [questionCall "unknown"] (serves_questionCall "unknown")).mpr ?_
    "unknown" (List.mem_singleton_self _)
  intro call member
  rw [List.mem_singleton.mp member]
  rfl

/-- **A call by a service with a name is not counted for it.** -/
theorem billing_question_is_not_attributed :
    ¬ ∀ (api : ObservationsApi) (calls : List RouterCall),
        Serves api (startedGenerations calls) →
        ∀ service_name ∈ calls.map RouterCall.service_name, ∃ summary,
          getSummary api (some service_name) none none = .ok (.service summary) ∧
            summary.Attributes calls service_name := by
  intro always
  obtain ⟨summary, returned, attributes⟩ :=
    always _ [questionCall "billing"] (serves_questionCall "billing") "billing"
      (by simp [questionCall])
  have nothing : getSummary
      (oneObservationApi (LangfuseBackend.logGeneration (questionCall "billing").log))
      (some "billing") none none = .ok (.service ⟨.str "billing", 0, 0, 0, 0, none⟩) := rfl
  rw [nothing] at returned
  cases returned
  have counted : (0 : Int) = (callsOf "billing" [questionCall "billing"]).length :=
    attributes.requests
  simp [callsOf, questionCall] at counted

end LlmopsPlatform.Gateway
