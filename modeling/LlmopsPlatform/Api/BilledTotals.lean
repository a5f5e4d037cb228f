import LlmopsPlatform.Api.ChatCompletions
import LlmopsPlatform.Gateway.UsageListing

/-!
# The usage summary and what clients were told

Any number of clients ask for completions, streamed or not. Some streams are closed at a
chunk, and some answers are exceptions, but each client receives all that its answer
consists of. The records reach Redis in some order. Where no collaborator of the router
raises, the summary of a service with a name then has exactly the usage that the clients of
this service were told, and counts each answer that was told to its end once
(`summary_is_what_was_told`). A usage that was not told counts as no tokens.
-/

set_option autoImplicit false

namespace LlmopsPlatform.Api

open Foundations Python Prompts Gateway RedisCostTracker

/-- A request to the endpoint, and what it meets: the stored prompts, the provider, and the
collaborators of the router. -/
structure ClientRequest where
  req : CompletionRequest
  service_name : String
  request_id : Option String
  closeAfter : Option Nat
  tables : PromptTables
  collaborators : Collaborators
  provider : ProviderCalls

section Requests

variable (json : JsonModule String) (jinja : Jinja)

namespace ClientRequest

/-- What the endpoint does. -/
def exchange (client : ClientRequest) : Exchange :=
  chatCompletions json jinja client.tables client.collaborators client.provider client.req
    client.service_name client.request_id client.closeAfter

/-- What the whole answer tells the client, if anything. -/
def told (client : ClientRequest) : Option Told := (client.exchange json jinja).told json .whole

/-- What the client was told, as a call of its service. -/
def call (client : ClientRequest) (told : Told) : CostRecord where
  service_name := client.service_name
  model := client.req.model
  input_tokens := told.billed.input_tokens
  output_tokens := told.billed.output_tokens

/-- The texts of the chunks that the provider streams can be read back. -/
def Readable (client : ClientRequest) : Prop :=
  ∀ chat_request,
    (resolvePrompt jinja client.tables client.req >>= toChatRequest) = .ok chat_request →
      ReadsBack json (client.provider.chat_stream chat_request).chunks

end ClientRequest

/-- What the clients were told, one after another. -/
def toldCalls (clients : List ClientRequest) : List CostRecord :=
  clients.flatMap fun client => (client.told json jinja).toList.map client.call

/-- What was recorded for the clients. -/
def recordedCalls (clients : List ClientRequest) : List CostRecord :=
  clients.flatMap fun client => recordsOf (client.exchange json jinja).effects

end Requests

section Totals

variable {json : JsonModule String} {jinja : Jinja}

/-- The model is the one that the client asks for. -/
theorem model_of_resolved {tables : PromptTables} {req : CompletionRequest}
    {chat_request : ChatRequest}
    (resolved : (resolvePrompt jinja tables req >>= toChatRequest) = .ok chat_request) :
    chat_request.model = req.model := by
  have converted {middle : CompletionRequest} (ok : toChatRequest middle = .ok chat_request) :
      chat_request.model = middle.model := by
    unfold toChatRequest at ok
    cases messages : middle.messages.mapM toMessage with
    | error failure =>
        rw [messages] at ok
        cases ok
    | ok found =>
        rw [messages] at ok
        cases ok
        rfl
  unfold resolvePrompt at resolved
  split at resolved
  · exact converted resolved
  · rename_i prompt_name named
    cases found : PromptManager.get tables prompt_name req.prompt_version req.prompt_env with
    | error failure =>
        rw [found] at resolved
        cases resolved
    | ok version_data =>
        rw [found] at resolved
        cases rendered : PromptRenderer.render jinja version_data.template
            req.prompt_variables with
        | error failure =>
            simp only [Bind.bind, Except.bind, rendered] at resolved
            cases resolved
        | ok text =>
            simp only [Bind.bind, Except.bind, rendered] at resolved
            have same := converted (show toChatRequest _ = .ok chat_request from resolved)
            exact same

/-- **One client.** What was recorded is what it was told. -/
theorem recordsOf_exchange {client : ClientRequest}
    (working : NothingRaises client.collaborators) (readable : client.Readable json jinja) :
    recordsOf (client.exchange json jinja).effects =
      (client.told json jinja).toList.map client.call := by
  cases isTold : client.told json jinja with
  | none => exact (not_billed_of_not_told readable working isTold).1
  | some told =>
      obtain ⟨chat_request, resolved, bills⟩ := bills_of_told readable isTold
      have model := model_of_resolved resolved
      have recorded : recordsOf (client.exchange json jinja).effects = _ := bills.recorded
      rw [recorded, LLMRouter.costRecord, model]
      rfl

theorem recordedCalls_eq_toldCalls {clients : List ClientRequest}
    (working : ∀ client ∈ clients, NothingRaises client.collaborators)
    (readable : ∀ client ∈ clients, client.Readable json jinja) :
    recordedCalls json jinja clients = toldCalls json jinja clients := by
  induction clients with
  | nil => rfl
  | cons client rest ih =>
      obtain ⟨here, further⟩ := List.forall_mem_cons.mp working
      obtain ⟨readableHere, readableFurther⟩ := List.forall_mem_cons.mp readable
      rw [recordedCalls, toldCalls, List.flatMap_cons, List.flatMap_cons,
        recordsOf_exchange here readableHere]
      exact congrArg _ (ih further readableFurther)

/-- The totals of calls do not depend on their order. -/
theorem ofCalls_perm {first second : List CostRecord} (perm : first.Perm second)
    (service : String) :
    ServiceTotals.ofCalls service (callsUnder service first) =
      .ofCalls service (callsUnder service second) := by
  have under : (callsUnder service first).Perm (callsUnder service second) := perm.filter _
  unfold ServiceTotals.ofCalls
  rw [(under.map _).sum_eq, (under.map CostRecord.input_tokens).sum_eq,
    (under.map CostRecord.output_tokens).sum_eq, under.length_eq]

end Totals

/-- **The summary is what clients were told.** Whatever clients ask for, whichever of their
answers fail or are closed at a chunk, and in whatever order their records are made, the
summary of a service with a name has the sums of the usages that the whole answers told its
clients, and the number of them. -/
theorem summary_is_what_was_told (json : JsonModule String) (jinja : Jinja)
    (clients : List ClientRequest) (calls : List CostRecord)
    (working : ∀ client ∈ clients, NothingRaises client.collaborators)
    (readable : ∀ client ∈ clients, client.Readable json jinja)
    (recorded : calls.Perm (recordedCalls json jinja clients)) (replies : List ScanReply)
    (service : String) (named : service ≠ "") :
    getSummary (recordAll calls) replies (some service) =
      .ok (some (.service (.ofCalls service
        (callsUnder service (toldCalls json jinja clients))))) := by
  rw [recordedCalls_eq_toldCalls working readable] at recorded
  rw [getSummary_of_named named, getServiceSummary_recordAll, ofCalls_perm recorded]
  rfl

/-! ## Two clients of a service -/

/-- A client that reads its stream to the end. -/
def patientClient : ClientRequest where
  req := supportQuestion
  service_name := "svc"
  request_id := none
  closeAfter := none
  tables := supportTables
  collaborators := workingCollaborators
  provider := trickyCalls

/-- A client that closes its stream after the first chunk. -/
def hastyClient : ClientRequest := { patientClient with closeAfter := some 0 }

/-- The answer that the first client was told is counted, and the second one is not. -/
theorem patient_client_is_counted :
    toldCalls trickyJson plainJinja [patientClient, hastyClient] =
        [⟨"svc", "claude-sonnet-4-20250514", 0, 0⟩] ∧
      getSummary (recordAll (recordedCalls trickyJson plainJinja [hastyClient, patientClient])) []
          (some "svc") =
        .ok (some (.service (.ofCalls "svc" (callsUnder "svc"
          (toldCalls trickyJson plainJinja [patientClient, hastyClient]))))) := by
  have same : ∀ client ∈ [patientClient, hastyClient],
      client.collaborators = workingCollaborators ∧ client.provider = trickyCalls := by
    intro client member
    rcases List.mem_pair.mp member with rfl | rfl <;> exact ⟨rfl, rfl⟩
  have working : ∀ client ∈ [patientClient, hastyClient],
      NothingRaises client.collaborators := by
    intro client member
    rw [(same client member).1]
    exact ⟨fun _ => rfl, fun _ => rfl, fun _ => rfl⟩
  have readable : ∀ client ∈ [patientClient, hastyClient],
      client.Readable trickyJson plainJinja := by
    intro client member chat_request _
    rw [(same client member).2]
    exact readsBack_trickyJson
  have patient : patientClient.told trickyJson plainJinja =
      some ⟨"data: [DONE]\n\n", none⟩ := told_stream readsBack_trickyJson _
  have hasty : hastyClient.told trickyJson plainJinja = none :=
    told_stream readsBack_trickyJson _
  refine ⟨?_, summary_is_what_was_told trickyJson plainJinja [patientClient, hastyClient] _ working
    readable ((List.Perm.swap _ _ _).flatMap_right _) [] "svc" (by decide)⟩
  simp only [toldCalls, List.flatMap_cons, List.flatMap_nil, patient, hasty]
  rfl

end LlmopsPlatform.Api
