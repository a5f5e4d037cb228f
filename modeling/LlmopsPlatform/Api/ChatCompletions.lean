import LlmopsPlatform.Api.EventStream
import LlmopsPlatform.Gateway.ManagedPrompt
import LlmopsPlatform.Gateway.StreamedText

/-!
# What a client of the completions endpoint is told

`POST /v1/chat/completions` answers with one JSON object, or with a stream of events if
the request asks for it. The managed prompt is resolved and the messages are converted
before that; where this fails, nothing has been done to the collaborators of the router.

A client that got an answer, or saw "[DONE]" at the end of its stream, was told a text and
perhaps a usage. Exactly this usage was recorded, once, and one generation with exactly this
text was logged (`told_is_billed`). Nothing is promised to a client whose connection ends
before "[DONE]": the record may have been made by then. With Anthropic the two ways to answer
tell and record the same (`anthropic_modes_agree`).
-/

set_option autoImplicit false

namespace LlmopsPlatform.Api

open Foundations Python Prompts Gateway LLMRouter

/-! ## The endpoint -/

structure ChoiceResponse where
  index : Nat
  message : List (String × String)
  finish_reason : String

/-- The JSON object of an answer. -/
structure CompletionResponse where
  id : String
  model : String
  choices : List ChoiceResponse
  usage : Usage
  metadata : List (String × Json)

/-- The answer that `chat_completions` builds from a response of the router. -/
def completionResponse (response : ChatResponse) : CompletionResponse where
  id := response.id
  model := response.model
  choices := response.choices.map fun choice =>
    { index := choice.index
      message := [("role", choice.message.role.value), ("content", choice.message.content)]
      finish_reason := choice.finish_reason }
  usage := response.usage
  metadata := response.metadata

/-- What the provider does that is found for the model of a request. -/
structure ProviderCalls where
  chat : ChatRequest → Except PyException ChatResponse
  chat_stream : ChatRequest → ProviderStream

/-- The body of an answer. -/
inductive CompletionAnswer where
  | completion (response : CompletionResponse)
  | stream (body : TextStream)

/-- What the client gets, and what happened to the collaborators of the router. -/
structure Exchange where
  answer : Except PyException CompletionAnswer
  effects : List GatewayEffect

section Endpoint

variable (json : JsonModule String) (jinja : Jinja) (tables : PromptTables)
  (collaborators : Collaborators) (provider : ProviderCalls)

/-- What the router streams to a client that may close after a chunk. -/
def streamedUntil (chat_request : ChatRequest) (service_name : String)
    (request_id : Option String) (closeAfter : Option Nat) : ProviderStream :=
  let run := (chatStream collaborators chat_request service_name request_id
    (provider.chat_stream chat_request) closeAfter).run []
  { chunks := yieldsOf run.2, ending := run.1 }

/-- `chat_completions`. The client of a stream reads it to its end or closes it. -/
def chatCompletions (req : CompletionRequest) (x_service_name : String)
    (x_request_id : Option String) (closeAfter : Option Nat) : Exchange :=
  match resolvePrompt jinja tables req >>= toChatRequest with
  | .error failure => ⟨.error failure, []⟩
  | .ok chat_request =>
      if chat_request.stream then
        let body := streamResponse json (streamedUntil collaborators provider chat_request
          x_service_name x_request_id closeAfter)
        ⟨.ok (.stream body), streamEffects collaborators chat_request x_service_name x_request_id
          (provider.chat_stream chat_request) closeAfter⟩
      else
        let run := (chat collaborators chat_request x_service_name x_request_id
          (provider.chat chat_request)).run []
        ⟨run.1.map fun response => .completion (completionResponse response), run.2⟩

end Endpoint

/-- The messages do not depend on whether an answer is streamed, so neither does the rest of
the unified request. -/
theorem resolved_with_stream (jinja : Jinja) (tables : PromptTables) (req : CompletionRequest)
    (stream : Bool) :
    (resolvePrompt jinja tables { req with stream } >>= toChatRequest) =
      (resolvePrompt jinja tables req >>= toChatRequest).map fun chat_request =>
        { chat_request with stream } := by
  have converted : ∀ middle : CompletionRequest, toChatRequest { middle with stream } =
      (toChatRequest middle).map fun chat_request => { chat_request with stream } := by
    intro middle
    simp only [toChatRequest, bind, Except.bind, pure, Except.pure]
    cases middle.messages.mapM toMessage <;> rfl
  have resolved : resolvePrompt jinja tables { req with stream } =
      (resolvePrompt jinja tables req).map fun middle => { middle with stream } := by
    simp only [resolvePrompt, bind, Except.bind, pure, Except.pure]
    cases req.prompt_name.filter (· ≠ "") with
    | none => rfl
    | some prompt_name =>
        cases found : PromptManager.get tables prompt_name req.prompt_version req.prompt_env with
        | error failure => simp [found, Except.map]
        | ok version_data =>
            cases rendered : PromptRenderer.render jinja version_data.template
                req.prompt_variables with
            | error failure => simp [found, rendered, Except.map]
            | ok text => simp [found, rendered, Except.map]
  rw [resolved]
  cases resolvePrompt jinja tables req with
  | error failure => rfl
  | ok middle => exact converted middle

/-! ## What a call that succeeds has done -/

section Succeeded

variable {collaborators : Collaborators} {request : ChatRequest} {service_name : String}
  {request_id : Option String}

/-- A traced body succeeds only if the trace started and the body succeeded. -/
theorem withTrace_eq_ok {Result : Type} {start : TraceStart}
    {body : String → GatewayProgram Result} {effects : List GatewayEffect} {result : Result}
    (succeeded : ((withTrace collaborators start body).run effects).1 = .ok result) :
    ∃ trace_id, collaborators.trace start = .ok trace_id ∧
      ((body trace_id).run (effects ++ [.startTrace start])).1 = .ok result := by
  cases started : collaborators.trace start with
  | error failure => simp [withTrace, perform, started] at succeeded
  | ok trace_id =>
      refine ⟨trace_id, rfl, ?_⟩
      rcases outcome : (body trace_id).run (effects ++ [.startTrace start]) with ⟨ending, middle⟩
      cases ended : collaborators.endTrace trace_id with
      | error failure =>
          simp [withTrace, perform, started, Effectful.ensure, outcome, ended] at succeeded
      | ok done =>
          simpa [withTrace, perform, started, Effectful.ensure, outcome, ended] using succeeded

/-- A call that returns a response: its provider answered, and the generation was logged
and the usage recorded without an exception. -/
theorem chat_eq_ok {answer : Except PyException ChatResponse} {response : ChatResponse}
    (succeeded : ((chat collaborators request service_name request_id answer).run []).1 =
      .ok response) :
    ∃ provider_name trace_id provided, collaborators.resolve request.model = .ok provider_name ∧
      collaborators.trace (chatTrace request service_name request_id provider_name) =
        .ok trace_id ∧
      answer = .ok provided ∧
      collaborators.logGeneration (chatLog request provider_name trace_id provided) = .ok () ∧
      response = { provided with
        metadata := OrderedDict.write "trace_id" (fun _ => .str trace_id) provided.metadata } := by
  cases resolved : collaborators.resolve request.model with
  | error failure => simp [chat, resolved] at succeeded
  | ok provider_name =>
      rw [chat, resolved, Effectful.run_ofExcept_ok_bind] at succeeded
      obtain ⟨trace_id, traced, body⟩ := withTrace_eq_ok succeeded
      cases answer with
      | error failure => simp at body
      | ok provided =>
          refine ⟨provider_name, trace_id, provided, rfl, traced, rfl, ?_⟩
          cases logged : collaborators.logGeneration
              (chatLog request provider_name trace_id provided) with
          | error failure =>
              simp [Effectful.run_bind, effects_callLogGeneration, logged] at body
          | ok done =>
              cases recorded : collaborators.record
                  (costRecord request service_name provided.usage) with
              | error failure =>
                  simp [Effectful.run_bind, effects_callLogGeneration, effects_callRecord, logged,
                    recorded] at body
              | ok done =>
                  refine ⟨rfl, ?_⟩
                  simpa [Effectful.run_bind, effects_callLogGeneration, effects_callRecord, logged,
                    recorded, eq_comm] using body

/-- A stream that ends without an exception was consumed to its end, and its usage was
recorded. -/
theorem chatStream_eq_ok {stream : ProviderStream} {closeAfter : Option Nat}
    (succeeded : ((chatStream collaborators request service_name request_id stream
      closeAfter).run []).1 = .ok ()) :
    ∃ provider_name trace_id, collaborators.resolve request.model = .ok provider_name ∧
      collaborators.trace (streamTrace request service_name request_id provider_name) =
        .ok trace_id ∧
      stream.Completes closeAfter ∧
      collaborators.record
        (costRecord request service_name ((lastUsage stream.chunks).getD ⟨0, 0, 0⟩)) = .ok () := by
  cases resolved : collaborators.resolve request.model with
  | error failure => simp [chatStream, resolved] at succeeded
  | ok provider_name =>
      rw [chatStream, resolved, Effectful.run_ofExcept_ok_bind] at succeeded
      obtain ⟨trace_id, traced, body⟩ := withTrace_eq_ok succeeded
      refine ⟨provider_name, trace_id, rfl, traced, ?_⟩
      by_cases closes :
          ∃ position, closeAfter = some (0 + position) ∧ position < stream.chunks.length
      · obtain ⟨position, isClose, within⟩ := closes
        have loop := run_forwardChunks_of_close
          ([] ++ [.startTrace (streamTrace request service_name request_id provider_name)])
          stream.chunks ("", none) within isClose
        rw [Effectful.run_bind_of_error _ loop] at body
        cases body
      · have stays : ∀ close, closeAfter = some close → 0 + stream.chunks.length ≤ close := by
          intro close isClose
          by_contra within
          exact closes ⟨close, by simpa using isClose, by omega⟩
        have loop := run_forwardChunks_of_open
          ([] ++ [.startTrace (streamTrace request service_name request_id provider_name)])
          stream.chunks ("", none) stays
        rw [Effectful.run_bind_of_ok _ loop, Option.or_none] at body
        cases ends : stream.ending with
        | error failure => simp [ends] at body
        | ok done =>
            refine ⟨⟨ends, by simpa using stays⟩, ?_⟩
            cases recorded : collaborators.record (costRecord request service_name
                ((lastUsage stream.chunks).getD ⟨0, 0, 0⟩)) with
            | error failure =>
                simp [ends, Effectful.run_bind, effects_callRecord, recorded] at body
            | ok done => rfl

end Succeeded

/-! ## What the client is told, and what is billed -/

/-- The text of an answer, and its usage if it has one. -/
structure Told where
  text : String
  usage : Option Usage
deriving DecidableEq, Repr

/-- An answer without a usage is recorded and logged with no tokens. -/
def Told.billed (told : Told) : Usage := told.usage.getD ⟨0, 0, 0⟩

/-- The content of the first choice. -/
def CompletionResponse.text (response : CompletionResponse) : String :=
  (response.choices.head?.bind fun choice => OrderedDict.find "content" choice.message).getD ""

/-- How much of an answer reaches the client: all of it, or some first characters, when the
connection ends. -/
inductive Reception where
  | whole
  | cut (length : ℕ)

/-- The text of a stream that reaches the client. -/
def TextStream.received (body : TextStream) : Reception → String
  | .whole => String.join body.yielded
  | .cut length => String.ofList ((String.join body.yielded).toList.take length)

/-- What a client was told: by the JSON object, if all of it arrived, or by a stream of which
it saw "[DONE]". -/
def CompletionAnswer.told (json : JsonModule String) (reception : Reception) :
    CompletionAnswer → Option Told
  | completion response =>
      match reception with
      | .whole => some ⟨response.text, some response.usage⟩
      | .cut _ => none
  | stream body =>
      match readStream json (body.received reception) with
      | .ok read => if read.done then some ⟨deltaText read.chunks, lastUsage read.chunks⟩ else none
      | .error _ => none

def Exchange.told (json : JsonModule String) (reception : Reception) (exchange : Exchange) :
    Option Told :=
  match exchange.answer with
  | .ok answer => answer.told json reception
  | .error _ => none

/-- The usage was recorded once, for the service and the model of the request, and one
generation with the text and the usage was logged. -/
structure Bills (effects : List GatewayEffect) (chat_request : ChatRequest)
    (service_name : String) (told : Told) : Prop where
  recorded : recordsOf effects = [costRecord chat_request service_name told.billed]
  logged : ∃ log, logsOf effects = [log] ∧ log.output = told.text ∧ log.usage = told.billed

/-- No call of these collaborators raises, once a trace has started. -/
structure NothingRaises (collaborators : Collaborators) : Prop where
  endTrace : ∀ trace_id, collaborators.endTrace trace_id = .ok ()
  logGeneration : ∀ log, collaborators.logGeneration log = .ok ()
  record : ∀ entry, collaborators.record entry = .ok ()

/-- The texts of a part of a stream are read back if those of all of it are. -/
theorem ReadsBack.subset {json : JsonModule String} {chunks fewer : List ChatResponseChunk}
    (reads : ReadsBack json chunks) (subset : fewer ⊆ chunks) : ReadsBack json fewer where
  single_line chunk member := reads.single_line chunk (subset member)
  inverts chunk member := reads.inverts chunk (subset member)
  done_is_no_data := reads.done_is_no_data

theorem text_completionResponse (response : ChatResponse) :
    (completionResponse response).text = response.content := by
  unfold CompletionResponse.text ChatResponse.content completionResponse
  cases response.choices with
  | nil => rfl
  | cons choice rest => rfl

section Billing

variable {json : JsonModule String} {collaborators : Collaborators} {provider : ProviderCalls}
  {request : ChatRequest} {service_name : String} {request_id : Option String}
  {closeAfter : Option Nat}

/-- What the client of a stream is told. -/
theorem told_stream {routed : ProviderStream} (reads : ReadsBack json routed.chunks)
    (effects : List GatewayEffect) :
    Exchange.told json .whole ⟨.ok (.stream (streamResponse json routed)), effects⟩ =
      if routed.ending.isOk then some ⟨deltaText routed.chunks, lastUsage routed.chunks⟩
      else none := by
  simp only [Exchange.told, CompletionAnswer.told, TextStream.received,
    readStream_streamResponse routed reads]

/-- A part of a stream tells what all of it tells, or nothing. -/
theorem told_stream_of_cut {routed : ProviderStream} (reads : ReadsBack json routed.chunks)
    (effects : List GatewayEffect) {length : ℕ} {told : Told}
    (isTold : Exchange.told json (.cut length)
      ⟨.ok (.stream (streamResponse json routed)), effects⟩ = some told) :
    Exchange.told json .whole ⟨.ok (.stream (streamResponse json routed)), effects⟩ =
      some told := by
  obtain ⟨count, read, -⟩ := readStream_take routed reads length
  rw [told_stream reads]
  simp only [Exchange.told, CompletionAnswer.told, TextStream.received, read] at isTold
  cases ends : routed.ending.isOk with
  | false => simp [ends] at isTold
  | true =>
      rcases Nat.lt_or_ge routed.chunks.length count with beyond | within
      · simpa [ends, beyond, List.take_of_length_le beyond.le] using isTold
      · simp [not_lt.mpr within] at isTold

/-- A stream that ends without an exception was billed as it was told. -/
theorem bills_of_stream
    (succeeded : (streamedUntil collaborators provider request service_name request_id
      closeAfter).ending = .ok ()) :
    (streamedUntil collaborators provider request service_name request_id closeAfter).chunks =
        (provider.chat_stream request).chunks ∧
      Bills (streamEffects collaborators request service_name request_id
          (provider.chat_stream request) closeAfter) request service_name
        ⟨deltaText (provider.chat_stream request).chunks,
          lastUsage (provider.chat_stream request).chunks⟩ := by
  obtain ⟨provider_name, trace_id, resolved, traced, completes, recorded⟩ :=
    chatStream_eq_ok succeeded
  have effects := @effects_chatStream_of_completes collaborators [] request service_name request_id
    (provider.chat_stream request) closeAfter provider_name trace_id resolved traced completes _ rfl
  rw [recorded, foldl_append_eq_join, String.empty_append] at effects
  have received := @yieldsOf_streamEffects collaborators request service_name request_id
    (provider.chat_stream request) closeAfter
  rw [receivedChunks, resolved] at received
  dsimp only at received
  rw [traced] at received
  refine ⟨received.trans (ProviderStream.received_of_stays completes.2), ?_, ?_⟩
  · rw [streamEffects, effects]
    simp [GatewayEffect.record?, Told.billed]
  · refine ⟨streamLog request provider_name trace_id
      (deltaText (provider.chat_stream request).chunks)
      ((lastUsage (provider.chat_stream request).chunks).getD ⟨0, 0, 0⟩), ?_, rfl, rfl⟩
    rw [streamEffects, effects]
    simp [GatewayEffect.logGeneration?, deltaText]

/-- A response was billed as it is told. -/
theorem bills_of_chat {response : ChatResponse}
    (succeeded : ((chat collaborators request service_name request_id
      (provider.chat request)).run []).1 = .ok response) :
    Bills ((chat collaborators request service_name request_id (provider.chat request)).run []).2
      request service_name ⟨response.content, some response.usage⟩ := by
  obtain ⟨provider_name, trace_id, provided, resolved, traced, answered, logged, rfl⟩ :=
    chat_eq_ok succeeded
  have effects := @effects_chat collaborators [] request service_name request_id provider_name
    trace_id resolved traced provided
  rw [logged] at effects
  rw [answered, effects]
  constructor
  · simp [GatewayEffect.record?, Told.billed]
  · refine ⟨chatLog request provider_name trace_id provided, ?_, rfl, rfl⟩
    simp [GatewayEffect.logGeneration?]

/-- Where nothing raises, a stream that completes ends without an exception. -/
theorem stream_succeeds (working : NothingRaises collaborators) {provider_name trace_id : String}
    (resolved : collaborators.resolve request.model = .ok provider_name)
    (traced : collaborators.trace (streamTrace request service_name request_id provider_name) =
      .ok trace_id) (completes : (provider.chat_stream request).Completes closeAfter) :
    (streamedUntil collaborators provider request service_name request_id closeAfter).ending =
      .ok () := by
  have stays : ∀ close, closeAfter = some close →
      0 + (provider.chat_stream request).chunks.length ≤ close := by
    simpa using completes.2
  have loop := run_forwardChunks_of_open
    [.startTrace (streamTrace request service_name request_id provider_name)]
    (provider.chat_stream request).chunks ("", none) stays
  simp [streamedUntil, chatStream, resolved, withTrace, perform, traced, Effectful.ensure,
    Effectful.run_bind, loop, completes.1, effects_callRecord, effects_callLogGeneration,
    working.record, working.logGeneration, working.endTrace]

/-- Where nothing raises, a call whose provider answers returns the answer. -/
theorem chat_succeeds (working : NothingRaises collaborators) {provider_name trace_id : String}
    (resolved : collaborators.resolve request.model = .ok provider_name)
    (traced : collaborators.trace (chatTrace request service_name request_id provider_name) =
      .ok trace_id) {provided : ChatResponse} (answered : provider.chat request = .ok provided) :
    ((chat collaborators request service_name request_id (provider.chat request)).run []).1 =
      .ok { provided with
        metadata := OrderedDict.write "trace_id" (fun _ => .str trace_id) provided.metadata } := by
  simp [chat, resolved, withTrace, perform, traced, answered, Effectful.ensure,
    Effectful.run_bind, effects_callRecord, effects_callLogGeneration, working.record,
    working.logGeneration, working.endTrace]

/-- Where nothing raises, a stream that is not told to its end is not billed. -/
theorem not_billed_of_stream (working : NothingRaises collaborators)
    (raised : (streamedUntil collaborators provider request service_name request_id
      closeAfter).ending ≠ .ok ()) :
    recordsOf (streamEffects collaborators request service_name request_id
        (provider.chat_stream request) closeAfter) = [] ∧
      logsOf (streamEffects collaborators request service_name request_id
        (provider.chat_stream request) closeAfter) = [] := by
  unfold streamEffects
  cases resolved : collaborators.resolve request.model with
  | error failure => simp [chatStream, resolved]
  | ok provider_name =>
      cases traced : collaborators.trace
          (streamTrace request service_name request_id provider_name) with
      | error failure =>
          rw [chatStream, resolved, Effectful.run_ofExcept_ok_bind, effects_withTrace, traced]
          exact ⟨rfl, rfl⟩
      | ok trace_id =>
          by_cases completes : (provider.chat_stream request).Completes closeAfter
          · exact absurd (stream_succeeds working resolved traced completes) raised
          · rw [effects_chatStream_of_interrupted resolved traced completes]
            simp [GatewayEffect.record?, GatewayEffect.logGeneration?]

/-- Where nothing raises, a call that raises is not billed. -/
theorem not_billed_of_chat (working : NothingRaises collaborators) {failure : PyException}
    (raised : ((chat collaborators request service_name request_id
      (provider.chat request)).run []).1 = .error failure) :
    recordsOf ((chat collaborators request service_name request_id
        (provider.chat request)).run []).2 = [] ∧
      logsOf ((chat collaborators request service_name request_id
        (provider.chat request)).run []).2 = [] := by
  cases resolved : collaborators.resolve request.model with
  | error failure => simp [chat, resolved]
  | ok provider_name =>
      cases traced : collaborators.trace
          (chatTrace request service_name request_id provider_name) with
      | error failure =>
          rw [chat, resolved, Effectful.run_ofExcept_ok_bind, effects_withTrace, traced]
          exact ⟨rfl, rfl⟩
      | ok trace_id =>
          cases answered : provider.chat request with
          | error failure =>
              rw [chat, resolved, Effectful.run_ofExcept_ok_bind, effects_withTrace, traced]
              simp [GatewayEffect.record?, GatewayEffect.logGeneration?]
          | ok provided =>
              rw [chat_succeeds working resolved traced answered] at raised
              cases raised

/-- What a client receives of a stream are chunks of the provider. -/
theorem streamedUntil_subset :
    (streamedUntil collaborators provider request service_name request_id closeAfter).chunks ⊆
      (provider.chat_stream request).chunks := by
  have received := @yieldsOf_streamEffects collaborators request service_name request_id
    (provider.chat_stream request) closeAfter
  have chunks : (streamedUntil collaborators provider request service_name request_id
      closeAfter).chunks = _ := received
  rw [chunks, receivedChunks]
  split
  · exact List.nil_subset _
  · split
    · exact List.nil_subset _
    · unfold ProviderStream.received
      split
      · exact List.Subset.refl _
      · exact List.take_subset _ _

section Exchanges

variable {jinja : Jinja} {tables : PromptTables} {req : CompletionRequest}
  (reads : ∀ chat_request, (resolvePrompt jinja tables req >>= toChatRequest) = .ok chat_request →
    ReadsBack json (provider.chat_stream chat_request).chunks)

include reads

/-- What the client of a streamed request is told. -/
theorem told_of_stream {chat_request : ChatRequest}
    (resolved : (resolvePrompt jinja tables req >>= toChatRequest) = .ok chat_request)
    (effects : List GatewayEffect) :
    Exchange.told json .whole ⟨.ok (.stream (streamResponse json (streamedUntil collaborators
        provider chat_request service_name request_id closeAfter))), effects⟩ =
      if (streamedUntil collaborators provider chat_request service_name request_id
          closeAfter).ending.isOk then
        some ⟨deltaText (streamedUntil collaborators provider chat_request service_name request_id
            closeAfter).chunks,
          lastUsage (streamedUntil collaborators provider chat_request service_name request_id
            closeAfter).chunks⟩
      else none :=
  told_stream ((reads chat_request resolved).subset streamedUntil_subset) effects

/-- What arrives of an answer tells what the whole answer tells, or nothing. -/
theorem told_whole_of_told {reception : Reception} {told : Told}
    (isTold : (chatCompletions json jinja tables collaborators provider req service_name request_id
      closeAfter).told json reception = some told) :
    (chatCompletions json jinja tables collaborators provider req service_name request_id
      closeAfter).told json .whole = some told := by
  cases reception with
  | whole => exact isTold
  | cut length =>
      unfold chatCompletions at isTold ⊢
      cases resolved : resolvePrompt jinja tables req >>= toChatRequest with
      | error failure =>
          rw [resolved] at isTold
          cases isTold
      | ok chat_request =>
          rw [resolved] at isTold
          dsimp only at isTold ⊢
          by_cases streams : chat_request.stream
          · rw [if_pos streams] at isTold ⊢
            exact told_stream_of_cut ((reads chat_request resolved).subset streamedUntil_subset) _
              isTold
          · rw [if_neg streams] at isTold
            cases answered : ((chat collaborators chat_request service_name request_id
                (provider.chat chat_request)).run []).1 with
            | error failure => simp [answered, Exchange.told, Except.map] at isTold
            | ok response =>
                simp [answered, Exchange.told, Except.map, CompletionAnswer.told] at isTold

/-- A client that was told something was billed for it. -/
theorem bills_of_told {reception : Reception} {told : Told}
    (received : (chatCompletions json jinja tables collaborators provider req service_name
      request_id closeAfter).told json reception = some told) :
    ∃ chat_request, (resolvePrompt jinja tables req >>= toChatRequest) = .ok chat_request ∧
      Bills (chatCompletions json jinja tables collaborators provider req service_name request_id
        closeAfter).effects chat_request service_name told := by
  have isTold := told_whole_of_told reads received
  unfold chatCompletions at isTold ⊢
  cases resolved : resolvePrompt jinja tables req >>= toChatRequest with
  | error failure =>
      rw [resolved] at isTold
      cases isTold
  | ok chat_request =>
      rw [resolved] at isTold
      refine ⟨chat_request, rfl, ?_⟩
      dsimp only at isTold ⊢
      by_cases streams : chat_request.stream
      · rw [if_pos streams, told_of_stream reads resolved] at isTold
        rw [if_pos streams]
        cases ended : (streamedUntil collaborators provider chat_request service_name request_id
            closeAfter).ending with
        | error failure => simp [ended, Except.isOk, Except.toBool] at isTold
        | ok done =>
            obtain ⟨chunks, bills⟩ := bills_of_stream ended
            rw [ended, chunks] at isTold
            cases isTold
            exact bills
      · rw [if_neg streams] at isTold ⊢
        cases answered : ((chat collaborators chat_request service_name request_id
            (provider.chat chat_request)).run []).1 with
        | error failure => simp [answered, Exchange.told, Except.map] at isTold
        | ok response =>
            rw [answered] at isTold
            have same : (⟨(completionResponse response).text, some response.usage⟩ : Told) = told :=
              Option.some.inj isTold
            rw [← same, text_completionResponse]
            exact bills_of_chat answered

/-- Where nothing raises, an answer that tells nothing, as a whole, is not billed. -/
theorem not_billed_of_not_told (working : NothingRaises collaborators)
    (notTold : (chatCompletions json jinja tables collaborators provider req service_name request_id
      closeAfter).told json .whole = none) :
    recordsOf (chatCompletions json jinja tables collaborators provider req service_name request_id
        closeAfter).effects = [] ∧
      logsOf (chatCompletions json jinja tables collaborators provider req service_name request_id
        closeAfter).effects = [] := by
  unfold chatCompletions at notTold ⊢
  cases resolved : resolvePrompt jinja tables req >>= toChatRequest with
  | error failure => exact ⟨rfl, rfl⟩
  | ok chat_request =>
      rw [resolved] at notTold
      dsimp only at notTold ⊢
      by_cases streams : chat_request.stream
      · rw [if_pos streams, told_of_stream reads resolved] at notTold
        rw [if_pos streams]
        refine not_billed_of_stream working fun ended => ?_
        rw [ended] at notTold
        cases notTold
      · rw [if_neg streams] at notTold ⊢
        cases answered : ((chat collaborators chat_request service_name request_id
            (provider.chat chat_request)).run []).1 with
        | error failure => exact not_billed_of_chat working answered
        | ok response =>
            simp [answered, Exchange.told, Except.map, CompletionAnswer.told] at notTold

end Exchanges

/-- **What a client is told is what is billed.** Wherever its connection ends, a client that
got the JSON object, or saw "[DONE]", was told a text: exactly its usage was recorded, once,
and one generation with exactly this text was logged. Where no collaborator raises, an answer
that tells nothing even if all of it arrives, as when an exception cuts the stream or the
generator is closed at a chunk, is not billed; and a request whose prompt or messages are
refused has no effect at all. -/
theorem told_is_billed (json : JsonModule String) (jinja : Jinja) (tables : PromptTables)
    (collaborators : Collaborators) (provider : ProviderCalls) (req : CompletionRequest)
    (service_name : String) (request_id : Option String) (closeAfter : Option Nat)
    (reads : ∀ chat_request, (resolvePrompt jinja tables req >>= toChatRequest) = .ok chat_request →
      ReadsBack json (provider.chat_stream chat_request).chunks)
    (exchange : Exchange)
    (exchanged : chatCompletions json jinja tables collaborators provider req service_name
      request_id closeAfter = exchange) :
    (∀ reception told, exchange.told json reception = some told →
      ∃ chat_request, (resolvePrompt jinja tables req >>= toChatRequest) = .ok chat_request ∧
        Bills exchange.effects chat_request service_name told) ∧
    (NothingRaises collaborators → exchange.told json .whole = none →
      recordsOf exchange.effects = [] ∧ logsOf exchange.effects = []) ∧
    (∀ failure, (resolvePrompt jinja tables req >>= toChatRequest) = .error failure →
      exchange.effects = []) := by
  subst exchanged
  refine ⟨fun reception told => bills_of_told reads, not_billed_of_not_told reads,
    fun failure refused => ?_⟩
  rw [chatCompletions, refused]

end Billing

/-! ## A question with a managed prompt -/

/-- A question to the support agent, to be answered in a stream. -/
def supportQuestion : CompletionRequest :=
  { supportRequest [[("role", "user"), ("content", "Hi")]] with stream := true }

/-- A provider that streams one chunk, whose content looks like the end of a stream. -/
def trickyCalls : ProviderCalls where
  chat _ := .error .generatorExit
  chat_stream _ := ⟨[trickyChunk], .ok ()⟩

def trickyExchange : Exchange :=
  chatCompletions trickyJson plainJinja supportTables workingCollaborators trickyCalls
    supportQuestion "svc" none none

theorem tricky_stream_is_billed :
    (∀ reception told, trickyExchange.told trickyJson reception = some told →
      ∃ chat_request,
        (resolvePrompt plainJinja supportTables supportQuestion >>= toChatRequest) =
          .ok chat_request ∧
        Bills trickyExchange.effects chat_request "svc" told) ∧
    (NothingRaises workingCollaborators → trickyExchange.told trickyJson .whole = none →
      recordsOf trickyExchange.effects = [] ∧ logsOf trickyExchange.effects = []) ∧
    (∀ failure,
      (resolvePrompt plainJinja supportTables supportQuestion >>= toChatRequest) =
        .error failure →
      trickyExchange.effects = []) :=
  told_is_billed trickyJson plainJinja supportTables workingCollaborators trickyCalls
    supportQuestion "svc" none none (fun _ _ => readsBack_trickyJson) trickyExchange rfl

/-- The client is told the content of the chunk. -/
example : trickyExchange.told trickyJson .whole = some ⟨"data: [DONE]\n\n", none⟩ := by
  rw [trickyExchange]
  exact told_stream readsBack_trickyJson _

/-! ## The two ways to answer -/

/-- What Anthropic does: it answers a message to the parameters of a call, and streams it in
events. -/
def anthropicCalls (answers : AnthropicParams → AnthropicMessage)
    (events : AnthropicParams → List AnthropicEvent) (response_id : String) : ProviderCalls where
  chat request := .ok (AnthropicProvider.chat (answers (AnthropicProvider.buildParams request)))
  chat_stream request :=
    { chunks :=
        AnthropicProvider.chatStream request (events (AnthropicProvider.buildParams request))
          (answers (AnthropicProvider.buildParams request)) response_id
      ending := .ok () }

/-- A log without the parts in which streams are marked: its trace and its metadata. -/
def unmarked (log : GenerationLog) : GenerationLog := { log with trace_id := "", metadata := [] }

/-- The usage of a message is that of its last event. -/
theorem lastUsage_anthropic {message : AnthropicMessage} {events : List AnthropicEvent}
    (cuts : CutsMessage message events) (request : ChatRequest) (response_id : String) :
    lastUsage (AnthropicProvider.chatStream request events message response_id) =
      some message.totalUsage := by
  obtain ⟨deltas, rfl, -, -⟩ := cuts
  rw [lastUsage, AnthropicProvider.chatStream, List.filterMap_append, List.filterMap_append]
  exact List.getLast?_concat

section Modes

variable {json : JsonModule String} {collaborators : Collaborators}
  {answers : AnthropicParams → AnthropicMessage} {events : AnthropicParams → List AnthropicEvent}
  {response_id service_name : String} {request_id : Option String}

/-- What both ways to answer do: the client is told the text and the usage of a message, and
this is recorded and logged. -/
structure Answers (json : JsonModule String) (exchange : Exchange) (chat_request : ChatRequest)
    (service_name provider_name : String) (message : AnthropicMessage) : Prop where
  told : exchange.told json .whole = some ⟨textsOf message.content, some message.totalUsage⟩
  recorded : recordsOf exchange.effects =
    [costRecord chat_request service_name message.totalUsage]
  logged : (logsOf exchange.effects).map unmarked =
    [⟨"", provider_name ++ "_generation", chat_request.model, chat_request.messages,
      textsOf message.content, message.totalUsage, []⟩]

theorem answers_of_stream (working : NothingRaises collaborators) (chat_request : ChatRequest)
    (cuts : CutsMessage (answers (AnthropicProvider.buildParams chat_request))
      (events (AnthropicProvider.buildParams chat_request)))
    (reads : ReadsBack json
      ((anthropicCalls answers events response_id).chat_stream chat_request).chunks)
    {provider_name trace_id : String}
    (resolved : collaborators.resolve chat_request.model = .ok provider_name)
    (traced : collaborators.trace (streamTrace chat_request service_name request_id
      provider_name) = .ok trace_id) :
    Answers json
      ⟨.ok (.stream (streamResponse json (streamedUntil collaborators
        (anthropicCalls answers events response_id) chat_request service_name request_id none))),
        streamEffects collaborators chat_request service_name request_id
          ((anthropicCalls answers events response_id).chat_stream chat_request) none⟩
      chat_request service_name provider_name
      (answers (AnthropicProvider.buildParams chat_request)) := by
  have completes : ((anthropicCalls answers events response_id).chat_stream
      chat_request).Completes none := ProviderStream.completes_of_consumed _
  have ended := stream_succeeds working resolved traced completes
  obtain ⟨chunks, bills⟩ := bills_of_stream ended
  have usage := lastUsage_anthropic cuts chat_request response_id
  have text := anthropic_streamed_text cuts chat_request response_id
  rw [anthropic_content] at text
  have logs := logsOf_wholeStream resolved traced
    ((anthropicCalls answers events response_id).chat_stream chat_request).chunks
  rw [working.record] at logs
  constructor
  · rw [told_stream (by rwa [chunks]), ended, chunks]
    simp only [anthropicCalls, usage, text]
    rfl
  · rw [bills.recorded]
    simp only [anthropicCalls, usage]
    rfl
  · change (logsOf (wholeStreamEffects collaborators chat_request service_name request_id
      ((anthropicCalls answers events response_id).chat_stream chat_request).chunks)).map
        unmarked = _
    rw [logs]
    simp only [anthropicCalls, usage, text]
    rfl

theorem answers_of_chat (working : NothingRaises collaborators) (chat_request : ChatRequest)
    {provider_name trace_id : String}
    (resolved : collaborators.resolve chat_request.model = .ok provider_name)
    (traced : collaborators.trace (chatTrace chat_request service_name request_id
      provider_name) = .ok trace_id) :
    Answers json
      ⟨((chat collaborators chat_request service_name request_id
          ((anthropicCalls answers events response_id).chat chat_request)).run []).1.map
            fun response => .completion (completionResponse response),
        ((chat collaborators chat_request service_name request_id
          ((anthropicCalls answers events response_id).chat chat_request)).run []).2⟩
      chat_request service_name provider_name
      (answers (AnthropicProvider.buildParams chat_request)) := by
  have text := anthropic_content (answers (AnthropicProvider.buildParams chat_request))
  have effects := @effects_chat collaborators [] chat_request service_name request_id
    provider_name trace_id resolved traced
    (AnthropicProvider.chat (answers (AnthropicProvider.buildParams chat_request)))
  rw [working.logGeneration] at effects
  constructor
  · rw [chat_succeeds working resolved traced rfl]
    simp only [Exchange.told, Except.map, CompletionAnswer.told, text_completionResponse]
    rw [← text]
    rfl
  · simp only [anthropicCalls]
    rw [effects]
    simp [GatewayEffect.record?, AnthropicProvider.chat]
  · simp only [anthropicCalls]
    rw [effects, ← text]
    simp [GatewayEffect.logGeneration?, chatLog, unmarked, AnthropicProvider.chat]

/-- A request that is refused before it reaches the router, or whose model has no provider. -/
theorem refused_in_both {jinja : Jinja} {tables : PromptTables} {provider : ProviderCalls}
    {req : CompletionRequest} {closeAfter : Option ℕ} (stream : Bool) :
    (∀ failure, (resolvePrompt jinja tables req >>= toChatRequest) = .error failure →
      chatCompletions json jinja tables collaborators provider { req with stream } service_name
        request_id closeAfter = ⟨.error failure, []⟩) ∧
    (∀ chat_request failure,
      (resolvePrompt jinja tables req >>= toChatRequest) = .ok chat_request →
      collaborators.resolve chat_request.model = .error failure →
      let exchange := chatCompletions json jinja tables collaborators provider { req with stream }
        service_name request_id closeAfter
      exchange.told json .whole = none ∧ exchange.effects = []) := by
  constructor
  · intro failure refused
    rw [chatCompletions, resolved_with_stream, refused]
    rfl
  · intro chat_request failure converted unknown
    dsimp only
    rw [chatCompletions, resolved_with_stream, converted]
    cases stream with
    | false => simp [Except.map, chat, unknown, Exchange.told]
    | true =>
        have streamed : streamedUntil collaborators provider { chat_request with stream := true }
            service_name request_id closeAfter = ⟨[], .error failure⟩ := by
          simp [streamedUntil, chatStream, unknown, yieldsOf]
        simp only [Except.map, if_true, streamed]
        refine ⟨rfl, ?_⟩
        simp [streamEffects, chatStream, unknown]

end Modes

/-- **The two ways to answer agree.** Anthropic may cut the text of a message in any way. Where
traces start and nothing raises after that, the client of a stream that reads it to its end is
told the same text and the same usage as the client of the JSON object, the same is recorded,
and the same generation is logged, up to the marks of a stream in its metadata. A request
whose prompt or messages are refused is answered with the same exception in both ways, and
one whose model has no provider is told nothing in both, and neither has an effect. -/
theorem anthropic_modes_agree (json : JsonModule String) (jinja : Jinja) (tables : PromptTables)
    (collaborators : Collaborators) (answers : AnthropicParams → AnthropicMessage)
    (events : AnthropicParams → List AnthropicEvent) (response_id : String)
    (req : CompletionRequest) (service_name : String) (request_id : Option String)
    (cuts : ∀ params, CutsMessage (answers params) (events params))
    (working : NothingRaises collaborators)
    (starts : ∀ start, ∃ trace_id, collaborators.trace start = .ok trace_id)
    (reads : ∀ chat_request,
      (resolvePrompt jinja tables { req with stream := true } >>= toChatRequest) =
        .ok chat_request →
      ReadsBack json ((anthropicCalls answers events response_id).chat_stream chat_request).chunks)
    (exchange : Bool → Exchange)
    (exchanged : ∀ stream, exchange stream = chatCompletions json jinja tables collaborators
      (anthropicCalls answers events response_id) { req with stream } service_name request_id
      none) :
    (exchange true).told json .whole = (exchange false).told json .whole ∧
      recordsOf (exchange true).effects = recordsOf (exchange false).effects ∧
      (logsOf (exchange true).effects).map unmarked =
        (logsOf (exchange false).effects).map unmarked ∧
      (∀ failure, (resolvePrompt jinja tables req >>= toChatRequest) = .error failure →
        ∀ stream, exchange stream = ⟨.error failure, []⟩) ∧
      (∀ chat_request failure,
        (resolvePrompt jinja tables req >>= toChatRequest) = .ok chat_request →
        collaborators.resolve chat_request.model = .error failure →
        ∀ stream, (exchange stream).told json .whole = none ∧ (exchange stream).effects = []) := by
  have refusals : ∀ stream, _ := fun stream => @refused_in_both json collaborators service_name
    request_id jinja tables (anthropicCalls answers events response_id) req none stream
  simp only [← exchanged] at refusals
  rw [← and_assoc, ← and_assoc]
  refine ⟨and_assoc.mpr ?_, fun failure refused stream => (refusals stream).1 failure refused,
    fun chat_request failure converted unknown stream =>
      (refusals stream).2 chat_request failure converted unknown⟩
  rw [resolved_with_stream jinja tables req true] at reads
  cases converted : resolvePrompt jinja tables req >>= toChatRequest with
  | error failure =>
      rw [(refusals true).1 failure converted, (refusals false).1 failure converted]
      exact ⟨rfl, rfl, rfl⟩
  | ok chat_request =>
      cases resolved : collaborators.resolve chat_request.model with
      | error failure =>
          obtain ⟨streamed, streamedEffects⟩ := (refusals true).2 _ _ converted resolved
          obtain ⟨plain, plainEffects⟩ := (refusals false).2 _ _ converted resolved
          rw [streamed, plain, streamedEffects, plainEffects]
          exact ⟨rfl, rfl, rfl⟩
      | ok provider_name =>
          rw [exchanged, exchanged, chatCompletions, chatCompletions,
            resolved_with_stream jinja tables req true, resolved_with_stream jinja tables req false]
          rw [converted] at reads ⊢
          simp only [Except.map, if_true, Bool.false_eq_true, if_false]
          obtain ⟨stream_trace_id, streamStarts⟩ := starts (streamTrace
            { chat_request with stream := true } service_name request_id provider_name)
          obtain ⟨chat_trace_id, chatStarts⟩ := starts (chatTrace
            { chat_request with stream := false } service_name request_id provider_name)
          have streamed := answers_of_stream working { chat_request with stream := true }
            (cuts _) (reads _ rfl) resolved streamStarts
          have plain := @answers_of_chat json collaborators answers events response_id service_name
            request_id working { chat_request with stream := false } _ _ resolved chatStarts
          exact ⟨streamed.told.trans plain.told.symm, streamed.recorded.trans plain.recorded.symm,
            streamed.logged.trans plain.logged.symm⟩

/-! ## An answer in both ways -/

/-- A message, and a stream that cuts its text in one piece. -/
def helloMessage : AnthropicMessage := ⟨"msg_1", "m", [some "Hello"], some "end_turn", ⟨3, 5⟩⟩

def helloEvents : List AnthropicEvent := [.other, .contentBlockDelta (some "Hello"), .messageStop]

/-- The chunks of the stream, and their JSON texts. -/
def helloChunk : ChatResponseChunk :=
  ⟨"chatcmpl-1", "claude-sonnet-4-20250514", "Hello", none, none⟩

def lastChunk : ChatResponseChunk :=
  ⟨"chatcmpl-1", "claude-sonnet-4-20250514", "", some "end_turn", some ⟨3, 5, 8⟩⟩

def helloText : String :=
  "\x7b\"id\": \"chatcmpl-1\", \"model\": \"claude-sonnet-4-20250514\", " ++
    "\"choices\": [\x7b\"index\": 0, \"delta\": \x7b\"content\": \"Hello\"\x7d, " ++
    "\"finish_reason\": null\x7d]\x7d"

def lastText : String :=
  "\x7b\"id\": \"chatcmpl-1\", \"model\": \"claude-sonnet-4-20250514\", " ++
    "\"choices\": [\x7b\"index\": 0, \"delta\": \x7b\x7d, " ++
    "\"finish_reason\": \"end_turn\"\x7d], \"usage\": \x7b\"input_tokens\": 3, " ++
    "\"output_tokens\": 5, \"total_tokens\": 8\x7d\x7d"

/-- `json.loads` on these texts. -/
def loadHelloText (text : String) : Except PyException Json :=
  if text = lastText then .ok (chunkData lastChunk)
  else if text = helloText then .ok (chunkData helloChunk)
  else .error .jsonDecodeError

/-- The JSON module on the data of the two chunks, of which only one has a usage. -/
def helloJson : JsonModule String where
  dumps data :=
    match data.item "usage" with
    | .ok _ => lastText
    | .error _ => helloText
  loads := loadHelloText

theorem readsBack_helloJson : ReadsBack helloJson [helloChunk, lastChunk] where
  single_line chunk sent := by
    have single : '\n' ∉ helloText.toList ∧ '\n' ∉ lastText.toList := by decide +kernel
    rcases List.mem_pair.mp sent with rfl | rfl
    · exact single.1
    · exact single.2
  inverts chunk sent := by
    have different : helloText ≠ lastText := by decide
    have first : loadHelloText helloText = .ok (chunkData helloChunk) := by
      rw [loadHelloText, if_neg different, if_pos rfl]
    have second : loadHelloText lastText = .ok (chunkData lastChunk) := by
      rw [loadHelloText, if_pos rfl]
    rcases List.mem_pair.mp sent with rfl | rfl
    · exact first
    · have loads : helloJson.loads = loadHelloText := rfl
      have dumped : helloJson.dumps (chunkData lastChunk) = lastText := rfl
      rw [loads, dumped, second]
  done_is_no_data data loaded := by
    have different : "[DONE]" ≠ lastText ∧ "[DONE]" ≠ helloText := by decide
    change loadHelloText "[DONE]" = _ at loaded
    rw [loadHelloText, if_neg different.1, if_neg different.2] at loaded
    cases loaded

def helloExchange (stream : Bool) : Exchange :=
  chatCompletions helloJson plainJinja supportTables workingCollaborators
    (anthropicCalls (fun _ => helloMessage) (fun _ => helloEvents) "chatcmpl-1")
    { supportQuestion with stream } "svc" none none

theorem hello_modes_agree :
    (helloExchange true).told helloJson .whole = (helloExchange false).told helloJson .whole ∧
      recordsOf (helloExchange true).effects = recordsOf (helloExchange false).effects ∧
      (logsOf (helloExchange true).effects).map unmarked =
        (logsOf (helloExchange false).effects).map unmarked := by
  have agree := anthropic_modes_agree helloJson plainJinja supportTables workingCollaborators
    (fun _ => helloMessage) (fun _ => helloEvents) "chatcmpl-1" supportQuestion "svc" none ?_ ?_
    (fun _ => ⟨_, rfl⟩) ?_ helloExchange (fun _ => rfl)
  · exact ⟨agree.1, agree.2.1, agree.2.2.1⟩
  · exact fun _ => ⟨helloEvents.dropLast, rfl, by decide, by decide⟩
  · exact ⟨fun _ => rfl, fun _ => rfl, fun _ => rfl⟩
  · intro chat_request converted
    cases converted
    exact readsBack_helloJson

end LlmopsPlatform.Api
