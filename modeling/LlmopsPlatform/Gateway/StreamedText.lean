import LlmopsPlatform.Gateway.Anthropic
import LlmopsPlatform.Gateway.CostAttribution
import LlmopsPlatform.Gateway.GeminiAgreement

/-!
# The text of a stream

A provider answers with blocks or parts, and some of them have a text. A stream cuts the
same text in another way. However it is cut, the chunks that a provider streams add up to
the content that it returns without streaming, the router forwards them as they are, and
the output that it logs is their text (`streamed_as_chat`).
-/

set_option autoImplicit false

namespace LlmopsPlatform.Gateway

open Foundations Python LLMRouter

/-- The text of pieces of which some have none. -/
def textsOf (pieces : List (Option String)) : String :=
  String.join (pieces.map fun piece => piece.getD "")

/-- The text that chunks add up to. -/
def deltaText (chunks : List ChatResponseChunk) : String :=
  String.join (chunks.map ChatResponseChunk.delta_content)

@[simp] theorem textsOf_cons (piece : Option String) (rest : List (Option String)) :
    textsOf (piece :: rest) = piece.getD "" ++ textsOf rest := by
  rw [textsOf, List.map_cons, String.join_cons, textsOf]

@[simp] theorem deltaText_cons (chunk : ChatResponseChunk) (rest : List ChatResponseChunk) :
    deltaText (chunk :: rest) = chunk.delta_content ++ deltaText rest := by
  rw [deltaText, List.map_cons, String.join_cons, deltaText]

/-- The text that an event carries. -/
def AnthropicEvent.text? : AnthropicEvent → Option String
  | .contentBlockDelta text => text
  | _ => none

/-- The events cut the text of a message in some way, and then the message stops. -/
def CutsMessage (message : AnthropicMessage) (events : List AnthropicEvent) : Prop :=
  ∃ deltas, events = deltas ++ [.messageStop] ∧ .messageStop ∉ deltas ∧
    textsOf (deltas.map AnthropicEvent.text?) = textsOf message.content

/-- The chunks cut the text of a response in some way. -/
def CutsResponse (response : GenerateContentResponse) (chunks : List GenerateContentResponse) :
    Prop :=
  textsOf (chunks.flatMap GenerateContentResponse.parts) = textsOf response.parts

section Stream

variable (collaborators : Collaborators) (request : ChatRequest) (service_name : String)
  (request_id : Option String)

/-- The effects of a stream that the provider ends and the consumer reads to its end. -/
def wholeStreamEffects (chunks : List ChatResponseChunk) : List GatewayEffect :=
  streamEffects collaborators request service_name request_id ⟨chunks, .ok ()⟩ none

/-- The text of a stream is the content of a response: that of the chunks of the provider,
that of the chunks which the router yields, and the output that it logs. The router
yields the chunks unchanged. -/
structure StreamsAsChat (chunks : List ChatResponseChunk) (response : ChatResponse) : Prop where
  provided : deltaText chunks = response.content
  forwarded : yieldsOf (wholeStreamEffects collaborators request service_name request_id chunks) =
    chunks
  yielded :
    deltaText (yieldsOf (wholeStreamEffects collaborators request service_name request_id
      chunks)) = response.content
  logged : ∀ log ∈ logsOf (wholeStreamEffects collaborators request service_name request_id
    chunks), log.output = response.content
  logs_once : (∀ entry, collaborators.record entry = .ok ()) →
    ∃ log, logsOf (wholeStreamEffects collaborators request service_name request_id chunks) = [log]

/-- The last chunk of a stream has the finish reason and the usage of a response. -/
def FinishesAsChat (chunks : List ChatResponseChunk) (response : ChatResponse) : Prop :=
  ∃ last, chunks.getLast? = some last ∧
    last.finish_reason = response.choices.head?.map Choice.finish_reason ∧
    last.usage = some response.usage

variable {collaborators request service_name request_id}

/-! ## The router -/

/-- What the router logs of a stream: its text. When the record raises, it logs nothing. -/
theorem logsOf_wholeStream {provider_name trace_id : String}
    (resolved : collaborators.resolve request.model = .ok provider_name)
    (traced : collaborators.trace (streamTrace request service_name request_id provider_name) =
      .ok trace_id) (chunks : List ChatResponseChunk) :
    logsOf (wholeStreamEffects collaborators request service_name request_id chunks) =
      match collaborators.record (costRecord request service_name
        ((lastUsage chunks).getD ⟨0, 0, 0⟩)) with
      | .ok _ => [streamLog request provider_name trace_id (deltaText chunks)
          ((lastUsage chunks).getD ⟨0, 0, 0⟩)]
      | .error _ => [] := by
  unfold wholeStreamEffects streamEffects
  rw [effects_chatStream_of_completes resolved traced
    (ProviderStream.completes_of_consumed chunks) rfl,
    foldl_append_eq_join, String.empty_append]
  cases collaborators.record (costRecord request service_name
    ((lastUsage chunks).getD ⟨0, 0, 0⟩)) <;> simp [GatewayEffect.logGeneration?, deltaText]

/-- The router does not change the text. -/
theorem streamsAsChat_of_provided {provider_name trace_id : String}
    (resolved : collaborators.resolve request.model = .ok provider_name)
    (traced : collaborators.trace (streamTrace request service_name request_id provider_name) =
      .ok trace_id) {chunks : List ChatResponseChunk} {response : ChatResponse}
    (provided : deltaText chunks = response.content) :
    StreamsAsChat collaborators request service_name request_id chunks response := by
  have forwarded :
      yieldsOf (wholeStreamEffects collaborators request service_name request_id chunks) =
        chunks := by
    rw [wholeStreamEffects, yieldsOf_streamEffects]
    simp only [receivedChunks, resolved, traced, ProviderStream.received]
  have logs := logsOf_wholeStream resolved traced chunks
  refine ⟨provided, forwarded, ?_, ?_, ?_⟩
  · rw [forwarded, provided]
  · intro log member
    rw [logs] at member
    split at member
    · rw [List.mem_singleton.mp member, ← provided]
      rfl
    · cases member
  · intro recorded
    rw [logs, recorded]
    exact ⟨_, rfl⟩

/-! ## The providers -/

theorem anthropic_content (message : AnthropicMessage) :
    (AnthropicProvider.chat message).content = textsOf message.content := by
  have adds : AnthropicProvider.addBlock = fun text block => text ++ block.getD "" := by
    funext text block
    cases block <;> simp [AnthropicProvider.addBlock]
  have joined :=
    foldl_append_eq_join (fun block : Option String => block.getD "") message.content ""
  rw [String.empty_append, ← adds] at joined
  exact joined

/-- The chunks of the events have the texts of the events. -/
theorem anthropic_deltaText (request : ChatRequest) (response_id : String)
    (final : AnthropicMessage) (events : List AnthropicEvent) :
    deltaText (AnthropicProvider.chatStream request events final response_id) =
      textsOf (events.map AnthropicEvent.text?) := by
  induction events with
  | nil => rfl
  | cons event rest ih =>
      rw [List.map_cons, textsOf_cons, ← ih, AnthropicProvider.chatStream, List.filterMap_cons]
      cases event with
      | contentBlockDelta text =>
          cases text with
          | none => exact String.empty_append.symm
          | some text => exact deltaText_cons _ _
      | messageStop => exact deltaText_cons _ _
      | other => exact String.empty_append.symm

theorem anthropic_streamed_text {message : AnthropicMessage} {events : List AnthropicEvent}
    (cuts : CutsMessage message events) (request : ChatRequest) (response_id : String) :
    deltaText (AnthropicProvider.chatStream request events message response_id) =
      (AnthropicProvider.chat message).content := by
  obtain ⟨deltas, rfl, -, same⟩ := cuts
  rw [anthropic_deltaText, anthropic_content, ← same]
  simp [textsOf, AnthropicEvent.text?]

theorem anthropic_finishes {message : AnthropicMessage} {events : List AnthropicEvent}
    (cuts : CutsMessage message events) (request : ChatRequest) (response_id : String) :
    FinishesAsChat (AnthropicProvider.chatStream request events message response_id)
      (AnthropicProvider.chat message) := by
  obtain ⟨deltas, rfl, -, -⟩ := cuts
  refine ⟨⟨response_id, request.model, "", some message.finishReason, some message.totalUsage⟩, ?_,
    rfl, rfl⟩
  rw [AnthropicProvider.chatStream, List.filterMap_append]
  exact List.getLast?_concat

theorem addTexts_eq (content : String) (parts : List (Option String)) :
    GeminiProvider.addTexts content parts = content ++ textsOf parts :=
  foldl_append_eq_join _ parts content

theorem gemini_streamed_text {response : GenerateContentResponse}
    {chunks : List GenerateContentResponse} (cuts : CutsResponse response chunks)
    (request : ChatRequest) (response_id fresh : String) :
    deltaText (GeminiProvider.chatStream request chunks response_id) =
      (GeminiProvider.chat request response fresh).content := by
  have streamed := @GeminiProvider.streamed_text request response_id chunks ""
  rw [GeminiProvider.streamedText, foldl_append_eq_join, addTexts_eq, cuts, ← addTexts_eq,
    String.empty_append] at streamed
  exact streamed

/-- **The text of a stream is the content of the answer**, for both providers, however the
text is cut. The chunks go through the router unchanged, and what it logs is their text.
The last chunk of Anthropic also has the finish reason and the usage of the answer. -/
theorem streamed_as_chat (collaborators : Collaborators) (request : ChatRequest)
    (service_name : String) (request_id : Option String) (provider_name trace_id : String)
    (resolved : collaborators.resolve request.model = .ok provider_name)
    (traced : collaborators.trace (streamTrace request service_name request_id provider_name) =
      .ok trace_id) (response_id fresh : String) :
    (∀ message events, CutsMessage message events →
      StreamsAsChat collaborators request service_name request_id
          (AnthropicProvider.chatStream request events message response_id)
          (AnthropicProvider.chat message) ∧
        FinishesAsChat (AnthropicProvider.chatStream request events message response_id)
          (AnthropicProvider.chat message)) ∧
      ∀ response chunks, CutsResponse response chunks →
        StreamsAsChat collaborators request service_name request_id
          (GeminiProvider.chatStream request chunks response_id)
          (GeminiProvider.chat request response fresh) := by
  constructor
  · intro message events cuts
    exact ⟨streamsAsChat_of_provided resolved traced
      (anthropic_streamed_text cuts request response_id),
      anthropic_finishes cuts request response_id⟩
  · intro response chunks cuts
    exact streamsAsChat_of_provided resolved traced
      (gemini_streamed_text cuts request response_id fresh)

end Stream

/-! ## An answer in three pieces -/

/-- A message with a block that has no text. -/
def greetingMessage : AnthropicMessage :=
  ⟨"msg_1", "claude-sonnet-4-20250514", [some "Hello", none, some " world"], some "end_turn",
    ⟨3, 5⟩⟩

/-- The text of the message, cut in another place. -/
def greetingEvents : List AnthropicEvent :=
  [.other, .contentBlockDelta (some "Hel"), .contentBlockDelta none,
    .contentBlockDelta (some "lo world"), .messageStop]

def greetingResponse : GenerateContentResponse :=
  geminiChunk [some "Hello", none, some " world"] (some "STOP") (some ⟨some 3, some 5⟩)

def greetingChunks : List GenerateContentResponse :=
  [geminiChunk [some "Hel", some ""] none none, geminiChunk [] none none,
    geminiChunk [some "lo world"] (some "STOP") (some ⟨some 3, some 5⟩)]

theorem greeting_streamed_as_chat :
    (StreamsAsChat workingCollaborators questionRequest "svc" none
        (AnthropicProvider.chatStream questionRequest greetingEvents greetingMessage "chatcmpl-1")
        (AnthropicProvider.chat greetingMessage) ∧
      FinishesAsChat
        (AnthropicProvider.chatStream questionRequest greetingEvents greetingMessage "chatcmpl-1")
        (AnthropicProvider.chat greetingMessage)) ∧
      StreamsAsChat workingCollaborators questionRequest "svc" none
        (GeminiProvider.chatStream questionRequest greetingChunks "chatcmpl-1")
        (GeminiProvider.chat questionRequest greetingResponse "chatcmpl-2") := by
  have law := streamed_as_chat workingCollaborators questionRequest "svc" none _ _ rfl rfl
    "chatcmpl-1" "chatcmpl-2"
  refine ⟨law.1 _ _ ⟨greetingEvents.dropLast, rfl, by decide, by decide⟩, law.2 _ _ ?_⟩
  unfold CutsResponse
  decide

end LlmopsPlatform.Gateway
