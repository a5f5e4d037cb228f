import LlmopsPlatform.Gateway.Schemas

/-!
# The Anthropic provider

The parameters of a Messages API call, and the decoding of what the API answers: a
message for `chat`, a sequence of events for `chat_stream`.

Each system message overwrites the one before, so the instruction that is sent is the
last one, unless it is empty (`buildParams_system`).
-/

set_option autoImplicit false

namespace LlmopsPlatform.Gateway

/-- The dictionary built by `_build_params`. A key that is absent is `none`. -/
structure AnthropicParams where
  model : String
  max_tokens : Nat
  messages : List (String × String)
  temperature : ℚ
  top_p : ℚ
  system : Option String
  stop_sequences : Option (List String)

structure AnthropicUsage where
  input_tokens : Int
  output_tokens : Int

/-- A message of the assistant. Not every block of its content has a text. -/
structure AnthropicMessage where
  id : String
  model : String
  content : List (Option String)
  stop_reason : Option String
  usage : AnthropicUsage

/-- An event of a stream. Not every delta has a text. -/
inductive AnthropicEvent where
  | contentBlockDelta (text : Option String)
  | messageStop
  | other
deriving DecidableEq, Repr

namespace AnthropicMessage

/-- The expression `message.stop_reason or "stop"`. -/
def finishReason (message : AnthropicMessage) : String :=
  (message.stop_reason.filter (· ≠ "")).getD "stop"

/-- The usage that both calls read from a message. -/
def totalUsage (message : AnthropicMessage) : Usage :=
  ⟨message.usage.input_tokens, message.usage.output_tokens,
    message.usage.input_tokens + message.usage.output_tokens⟩

end AnthropicMessage

namespace AnthropicProvider

/-- One round of the loop over the messages, on `system_message` and `messages`. -/
def takeMessage (taken : Option String × List (String × String)) (msg : Message) :
    Option String × List (String × String) :=
  if msg.role = .system then (some msg.content, taken.2)
  else (taken.1, taken.2 ++ [(msg.role.value, msg.content)])

/-- `AnthropicProvider._build_params`. -/
def buildParams (request : ChatRequest) : AnthropicParams :=
  let (system_message, messages) := request.messages.foldl takeMessage (none, [])
  { model := request.model
    max_tokens := request.max_tokens
    messages
    temperature := request.temperature
    top_p := request.top_p
    system := system_message.filter (· ≠ "")
    stop_sequences := request.stop.filter (· ≠ []) }

/-- The loop that adds up the texts of the blocks. -/
def addBlock (content : String) (block : Option String) : String :=
  match block with
  | some text => content ++ text
  | none => content

/-- `AnthropicProvider.chat`, for a service that answers `response`. -/
def chat (response : AnthropicMessage) : ChatResponse where
  id := response.id
  model := response.model
  choices := [{
    index := 0
    message := ⟨.assistant, response.content.foldl addBlock ""⟩
    finish_reason := response.finishReason }]
  usage := response.totalUsage
  metadata := []

/-- What `chat_stream` yields for one event. The snapshot is the message when the stream
stops. -/
def streamChunk (request : ChatRequest) (response_id : String) (final : AnthropicMessage) :
    AnthropicEvent → Option ChatResponseChunk
  | .contentBlockDelta (some text) => some ⟨response_id, request.model, text, none, none⟩
  | .contentBlockDelta none => none
  | .messageStop =>
      some ⟨response_id, request.model, "", some final.finishReason, some final.totalUsage⟩
  | .other => none

/-- `AnthropicProvider.chat_stream`, for a service that answers the stream `events`. -/
def chatStream (request : ChatRequest) (events : List AnthropicEvent) (final : AnthropicMessage)
    (response_id : String) : List ChatResponseChunk :=
  events.filterMap (streamChunk request response_id final)

/-- **The instruction that is sent** is the last system message, if it is not empty. -/
theorem buildParams_system (request : ChatRequest) :
    (buildParams request).system = (systemContents request.messages).getLast?.filter (· ≠ "") := by
  have overwrites : ∀ taken msg, (takeMessage taken msg).1 =
      if msg.role = .system then some msg.content else taken.1 := by
    intro taken msg
    unfold takeMessage
    split <;> rfl
  have last := foldl_system takeMessage overwrites request.messages (none, [])
  rw [Option.or_none] at last
  rw [← last]
  rfl

end AnthropicProvider

end LlmopsPlatform.Gateway
