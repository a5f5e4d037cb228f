import LlmopsPlatform.Gateway.Anthropic
import LlmopsPlatform.Gateway.Gemini

/-!
# The conversation that a provider is sent

A conversation is what a request means: who says what, the instruction, and how to answer.
Each provider has its own format for it. A call in the format of a provider denotes a
conversation if all its roles are roles of that provider.

For every request the calls that are built for the two providers denote the conversation
of the request (`providers_agree`).
-/

set_option autoImplicit false

namespace LlmopsPlatform.Gateway

/-- Who says something in a conversation. -/
inductive Speaker where
  | user
  | assistant
deriving DecidableEq, Repr

/-- Something that is said. -/
structure Turn where
  speaker : Speaker
  text : String
deriving DecidableEq, Repr

/-- What a provider is asked to continue, and how. -/
structure Conversation where
  turns : List Turn
  instruction : Option String
  stop : Option (List String)
  temperature : ℚ
  top_p : ℚ
  max_tokens : Nat

/-- The turn of a message. An instruction is not a turn. -/
def Message.turn? (msg : Message) : Option Turn :=
  match msg.role with
  | .system => none
  | .user => some ⟨.user, msg.content⟩
  | .assistant => some ⟨.assistant, msg.content⟩

/-- The conversation of a request. Its instruction is the last one, if that is not empty. -/
def ChatRequest.conversation (request : ChatRequest) : Conversation where
  turns := request.messages.filterMap Message.turn?
  instruction := (systemContents request.messages).getLast?.filter (· ≠ "")
  stop := request.stop.filter (· ≠ [])
  temperature := request.temperature
  top_p := request.top_p
  max_tokens := request.max_tokens

/-- A message of the Anthropic API. -/
def anthropicTurn (message : String × String) : Option Turn :=
  match message.1 with
  | "user" => some ⟨.user, message.2⟩
  | "assistant" => some ⟨.assistant, message.2⟩
  | _ => none

/-- The conversation of a call of the Anthropic API. -/
def AnthropicParams.conversation (params : AnthropicParams) : Option Conversation :=
  (params.messages.mapM anthropicTurn).map fun turns =>
    { turns
      instruction := params.system
      stop := params.stop_sequences
      temperature := params.temperature
      top_p := params.top_p
      max_tokens := params.max_tokens }

/-- A content of the Gemini API, which calls the assistant the model. -/
def geminiTurn (content : GeminiContent) : Option Turn :=
  match content.role with
  | "user" => some ⟨.user, content.text⟩
  | "model" => some ⟨.assistant, content.text⟩
  | _ => none

/-- The conversation of a call of the Gemini API. -/
def geminiConversation (contents : List GeminiContent) (config : GenerateContentConfig) :
    Option Conversation :=
  (contents.mapM geminiTurn).map fun turns =>
    { turns
      instruction := config.system_instruction
      stop := config.stop_sequences
      temperature := config.temperature
      top_p := config.top_p
      max_tokens := config.max_output_tokens }

/-! ## The turns -/

/-- A loop over messages that encodes each message that is a turn leaves the turns to
be decoded, in their order. -/
theorem mapM_foldl_turns {Encoded Rest : Type} (encode : Message → Encoded)
    (decode : Encoded → Option Turn)
    (step : Rest × List Encoded → Message → Rest × List Encoded)
    (appends : ∀ taken msg, (step taken msg).2 =
      if msg.role = .system then taken.2 else taken.2 ++ [encode msg])
    (decodes : ∀ msg, msg.role ≠ .system → decode (encode msg) = msg.turn?)
    (messages : List Message) (taken : Rest × List Encoded) {before : List Turn}
    (decoded : taken.2.mapM decode = some before) :
    (messages.foldl step taken).2.mapM decode =
      some (before ++ messages.filterMap Message.turn?) := by
  induction messages generalizing taken before with
  | nil => simpa using decoded
  | cons msg rest ih =>
      rw [List.foldl_cons]
      cases isTurn : msg.turn? with
      | none =>
          have isSystem : msg.role = .system := by
            cases role : msg.role <;> simp [Message.turn?, role] at isTurn ⊢
          rw [List.filterMap_cons_none isTurn]
          apply ih
          rw [appends, if_pos isSystem]
          exact decoded
      | some turn =>
          have spoken : msg.role ≠ .system := by
            intro isSystem
            simp [Message.turn?, isSystem] at isTurn
          rw [List.filterMap_cons_some isTurn, List.append_cons]
          apply ih
          rw [appends, if_neg spoken, List.mapM_append, decoded]
          simp [decodes msg spoken, isTurn]

theorem buildParams_turns (request : ChatRequest) :
    (AnthropicProvider.buildParams request).messages.mapM anthropicTurn =
      some (request.messages.filterMap Message.turn?) := by
  have decoded := mapM_foldl_turns (fun msg => (msg.role.value, msg.content)) anthropicTurn
    AnthropicProvider.takeMessage
    (fun taken msg => by unfold AnthropicProvider.takeMessage; split <;> rfl)
    (fun msg spoken => by
      cases role : msg.role <;> simp_all [anthropicTurn, Message.turn?, Role.value])
    request.messages (none, []) rfl
  exact decoded

theorem buildContents_turns (request : ChatRequest) :
    (GeminiProvider.buildContents request).1.mapM geminiTurn =
      some (request.messages.filterMap Message.turn?) := by
  have decoded := mapM_foldl_turns
    (fun msg => ⟨if msg.role = .assistant then "model" else "user", msg.content⟩) geminiTurn
    GeminiProvider.takeMessage
    (fun taken msg => by unfold GeminiProvider.takeMessage; split <;> rfl)
    (fun msg spoken => by cases role : msg.role <;> simp_all [geminiTurn, Message.turn?])
    request.messages (none, []) rfl
  exact decoded

/-- **The providers see the same conversation.** The calls that are built for a request
both denote the conversation of the request. -/
theorem providers_agree (request : ChatRequest) :
    (AnthropicProvider.buildParams request).conversation = some request.conversation ∧
      geminiConversation (GeminiProvider.buildContents request).1
        (GeminiProvider.buildConfig request (GeminiProvider.buildContents request).2) =
          some request.conversation := by
  constructor
  · rw [AnthropicParams.conversation, buildParams_turns, AnthropicProvider.buildParams_system]
    rfl
  · rw [geminiConversation, buildContents_turns, GeminiProvider.buildConfig_system_instruction]
    rfl

end LlmopsPlatform.Gateway
