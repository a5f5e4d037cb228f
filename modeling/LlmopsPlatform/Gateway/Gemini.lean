import LlmopsPlatform.Gateway.Schemas
import LlmopsPlatform.Python.Text

/-!
# The Gemini provider

The contents and the configuration of a call, and the decoding of what the service
answers: one response for `chat`, a sequence of chunks of the same type for
`chat_stream`.

As for the other provider, the instruction that is sent is the last system message,
unless it is empty (`buildConfig_system_instruction`).

The texts of a stream add up to the content of one response with the same parts
(`streamed_text`). Its terminal chunks are those of the chunks that have both parts and
a finish reason (`terminal_chatStream`).
-/

set_option autoImplicit false

namespace LlmopsPlatform.Gateway

open Python

/-- `Content(role=…, parts=[Part(text=…)])`. -/
structure GeminiContent where
  role : String
  text : String
deriving DecidableEq, Repr

structure GenerateContentConfig where
  temperature : ℚ
  top_p : ℚ
  max_output_tokens : Nat
  system_instruction : Option String
  stop_sequences : Option (List String)

/-- The content of a candidate. Every part has an optional text. -/
structure GeminiAnswerContent where
  parts : Option (List (Option String))

/-- A candidate. Its finish reason is the text that `str` gives for it. -/
structure GeminiCandidate where
  content : Option GeminiAnswerContent
  finish_reason : Option String

structure GeminiUsageMetadata where
  prompt_token_count : Option Int
  candidates_token_count : Option Int

/-- What the service answers: the response to a call, or one chunk of a stream. -/
structure GenerateContentResponse where
  candidates : Option (List GeminiCandidate)
  usage_metadata : Option GeminiUsageMetadata
  response_id : Option String

namespace GenerateContentResponse

variable (response : GenerateContentResponse)

/-- The expression `response.candidates and response.candidates[0]`. -/
def candidate : Option GeminiCandidate := response.candidates.bind List.head?

/-- The parts of the first candidate, none if an attribute on the way is missing. -/
def parts : List (Option String) :=
  ((response.candidate.bind GeminiCandidate.content).bind GeminiAnswerContent.parts).getD []

/-- The finish reason of the first candidate, unless it is falsy. -/
def finishReason : Option String :=
  (response.candidate.bind GeminiCandidate.finish_reason).filter (· ≠ "")

end GenerateContentResponse

/-- The usage that both calls read from the metadata. -/
def GeminiUsageMetadata.usage (metadata : GeminiUsageMetadata) : Usage :=
  let input_tokens := metadata.prompt_token_count.getD 0
  let output_tokens := metadata.candidates_token_count.getD 0
  ⟨input_tokens, output_tokens, input_tokens + output_tokens⟩

namespace GeminiProvider

/-- One round of the loop over the messages, on `system_instruction` and `contents`. -/
def takeMessage (taken : Option String × List GeminiContent) (msg : Message) :
    Option String × List GeminiContent :=
  if msg.role = .system then (some msg.content, taken.2)
  else
    -- Gemini uses "model" instead of "assistant".
    let role := if msg.role = .assistant then "model" else "user"
    (taken.1, taken.2 ++ [⟨role, msg.content⟩])

/-- `GeminiProvider._build_contents`. -/
def buildContents (request : ChatRequest) : List GeminiContent × Option String :=
  let (system_instruction, contents) := request.messages.foldl takeMessage (none, [])
  (contents, system_instruction)

/-- `GeminiProvider._build_config`. -/
def buildConfig (request : ChatRequest) (system_instruction : Option String) :
    GenerateContentConfig where
  temperature := request.temperature
  top_p := request.top_p
  max_output_tokens := request.max_tokens
  system_instruction := system_instruction.filter (· ≠ "")
  stop_sequences := request.stop.filter (· ≠ [])

/-- The finish reason of a response, from that of its candidate. -/
def decodeFinishReason (reason : Option String) : String :=
  match reason with
  | none => "stop"
  | some reason =>
      let raw_reason := lower reason
      if OccursIn "max_tokens" raw_reason then "length"
      else if OccursIn "safety" raw_reason then "content_filter"
      else "stop"

/-- The loop that adds up the texts of the parts. A part without text adds nothing. -/
def addTexts (content : String) (parts : List (Option String)) : String :=
  parts.foldl (fun content part => content ++ part.getD "") content

/-- `GeminiProvider.chat`, for a service that answers `response`. The last argument is
the identifier that is made up when the response has none. -/
def chat (request : ChatRequest) (response : GenerateContentResponse) (fresh : String) :
    ChatResponse where
  id := (response.response_id.filter (· ≠ "")).getD fresh
  model := request.model
  choices := [{
    index := 0
    message := ⟨.assistant, addTexts "" response.parts⟩
    finish_reason := decodeFinishReason response.finishReason }]
  usage := (response.usage_metadata.map GeminiUsageMetadata.usage).getD ⟨0, 0, 0⟩
  metadata := []

/-- What `chat_stream` yields for one part. -/
def textChunk (request : ChatRequest) (response_id : String) (part : Option String) :
    Option ChatResponseChunk :=
  (part.filter (· ≠ "")).map fun text => ⟨response_id, request.model, text, none, none⟩

/-- What `chat_stream` yields for a chunk that finishes the answer. -/
def terminalChunk (request : ChatRequest) (response_id : String)
    (chunk : GenerateContentResponse) : ChatResponseChunk :=
  ⟨response_id, request.model, "", some "stop",
    chunk.usage_metadata.map GeminiUsageMetadata.usage⟩

/-- What `chat_stream` yields for one chunk of the service. -/
def streamChunk (request : ChatRequest) (response_id : String)
    (chunk : GenerateContentResponse) : List ChatResponseChunk :=
  if chunk.parts = [] then []
  else
    chunk.parts.filterMap (textChunk request response_id) ++
      if chunk.finishReason.isSome then [terminalChunk request response_id chunk] else []

/-- `GeminiProvider.chat_stream`, for a service that answers the stream `chunks`. -/
def chatStream (request : ChatRequest) (chunks : List GenerateContentResponse)
    (response_id : String) : List ChatResponseChunk :=
  chunks.flatMap (streamChunk request response_id)

/-- **The instruction that is sent** is the last system message, if it is not empty. -/
theorem buildConfig_system_instruction (request : ChatRequest) :
    (buildConfig request (buildContents request).2).system_instruction =
      (systemContents request.messages).getLast?.filter (· ≠ "") := by
  have overwrites : ∀ taken msg, (takeMessage taken msg).1 =
      if msg.role = .system then some msg.content else taken.1 := by
    intro taken msg
    unfold takeMessage
    split <;> rfl
  have last := foldl_system takeMessage overwrites request.messages (none, [])
  rw [Option.or_none] at last
  rw [← last]
  rfl

/-! ## What a stream yields -/

/-- A chunk for which the stream yields a terminal chunk. -/
def Finishes (chunk : GenerateContentResponse) : Prop :=
  chunk.parts ≠ [] ∧ chunk.finishReason.isSome

instance (chunk : GenerateContentResponse) : Decidable (Finishes chunk) :=
  inferInstanceAs (Decidable (_ ∧ _))

/-- The chunks of a stream that have a finish reason. -/
def terminals (chunks : List ChatResponseChunk) : List ChatResponseChunk :=
  chunks.filter fun chunk => chunk.finish_reason.isSome

variable {request : ChatRequest} {response_id : String}

theorem terminals_append (first second : List ChatResponseChunk) :
    terminals (first ++ second) = terminals first ++ terminals second :=
  List.filter_append ..

/-- The chunks with the texts are not terminal. -/
theorem terminals_textChunks (parts : List (Option String)) :
    terminals (parts.filterMap (textChunk request response_id)) = [] := by
  apply List.filter_eq_nil_iff.mpr
  intro chunk member
  obtain ⟨part, _, yielded⟩ := List.mem_filterMap.mp member
  obtain ⟨text, _, rfl⟩ := Option.map_eq_some_iff.mp yielded
  simp

theorem terminals_streamChunk (chunk : GenerateContentResponse) :
    terminals (streamChunk request response_id chunk) =
      if Finishes chunk then [terminalChunk request response_id chunk] else [] := by
  unfold streamChunk Finishes
  by_cases empty : chunk.parts = []
  · simp [empty, terminals]
  · rw [if_neg empty, terminals_append, terminals_textChunks]
    by_cases finished : chunk.finishReason.isSome = true
    · simp [empty, finished, terminals, terminalChunk]
    · simp [finished, terminals]

/-- **The terminal chunks of a stream** are those of the chunks that finish. -/
theorem terminal_chatStream (chunks : List GenerateContentResponse) :
    terminals (chatStream request chunks response_id) =
      (chunks.filter fun chunk => Finishes chunk).map (terminalChunk request response_id) := by
  induction chunks with
  | nil => rfl
  | cons chunk rest ih =>
      have unfolded : chatStream request (chunk :: rest) response_id =
          streamChunk request response_id chunk ++ chatStream request rest response_id := rfl
      rw [unfolded, terminals_append, terminals_streamChunk, ih]
      by_cases finishes : Finishes chunk
      · simp [finishes]
      · simp [finishes]

/-- The text that the chunks of a stream add up to, after some text. -/
def streamedText (content : String) (chunks : List ChatResponseChunk) : String :=
  chunks.foldl (fun text chunk => text ++ chunk.delta_content) content

theorem streamedText_append (content : String) (first second : List ChatResponseChunk) :
    streamedText content (first ++ second) = streamedText (streamedText content first) second :=
  List.foldl_append

theorem streamedText_textChunks (parts : List (Option String)) (content : String) :
    streamedText content (parts.filterMap (textChunk request response_id)) =
      addTexts content parts := by
  induction parts generalizing content with
  | nil => rfl
  | cons part rest ih =>
      rcases part with _ | text
      · simpa [textChunk, addTexts] using ih content
      · by_cases empty : text = ""
        · subst empty
          simpa [textChunk, addTexts] using ih content
        · simpa [textChunk, addTexts, empty, streamedText] using ih (content ++ text)

/-- A chunk of the service adds its texts. A terminal chunk has none. -/
theorem streamedText_streamChunk (chunk : GenerateContentResponse) (content : String) :
    streamedText content (streamChunk request response_id chunk) =
      addTexts content chunk.parts := by
  unfold streamChunk
  by_cases empty : chunk.parts = []
  · rw [if_pos empty, empty]
    rfl
  · rw [if_neg empty, streamedText_append, streamedText_textChunks]
    by_cases finished : chunk.finishReason.isSome = true
    · simp [finished, streamedText, terminalChunk]
    · simp [finished, streamedText]

/-- **The text of a stream** is the text of all its parts. -/
theorem streamed_text (chunks : List GenerateContentResponse) (content : String) :
    streamedText content (chatStream request chunks response_id) =
      addTexts content (chunks.flatMap GenerateContentResponse.parts) := by
  induction chunks generalizing content with
  | nil => rfl
  | cons chunk rest ih =>
      have unfolded : chatStream request (chunk :: rest) response_id =
          streamChunk request response_id chunk ++ chatStream request rest response_id := rfl
      rw [unfolded, streamedText_append, streamedText_streamChunk, ih, List.flatMap_cons]
      exact List.foldl_append.symm

end GeminiProvider

end LlmopsPlatform.Gateway
