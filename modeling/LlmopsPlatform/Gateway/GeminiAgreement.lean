import LlmopsPlatform.Gateway.Gemini
import LlmopsPlatform.Gateway.UsageAccounting

/-!
# Agreement of the streamed and the plain answer of Gemini

A stream has a terminal chunk only where a chunk of the service has both parts and a
finish reason, and the reason it gives is always "stop". So an answer whose last chunk
has no parts ends without a terminal chunk and without usage, and an answer that was
truncated or blocked ends like one that was not.

The two calls agree on the finish reason and the usage, and the router records the same
tokens for both, exactly when one chunk alone has parts and a finish reason, it counts
the tokens of the answer, and the answer was neither truncated nor blocked
(`agrees_iff`).
-/

set_option autoImplicit false

namespace LlmopsPlatform.Gateway

open Python GeminiProvider

/-- An answer of Gemini, as the chunks of a stream. The last chunk carries the finish
reason and the usage. -/
structure GeminiAnswer where
  earlier : List GenerateContentResponse
  last : GenerateContentResponse
  finish_reason : String
  usage_metadata : GeminiUsageMetadata
  response_id : Option String
  carriesReason : last.finishReason = some finish_reason
  carriesUsage : last.usage_metadata = some usage_metadata

namespace GeminiAnswer

variable (answer : GeminiAnswer)

def chunks : List GenerateContentResponse := answer.earlier ++ [answer.last]

/-- The answer as one response, with the parts of all chunks. -/
def whole : GenerateContentResponse where
  candidates := some [{
    content := some ⟨some (answer.chunks.flatMap GenerateContentResponse.parts)⟩
    finish_reason := some answer.finish_reason }]
  usage_metadata := some answer.usage_metadata
  response_id := answer.response_id

/-- The answer was neither truncated nor blocked. -/
def EndsNormally : Prop :=
  ¬ OccursIn "max_tokens" (lower answer.finish_reason) ∧
    ¬ OccursIn "safety" (lower answer.finish_reason)

/-- A chunk counts the tokens of the answer. A count that is missing is zero. -/
def CountedBy (chunk : GenerateContentResponse) : Prop :=
  ∃ metadata, chunk.usage_metadata = some metadata ∧
    metadata.prompt_token_count.getD 0 = answer.usage_metadata.prompt_token_count.getD 0 ∧
    metadata.candidates_token_count.getD 0 = answer.usage_metadata.candidates_token_count.getD 0

end GeminiAnswer

/-- The collaborators of a router with this provider on which nothing raises. -/
def geminiCollaborators (trace_id : TraceStart → String) : Collaborators where
  resolve _ := .ok "gemini"
  trace start := .ok (trace_id start)
  endTrace _ := .ok ()
  logGeneration _ := .ok ()
  record _ := .ok ()

section Agreement

variable (answer : GeminiAnswer) (request : ChatRequest) (response_id fresh : String)
  (service_name : String) (request_id : Option String) (trace_id : TraceStart → String)

/-- The stream has one terminal chunk, with the finish reason and the usage of the
response. -/
def TerminalAgrees : Prop :=
  ∃ terminal, terminals (chatStream request answer.chunks response_id) = [terminal] ∧
    terminal.finish_reason =
      (chat request answer.whole fresh).choices.head?.map Choice.finish_reason ∧
    terminal.usage = some (chat request answer.whole fresh).usage

/-- The router records the same for the stream and for the response. -/
def RecordsAgree : Prop :=
  recordsOf (streamEffects (geminiCollaborators trace_id) request service_name request_id
      ⟨chatStream request answer.chunks response_id, .ok ()⟩ none) =
    recordsOf (chatEffects (geminiCollaborators trace_id) request service_name request_id
      (.ok (chat request answer.whole fresh)))

/-! ## The response -/

variable {answer request response_id fresh service_name request_id trace_id}

/-- The response decodes the reason that the last chunk carries. -/
theorem finishReason_whole : answer.whole.finishReason = some answer.finish_reason := by
  obtain ⟨_, nonempty⟩ := Option.filter_eq_some_iff.mp answer.carriesReason
  exact Option.filter_eq_some_iff.mpr ⟨rfl, nonempty⟩

theorem decodeFinishReason_eq_stop :
    decodeFinishReason (some answer.finish_reason) = "stop" ↔ answer.EndsNormally := by
  unfold decodeFinishReason GeminiAnswer.EndsNormally
  dsimp only
  by_cases truncated : OccursIn "max_tokens" (lower answer.finish_reason)
  · simp [truncated]
  · by_cases blocked : OccursIn "safety" (lower answer.finish_reason)
    · simp [truncated, blocked]
    · simp [truncated, blocked]

theorem countedBy_iff {chunk : GenerateContentResponse} :
    answer.CountedBy chunk ↔
      chunk.usage_metadata.map GeminiUsageMetadata.usage = some answer.usage_metadata.usage := by
  unfold GeminiAnswer.CountedBy
  constructor
  · rintro ⟨metadata, carried, input, output⟩
    simp [carried, GeminiUsageMetadata.usage, input, output]
  · intro same
    obtain ⟨metadata, carried, usage⟩ := Option.map_eq_some_iff.mp same
    simp only [GeminiUsageMetadata.usage, Usage.mk.injEq] at usage
    obtain ⟨input, output, _⟩ := usage
    exact ⟨metadata, carried, input, output⟩

/-- A chunk that finishes yields the terminal chunk of the response exactly if it counts
the tokens of an answer that ended normally. -/
theorem terminalChunk_agrees (chunk : GenerateContentResponse) :
    ((terminalChunk request response_id chunk).finish_reason =
        (chat request answer.whole fresh).choices.head?.map Choice.finish_reason ∧
      (terminalChunk request response_id chunk).usage =
        some (chat request answer.whole fresh).usage) ↔
      answer.CountedBy chunk ∧ answer.EndsNormally := by
  have reason : (chat request answer.whole fresh).choices.head?.map Choice.finish_reason =
      some (decodeFinishReason answer.whole.finishReason) := rfl
  rw [reason, finishReason_whole, countedBy_iff, ← decodeFinishReason_eq_stop, and_comm]
  refine and_congr Iff.rfl ?_
  simp [terminalChunk, eq_comm]

/-! ## The records -/

/-- Only terminal chunks carry usage. -/
theorem terminal_of_usage {chunks : List GenerateContentResponse} {chunk : ChatResponseChunk}
    (yielded : chunk ∈ chatStream request chunks response_id) (carries : chunk.usage.isSome) :
    chunk.finish_reason.isSome := by
  obtain ⟨answered, _, member⟩ := List.mem_flatMap.mp yielded
  unfold streamChunk at member
  split at member
  · simp at member
  · rcases List.mem_append.mp member with text | terminal
    · obtain ⟨part, _, isText⟩ := List.mem_filterMap.mp text
      obtain ⟨value, _, rfl⟩ := Option.map_eq_some_iff.mp isText
      simp at carries
    · split at terminal
      · rw [List.mem_singleton.mp terminal]
        rfl
      · simp at terminal

theorem lastUsage_chatStream (chunks : List GenerateContentResponse) :
    lastUsage (chatStream request chunks response_id) =
      lastUsage (terminals (chatStream request chunks response_id)) := by
  unfold lastUsage terminals
  rw [List.filterMap_filter]
  congr 1
  apply List.filterMap_congr
  intro chunk yielded
  cases carried : chunk.usage with
  | none => simp
  | some usage =>
      have terminal := terminal_of_usage yielded (by rw [carried]; rfl)
      simp [terminal]

/-- **Agreement on the terminal chunk is agreement on the records.** -/
theorem recordsAgree_of_terminalAgrees (agrees : TerminalAgrees answer request response_id fresh) :
    RecordsAgree answer request response_id fresh service_name request_id trace_id := by
  obtain ⟨terminal, single, _, usage⟩ := agrees
  have received : lastUsage (chatStream request answer.chunks response_id) =
      some (chat request answer.whole fresh).usage := by
    rw [lastUsage_chatStream, single]
    simp [lastUsage, usage]
  have completes := ProviderStream.completes_of_consumed
    (chatStream request answer.chunks response_id)
  have isReceived : lastUsage (receivedChunks (geminiCollaborators trace_id) request service_name
      request_id ⟨chatStream request answer.chunks response_id, .ok ()⟩ none) =
      some (chat request answer.whole fresh).usage := received
  have streamed : recordsOf (streamEffects (geminiCollaborators trace_id) request service_name
      request_id ⟨chatStream request answer.chunks response_id, .ok ()⟩ none) =
      [LLMRouter.costRecord request service_name (chat request answer.whole fresh).usage] :=
    (recordsOf_streamEffects _ none isReceived).mpr completes
  have plain : recordsOf (chatEffects (geminiCollaborators trace_id) request service_name
      request_id (.ok (chat request answer.whole fresh))) =
      [LLMRouter.costRecord request service_name (chat request answer.whole fresh).usage] :=
    (recordsOf_chatEffects _ rfl).mpr rfl
  rw [RecordsAgree, streamed, plain]

/-! ## When the two agree -/

/-- One chunk alone has parts and a finish reason, and it counts the tokens of an answer
that ended normally. -/
def GeminiAnswer.FinishesOnce (answer : GeminiAnswer) : Prop :=
  (∃ chunk, (answer.chunks.filter fun chunk => Finishes chunk) = [chunk] ∧
    answer.CountedBy chunk) ∧
  answer.EndsNormally

theorem terminalAgrees_iff :
    TerminalAgrees answer request response_id fresh ↔ answer.FinishesOnce := by
  unfold TerminalAgrees GeminiAnswer.FinishesOnce
  rw [terminal_chatStream]
  constructor
  · rintro ⟨terminal, single, agrees⟩
    obtain ⟨chunk, isOnly, rfl⟩ := List.map_eq_singleton_iff.mp single
    obtain ⟨counted, ends⟩ := (terminalChunk_agrees chunk).mp agrees
    exact ⟨⟨chunk, isOnly, counted⟩, ends⟩
  · rintro ⟨⟨chunk, isOnly, counted⟩, ends⟩
    refine ⟨terminalChunk request response_id chunk, ?_, ?_⟩
    · rw [isOnly]
      rfl
    · exact (terminalChunk_agrees chunk).mpr ⟨counted, ends⟩

/-- Where the last chunk alone carries a finish reason, it has to have parts, and the
answer has to end normally. -/
theorem finishesOnce_of_single_reason
    (single : ∀ chunk ∈ answer.earlier, chunk.finishReason = none) :
    answer.FinishesOnce ↔ answer.last.parts ≠ [] ∧ answer.EndsNormally := by
  have noneEarlier : (answer.earlier.filter fun chunk => Finishes chunk) = [] := by
    apply List.filter_eq_nil_iff.mpr
    intro chunk member
    simp [Finishes, single chunk member]
  have counted : answer.CountedBy answer.last :=
    ⟨answer.usage_metadata, answer.carriesUsage, rfl, rfl⟩
  unfold GeminiAnswer.FinishesOnce GeminiAnswer.chunks
  rw [List.filter_append, noneEarlier, List.nil_append]
  refine and_congr ?_ Iff.rfl
  by_cases empty : answer.last.parts = []
  · simp [Finishes, empty]
  · simp [Finishes, empty, answer.carriesReason, counted]

end Agreement

/-- **Agreement of the two calls.** The stream ends with one terminal chunk that has the
finish reason and the usage of the response, and the router records the same for both,
exactly if one chunk alone has parts and a finish reason, it counts the tokens of the
answer, and the answer was neither truncated nor blocked. -/
theorem agrees_iff (answer : GeminiAnswer) (request : ChatRequest) (response_id fresh : String)
    (service_name : String) (request_id : Option String) (trace_id : TraceStart → String) :
    (TerminalAgrees answer request response_id fresh ∧
        RecordsAgree answer request response_id fresh service_name request_id trace_id) ↔
      answer.FinishesOnce := by
  constructor
  · rintro ⟨agrees, _⟩
    exact terminalAgrees_iff.mp agrees
  · intro once
    have agrees : TerminalAgrees answer request response_id fresh :=
      terminalAgrees_iff.mpr once
    exact ⟨agrees, recordsAgree_of_terminalAgrees agrees⟩

/-! ## An answer whose last chunk is empty -/

/-- A chunk of Gemini with some parts. -/
def geminiChunk (parts : List (Option String)) (finish_reason : Option String)
    (usage_metadata : Option GeminiUsageMetadata) : GenerateContentResponse where
  candidates := some [⟨some ⟨some parts⟩, finish_reason⟩]
  usage_metadata
  response_id := none

/-- An answer of one text, whose last chunk has the reason and the usage but no parts. -/
def emptyLastChunk : GeminiAnswer where
  earlier := [geminiChunk [some "Hello"] none none]
  last := geminiChunk [] (some "FinishReason.STOP") (some ⟨some 3, some 5⟩)
  finish_reason := "FinishReason.STOP"
  usage_metadata := ⟨some 3, some 5⟩
  response_id := none
  carriesReason := by decide
  carriesUsage := rfl

/-- **An answer whose last chunk is empty has no terminal chunk.** -/
theorem emptyLastChunk_disagrees :
    ¬ ∀ (answer : GeminiAnswer) (request : ChatRequest) (response_id fresh : String)
        (service_name : String) (request_id : Option String) (trace_id : TraceStart → String),
        TerminalAgrees answer request response_id fresh ∧
          RecordsAgree answer request response_id fresh service_name request_id trace_id := by
  intro always
  obtain ⟨⟨terminal, single, _⟩, _⟩ := always emptyLastChunk questionRequest "chatcmpl-1"
    "chatcmpl-2" "billing" none fun _ => "trace-1"
  have nothing : terminals (chatStream questionRequest emptyLastChunk.chunks "chatcmpl-1") = [] :=
    rfl
  rw [nothing] at single
  cases single

end LlmopsPlatform.Gateway
