import LlmopsPlatform.Gateway.Router

/-!
# Which exits of a call record its usage

A stream records the usage after its loop, so a provider that raises or a consumer
that closes leaves it unrecorded, also when the chunk with the usage was received. A
call that is not streamed records after it logged, so a log that raises leaves the
usage unrecorded.

The usage is recorded exactly once, exactly when the stream completes if a chunk with
usage was received, and when the log of the other call does not raise
(`usage_accounting_iff`). When several chunks carry usage, the last one counts.
-/

set_option autoImplicit false

namespace LlmopsPlatform.Gateway

open Foundations Python LLMRouter

/-- The calls of `cost_tracker.record` among some effects. -/
def recordsOf (effects : List GatewayEffect) : List CostRecord :=
  effects.filterMap GatewayEffect.record?

/-- The chunks that were yielded to the consumer. -/
def yieldsOf (effects : List GatewayEffect) : List ChatResponseChunk :=
  effects.filterMap GatewayEffect.yield?

@[simp] theorem recordsOf_nil : recordsOf [] = [] := rfl

@[simp] theorem yieldsOf_nil : yieldsOf [] = [] := rfl

@[simp] theorem recordsOf_cons (effect : GatewayEffect) (rest : List GatewayEffect) :
    recordsOf (effect :: rest) = effect.record?.toList ++ recordsOf rest := by
  cases effect <;> rfl

@[simp] theorem yieldsOf_cons (effect : GatewayEffect) (rest : List GatewayEffect) :
    yieldsOf (effect :: rest) = effect.yield?.toList ++ yieldsOf rest := by
  cases effect <;> rfl

@[simp] theorem recordsOf_append (first second : List GatewayEffect) :
    recordsOf (first ++ second) = recordsOf first ++ recordsOf second :=
  List.filterMap_append

@[simp] theorem yieldsOf_append (first second : List GatewayEffect) :
    yieldsOf (first ++ second) = yieldsOf first ++ yieldsOf second :=
  List.filterMap_append

@[simp] theorem recordsOf_map_yield (chunks : List ChatResponseChunk) :
    recordsOf (chunks.map GatewayEffect.yield) = [] := by
  induction chunks with
  | nil => rfl
  | cons chunk rest ih => exact ih

@[simp] theorem yieldsOf_map_yield (chunks : List ChatResponseChunk) :
    yieldsOf (chunks.map GatewayEffect.yield) = chunks := by
  induction chunks with
  | nil => rfl
  | cons chunk rest ih => exact congrArg (chunk :: ·) ih

section Accounting

variable (collaborators : Collaborators) (request : ChatRequest) (service_name : String)
  (request_id : Option String)

/-- The chunks the consumer receives: none when the provider is not found or the trace
does not start. -/
def receivedChunks (stream : ProviderStream) (closeAfter : Option Nat) : List ChatResponseChunk :=
  match collaborators.resolve request.model with
  | .error _ => []
  | .ok provider_name =>
      match collaborators.trace (streamTrace request service_name request_id provider_name) with
      | .error _ => []
      | .ok _ => stream.received closeAfter

/-- The response of the provider and the log of it, if `provider.chat` is called and
returns. -/
def returnedResponse (answer : Except PyException ChatResponse) :
    Option (ChatResponse × GenerationLog) :=
  match collaborators.resolve request.model with
  | .error _ => none
  | .ok provider_name =>
      match collaborators.trace (chatTrace request service_name request_id provider_name) with
      | .error _ => none
      | .ok trace_id =>
          match answer with
          | .error _ => none
          | .ok response => some (response, chatLog request provider_name trace_id response)

/-- The effects of one stream. -/
def streamEffects (stream : ProviderStream) (closeAfter : Option Nat) : List GatewayEffect :=
  ((chatStream collaborators request service_name request_id stream closeAfter).run []).2

/-- The effects of one call that is not streamed. -/
def chatEffects (answer : Except PyException ChatResponse) : List GatewayEffect :=
  ((chat collaborators request service_name request_id answer).run []).2

variable {collaborators request service_name request_id}

/-- What a stream yields is what its consumer receives. -/
theorem yieldsOf_streamEffects (stream : ProviderStream) (closeAfter : Option Nat) :
    yieldsOf (streamEffects collaborators request service_name request_id stream closeAfter) =
      receivedChunks collaborators request service_name request_id stream closeAfter := by
  unfold receivedChunks streamEffects
  cases resolved : collaborators.resolve request.model with
  | error failure => simp [chatStream, resolved]
  | ok provider_name =>
      dsimp only
      cases traced : collaborators.trace
          (streamTrace request service_name request_id provider_name) with
      | error failure =>
          rw [chatStream, resolved, Effectful.run_ofExcept_ok_bind, effects_withTrace, traced]
          rfl
      | ok trace_id =>
          by_cases completes : stream.Completes closeAfter
          · rw [effects_chatStream_of_completes resolved traced completes rfl]
            dsimp only
            rw [stream.received_of_stays completes.2]
            cases collaborators.record (costRecord request service_name
                ((lastUsage stream.chunks).getD ⟨0, 0, 0⟩)) <;>
              simp [GatewayEffect.yield?]
          · rw [effects_chatStream_of_interrupted resolved traced completes]
            simp [GatewayEffect.yield?]

/-- A stream of which a chunk with usage was received records that usage exactly if it
completes. -/
theorem recordsOf_streamEffects (stream : ProviderStream) (closeAfter : Option Nat)
    {usage : Usage}
    (received : lastUsage (receivedChunks collaborators request service_name request_id stream
      closeAfter) = some usage) :
    recordsOf (streamEffects collaborators request service_name request_id stream closeAfter) =
        [costRecord request service_name usage] ↔
      stream.Completes closeAfter := by
  unfold receivedChunks at received
  unfold streamEffects
  split at received
  · cases received
  · rename_i provider_name resolved
    split at received
    · cases received
    · rename_i trace_id traced
      by_cases completes : stream.Completes closeAfter
      · rw [stream.received_of_stays completes.2] at received
        have isLast : (lastUsage stream.chunks).getD ⟨0, 0, 0⟩ = usage := by rw [received]; rfl
        rw [effects_chatStream_of_completes resolved traced completes isLast]
        refine iff_of_true ?_ completes
        cases collaborators.record (costRecord request service_name usage) <;>
          simp [GatewayEffect.record?]
      · rw [effects_chatStream_of_interrupted resolved traced completes]
        refine iff_of_false ?_ completes
        simp [GatewayEffect.record?]

/-- A call that is not streamed records exactly if its log does not raise. -/
theorem recordsOf_chatEffects (answer : Except PyException ChatResponse) {response : ChatResponse}
    {log : GenerationLog}
    (returned : returnedResponse collaborators request service_name request_id answer =
      some (response, log)) :
    recordsOf (chatEffects collaborators request service_name request_id answer) =
        [costRecord request service_name response.usage] ↔
      collaborators.logGeneration log = .ok () := by
  unfold returnedResponse at returned
  split at returned
  · cases returned
  · rename_i provider_name resolved
    split at returned
    · cases returned
    · rename_i trace_id traced
      split at returned
      · cases returned
      · cases returned
        rw [chatEffects, effects_chat resolved traced]
        cases collaborators.logGeneration (chatLog request provider_name trace_id response) with
        | error failure => simp [GatewayEffect.record?]
        | ok done => simp [GatewayEffect.record?]

end Accounting

/-- **Usage accounting.** The usage that a consumer received is recorded once, exactly if
the stream completes. The usage of a response is recorded once, exactly if its log does
not raise. -/
theorem usage_accounting_iff (collaborators : Collaborators) (request : ChatRequest)
    (service_name : String) (request_id : Option String) (stream : ProviderStream)
    (closeAfter : Option Nat) (answer : Except PyException ChatResponse) :
    ((∀ usage, lastUsage (yieldsOf
            (streamEffects collaborators request service_name request_id stream closeAfter)) =
          some usage →
        recordsOf (streamEffects collaborators request service_name request_id stream closeAfter) =
          [costRecord request service_name usage]) ↔
      ((lastUsage (receivedChunks collaborators request service_name request_id stream
        closeAfter)).isSome → stream.Completes closeAfter)) ∧
    ((∀ response log,
        returnedResponse collaborators request service_name request_id answer =
          some (response, log) →
        recordsOf (chatEffects collaborators request service_name request_id answer) =
          [costRecord request service_name response.usage]) ↔
      ∀ response log,
        returnedResponse collaborators request service_name request_id answer =
          some (response, log) →
        collaborators.logGeneration log = .ok ()) := by
  constructor
  · rw [yieldsOf_streamEffects]
    constructor
    · intro recorded isSome
      obtain ⟨usage, received⟩ := Option.isSome_iff_exists.mp isSome
      exact (recordsOf_streamEffects stream closeAfter received).mp (recorded usage received)
    · intro completes usage received
      have isSome := Option.isSome_iff_exists.mpr ⟨usage, received⟩
      exact (recordsOf_streamEffects stream closeAfter received).mpr (completes isSome)
  · constructor
    · intro recorded response log returned
      exact (recordsOf_chatEffects answer returned).mp (recorded response log returned)
    · intro logs response log returned
      exact (recordsOf_chatEffects answer returned).mpr (logs response log returned)

/-! ## A consumer that closes after the last chunk -/

/-- Collaborators on which every call succeeds. -/
def workingCollaborators : Collaborators where
  resolve _ := .ok "gemini"
  trace _ := .ok "trace-1"
  endTrace _ := .ok ()
  logGeneration _ := .ok ()
  record _ := .ok ()

/-- A request with one question. -/
def questionRequest : ChatRequest where
  toGenerationOptions := .defaults "gemini-2.5-flash"
  messages := [⟨.user, "Hi"⟩]

/-- A stream of one chunk, which carries the usage. -/
def oneChunkStream : ProviderStream where
  chunks := [⟨"chatcmpl-1", "gemini-2.5-flash", "", some "stop", some ⟨3, 5, 8⟩⟩]
  ending := .ok ()

/-- **A consumer that closes leaves the usage unrecorded**, although it received it. -/
theorem closed_stream_is_not_recorded :
    ¬ ∀ (collaborators : Collaborators) (request : ChatRequest) (service_name : String)
        (request_id : Option String) (stream : ProviderStream) (closeAfter : Option Nat)
        (usage : Usage),
        lastUsage (yieldsOf
            (streamEffects collaborators request service_name request_id stream closeAfter)) =
          some usage →
        recordsOf (streamEffects collaborators request service_name request_id stream closeAfter) =
          [costRecord request service_name usage] := by
  intro always
  have recorded := always workingCollaborators questionRequest "billing" none oneChunkStream
    (some 0) ⟨3, 5, 8⟩ rfl
  have nothing : recordsOf (streamEffects workingCollaborators questionRequest "billing" none
      oneChunkStream (some 0)) = [] := rfl
  rw [nothing] at recorded
  cases recorded

end LlmopsPlatform.Gateway
