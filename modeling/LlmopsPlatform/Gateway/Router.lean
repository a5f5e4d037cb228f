import LlmopsPlatform.Foundations.Effectful
import LlmopsPlatform.Gateway.Schemas

/-!
# The router

`LLMRouter.chat` and `LLMRouter.chat_stream` run a provider inside a trace, log the
generation and record the usage. The two do the last two things in different order.

A call is a program on the list of effects it has on its collaborators, in the order in
which they happen. What the collaborators answer, including the exceptions they raise,
is a parameter; an effect is listed when the call is made, whether or not it raises.
The consumer of a stream may close it after any chunk, which raises `GeneratorExit`
where the chunk was yielded.
-/

set_option autoImplicit false

namespace LlmopsPlatform.Gateway

open Foundations Python

/-- The arguments of `observability.trace`. -/
structure TraceStart where
  name : String
  input : List Message
  metadata : List (String × Json)

/-- The arguments of `observability.log_generation`. -/
structure GenerationLog where
  trace_id : String
  name : String
  model : String
  input : List Message
  output : String
  usage : Usage
  metadata : List (String × Json)

/-- The arguments of `cost_tracker.record`. -/
structure CostRecord where
  service_name : String
  model : String
  input_tokens : Int
  output_tokens : Int
deriving DecidableEq, Repr

/-- What the router does to its collaborators and to its consumer. -/
inductive GatewayEffect where
  | startTrace (trace : TraceStart)
  | logGeneration (log : GenerationLog)
  | record (entry : CostRecord)
  | yield (chunk : ChatResponseChunk)
  | endTrace (trace_id : String)

namespace GatewayEffect

def record? : GatewayEffect → Option CostRecord
  | record entry => some entry
  | _ => none

def logGeneration? : GatewayEffect → Option GenerationLog
  | logGeneration log => some log
  | _ => none

def yield? : GatewayEffect → Option ChatResponseChunk
  | yield chunk => some chunk
  | _ => none

end GatewayEffect

/-- A program that has effects. -/
abbrev GatewayProgram := Effectful (List GatewayEffect) PyException

/-- What the collaborators of the router answer during one call. -/
structure Collaborators where
  /-- The name of the provider that `registry.resolve(model)` finds. -/
  resolve : String → Except PyException String
  /-- The id of the trace that is started. -/
  trace : TraceStart → Except PyException String
  endTrace : String → Except PyException Unit
  logGeneration : GenerationLog → Except PyException Unit
  record : CostRecord → Except PyException Unit

/-- What a provider streams: some chunks, and then its end or an exception. -/
structure ProviderStream where
  chunks : List ChatResponseChunk
  ending : Except PyException Unit

namespace LLMRouter

variable (collaborators : Collaborators)

def perform (effect : GatewayEffect) : GatewayProgram Unit :=
  .modify fun effects => effects ++ [effect]

def callLogGeneration (log : GenerationLog) : GatewayProgram Unit := do
  perform (.logGeneration log)
  .ofExcept (collaborators.logGeneration log)

def callRecord (entry : CostRecord) : GatewayProgram Unit := do
  perform (.record entry)
  .ofExcept (collaborators.record entry)

/-- `async with observability.trace(…) as trace: body`. -/
def withTrace {Result : Type} (start : TraceStart) (body : String → GatewayProgram Result) :
    GatewayProgram Result := do
  perform (.startTrace start)
  let trace_id ← .ofExcept (collaborators.trace start)
  .ensure (body trace_id) do
    perform (.endTrace trace_id)
    .ofExcept (collaborators.endTrace trace_id)

variable (request : ChatRequest) (service_name : String) (request_id : Option String)

/-- The trace metadata that both calls start with. -/
def traceMetadata (provider_name : String) : List (String × Json) := [
  ("service_name", .str service_name),
  ("request_id", (request_id.map Json.str).getD .null),
  ("provider", .str provider_name),
  ("model", .str request.model)]

def chatTrace (provider_name : String) : TraceStart where
  name := "chat_completion"
  input := request.messages
  metadata := traceMetadata request service_name request_id provider_name

/-- What both calls record of a usage. -/
def costRecord (usage : Usage) : CostRecord where
  service_name
  model := request.model
  input_tokens := usage.input_tokens
  output_tokens := usage.output_tokens

def chatLog (provider_name trace_id : String) (response : ChatResponse) : GenerationLog where
  trace_id
  name := provider_name ++ "_generation"
  model := request.model
  input := request.messages
  output := response.content
  usage := response.usage
  metadata := [
    ("temperature", .float (.finite request.temperature)),
    ("max_tokens", .int request.max_tokens),
    ("finish_reason",
      (response.choices.head?.map fun choice => Json.str choice.finish_reason).getD .null)]

/-- `LLMRouter.chat`, for a provider that answers `answer`. -/
def chat (answer : Except PyException ChatResponse) : GatewayProgram ChatResponse := do
  let provider_name ← .ofExcept (collaborators.resolve request.model)
  withTrace collaborators (chatTrace request service_name request_id provider_name)
      fun trace_id => do
    let response ← .ofExcept answer
    callLogGeneration collaborators (chatLog request provider_name trace_id response)
    callRecord collaborators (costRecord request service_name response.usage)
    pure { response with
      metadata := OrderedDict.write "trace_id" (fun _ => .str trace_id) response.metadata }

/-- The loop over the chunks of a stream, from a position on. It carries
`collected_content` and `final_usage`. -/
def forwardChunks (closeAfter : Option Nat) :
    Nat → List ChatResponseChunk → String × Option Usage → GatewayProgram (String × Option Usage)
  | _, [], collected => pure collected
  | position, chunk :: rest, (collected_content, final_usage) => do
      perform (.yield chunk)
      if closeAfter = some position then
        .raise .generatorExit
      else
        forwardChunks closeAfter (position + 1) rest
          (collected_content ++ chunk.delta_content, chunk.usage.or final_usage)

def streamTrace (provider_name : String) : TraceStart where
  name := "chat_completion_stream"
  input := request.messages
  metadata := traceMetadata request service_name request_id provider_name ++
    [("stream", .bool true)]

def streamLog (provider_name trace_id collected_content : String) (usage : Usage) :
    GenerationLog where
  trace_id
  name := provider_name ++ "_generation"
  model := request.model
  input := request.messages
  output := collected_content
  usage
  metadata := [
    ("temperature", .float (.finite request.temperature)),
    ("max_tokens", .int request.max_tokens),
    ("stream", .bool true)]

/-- `LLMRouter.chat_stream`, for a provider that streams `stream` and a consumer that
closes the generator after the chunk at position `closeAfter`, if any. -/
def chatStream (stream : ProviderStream) (closeAfter : Option Nat) : GatewayProgram Unit := do
  let provider_name ← .ofExcept (collaborators.resolve request.model)
  withTrace collaborators (streamTrace request service_name request_id provider_name)
      fun trace_id => do
    let (collected_content, final_usage) ← forwardChunks closeAfter 0 stream.chunks ("", none)
    .ofExcept stream.ending
    let usage := final_usage.getD ⟨0, 0, 0⟩
    callRecord collaborators (costRecord request service_name usage)
    callLogGeneration collaborators
      (streamLog request provider_name trace_id collected_content usage)

/-! ## The effects of a call -/

variable {collaborators} {effects : List GatewayEffect}

/-- A trace that does not start is the only effect. Otherwise the effects of the body
follow, and then the end of the trace, whatever the outcome. -/
theorem effects_withTrace {Result : Type} (start : TraceStart)
    (body : String → GatewayProgram Result) :
    ((withTrace collaborators start body).run effects).2 =
      match collaborators.trace start with
      | .error _ => effects ++ [.startTrace start]
      | .ok trace_id =>
          ((body trace_id).run (effects ++ [.startTrace start])).2 ++ [.endTrace trace_id] := by
  cases started : collaborators.trace start with
  | error failure => simp [withTrace, perform, started]
  | ok trace_id =>
      rcases outcome : (body trace_id).run (effects ++ [.startTrace start]) with ⟨result, middle⟩
      cases ended : collaborators.endTrace trace_id <;>
        simp [withTrace, perform, started, Effectful.ensure, outcome, ended]

/-- The effects of logging and recording do not depend on whether they raise. -/
theorem effects_callLogGeneration (log : GenerationLog) :
    (callLogGeneration collaborators log).run effects =
      (collaborators.logGeneration log, effects ++ [.logGeneration log]) := rfl

theorem effects_callRecord (entry : CostRecord) :
    (callRecord collaborators entry).run effects =
      (collaborators.record entry, effects ++ [.record entry]) := rfl

/-! ## Streams -/

end LLMRouter

/-- The last usage that some chunks carry. -/
def lastUsage (chunks : List ChatResponseChunk) : Option Usage :=
  (chunks.filterMap ChatResponseChunk.usage).getLast?

/-- The chunks the consumer receives before it closes. -/
def ProviderStream.received (stream : ProviderStream) (closeAfter : Option Nat) :
    List ChatResponseChunk :=
  match closeAfter with
  | none => stream.chunks
  | some position => stream.chunks.take (position + 1)

/-- The provider ends normally and the consumer does not close before that. -/
def ProviderStream.Completes (stream : ProviderStream) (closeAfter : Option Nat) : Prop :=
  stream.ending = .ok () ∧ ∀ position, closeAfter = some position →
    stream.chunks.length ≤ position

theorem ProviderStream.received_of_stays {stream : ProviderStream} {closeAfter : Option Nat}
    (stays : ∀ position, closeAfter = some position → stream.chunks.length ≤ position) :
    stream.received closeAfter = stream.chunks := by
  cases closeAfter with
  | none => rfl
  | some position => exact List.take_of_length_le (by have := stays position rfl; omega)

/-- A stream that ends normally and is consumed completes. -/
theorem ProviderStream.completes_of_consumed (chunks : List ChatResponseChunk) :
    ProviderStream.Completes ⟨chunks, .ok ()⟩ none := by
  refine ⟨rfl, ?_⟩
  intro position closes
  cases closes

theorem lastUsage_cons (chunk : ChatResponseChunk) (rest : List ChatResponseChunk) :
    lastUsage (chunk :: rest) = (lastUsage rest).or chunk.usage := by
  cases usage : chunk.usage with
  | none => simp [lastUsage, usage]
  | some value => simp [lastUsage, usage, List.getLast?_cons, Option.or_some]

namespace LLMRouter

variable {collaborators : Collaborators} {effects : List GatewayEffect} {closeAfter : Option Nat}
  {position : Nat}

/-- A loop that the consumer does not close yields every chunk and collects the texts
and the last usage. -/
theorem run_forwardChunks_of_open (effects : List GatewayEffect) (chunks : List ChatResponseChunk)
    (collected : String × Option Usage)
    (stays : ∀ close, closeAfter = some close → position + chunks.length ≤ close) :
    (forwardChunks closeAfter position chunks collected).run effects =
      (.ok (chunks.foldl (fun text chunk => text ++ chunk.delta_content) collected.1,
          (lastUsage chunks).or collected.2),
        effects ++ chunks.map GatewayEffect.yield) := by
  induction chunks generalizing position collected effects with
  | nil => simp [forwardChunks, lastUsage]
  | cons chunk rest ih =>
      obtain ⟨text, usage⟩ := collected
      have notHere : closeAfter ≠ some position := by
        intro here
        have bound := stays position here
        simp only [List.length_cons] at bound
        omega
      have staysLater : ∀ close, closeAfter = some close → position + 1 + rest.length ≤ close := by
        intro close isClose
        have bound := stays close isClose
        simp only [List.length_cons] at bound
        omega
      have further : (forwardChunks closeAfter (position + 1) rest
          (text ++ chunk.delta_content, chunk.usage.or usage)).run
            (effects ++ [.yield chunk]) = _ :=
        ih _ _ staysLater
      simp [forwardChunks, perform, notHere, further, lastUsage_cons, Option.or_assoc]

/-- A consumer that closes after a chunk has received the chunks up to it, and the
exit is raised there. -/
theorem run_forwardChunks_of_close (effects : List GatewayEffect) (chunks : List ChatResponseChunk)
    (collected : String × Option Usage) {further : Nat} (within : further < chunks.length)
    (closes : closeAfter = some (position + further)) :
    (forwardChunks closeAfter position chunks collected).run effects =
      (.error .generatorExit, effects ++ (chunks.take (further + 1)).map GatewayEffect.yield) := by
  induction chunks generalizing position collected effects further with
  | nil => simp at within
  | cons chunk rest ih =>
      obtain ⟨text, usage⟩ := collected
      cases further with
      | zero =>
          have here : closeAfter = some position := closes
          simp [forwardChunks, perform, here]
      | succ later =>
          have notHere : closeAfter ≠ some position := by
            rw [closes]
            simp
          have inRest : later < rest.length := by simpa using within
          have closesLater : closeAfter = some (position + 1 + later) := by
            rw [closes]
            congr 1
            omega
          have exits : (forwardChunks closeAfter (position + 1) rest
              (text ++ chunk.delta_content, chunk.usage.or usage)).run
                (effects ++ [.yield chunk]) = _ := ih _ _ inRest closesLater
          simp [forwardChunks, perform, notHere, exits]

variable {request : ChatRequest} {service_name : String} {request_id : Option String}

/-- The effects of a call that is not streamed and gets a response. The usage is
recorded only if the generation could be logged. -/
theorem effects_chat {provider_name trace_id : String}
    (resolved : collaborators.resolve request.model = .ok provider_name)
    (traced : collaborators.trace (chatTrace request service_name request_id provider_name) =
      .ok trace_id) (response : ChatResponse) :
    ((chat collaborators request service_name request_id (.ok response)).run effects).2 =
      effects ++ [.startTrace (chatTrace request service_name request_id provider_name),
        .logGeneration (chatLog request provider_name trace_id response)] ++
      (match collaborators.logGeneration (chatLog request provider_name trace_id response) with
        | .ok _ => [.record (costRecord request service_name response.usage)]
        | .error _ => []) ++
      [.endTrace trace_id] := by
  rw [chat, resolved, Effectful.run_ofExcept_ok_bind, effects_withTrace, traced]
  cases logged : collaborators.logGeneration (chatLog request provider_name trace_id response) with
  | error failure => simp [Effectful.run_bind, effects_callLogGeneration, logged]
  | ok done =>
      cases recorded : collaborators.record (costRecord request service_name response.usage) <;>
        simp [Effectful.run_bind, effects_callLogGeneration, effects_callRecord, logged, recorded]

variable {stream : ProviderStream} {closeAfter : Option Nat}

/-- The effects of a stream that completes: its chunks, the record of the last usage, and
the log if the record did not raise. -/
theorem effects_chatStream_of_completes {provider_name trace_id : String}
    (resolved : collaborators.resolve request.model = .ok provider_name)
    (traced : collaborators.trace (streamTrace request service_name request_id provider_name) =
      .ok trace_id) (completes : stream.Completes closeAfter) {usage : Usage}
    (isLast : (lastUsage stream.chunks).getD ⟨0, 0, 0⟩ = usage) :
    ((chatStream collaborators request service_name request_id stream closeAfter).run effects).2 =
      effects ++ [.startTrace (streamTrace request service_name request_id provider_name)] ++
        stream.chunks.map GatewayEffect.yield ++
        [.record (costRecord request service_name usage)] ++
      (match collaborators.record (costRecord request service_name usage) with
        | .ok _ => [.logGeneration (streamLog request provider_name trace_id
            (stream.chunks.foldl (fun text chunk => text ++ chunk.delta_content) "") usage)]
        | .error _ => []) ++
      [.endTrace trace_id] := by
  obtain ⟨ends, stays⟩ := completes
  have staysOpen : ∀ close, closeAfter = some close → 0 + stream.chunks.length ≤ close := by
    simpa using stays
  have loop := run_forwardChunks_of_open
    (effects ++ [.startTrace (streamTrace request service_name request_id provider_name)])
    stream.chunks ("", none) staysOpen
  rw [Option.or_none] at loop
  rw [chatStream, resolved, Effectful.run_ofExcept_ok_bind, effects_withTrace, traced]
  dsimp only
  rw [Effectful.run_bind_of_ok _ loop]
  cases recorded : collaborators.record (costRecord request service_name usage) <;>
    simp [ends, isLast, Effectful.run_bind, effects_callLogGeneration, effects_callRecord, recorded]

/-- The effects of a stream that is interrupted: the chunks that the consumer received. -/
theorem effects_chatStream_of_interrupted {provider_name trace_id : String}
    (resolved : collaborators.resolve request.model = .ok provider_name)
    (traced : collaborators.trace (streamTrace request service_name request_id provider_name) =
      .ok trace_id) (interrupted : ¬ stream.Completes closeAfter) :
    ((chatStream collaborators request service_name request_id stream closeAfter).run effects).2 =
      effects ++ [.startTrace (streamTrace request service_name request_id provider_name)] ++
        (stream.received closeAfter).map GatewayEffect.yield ++ [.endTrace trace_id] := by
  rw [chatStream, resolved, Effectful.run_ofExcept_ok_bind, effects_withTrace, traced]
  dsimp only
  by_cases closes : ∃ position, closeAfter = some (0 + position) ∧ position < stream.chunks.length
  · obtain ⟨position, isClose, within⟩ := closes
    have loop := run_forwardChunks_of_close
      (effects ++ [.startTrace (streamTrace request service_name request_id provider_name)])
      stream.chunks ("", none) within isClose
    rw [Effectful.run_bind_of_error _ loop]
    simp [ProviderStream.received, isClose]
  · have stays : ∀ close, closeAfter = some close → 0 + stream.chunks.length ≤ close := by
      intro close isClose
      by_contra within
      exact closes ⟨close, by simpa using isClose, by omega⟩
    have staysClosed : ∀ close, closeAfter = some close → stream.chunks.length ≤ close := by
      simpa using stays
    have loop := run_forwardChunks_of_open
      (effects ++ [.startTrace (streamTrace request service_name request_id provider_name)])
      stream.chunks ("", none) stays
    rw [Effectful.run_bind_of_ok _ loop, stream.received_of_stays staysClosed]
    cases ends : stream.ending with
    | error failure => simp
    | ok done => exact absurd ⟨ends, staysClosed⟩ interrupted

end LLMRouter

end LlmopsPlatform.Gateway
