import LlmopsPlatform.Foundations.Separators
import LlmopsPlatform.Gateway.UsageAccounting

/-!
# The event stream of a completion

`_stream_response` sends each chunk of a stream as one event: a line with the prefix
"data: " and a JSON text, and then a blank line. After the last chunk it sends "[DONE]". An
empty delta is sent as an empty dictionary, and a chunk without usage has no such key.

A client cuts what it receives at the blank lines and reads the events back. Since a JSON
text is a single line, no content can look like the end of an event. So the client has the
chunks that were sent, and it has seen "[DONE]" exactly when the stream of the router ended
without an exception (`stream_round_trip`).
-/

set_option autoImplicit false

namespace LlmopsPlatform.Api

open Foundations Python Gateway

/-! ## The server -/

/-- What is sent of a chunk. -/
def chunkData (chunk : ChatResponseChunk) : Json :=
  .dict ([
    ("id", .str chunk.id),
    ("model", .str chunk.model),
    ("choices", .list [.dict [
      ("index", .int 0),
      ("delta",
        .dict (if chunk.delta_content = "" then [] else [("content", .str chunk.delta_content)])),
      ("finish_reason", (chunk.finish_reason.map Json.str).getD .null)]])] ++
    match chunk.usage with
    | some usage => [("usage", .dict [
        ("input_tokens", .int usage.input_tokens),
        ("output_tokens", .int usage.output_tokens),
        ("total_tokens", .int usage.total_tokens)])]
    | none => [])

/-- The event with some data. -/
def event (data : String) : String := "data: " ++ data ++ "\n\n"

/-- What a generator of texts yielded, and how it ended. -/
structure TextStream where
  yielded : List String
  ending : Except PyException Unit

/-- `_stream_response`, for what `llm_router.chat_stream` yields and how that ends. -/
def streamResponse (json : JsonModule String) (routed : ProviderStream) : TextStream where
  yielded :=
    routed.chunks.map (fun chunk => event (json.dumps (chunkData chunk))) ++
      match routed.ending with
      | .ok () => [event "[DONE]"]
      | .error _ => []
  ending := routed.ending

/-! ## A client -/

/-- The chunks that a client has read, and whether it saw the end of the stream. -/
structure ReadStream where
  chunks : List ChatResponseChunk
  done : Bool

def readText : Json → Except PyException String
  | .str text => .ok text
  | _ => .error .typeError

def readInt : Json → Except PyException Int
  | .int value => .ok value
  | _ => .error .typeError

/-- A value that can be null. -/
def readOptional {Value : Type} (read : Json → Except PyException Value) :
    Json → Except PyException (Option Value)
  | .null => .ok none
  | data => do
      let value ← read data
      pure (some value)

/-- `choices[0]`. -/
def readFirst : Json → Except PyException Json
  | .list (item :: _) => .ok item
  | _ => .error .typeError

def readUsage (data : Json) : Except PyException Usage := do
  let input_tokens ← data.item "input_tokens"
  let output_tokens ← data.item "output_tokens"
  let total_tokens ← data.item "total_tokens"
  pure ⟨← readInt input_tokens, ← readInt output_tokens, ← readInt total_tokens⟩

/-- The chunk in the data of an event. A missing content is empty. -/
def readChunk (data : Json) : Except PyException ChatResponseChunk := do
  let id ← data.item "id"
  let model ← data.item "model"
  let choices ← data.item "choices"
  let choice ← readFirst choices
  let delta ← choice.item "delta"
  let content ← delta.getMethod "content" (.str "")
  let finish_reason ← choice.item "finish_reason"
  let usage ← data.getMethod "usage" .null
  pure {
    id := ← readText id
    model := ← readText model
    delta_content := ← readText content
    finish_reason := ← readOptional readText finish_reason
    usage := ← readOptional readUsage usage }

/-- The events of a text: its pieces that end with a blank line. -/
def eventsOf (text : String) : List (List Char) := (splitDoubled '\n' text.toList).dropLast

/-- An event without its prefix "data: ". -/
def stripData (line : List Char) : List Char :=
  if "data: ".toList <+: line then line.drop "data: ".toList.length else line

/-- The events are read up to "[DONE]". -/
def readEvents (json : JsonModule String) : List (List Char) → Except PyException ReadStream
  | [] => .ok ⟨[], false⟩
  | line :: rest =>
      if stripData line = "[DONE]".toList then .ok ⟨[], true⟩
      else do
        let data ← json.loads (String.ofList (stripData line))
        let chunk ← readChunk data
        let later ← readEvents json rest
        pure { later with chunks := chunk :: later.chunks }

/-- What a client reads in a whole response. -/
def readStream (json : JsonModule String) (text : String) : Except PyException ReadStream :=
  readEvents json (eventsOf text)

/-! ## One chunk -/

/-- **The data of a chunk** has all of its fields. -/
theorem readChunk_chunkData (chunk : ChatResponseChunk) :
    readChunk (chunkData chunk) = .ok chunk := by
  obtain ⟨id, model, delta_content, finish_reason, usage⟩ := chunk
  by_cases silent : delta_content = ""
  · subst silent
    cases finish_reason <;> cases usage <;> rfl
  · cases finish_reason <;> cases usage <;>
      simp only [chunkData, if_neg silent] <;> rfl

/-! ## The framing -/

/-- The lines of some events. -/
def dataLines (payloads : List String) : List (List Char) :=
  payloads.map fun data => "data: ".toList ++ data.toList

/-- The text of some events is their lines, each with a blank line after it. -/
theorem join_events (payloads : List String) :
    (String.join (payloads.map event)).toList = doubleEnded '\n' (dataLines payloads) := by
  induction payloads with
  | nil => simp [doubleEnded, dataLines]
  | cons data rest ih =>
      rw [List.map_cons, String.join_cons, String.toList_append, ih]
      simp [event, doubleEnded, dataLines]

/-- **The events of a text** are the ones that were sent, where their data are single lines. -/
theorem eventsOf_join {payloads : List String} (single : ∀ data ∈ payloads, '\n' ∉ data.toList) :
    eventsOf (String.join (payloads.map event)) = dataLines payloads := by
  have lines : ∀ line ∈ dataLines payloads, '\n' ∉ line := by
    intro line member
    obtain ⟨data, sent, rfl⟩ := List.mem_map.mp member
    simpa using single data sent
  rw [eventsOf, join_events, splitDoubled_doubleEnded lines, List.dropLast_concat]

theorem stripData_dataLine (data : String) :
    stripData ("data: ".toList ++ data.toList) = data.toList := by
  rw [stripData, if_pos (List.prefix_append _ _), List.drop_left]

/-! ## The round trip -/

/-- What is assumed of the JSON module: the text of a chunk is a single line, loading it
gives the data back, and "[DONE]" is not the text of any data. -/
structure ReadsBack (json : JsonModule String) (chunks : List ChatResponseChunk) : Prop where
  single_line : ∀ chunk ∈ chunks, '\n' ∉ (json.dumps (chunkData chunk)).toList
  inverts : ∀ chunk ∈ chunks, json.loads (json.dumps (chunkData chunk)) = .ok (chunkData chunk)
  done_is_no_data : ∀ data, json.loads "[DONE]" ≠ .ok data

variable {json : JsonModule String} {chunks : List ChatResponseChunk}

/-- The text of a chunk is not mistaken for the end of the stream. -/
theorem ReadsBack.ne_done (reads : ReadsBack json chunks) {chunk : ChatResponseChunk}
    (sent : chunk ∈ chunks) : json.dumps (chunkData chunk) ≠ "[DONE]" := by
  intro same
  have loaded := reads.inverts chunk sent
  rw [same] at loaded
  exact reads.done_is_no_data _ loaded

/-- The lines of chunks are read one by one, and then those that follow. -/
theorem readEvents_chunks (reads : ReadsBack json chunks) (further : List (List Char)) :
    readEvents json
        (dataLines (chunks.map fun chunk => json.dumps (chunkData chunk)) ++ further) =
      (readEvents json further).map fun later =>
        { later with chunks := chunks ++ later.chunks } := by
  induction chunks with
  | nil =>
      change readEvents json further = _
      cases readEvents json further <;> rfl
  | cons chunk rest ih =>
      have restReads : ReadsBack json rest := {
        single_line := fun other member =>
          reads.single_line other (List.mem_cons_of_mem _ member)
        inverts := fun other member => reads.inverts other (List.mem_cons_of_mem _ member)
        done_is_no_data := reads.done_is_no_data }
      have isData : (json.dumps (chunkData chunk)).toList ≠ "[DONE]".toList := fun same =>
        reads.ne_done List.mem_cons_self (String.toList_injective same)
      have lines : dataLines ((chunk :: rest).map fun chunk => json.dumps (chunkData chunk)) ++
            further =
          ("data: ".toList ++ (json.dumps (chunkData chunk)).toList) ::
            (dataLines (rest.map fun chunk => json.dumps (chunkData chunk)) ++ further) := rfl
      rw [lines, readEvents, stripData_dataLine, if_neg isData, String.ofList_toList,
        reads.inverts chunk List.mem_cons_self, ih restReads]
      cases readEvents json further with
      | error failure => simp [bind, Except.bind, readChunk_chunkData, Except.map]
      | ok later => simp [bind, Except.bind, readChunk_chunkData, Except.map, pure, Except.pure]

/-- The data of all events of a response. -/
def payloads (json : JsonModule String) (routed : ProviderStream) : List String :=
  routed.chunks.map (fun chunk => json.dumps (chunkData chunk)) ++
    if routed.ending.isOk then ["[DONE]"] else []

theorem yielded_eq_events (json : JsonModule String) (routed : ProviderStream) :
    (streamResponse json routed).yielded = (payloads json routed).map event := by
  obtain ⟨chunks, ending⟩ := routed
  cases ending <;> simp [streamResponse, payloads, Except.isOk, Except.toBool, Function.comp_def]

/-- What follows the chunks is read as the end of the stream, or as nothing. -/
theorem readEvents_ending (json : JsonModule String) (ended : Bool) :
    readEvents json (dataLines (if ended then ["[DONE]"] else [])) = .ok ⟨[], ended⟩ := by
  cases ended <;> rfl

theorem newline_not_mem_payload (routed : ProviderStream) (reads : ReadsBack json routed.chunks) :
    ∀ data ∈ payloads json routed, '\n' ∉ data.toList := by
  intro data member
  rcases List.mem_append.mp member with sent | last
  · obtain ⟨chunk, isChunk, rfl⟩ := List.mem_map.mp sent
    exact reads.single_line chunk isChunk
  · split at last
    · rw [List.mem_singleton.mp last]
      decide
    · cases last

/-- **What a client reads** of a response. -/
theorem readStream_streamResponse (routed : ProviderStream)
    (reads : ReadsBack json routed.chunks) :
    readStream json (String.join (streamResponse json routed).yielded) =
      .ok ⟨routed.chunks, routed.ending.isOk⟩ := by
  have single := newline_not_mem_payload routed reads
  have lines : dataLines (payloads json routed) =
      dataLines (routed.chunks.map fun chunk => json.dumps (chunkData chunk)) ++
        dataLines (if routed.ending.isOk then ["[DONE]"] else []) := List.map_append
  rw [readStream, yielded_eq_events, eventsOf_join single, lines, readEvents_chunks reads,
    readEvents_ending]
  simp [Except.map]

/-- **Event streams are read back.** A client that reads a response to its end has exactly
the chunks that the router streamed, with all of their fields, and it has seen "[DONE]" if
and only if the stream of the router ended without an exception. -/
theorem stream_round_trip (json : JsonModule String) (routed : ProviderStream)
    (reads : ReadsBack json routed.chunks) :
    ∃ read, readStream json (String.join (streamResponse json routed).yielded) = .ok read ∧
      read.chunks = routed.chunks ∧ (read.done = true ↔ routed.ending = .ok ()) := by
  refine ⟨_, readStream_streamResponse routed reads, rfl, ?_⟩
  cases routed.ending with
  | ok done => simp [Except.isOk, Except.toBool]
  | error failure => simp [Except.isOk, Except.toBool]

/-! ## A part of a response -/

/-- The events of a part of a response are the first of its events: those that are in it
to their last character. -/
theorem eventsOf_take {payloads : List String} (single : ∀ data ∈ payloads, '\n' ∉ data.toList)
    (length : ℕ) :
    ∃ count, eventsOf (String.ofList ((String.join (payloads.map event)).toList.take length)) =
        (dataLines payloads).take count ∧
      ∀ first ≤ payloads.length,
        first ≤ count ↔ (String.join ((payloads.take first).map event)).length ≤ length := by
  have lines : ∀ line ∈ dataLines payloads, '\n' ∉ line := by
    intro line member
    obtain ⟨data, sent, rfl⟩ := List.mem_map.mp member
    simpa using single data sent
  obtain ⟨count, events, whole⟩ := splitDoubled_take lines length
  refine ⟨count, ?_, fun first atMost => ?_⟩
  · rw [eventsOf, String.toList_ofList, join_events, events]
  · have firstLines : (dataLines payloads).take first = dataLines (payloads.take first) :=
      List.map_take.symm
    rw [whole first (by simpa [dataLines] using atMost), firstLines, ← join_events,
      String.length_toList]

/-- What a client reads of the first events. -/
theorem readEvents_take (routed : ProviderStream) (reads : ReadsBack json routed.chunks)
    (count : ℕ) :
    readEvents json ((dataLines (payloads json routed)).take count) =
      .ok ⟨routed.chunks.take count,
        decide (routed.chunks.length < count) && routed.ending.isOk⟩ := by
  have lines : dataLines (payloads json routed) =
      dataLines (routed.chunks.map fun chunk => json.dumps (chunkData chunk)) ++
        dataLines (if routed.ending.isOk then ["[DONE]"] else []) := List.map_append
  have length : (dataLines (routed.chunks.map fun chunk => json.dumps (chunkData chunk))).length =
      routed.chunks.length := by simp [dataLines]
  rw [lines, List.take_append, length]
  rcases Nat.lt_or_ge routed.chunks.length count with beyond | within
  · -- all chunks are there, and what ends the response
    have ending : (dataLines (if routed.ending.isOk then ["[DONE]"] else [])).take
        (count - routed.chunks.length) =
          dataLines (if routed.ending.isOk then ["[DONE]"] else []) := by
      refine List.take_of_length_le ?_
      split
      · exact Nat.sub_pos_of_lt beyond
      · exact Nat.zero_le _
    rw [List.take_of_length_le (by omega), ending, readEvents_chunks reads, readEvents_ending,
      List.take_of_length_le beyond.le, decide_eq_true beyond]
    simp [Except.map]
  · have fewer : ReadsBack json (routed.chunks.take count) := {
      single_line := fun chunk member => reads.single_line chunk (List.mem_of_mem_take member)
      inverts := fun chunk member => reads.inverts chunk (List.mem_of_mem_take member)
      done_is_no_data := reads.done_is_no_data }
    have first : (dataLines (routed.chunks.map fun chunk => json.dumps (chunkData chunk))).take
        count = dataLines ((routed.chunks.take count).map fun chunk =>
          json.dumps (chunkData chunk)) := by
      simp [dataLines, List.map_take]
    rw [first, Nat.sub_eq_zero_of_le within, List.take_zero, readEvents_chunks fewer,
      decide_eq_false (not_lt.mpr within)]
    simp [readEvents, Except.map]

/-- **What a client reads** of the first characters of a response: the chunks whose events
are among them, and "[DONE]" if its event is. -/
theorem readStream_take (routed : ProviderStream) (reads : ReadsBack json routed.chunks)
    (length : ℕ) :
    ∃ count, readStream json (String.ofList
        ((String.join (streamResponse json routed).yielded).toList.take length)) =
          .ok ⟨routed.chunks.take count,
            decide (routed.chunks.length < count) && routed.ending.isOk⟩ ∧
      ∀ first ≤ (streamResponse json routed).yielded.length, first ≤ count ↔
        (String.join ((streamResponse json routed).yielded.take first)).length ≤ length := by
  obtain ⟨count, events, whole⟩ := eventsOf_take (newline_not_mem_payload routed reads) length
  rw [yielded_eq_events]
  refine ⟨count, ?_, fun first atMost => ?_⟩
  · rw [readStream, events, readEvents_take routed reads]
  · rw [whole first (by simpa using atMost), List.map_take]

/-! ## A stream that an exception ends -/

/-- A chunk whose content looks like the end of the stream. -/
def trickyChunk : ChatResponseChunk := ⟨"c1", "m", "data: [DONE]\n\n", none, none⟩

/-- Its JSON text. -/
def trickyText : String :=
  "\x7b\"id\": \"c1\", \"model\": \"m\", " ++
    "\"choices\": [\x7b\"index\": 0, \"delta\": \x7b\"content\": " ++
    "\"data: [DONE]\\n\\n\"\x7d, \"finish_reason\": null\x7d]\x7d"

/-- `json.loads` on this text. -/
def loadTrickyText (text : String) : Except PyException Json :=
  if text = trickyText then .ok (chunkData trickyChunk) else .error .jsonDecodeError

/-- The JSON module on the data of this chunk. -/
def trickyJson : JsonModule String where
  dumps _ := trickyText
  loads := loadTrickyText

theorem readsBack_trickyJson : ReadsBack trickyJson [trickyChunk] where
  single_line chunk sent := by
    change '\n' ∉ trickyText.toList
    decide +kernel
  inverts chunk sent := by
    rw [List.mem_singleton.mp sent]
    change loadTrickyText trickyText = _
    rw [loadTrickyText, if_pos rfl]
  done_is_no_data data loaded := by
    have different : "[DONE]" ≠ trickyText := by decide
    change loadTrickyText "[DONE]" = .ok data at loaded
    rw [loadTrickyText, if_neg different] at loaded
    cases loaded

/-- The provider raises after the chunk. -/
theorem cut_stream_round_trip :
    ∃ read, readStream trickyJson (String.join (streamResponse trickyJson
        ⟨[trickyChunk], .error (.exception "APIError")⟩).yielded) = .ok read ∧
      read.chunks = [trickyChunk] ∧
      (read.done = true ↔ (.error (.exception "APIError") : Except PyException Unit) = .ok ()) :=
  stream_round_trip trickyJson ⟨[trickyChunk], .error (.exception "APIError")⟩
    readsBack_trickyJson

end LlmopsPlatform.Api
