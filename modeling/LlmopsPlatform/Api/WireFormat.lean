import LlmopsPlatform.Api.EventStream
import LlmopsPlatform.Python.JsonRoundTrip

/-!
# A response that is cut short

The texts of the events of a response are those of `json.dumps`, which a client reads with
`json.loads`. Since every text is a single line, a client that has received only a part of a
response cannot mistake the piece at its end for an event. Wherever the response is cut, the
client has read the chunks of the events that it received whole, with all of their fields,
and it has seen "[DONE]" only if it has all of them and the stream of the router ended
without an exception (`cut_response_is_read`).
-/

set_option autoImplicit false

namespace LlmopsPlatform.Api

open Foundations Python Gateway

/-- The counts of tokens are not too long to be written. -/
def HasShortCounts (chunk : ChatResponseChunk) : Prop :=
  ∀ usage, chunk.usage = some usage →
    usage.input_tokens.natAbs < 10 ^ maxStrDigits ∧
      usage.output_tokens.natAbs < 10 ^ maxStrDigits ∧
        usage.total_tokens.natAbs < 10 ^ maxStrDigits

variable {floats : FloatFormat} {chunk : ChatResponseChunk} {chunks : List ChatResponseChunk}

/-- The data of a chunk can be written. -/
theorem writable_chunkData (short : HasShortCounts chunk) : (chunkData chunk).Writable floats := by
  have delta : (Json.dict (if chunk.delta_content = "" then []
      else [("content", .str chunk.delta_content)])).Writable floats := by
    split
    · exact .dict _ List.nodup_nil (by simp)
    · exact .dict _ (List.nodup_singleton _) (List.forall_mem_singleton.mpr (.str _))
  have reason : ((chunk.finish_reason.map Json.str).getD .null).Writable floats := by
    cases chunk.finish_reason with
    | none => exact .null
    | some text => exact .str text
  have choice : (Json.dict [("index", .int 0), ("delta", .dict (if chunk.delta_content = "" then []
      else [("content", .str chunk.delta_content)])),
      ("finish_reason", (chunk.finish_reason.map Json.str).getD .null)]).Writable floats := by
    have distinct : ["index", "delta", "finish_reason"].Nodup := by decide
    refine .dict _ distinct fun entry member => ?_
    simp only [List.mem_cons, List.not_mem_nil, or_false] at member
    rcases member with rfl | rfl | rfl
    · exact .int 0 (by positivity)
    · exact delta
    · exact reason
  have choices := Json.Writable.list _ (List.forall_mem_singleton.mpr choice)
  unfold chunkData
  cases isUsage : chunk.usage with
  | none =>
      have distinct : ["id", "model", "choices"].Nodup := by decide
      refine .dict _ distinct fun entry member => ?_
      simp only [List.append_nil, List.mem_cons, List.not_mem_nil, or_false] at member
      rcases member with rfl | rfl | rfl
      · exact .str _
      · exact .str _
      · exact choices
  | some usage =>
      obtain ⟨input, output, total⟩ := short usage isUsage
      have counts : (Json.dict [("input_tokens", .int usage.input_tokens),
          ("output_tokens", .int usage.output_tokens),
          ("total_tokens", .int usage.total_tokens)]).Writable floats := by
        have distinct : ["input_tokens", "output_tokens", "total_tokens"].Nodup := by decide
        refine .dict _ distinct fun entry member => ?_
        simp only [List.mem_cons, List.not_mem_nil, or_false] at member
        rcases member with rfl | rfl | rfl
        · exact .int _ input
        · exact .int _ output
        · exact .int _ total
      have distinct : ["id", "model", "choices", "usage"].Nodup := by decide
      refine .dict _ distinct fun entry member => ?_
      simp only [List.cons_append, List.nil_append, List.mem_cons, List.not_mem_nil,
        or_false] at member
      rcases member with rfl | rfl | rfl | rfl
      · exact .str _
      · exact .str _
      · exact choices
      · exact counts

/-- "[DONE]" is a list whose first item is no value. -/
theorem loads_done (floats : FloatFormat) :
    (jsonModule floats).loads "[DONE]" = .error .jsonDecodeError := rfl

/-- **The `json` module reads back** what it wrote of the chunks. -/
theorem readsBack_jsonModule (short : ∀ chunk ∈ chunks, HasShortCounts chunk) :
    ReadsBack (jsonModule floats) chunks where
  single_line chunk member := by
    have written : (chunkData chunk).Writable floats := writable_chunkData (short chunk member)
    have text : ((jsonModule floats).dumps (chunkData chunk)).toList =
        writeJson floats (chunkData chunk) := String.toList_ofList
    rw [text]
    exact newline_not_mem_writeJson written
  inverts chunk member := loads_dumps (writable_chunkData (short chunk member))
  done_is_no_data data loaded := by
    rw [loads_done] at loaded
    cases loaded

/-! ## A part of a response -/

/-- How many events a response has. -/
theorem length_yielded (json : JsonModule String) (routed : ProviderStream) :
    (streamResponse json routed).yielded.length =
      routed.chunks.length + if routed.ending.isOk then 1 else 0 := by
  rw [yielded_eq_events, List.length_map, payloads, List.length_append, List.length_map]
  split <;> rfl

/-- **A response that is cut short** anywhere. A client reads the first of its chunks, as
many as there are whole events in what it received. It has seen "[DONE]" only if it has all
of them and the stream ended without an exception. Of a whole response it reads all chunks,
and "[DONE]" if there was no exception. -/
theorem cut_response_is_read (floats : FloatFormat) (routed : ProviderStream)
    (short : ∀ chunk ∈ routed.chunks, HasShortCounts chunk) (length : ℕ) {whole : List Char}
    (isWhole : (String.join (streamResponse (jsonModule floats) routed).yielded).toList = whole) :
    ∃ read, readStream (jsonModule floats) (String.ofList (whole.take length)) = .ok read ∧
      read.chunks <+: routed.chunks ∧
      (∀ count ≤ routed.chunks.length, count ≤ read.chunks.length ↔
        (String.join ((streamResponse (jsonModule floats) routed).yielded.take count)).length ≤
          length) ∧
      (read.done = true → read.chunks = routed.chunks ∧ routed.ending = .ok ()) ∧
      (whole.length ≤ length →
        read.chunks = routed.chunks ∧ (routed.ending = .ok () → read.done = true)) := by
  subst isWhole
  have isOk : routed.ending.isOk = true ↔ routed.ending = .ok () := by
    cases routed.ending with
    | ok done => simp [Except.isOk, Except.toBool]
    | error failure => simp [Except.isOk, Except.toBool]
  obtain ⟨read, events, arrived⟩ :=
    readStream_take routed (@readsBack_jsonModule floats _ short) length
  refine ⟨_, events, List.take_prefix _ _, fun count atMost => ?_, fun done => ?_, fun all => ?_⟩
  · rw [← arrived count (by rw [length_yielded]; omega), List.length_take]
    omega
  · rw [Bool.and_eq_true, decide_eq_true_eq] at done
    exact ⟨List.take_of_length_le done.1.le, isOk.mp done.2⟩
  · have every := (arrived _ le_rfl).mpr (by rwa [List.take_length, ← String.length_toList])
    rw [length_yielded] at every
    refine ⟨List.take_of_length_le (by omega), fun ends => ?_⟩
    rw [if_pos (isOk.mpr ends)] at every
    rw [Bool.and_eq_true, decide_eq_true_eq]
    exact ⟨every, isOk.mpr ends⟩

/-- The provider raises after the chunk, and the client has received thirty characters. -/
theorem cut_tricky_response :
    ∃ read, readStream (jsonModule ⟨fun _ => [], fun _ => .nan⟩)
        (String.ofList ((String.join (streamResponse (jsonModule ⟨fun _ => [], fun _ => .nan⟩)
          ⟨[trickyChunk], .error (.exception "APIError")⟩).yielded).toList.take 30)) = .ok read ∧
      read.chunks <+: [trickyChunk] ∧ read.done = false := by
  have short : ∀ chunk ∈ [trickyChunk], HasShortCounts chunk := by
    intro chunk member usage isUsage
    rw [List.mem_singleton.mp member] at isUsage
    cases isUsage
  obtain ⟨read, isRead, isPrefix, -, done, -⟩ :=
    cut_response_is_read ⟨fun _ => [], fun _ => .nan⟩
      ⟨[trickyChunk], .error (.exception "APIError")⟩ short 30 rfl
  refine ⟨read, isRead, isPrefix, ?_⟩
  cases isDone : read.done with
  | false => rfl
  | true => cases (done isDone).2

end LlmopsPlatform.Api
