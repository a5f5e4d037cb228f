import LlmopsPlatform.Python.JsonText
import LlmopsPlatform.Scoring.LLMJudge

/-!
# Reading a conforming answer back

A judge that does what the rubric asks answers with the JSON object of a score and a reason,
perhaps with some prose around it. The object is found by its braces: from the first opening
brace to the first closing one. A closing brace in the reason ends it too early. What is found
is then no object, and the first number of the whole text is taken instead.

So the score and the reason are read back exactly when there is no closing brace in the reason
(`read_back_iff`).
-/

set_option autoImplicit false

namespace LlmopsPlatform.Scoring.LLMJudgeScorer

open Foundations Python

/-- The order of the two keys of an answer. -/
inductive KeyOrder where
  | scoreFirst
  | reasonFirst
deriving DecidableEq

namespace KeyOrder

/-- The object that is written. -/
def entries (order : KeyOrder) (score : ℚ) (reason : String) : List (String × Json) :=
  match order with
  | scoreFirst => [("score", .float (.finite score)), ("reason", .str reason)]
  | reasonFirst => [("reason", .str reason), ("score", .float (.finite score))]

/-- What `json.dumps` writes between the braces, with the digits of the score given. -/
def body (order : KeyOrder) (digits : List Char) (reason : String) : List Char :=
  match order with
  | scoreFirst =>
      dumpsText "score".toList ++ ": ".toList ++ digits ++ ", ".toList ++
        dumpsText "reason".toList ++ ": ".toList ++ dumpsText reason.toList
  | reasonFirst =>
      dumpsText "reason".toList ++ ": ".toList ++ dumpsText reason.toList ++ ", ".toList ++
        dumpsText "score".toList ++ ": ".toList ++ digits

/-- What `json.dumps` writes. -/
def dumps (order : KeyOrder) (digits : List Char) (reason : String) : List Char :=
  '\x7b' :: (order.body digits reason ++ ['\x7d'])

variable {order : KeyOrder} {digits : List Char} {reason : String}

/-- The only closing braces between the braces are in the reason. -/
theorem exists_body_eq_append (order : KeyOrder) (plainDigits : '\x7d' ∉ digits)
    (reason : String) : ∃ lead trail, '\x7d' ∉ lead ∧ '\x7d' ∉ trail ∧
      order.body digits reason = lead ++ dumpsText reason.toList ++ trail := by
  have scoreKey : '\x7d' ∉ dumpsText "score".toList := by decide +kernel
  have reasonKey : '\x7d' ∉ dumpsText "reason".toList := by decide +kernel
  have colon : '\x7d' ∉ ": ".toList := by decide +kernel
  have comma : '\x7d' ∉ ", ".toList := by decide +kernel
  cases order with
  | scoreFirst =>
      refine ⟨dumpsText "score".toList ++ ": ".toList ++ digits ++ ", ".toList ++
        dumpsText "reason".toList ++ ": ".toList, [], ?_, List.not_mem_nil, ?_⟩
      · simp only [List.mem_append, scoreKey, reasonKey, colon, comma, plainDigits, or_self,
          not_false_eq_true]
      · rw [List.append_nil, body]
  | reasonFirst =>
      refine ⟨dumpsText "reason".toList ++ ": ".toList,
        ", ".toList ++ dumpsText "score".toList ++ ": ".toList ++ digits, ?_, ?_, ?_⟩
      · simp only [List.mem_append, reasonKey, colon, or_self, not_false_eq_true]
      · simp only [List.mem_append, scoreKey, colon, comma, plainDigits, or_self,
          not_false_eq_true]
      · simp only [body, List.append_assoc]

/-- A closing brace between the braces is one in the reason. -/
theorem mem_body_iff (plainDigits : '\x7d' ∉ digits) :
    '\x7d' ∈ order.body digits reason ↔ '\x7d' ∈ reason.toList := by
  obtain ⟨lead, trail, inLead, inTrail, isBody⟩ := order.exists_body_eq_append plainDigits reason
  have plain : IsPlain '\x7d' := by decide
  have inReason : '\x7d' ∈ dumpsText reason.toList ↔ '\x7d' ∈ reason.toList := by
    rw [dumpsText, List.mem_cons, List.mem_append, mem_escape_iff plain]
    simp [show '\x7d' ≠ quote by decide]
  rw [isBody, List.mem_append, List.mem_append, inReason]
  simp only [inLead, inTrail, false_or, or_false]

theorem body_ne_nil : order.body digits reason ≠ [] := by
  cases order <;> simp [body, dumpsText]

/-- With a closing brace in the reason, what is before the first one is longer than the part
of the reason before it. -/
theorem exists_body_eq (plainDigits : '\x7d' ∉ digits) {start rest : List Char}
    (isReason : reason.toList = start ++ '\x7d' :: rest) (absent : '\x7d' ∉ start) :
    ∃ first more, order.body digits reason = first ++ '\x7d' :: more ∧ '\x7d' ∉ first ∧
      start.length < first.length := by
  have plain : IsPlain '\x7d' := by decide
  have written : dumpsText reason.toList =
      quote :: escape start ++ '\x7d' :: (escape rest ++ [quote]) := by
    rw [dumpsText, isReason, escape_append_cons plain]
    simp
  have longer := length_le_length_escape start
  have notInStart : '\x7d' ∉ quote :: escape start := by
    rw [List.mem_cons, mem_escape_iff plain]
    simp [show '\x7d' ≠ quote by decide, absent]
  obtain ⟨lead, trail, inLead, -, isBody⟩ := order.exists_body_eq_append plainDigits reason
  refine ⟨lead ++ quote :: escape start, escape rest ++ quote :: trail, ?_, ?_, ?_⟩
  · rw [isBody, written]
    simp
  · rw [List.mem_append, not_or]
    exact ⟨inLead, notInStart⟩
  · rw [List.length_append, List.length_cons]
    omega

end KeyOrder

/-! ## The object that is found -/

section Found

variable {runtime : JudgeRuntime} {order : KeyOrder} {digits before : List Char}
  {reason : String}

/-- **The whole object is found** when there is no closing brace between its braces. -/
theorem searchObject_of_plain (prose : '\x7b' ∉ before)
    (plain : '\x7d' ∉ order.body digits reason) (after : List Char) :
    searchObject (String.ofList (before ++ order.dumps digits reason ++ after)) =
      some (String.ofList (order.dumps digits reason)) := by
  have text : before ++ order.dumps digits reason ++ after =
      before ++ '\x7b' :: (order.body digits reason ++ '\x7d' :: after) := by
    simp [KeyOrder.dumps]
  rw [searchObject, String.toList_ofList, text,
    firstDelimited_append prose KeyOrder.body_ne_nil plain]
  rfl

/-- Otherwise a part of it is found. -/
theorem searchObject_of_cut (prose : '\x7b' ∉ before) {first more : List Char}
    (isBody : order.body digits reason = first ++ '\x7d' :: more) (absent : '\x7d' ∉ first)
    (filled : first ≠ []) (after : List Char) :
    searchObject (String.ofList (before ++ order.dumps digits reason ++ after)) =
      some (String.ofList ('\x7b' :: (first ++ ['\x7d']))) := by
  have text : before ++ order.dumps digits reason ++ after =
      before ++ '\x7b' :: (first ++ '\x7d' :: (more ++ '\x7d' :: after)) := by
    simp [KeyOrder.dumps, isBody]
  rw [searchObject, String.toList_ofList, text, firstDelimited_append prose filled absent]
  rfl

/-- The reason of the fallback starts with the text, or with a message and the text. -/
theorem exists_fallback_reason (runtime : JudgeRuntime) (text : String) :
    ∃ message : List Char, '\x7d' ∉ message ∧
      (fallback runtime text).2.toList = message ++ text.toList.take 200 := by
  unfold fallback
  cases firstNumber runtime text.toList with
  | none =>
      exact ⟨"Could not parse judge output: ".toList, by decide +kernel, by
        simp only [String.toList_append, String.toList_ofList]⟩
  | some digits =>
      exact ⟨[], List.not_mem_nil, by simp only [String.toList_ofList, List.nil_append]⟩

/-- **The fallback does not return the reason** when its first closing brace comes later in
the text than in the reason. -/
theorem fallback_reason_ne {start rest first more : List Char}
    (isReason : reason.toList = start ++ '\x7d' :: rest) (inStart : '\x7d' ∉ start)
    (inFirst : '\x7d' ∉ first) (longer : start.length < first.length) :
    (fallback runtime (String.ofList (first ++ '\x7d' :: more))).2 ≠ reason := by
  intro same
  obtain ⟨message, inMessage, isFallback⟩ :=
    exists_fallback_reason runtime (String.ofList (first ++ '\x7d' :: more))
  rw [same, isReason, String.toList_ofList] at isFallback
  have starts : (start ++ '\x7d' :: rest) <+: ((message ++ first) ++ '\x7d' :: more) := by
    rw [isFallback, List.append_assoc]
    exact List.prefix_append_right_inj message |>.mpr (List.take_prefix _ _)
  have equal := eq_of_prefix_append inStart
    (fun member => (List.mem_append.mp member).elim inMessage inFirst) starts
  rw [equal, List.length_append] at longer
  omega

variable {score : ℚ} {after : List Char}

/-- **A reason without a closing brace** is read back, with its score. -/
theorem parse_of_plain (nonneg : 0 ≤ score) (atMost : score ≤ 1) (prose : '\x7b' ∉ before)
    (plainDigits : '\x7d' ∉ digits) (plain : '\x7d' ∉ reason.toList)
    (inverts : runtime.loads (String.ofList (order.dumps digits reason)) =
      .ok (.dict (order.entries score reason))) :
    parseJudgeResponse runtime
        (String.ofList (before ++ order.dumps digits reason ++ after)) =
      .ok (.finite score, reason) := by
  have inBody : '\x7d' ∉ order.body digits reason :=
    fun member => plain ((KeyOrder.mem_body_iff plainDigits).mp member)
  have found := @searchObject_of_plain order _ _ _ prose inBody after
  have isScore : scoreOf (order.entries score reason) = .float (.finite score) := by
    cases order <;> simp [scoreOf, KeyOrder.entries, OrderedDict.find]
  have isReason : (OrderedDict.find "reason" (order.entries score reason)).getD (.str "") =
      .str reason := by
    cases order <;> simp [KeyOrder.entries, OrderedDict.find]
  rw [parseJudgeResponse, readObject_of_loads found inverts, isScore, isReason]
  simp only [Json.toPyFloat, Except.map, PyFloat.clamp_finite nonneg atMost, str]

/-- **A reason with a closing brace** is not read back: what is found is cut off in it. -/
theorem parse_ne_of_cut (noOpening : '\x7b' ∉ before) (noClosing : '\x7d' ∉ before)
    (plainDigits : '\x7d' ∉ digits) (inReason : '\x7d' ∈ reason.toList)
    (rejects : ∀ cut, cut <+: order.dumps digits reason → cut ≠ order.dumps digits reason →
      ∃ failure, runtime.loads (String.ofList cut) = .error failure) :
    parseJudgeResponse runtime
        (String.ofList (before ++ order.dumps digits reason ++ after)) ≠
      .ok (.finite score, reason) := by
  intro returned
  obtain ⟨start, rest, isReason, inStart⟩ := List.eq_append_cons_of_mem inReason
  obtain ⟨first, more, isBody, inFirst, longer⟩ :=
    @KeyOrder.exists_body_eq order _ _ plainDigits _ _ isReason inStart
  have filled : first ≠ [] := List.ne_nil_of_length_pos ((Nat.zero_le _).trans_lt longer)
  have found := @searchObject_of_cut order _ _ _ noOpening _ _ isBody inFirst filled after
  obtain ⟨failure, rejected⟩ := rejects ('\x7b' :: (first ++ ['\x7d']))
    ⟨more ++ ['\x7d'], by simp [KeyOrder.dumps, isBody]⟩ (by simp [KeyOrder.dumps, isBody])
  have read : readObject runtime
      (String.ofList (before ++ order.dumps digits reason ++ after)) = .error failure := by
    rw [readObject, found]
    simp only [rejected, bind, Except.bind]
  rw [parseJudgeResponse, read] at returned
  dsimp only at returned
  split_ifs at returned
  rw [Except.ok.injEq] at returned
  have text : before ++ order.dumps digits reason ++ after =
      (before ++ '\x7b' :: first) ++ '\x7d' :: (more ++ '\x7d' :: after) := by
    simp [KeyOrder.dumps, isBody]
  rw [text] at returned
  refine fallback_reason_ne isReason inStart ?_ ?_ (congrArg Prod.snd returned)
  · rw [List.mem_append, List.mem_cons]
    rintro (inProse | same | inBody)
    · exact noClosing inProse
    · exact absurd same (by decide)
    · exact inFirst inBody
  · rw [List.length_append, List.length_cons]
    omega

end Found

/-- **Reading a conforming answer back.** For every score between zero and one, every reason,
either order of the keys and any prose without braces: where loading inverts dumping and
rejects truncated objects, the parser returns the score and the reason exactly when there is
no closing brace in the reason. -/
theorem read_back_iff (runtime : JudgeRuntime) (order : KeyOrder) (score : ℚ)
    (digits : List Char) (reason : String) (before after : List Char) (nonneg : 0 ≤ score)
    (atMost : score ≤ 1) (prose : ∀ char ∈ before ++ after, char ≠ '\x7b' ∧ char ≠ '\x7d')
    (plainDigits : '\x7d' ∉ digits)
    (inverts : runtime.loads (String.ofList (order.dumps digits reason)) =
      .ok (.dict (order.entries score reason)))
    (rejects : ∀ cut, cut <+: order.dumps digits reason → cut ≠ order.dumps digits reason →
      ∃ failure, runtime.loads (String.ofList cut) = .error failure) :
    parseJudgeResponse runtime
        (String.ofList (before ++ order.dumps digits reason ++ after)) =
          .ok (.finite score, reason) ↔
      '\x7d' ∉ reason.toList := by
  have noOpening : '\x7b' ∉ before := fun member =>
    (prose _ (List.mem_append_left _ member)).1 rfl
  have noClosing : '\x7d' ∉ before := fun member =>
    (prose _ (List.mem_append_left _ member)).2 rfl
  constructor
  · exact fun returned inReason =>
      parse_ne_of_cut noOpening noClosing plainDigits inReason rejects returned
  · exact fun plain => parse_of_plain nonneg atMost noOpening plainDigits plain inverts

/-! ## Two answers -/

/-- A parser that knows the answer with a reason and half of the score. -/
def knowingHalf (reason : String) : JudgeRuntime :=
  knowing (String.ofList (KeyOrder.scoreFirst.dumps "0.5".toList reason))
    (KeyOrder.scoreFirst.entries (1 / 2) reason)

/-- It rejects every other text. -/
theorem knowingHalf_rejects (reason : String) {cut : List Char}
    (different : cut ≠ KeyOrder.scoreFirst.dumps "0.5".toList reason) :
    ∃ failure, (knowingHalf reason).loads (String.ofList cut) = .error failure :=
  ⟨.jsonDecodeError, if_neg fun same => different (String.ofList_injective same)⟩

/-- An answer with a plain reason is read back. -/
theorem plain_answer_read_back :
    parseJudgeResponse (knowingHalf "vague")
        (String.ofList ("My verdict: ".toList ++
          KeyOrder.scoreFirst.dumps "0.5".toList "vague" ++ [])) =
      .ok (.finite (1 / 2), "vague") :=
  (read_back_iff (knowingHalf "vague") .scoreFirst (1 / 2) "0.5".toList "vague"
    "My verdict: ".toList [] (by norm_num) (by norm_num) (by simp) (by decide +kernel)
    (loads_knowing _ _) (fun _ _ => knowingHalf_rejects "vague")).mpr (by decide +kernel)

/-- **A reason with braces** is not read back. -/
theorem braced_reason_is_cut :
    ¬∀ (runtime : JudgeRuntime) (order : KeyOrder) (score : ℚ) (digits : List Char)
        (reason : String) (before after : List Char), 0 ≤ score → score ≤ 1 →
      (∀ char ∈ before ++ after, char ≠ '\x7b' ∧ char ≠ '\x7d') → '\x7d' ∉ digits →
      runtime.loads (String.ofList (order.dumps digits reason)) =
        .ok (.dict (order.entries score reason)) →
      (∀ cut, cut <+: order.dumps digits reason → cut ≠ order.dumps digits reason →
        ∃ failure, runtime.loads (String.ofList cut) = .error failure) →
      parseJudgeResponse runtime
          (String.ofList (before ++ order.dumps digits reason ++ after)) =
        .ok (.finite score, reason) := by
  intro always
  have plainDigits : '\x7d' ∉ "0.5".toList := by decide +kernel
  have braced : '\x7d' ∈ "uses \x7bname\x7d".toList := by decide +kernel
  have returned := always (knowingHalf "uses \x7bname\x7d") .scoreFirst (1 / 2) "0.5".toList
    "uses \x7bname\x7d" [] [] (by norm_num) (by norm_num) (by simp) plainDigits
    (loads_knowing _ _) (fun _ _ => knowingHalf_rejects _)
  exact parse_ne_of_cut List.not_mem_nil List.not_mem_nil plainDigits braced
    (fun _ _ => knowingHalf_rejects _) returned

end LlmopsPlatform.Scoring.LLMJudgeScorer
