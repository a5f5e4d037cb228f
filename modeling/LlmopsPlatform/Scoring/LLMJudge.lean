import LlmopsPlatform.Foundations.Delimiters
import LlmopsPlatform.Python.Conversions
import LlmopsPlatform.Scoring.Pipeline

/-!
# The answer of a judge

The judge is asked to answer with a JSON object that has a score and a reason. Its answer
is a text, and `_parse_judge_response` looks for an object in it, then for a number.

What is wrong with the object raises an exception. Only `JSONDecodeError` and `ValueError`
lead on to the number. A text that is nested too deeply raises a `RecursionError`, a score
that is null, an array or an object a `TypeError`, and an integer too large for a float an
`OverflowError`; the parser returns a score between zero and one exactly for all other
answers (`judge_returns_iff`).
-/

set_option autoImplicit false

namespace LlmopsPlatform.Scoring

open Foundations Python

/-- The functions of Python that the parser calls: `json.loads`, `float` on a text, `str` on a
value that is no text, and the value of a decimal digit. What a JSON parser reads from a text
that starts with a brace is an object. -/
structure JudgeRuntime where
  loads : String → Except PyException Json
  ofText : String → Option PyFloat
  repr : Json → String
  decimal : Char → Option ℕ
  loads_object : ∀ text data, text.toList.head? = some '\x7b' → loads text = .ok data →
    ∃ entries, data = .dict entries

namespace LLMJudgeScorer

variable (runtime : JudgeRuntime)

/-- `re.search(r"\{[^}]+\}", text)`. -/
def searchObject (text : String) : Option String :=
  (firstDelimited '\x7b' '\x7d' text.toList).map fun body =>
    String.ofList ('\x7b' :: (body ++ ['\x7d']))

/-- `str(data)`. -/
def str : Json → String
  | .str text => text
  | other => runtime.repr other

/-- The score and the reason of the object in the text, if there is one. -/
def readObject (text : String) : Except PyException (Option (PyFloat × String)) := do
  match searchObject text with
  | none => pure none
  | some found =>
      let data ← runtime.loads found
      let score ← (← data.getMethod "score" (.float (.finite (1 / 2)))).toPyFloat runtime.ofText
      let reason ← data.getMethod "reason" (.str "")
      pure (some (score.clamp 0 1, str runtime reason))

/-- The first match of `re.findall(r"(\d+\.?\d*)", text)`, as the digits before and after the
point. -/
def firstNumber (text : List Char) : Option (List ℕ × List ℕ) :=
  let isDigit (char : Char) : Bool := (runtime.decimal char).isSome
  let start := text.dropWhile fun char => !isDigit char
  let fraction := match start.dropWhile isDigit with
    | '.' :: rest => rest.takeWhile isDigit
    | _ => []
  if start = [] then none
  else some ((start.takeWhile isDigit).filterMap runtime.decimal,
    fraction.filterMap runtime.decimal)

/-- `float(numbers[0])`. -/
def numberOfDigits (whole fraction : List ℕ) : PyFloat :=
  .ofRat (((whole ++ fraction).foldl (fun number digit => 10 * number + digit) 0 : ℕ) /
    10 ^ fraction.length)

/-- A number on a scale to ten or to a hundred as a number on a scale to one. -/
def rescale (score : PyFloat) : PyFloat :=
  if (PyFloat.finite 1).isLess score then
    if score.isAtMost (.finite 10) then score.divide 10 else score.divide 100
  else score

/-- The score and the reason of a text without a usable object. -/
def fallback (text : String) : PyFloat × String :=
  let shortened := String.ofList (text.toList.take 200)
  match firstNumber runtime text.toList with
  | some (whole, fraction) => ((rescale (numberOfDigits whole fraction)).clamp 0 1, shortened)
  | none => (.finite (1 / 2), "Could not parse judge output: " ++ shortened)

/-- `LLMJudgeScorer._parse_judge_response`. -/
def parseJudgeResponse (text : String) : Except PyException (PyFloat × String) :=
  match readObject runtime text with
  | .ok (some answer) => .ok answer
  | .ok none => .ok (fallback runtime text)
  | .error failure =>
      -- `except (json.JSONDecodeError, ValueError)`
      if failure.isValueError then .ok (fallback runtime text) else .error failure

/-- What `score` does besides: `template.format(…)` with the named texts, and the answer of the
model that is asked with a prompt. -/
structure JudgeCalls where
  format : Json → List (String × Json) → Except PyException String
  answer : Json → String → Except PyException String

/-- `DEFAULT_RUBRIC`. -/
def defaultRubric : String :=
  "You are an expert evaluator. Rate the following AI response on a scale of 0.0 to 1.0.\n\n" ++
  "## Input\n\x7binput_text\x7d\n\n## AI Response\n\x7boutput_text\x7d\n\n" ++
  "## Reference (if provided)\n\x7breference\x7d\n\n" ++
  "## Evaluation Criteria\n\x7brubric\x7d\n\n" ++
  "Respond with ONLY a JSON object in this format:\n" ++
  "\x7b\x7b\"score\": 0.0-1.0, \"reason\": \"brief explanation\"\x7d\x7d\n"

/-- `LLMJudgeScorer.score`. -/
def score (calls : JudgeCalls) (input : ScoringInput) (config : Config) :
    Except PyException (ScoreResult PyFloat) := do
  let model := (OrderedDict.find "model" config).getD (.str "gemini-2.0-flash")
  let rubric := (OrderedDict.find "rubric" config).getD
    (.str "Rate the overall quality, accuracy, and helpfulness.")
  let template := (OrderedDict.find "template" config).getD (.str defaultRubric)
  let reference := (input.reference.filter (· ≠ "")).getD "N/A"
  let prompt ← calls.format template
    [("input_text", .str input.input_text), ("output_text", .str input.output_text),
      ("reference", .str reference), ("rubric", rubric)]
  let judge_output ← calls.answer model prompt
  let (score_value, reason) ← parseJudgeResponse runtime judge_output
  pure {
    name := "llm_judge"
    value := score_value
    data_type := .numeric
    comment := some reason
    metadata :=
      [("judge_model", model), ("judge_raw_output", .str judge_output), ("rubric", rubric)] }

theorem name_of_score {calls : JudgeCalls} {input : ScoringInput} {config : Config}
    {result : ScoreResult PyFloat} (returned : score runtime calls input config = .ok result) :
    result.name = "llm_judge" := by
  simp only [score, bind, Except.bind, pure, Except.pure] at returned
  split at returned
  · cases returned
  · split at returned
    · cases returned
    · split at returned
      · cases returned
      · cases returned
        rfl

/-! ## When the parser returns -/

/-- The parser returns a score between zero and one. -/
def ReturnsScore (text : String) : Prop :=
  ∃ score reason, parseJudgeResponse runtime text = .ok (.finite score, reason) ∧
    0 ≤ score ∧ score ≤ 1

/-- The object in the text, if there is one, is read or rejected with a `ValueError`. If it is
read, it has no score or one that is a boolean, a float, a text, or an integer that is not too
large. -/
structure UsableScore (text : String) : Prop where
  rejection : ∀ found failure, searchObject text = some found →
    runtime.loads found = .error failure → failure.isValueError = true
  score : ∀ found entries value, searchObject text = some found →
    runtime.loads found = .ok (.dict entries) →
      OrderedDict.find "score" entries = some value → value.NumberOrText

variable {runtime} {text : String}

/-- The score of the fallback is between zero and one. -/
theorem exists_fallback_eq (text : String) :
    ∃ score reason, fallback runtime text = (.finite score, reason) ∧ 0 ≤ score ∧ score ≤ 1 := by
  unfold fallback
  cases firstNumber runtime text.toList with
  | none => exact ⟨1 / 2, _, rfl, by norm_num, by norm_num⟩
  | some digits =>
      obtain ⟨score, clamped, bounds⟩ :=
        PyFloat.exists_clamp_eq zero_le_one (rescale (numberOfDigits digits.1 digits.2))
      exact ⟨score, _, by rw [← clamped], bounds⟩

/-- What is found starts with a brace, and is read as an object. -/
theorem exists_entries_of_loads {found : String} {data : Json}
    (isFound : searchObject text = some found) (read : runtime.loads found = .ok data) :
    ∃ entries, data = .dict entries := by
  obtain ⟨body, -, rfl⟩ := Option.map_eq_some_iff.mp isFound
  exact runtime.loads_object _ data (by simp) read

/-- The score under the key, or the default. -/
def scoreOf (entries : List (String × Json)) : Json :=
  (OrderedDict.find "score" entries).getD (.float (.finite (1 / 2)))

/-- **Reading an object** returns a score, or raises what the conversion of its score raises. -/
theorem readObject_of_loads {found : String} {entries : List (String × Json)}
    (isFound : searchObject text = some found) (read : runtime.loads found = .ok (.dict entries)) :
    readObject runtime text = ((scoreOf entries).toPyFloat runtime.ofText).map fun score =>
      some (score.clamp 0 1,
        str runtime ((OrderedDict.find "reason" entries).getD (.str ""))) := by
  rw [readObject, isFound]
  simp only [read, bind, Except.bind, Json.getMethod]
  rw [scoreOf]
  cases ((OrderedDict.find "score" entries).getD
    (.float (.finite (1 / 2)))).toPyFloat runtime.ofText <;> rfl

/-- What reading an object comes to: there is none, or it is rejected, or it is read. -/
theorem readObject_cases (runtime : JudgeRuntime) (text : String) :
    readObject runtime text = .ok none ∨
      (∃ found failure, searchObject text = some found ∧
        runtime.loads found = .error failure ∧ readObject runtime text = .error failure) ∨
      ∃ found entries, searchObject text = some found ∧
        runtime.loads found = .ok (.dict entries) := by
  cases isFound : searchObject text with
  | none =>
      left
      rw [readObject, isFound]
      rfl
  | some found =>
      right
      cases loaded : runtime.loads found with
      | error failure =>
          left
          refine ⟨found, failure, rfl, loaded, ?_⟩
          rw [readObject, isFound]
          simp only [loaded, bind, Except.bind]
      | ok data =>
          obtain ⟨entries, rfl⟩ := exists_entries_of_loads isFound loaded
          exact .inr ⟨found, entries, rfl, loaded⟩

/-- A returned answer has a score between zero and one. -/
theorem bounds_of_readObject {answer : PyFloat × String}
    (read : readObject runtime text = .ok (some answer)) :
    ∃ score, answer.1 = .finite score ∧ 0 ≤ score ∧ score ≤ 1 := by
  rcases readObject_cases runtime text with absent | ⟨_, _, -, -, rejected⟩ |
    ⟨found, entries, isFound, loaded⟩
  · rw [absent] at read
    cases read
  · rw [rejected] at read
    cases read
  · rw [readObject_of_loads isFound loaded] at read
    cases converted : (scoreOf entries).toPyFloat runtime.ofText with
    | error failure =>
        rw [converted] at read
        cases read
    | ok score =>
        rw [converted] at read
        cases read
        exact PyFloat.exists_clamp_eq zero_le_one score

/-- **The parser returns a score** unless reading the object raises something else than a
`ValueError`. -/
theorem returnsScore_iff_readObject (runtime : JudgeRuntime) (text : String) :
    ReturnsScore runtime text ↔
      ∀ failure, readObject runtime text = .error failure → failure.isValueError = true := by
  obtain ⟨score, reason, fallen, bounds⟩ := @exists_fallback_eq runtime text
  unfold ReturnsScore parseJudgeResponse
  cases read : readObject runtime text with
  | error failure =>
      by_cases caught : failure.isValueError
      · simp only [if_pos caught, fallen]
        refine iff_of_true ⟨score, reason, rfl, bounds⟩ fun other same => ?_
        cases same
        exact caught
      · simp only [if_neg caught]
        refine iff_of_false ?_ fun all => caught (all failure rfl)
        rintro ⟨_, _, returned, -⟩
        cases returned
  | ok answer =>
      refine iff_of_true ?_ nofun
      cases answer with
      | none => exact ⟨score, reason, congrArg Except.ok fallen, bounds⟩
      | some answer =>
          obtain ⟨value, isValue, inUnit⟩ := bounds_of_readObject read
          exact ⟨value, answer.2, congrArg Except.ok (Prod.ext isValue rfl), inUnit⟩

/-- **Where the judge parser returns a score.** For every text, the parser returns a score
between zero and one and a reason exactly when the object that it finds, if any, is rejected
with a `ValueError`, or is read and has no score or one that is a boolean, a float, a text or
an integer that is not too large for a float. -/
theorem judge_returns_iff (runtime : JudgeRuntime) (text : String) :
    ReturnsScore runtime text ↔ UsableScore runtime text := by
  rw [returnsScore_iff_readObject]
  constructor
  · intro caught
    constructor
    · intro found failure isFound loaded
      refine caught failure ?_
      rw [readObject, isFound]
      simp only [loaded, bind, Except.bind]
    · intro found entries value isFound read isScore
      rw [Json.numberOrText_iff runtime.ofText]
      intro failure raised
      refine caught failure ?_
      rw [readObject_of_loads isFound read, scoreOf, isScore, Option.getD_some, raised]
      rfl
  · intro usable failure raised
    rcases readObject_cases runtime text with absent |
      ⟨found, rejection, isFound, loaded, rejected⟩ | ⟨found, entries, isFound, read⟩
    · rw [absent] at raised
      cases raised
    · rw [rejected] at raised
      cases raised
      exact usable.rejection found failure isFound loaded
    · rw [readObject_of_loads isFound read, scoreOf] at raised
      cases isScore : OrderedDict.find "score" entries with
      | none =>
          rw [isScore] at raised
          cases raised
      | some value =>
          have convertible := (Json.numberOrText_iff runtime.ofText value).mp
            (usable.score found entries value isFound read isScore)
          rw [isScore, Option.getD_some] at raised
          cases converted : value.toPyFloat runtime.ofText with
          | ok score =>
              rw [converted] at raised
              cases raised
          | error other =>
              rw [converted] at raised
              cases raised
              exact convertible failure converted

/-- A parser that knows one object, and functions for the digits of ASCII. -/
def knowing (object : String) (entries : List (String × Json)) : JudgeRuntime where
  loads text := if text = object then .ok (.dict entries) else .error .jsonDecodeError
  ofText _ := none
  repr _ := ""
  decimal char := if char.isDigit then some (char.toNat - '0'.toNat) else none
  loads_object text data _ read := by
    split at read
    · cases read
      exact ⟨entries, rfl⟩
    · cases read

theorem loads_knowing (object : String) (entries : List (String × Json)) :
    (knowing object entries).loads object = .ok (.dict entries) := by simp [knowing]

/-- An answer without an opinion. -/
def nullAnswer : String := "\x7b\"score\": null, \"reason\": \"unclear\"\x7d"

/-- **A score of null** raises a `TypeError`. -/
theorem null_score_raises :
    ¬∀ (runtime : JudgeRuntime) (text : String), ReturnsScore runtime text := by
  intro always
  let entries : List (String × Json) := [("score", .null), ("reason", .str "unclear")]
  have isFound : searchObject nullAnswer = some nullAnswer := by decide +kernel
  have caught := (returnsScore_iff_readObject (knowing nullAnswer entries) nullAnswer).mp
    (always _ _)
  rw [readObject_of_loads isFound (loads_knowing nullAnswer entries)] at caught
  exact absurd (caught .typeError rfl) (by decide)

end LLMJudgeScorer

end LlmopsPlatform.Scoring
