import LlmopsPlatform.Python.Conversions
import LlmopsPlatform.Scoring.Pipeline

/-!
# Rules that a text is checked against

A rule is a JSON object with a type and parameters. `_evaluate_rule` does not check the
parameters: a bound that is no number, keywords that are no texts and a pattern that is no
regular expression raise an exception. Only the rule on valid JSON handles exceptions, and
the loop over the rules handles none.

So one rule that raises discards the results of all others. Each rule is judged for itself,
and the result says which ones failed, exactly when every rule can be evaluated on the text
(`rules_judged_iff`).
-/

set_option autoImplicit false

namespace LlmopsPlatform.Scoring

open Foundations Python

/-- The functions of Python that the rules call: `text.lower()`, whether `re.search` finds a
match, `json.loads`, and the text of a list. -/
structure RuleRuntime where
  lower : String → String
  search : String → String → Except PyException Bool
  loads : String → Except PyException Json
  repr : List Json → String

/-- A JSON object with the type and the parameters of a rule. -/
abbrev Rule := List (String × Json)

namespace RuleBasedScorer

/-- `rule.get(key, default)`. -/
def parameter (rule : Rule) (key : String) (default : Json) : Json :=
  (OrderedDict.find key rule).getD default

/-- `rule.get("type", "")`. -/
def ruleType (rule : Rule) : Json := parameter rule "type" (.str "")

/-- A comparison with a JSON value, which raises unless it is a number. -/
def compare (test : PyFloat → Bool) (bound : Json) : Except PyException Bool :=
  match bound.number? with
  | some number => .ok (test number)
  | none => .error .typeError

/-- `all(… for kw in keywords)`, where the test of a keyword begins with `kw.lower()`. -/
def allKeywords (test : String → Bool) : List Json → Except PyException Bool
  | [] => .ok true
  | .str keyword :: rest => if test keyword then allKeywords test rest else .ok false
  | _ :: _ => .error .attributeError

section Evaluation

variable (runtime : RuleRuntime) (text : String)

/-- `kw.lower() in text.lower()`. -/
def occurs (keyword : String) : Bool :=
  (runtime.lower keyword).toList <:+: (runtime.lower text).toList

/-- `len(text)`. -/
def length : PyFloat := .finite (text.toList.length : ℚ)

/-- `RuleBasedScorer._evaluate_rule`. -/
def evaluateRule (rule : Rule) : Except PyException Bool :=
  match ruleType rule with
  | .str "min_length" => compare (·.isAtMost (length text)) (parameter rule "min" (.int 0))
  | .str "max_length" =>
      compare ((length text).isAtMost ·) (parameter rule "max" (.float .posInf))
  | .str "contains" => do
      allKeywords (occurs runtime text) (← (parameter rule "keywords" (.list [])).iterate)
  | .str "not_contains" => do
      allKeywords (fun keyword => !occurs runtime text keyword)
        (← (parameter rule "keywords" (.list [])).iterate)
  | .str "regex_match" =>
      match parameter rule "pattern" (.str "") with
      | .str pattern => runtime.search pattern text
      | _ => .error .typeError
  | .str "json_valid" =>
      match runtime.loads text with
      | .ok _ => .ok true
      | .error .jsonDecodeError | .error .typeError => .ok false
      | .error failure => .error failure
  | _ => .ok true

/-- One round of the loop over the rules. The pair holds `passed` and `failed_rules`. -/
def judgeRule (judged : ℕ × List Json) (rule : Json) : Except PyException (ℕ × List Json) :=
  match rule with
  | .dict rule => do
      if ← evaluateRule runtime text rule then pure (judged.1 + 1, judged.2)
      else pure (judged.1, judged.2 ++ [ruleType rule])
  | _ => .error .attributeError

/-- The result for some counts. -/
def resultOf (passed total : ℕ) (failed_rules : List Json) : ScoreResult ℚ where
  name := "rule_based"
  value := roundFloat 4 (toFloat (passed / total))
  data_type := .numeric
  comment := some ("Passed " ++ toString passed ++ "/" ++ toString total ++ " rules" ++
    if failed_rules = [] then "" else ". Failed: " ++ runtime.repr failed_rules)
  metadata := [("passed", .int passed), ("total", .int total), ("failed_rules", .list failed_rules)]

/-- `RuleBasedScorer.score`. -/
def score (config : Config) : Except PyException (ScoreResult ℚ) :=
  let rules := (OrderedDict.find "rules" config).getD (.list [])
  if rules.isTruthy = false then
    .ok ⟨"rule_based", 1, .numeric, some "No rules configured, default pass", []⟩
  else do
    let items ← rules.iterate
    let (passed, failed_rules) ← items.foldlM (judgeRule runtime text) (0, [])
    pure (resultOf runtime passed items.length failed_rules)

theorem name_of_score {config : Config} {result : ScoreResult ℚ}
    (returned : score runtime text config = .ok result) : result.name = "rule_based" := by
  simp only [score, bind, Except.bind, pure, Except.pure] at returned
  split at returned
  · cases returned
    rfl
  · split at returned
    · cases returned
    · split at returned
      · cases returned
      · cases returned
        rfl

/-! ## Rules that can be evaluated -/

/-- The keywords are a list, an object or a text, and each of them is a text if all before it
are texts that pass the test. -/
def KeywordsReadable (test : String → Bool) (keywords : Json) : Prop :=
  ∃ items, keywords.iterate = .ok items ∧ ∀ before keyword after,
    items = before ++ keyword :: after →
      (∀ other ∈ before, ∃ word, other = .str word ∧ test word = true) →
        ∃ word, keyword = .str word

/-- The parameters of a rule are such that it can be evaluated on the text: bounds are numbers,
keywords can be read, a pattern is a regular expression, and a text whose loading raises is
rejected as invalid. -/
def Evaluable (rule : Rule) : Prop :=
  match ruleType rule with
  | .str "min_length" => (parameter rule "min" (.int 0)).number? ≠ none
  | .str "max_length" => (parameter rule "max" (.float .posInf)).number? ≠ none
  | .str "contains" =>
      KeywordsReadable (occurs runtime text) (parameter rule "keywords" (.list []))
  | .str "not_contains" =>
      KeywordsReadable (fun keyword => !occurs runtime text keyword)
        (parameter rule "keywords" (.list []))
  | .str "regex_match" =>
      ∃ pattern, parameter rule "pattern" (.str "") = .str pattern ∧
        (runtime.search pattern text).isOk
  | .str "json_valid" =>
      ∀ failure, runtime.loads text = .error failure →
        failure = .jsonDecodeError ∨ failure = .typeError
  | _ => True

variable {runtime text}

theorem isOk_compare_iff {test : PyFloat → Bool} {bound : Json} :
    (compare test bound).isOk ↔ bound.number? ≠ none := by
  rw [compare]
  cases bound.number? <;> simp [Except.isOk, Except.toBool]

/-- What is no text is not reached, or the loop raises. -/
theorem forall_reached_cons_iff {test : String → Bool} {first : Json} {rest : List Json} :
    (∀ before keyword after, first :: rest = before ++ keyword :: after →
        (∀ other ∈ before, ∃ word, other = .str word ∧ test word = true) →
          ∃ word, keyword = .str word) ↔
      ∃ word, first = .str word ∧ (test word = true →
        ∀ before keyword after, rest = before ++ keyword :: after →
          (∀ other ∈ before, ∃ word, other = .str word ∧ test word = true) →
            ∃ word, keyword = .str word) := by
  constructor
  · intro reached
    obtain ⟨word, rfl⟩ := reached [] first rest rfl (by simp)
    refine ⟨word, rfl, fun passes before keyword after split passed => ?_⟩
    refine reached (.str word :: before) keyword after (by rw [split]; rfl) ?_
    exact List.forall_mem_cons.mpr ⟨⟨word, rfl, passes⟩, passed⟩
  · rintro ⟨word, rfl, reached⟩ before keyword after split passed
    cases before with
    | nil =>
        cases split
        exact ⟨word, rfl⟩
    | cons head others =>
        cases split
        obtain ⟨⟨_, same, passes⟩, others⟩ := List.forall_mem_cons.mp passed
        cases same
        exact reached passes _ keyword after rfl others

/-- The loop over the keywords returns when every keyword that it reaches is a text. -/
theorem isOk_allKeywords_iff {test : String → Bool} {items : List Json} :
    (allKeywords test items).isOk ↔ ∀ before keyword after,
      items = before ++ keyword :: after →
        (∀ other ∈ before, ∃ word, other = .str word ∧ test word = true) →
          ∃ word, keyword = .str word := by
  induction items with
  | nil => exact iff_of_true rfl fun before keyword after split => by simp at split
  | cons first rest ih =>
      rw [forall_reached_cons_iff, ← ih]
      cases first with
      | str word =>
          rw [allKeywords]
          by_cases passes : test word = true
          · simp [passes]
          · simp [passes, Except.isOk, Except.toBool]
      | _ =>
          refine iff_of_false (fun returned => by cases returned) ?_
          rintro ⟨word, isText, -⟩
          cases isText

theorem isOk_readKeywords_iff {test : String → Bool} {keywords : Json} :
    (keywords.iterate.bind (allKeywords test)).isOk ↔ KeywordsReadable test keywords := by
  rw [KeywordsReadable]
  cases keywords.iterate with
  | error failure => exact iff_of_false (fun returned => by cases returned) nofun
  | ok items =>
      rw [Except.bind, isOk_allKeywords_iff]
      constructor
      · exact fun reached => ⟨items, rfl, reached⟩
      · rintro ⟨_, same, reached⟩
        cases same
        exact reached

/-- **A rule can be evaluated** exactly when its parameters are as above. -/
theorem isOk_evaluateRule_iff (runtime : RuleRuntime) (text : String) (rule : Rule) :
    (evaluateRule runtime text rule).isOk ↔ Evaluable runtime text rule := by
  unfold evaluateRule Evaluable
  generalize ruleType rule = kind
  split
  · exact isOk_compare_iff
  · exact isOk_compare_iff
  · exact isOk_readKeywords_iff
  · exact isOk_readKeywords_iff
  · cases parameter rule "pattern" (.str "") with
    | str pattern => simp
    | _ => exact iff_of_false (fun returned => by cases returned) nofun
  · cases runtime.loads text with
    | ok data => exact iff_of_true rfl nofun
    | error failure => cases failure <;> simp [Except.isOk, Except.toBool]
  · exact iff_of_true rfl trivial

/-! ## The loop over the rules -/

variable (runtime text)

/-- Whether a rule holds. One that cannot be evaluated does not. -/
def holds (rule : Rule) : Bool :=
  match evaluateRule runtime text rule with
  | .ok verdict => verdict
  | .error _ => false

/-- Each rule is judged for itself: the result is between zero and one, and it lists the types
of the rules that do not hold. -/
structure JudgedIndependently (rules : List Rule) (result : ScoreResult ℚ) : Prop where
  value_nonneg : 0 ≤ result.value
  value_le_one : result.value ≤ 1
  metadata : ∃ passed failed_rules, result.metadata =
      [("passed", .int (passed : ℕ)), ("total", .int rules.length),
        ("failed_rules", .list failed_rules)] ∧
    passed + failed_rules.length = rules.length ∧
    passed = rules.countP (holds runtime text) ∧
    failed_rules = (rules.filter fun rule => !holds runtime text rule).map ruleType

variable {runtime text}

/-- A rule that can be evaluated is counted, or its type is listed. -/
theorem judgeRule_of_isOk {rule : Rule} (evaluated : (evaluateRule runtime text rule).isOk)
    (judged : ℕ × List Json) :
    judgeRule runtime text judged (.dict rule) =
      .ok (if holds runtime text rule then (judged.1 + 1, judged.2)
        else (judged.1, judged.2 ++ [ruleType rule])) := by
  rw [judgeRule, holds]
  cases judgement : evaluateRule runtime text rule with
  | error failure =>
      rw [judgement] at evaluated
      cases evaluated
  | ok verdict => cases verdict <;> rfl

theorem judgeRule_of_error {rule : Rule} {failure : PyException}
    (raised : evaluateRule runtime text rule = .error failure) (judged : ℕ × List Json) :
    judgeRule runtime text judged (.dict rule) = .error failure := by
  rw [judgeRule, raised]
  rfl

/-- **The loop over rules that can be evaluated** counts those that hold and lists the types of
the others. -/
theorem foldlM_judgeRule {rules : List Rule}
    (evaluated : ∀ rule ∈ rules, (evaluateRule runtime text rule).isOk) (judged : ℕ × List Json) :
    (rules.map Json.dict).foldlM (judgeRule runtime text) judged =
      .ok (judged.1 + rules.countP (holds runtime text),
        judged.2 ++ (rules.filter fun rule => !holds runtime text rule).map ruleType) := by
  induction rules generalizing judged with
  | nil => simp [pure, Except.pure]
  | cons rule rest ih =>
      rw [List.forall_mem_cons] at evaluated
      rw [List.map_cons, List.foldlM_cons, judgeRule_of_isOk evaluated.1]
      change (rest.map Json.dict).foldlM (judgeRule runtime text) _ = _
      rw [ih evaluated.2]
      by_cases rule_holds : holds runtime text rule = true
      · simp [rule_holds, Nat.add_assoc, Nat.add_comm 1]
      · simp [rule_holds]

/-- **A rule that raises** ends the loop. -/
theorem foldlM_judgeRule_of_error {rules : List Rule} {rule : Rule} (member : rule ∈ rules)
    (raises : ¬(evaluateRule runtime text rule).isOk) (judged : ℕ × List Json) :
    ∃ failure, (rules.map Json.dict).foldlM (judgeRule runtime text) judged = .error failure := by
  induction rules generalizing judged with
  | nil => cases member
  | cons first rest ih =>
      rw [List.map_cons, List.foldlM_cons]
      cases verdict : evaluateRule runtime text first with
      | error failure =>
          rw [judgeRule_of_error verdict]
          exact ⟨failure, rfl⟩
      | ok _ =>
          have evaluated : (evaluateRule runtime text first).isOk := by rw [verdict]; rfl
          rw [judgeRule_of_isOk evaluated]
          rcases List.mem_cons.mp member with rfl | later
          · exact absurd evaluated raises
          · exact ih later _

/-- Some rules among all of them have a rounded share between zero and one. -/
theorem resultOf_value_bounds {passed total : ℕ} (le : passed ≤ total) (failed : List Json) :
    0 ≤ (resultOf runtime passed total failed).value ∧
      (resultOf runtime passed total failed).value ≤ 1 := by
  have zero : roundFloat 4 (toFloat 0) = 0 := by decide +kernel
  have one : roundFloat 4 (toFloat 1) = 1 := by decide +kernel
  have nonneg : (0 : ℚ) ≤ passed / total := by positivity
  have atMost : (passed : ℚ) / total ≤ 1 := div_le_one_of_le₀ (by exact_mod_cast le) (by positivity)
  exact ⟨zero.symm.trans_le (roundFloat_toFloat_mono 4 nonneg),
    (roundFloat_toFloat_mono 4 atMost).trans_eq one⟩

/-- The score of some rules is what the loop over them leaves. -/
theorem score_eq {config : Config} {rules : List Rule} (given : rules ≠ [])
    (isRules : OrderedDict.find "rules" config = some (.list (rules.map .dict))) :
    score runtime text config =
      ((rules.map Json.dict).foldlM (judgeRule runtime text) (0, [])).map fun judged =>
        resultOf runtime judged.1 rules.length judged.2 := by
  have truthy : (Json.list (rules.map .dict)).isTruthy = true := by
    cases rules with
    | nil => exact absurd rfl given
    | cons first rest => rfl
  rw [score, isRules]
  simp only [Option.getD_some, truthy, Bool.true_eq_false, if_false, Json.iterate]
  cases judged : (rules.map Json.dict).foldlM (judgeRule runtime text) (0, []) <;>
    simp [judged, bind, Except.bind, Except.map, pure, Except.pure]

/-- **A rule that raises** leaves no result. -/
theorem score_of_error {config : Config} {rules : List Rule} {rule : Rule} (member : rule ∈ rules)
    (raises : ¬(evaluateRule runtime text rule).isOk)
    (isRules : OrderedDict.find "rules" config = some (.list (rules.map .dict))) :
    ∃ failure, score runtime text config = .error failure := by
  obtain ⟨failure, raised⟩ := foldlM_judgeRule_of_error member raises (0, [])
  rw [score_eq (List.ne_nil_of_mem member) isRules, raised]
  exact ⟨failure, rfl⟩

end Evaluation

/-- **Where rules are judged independently.** For every text and every list of rules that is
not empty, a result is returned that is between zero and one, counts all rules as passed or
failed, and lists exactly the rules that do not hold or cannot be evaluated as failed, when
and only when every rule can be evaluated. -/
theorem rules_judged_iff (runtime : RuleRuntime) (text : String) (config : Config)
    (rules : List Rule) (given : rules ≠ [])
    (isRules : OrderedDict.find "rules" config = some (.list (rules.map .dict))) :
    (∃ result, score runtime text config = .ok result ∧
        JudgedIndependently runtime text rules result) ↔
      ∀ rule ∈ rules, Evaluable runtime text rule := by
  simp only [← isOk_evaluateRule_iff]
  constructor
  · rintro ⟨result, returned, -⟩ rule member
    by_contra raises
    obtain ⟨failure, raised⟩ := score_of_error member raises isRules
    rw [raised] at returned
    cases returned
  · intro evaluated
    rw [score_eq given isRules, foldlM_judgeRule evaluated]
    refine ⟨_, rfl, ?_⟩
    have bounds := @resultOf_value_bounds runtime (0 + rules.countP (holds runtime text))
      rules.length (by rw [Nat.zero_add]; exact List.countP_le_length)
      ([] ++ (rules.filter fun rule => !holds runtime text rule).map ruleType)
    refine ⟨bounds.1, bounds.2, _, _, rfl, ?_, Nat.zero_add _, List.nil_append _⟩
    rw [Nat.zero_add, List.nil_append, List.length_map, ← List.countP_eq_length_filter]
    have counted := @List.length_eq_countP_add_countP _ (holds runtime text) rules
    simp only [Bool.not_eq_true, Bool.decide_eq_false] at counted
    exact counted.symm

/-! ## A pattern that is no regular expression -/

/-- The functions for ASCII texts that are not JSON, where a pattern is an open parenthesis, or
has no operators. -/
def plainRuntime : RuleRuntime where
  lower text := String.ofList (text.toList.map Char.toLower)
  search pattern text :=
    if pattern = "(" then .error (.exception "error")
    else .ok (decide (pattern.toList <:+: text.toList))
  loads _ := .error .jsonDecodeError
  repr _ := ""

/-- A bound on the length, and a keyword. -/
def lengthAndKeyword : List Rule :=
  [[("type", .str "min_length"), ("min", .int 3)],
    [("type", .str "contains"), ("keywords", .list [.str "HELLO"])]]

/-- Both rules are judged. -/
theorem lengthAndKeyword_judged :
    ∃ result, score plainRuntime "hello" [("rules", .list (lengthAndKeyword.map .dict))] =
        .ok result ∧ JudgedIndependently plainRuntime "hello" lengthAndKeyword result := by
  refine (rules_judged_iff plainRuntime "hello" _ lengthAndKeyword (List.cons_ne_nil _ _)
    rfl).mpr fun rule member => ?_
  refine (isOk_evaluateRule_iff _ _ _).mp ?_
  rcases List.mem_pair.mp member with rfl | rfl <;> decide +kernel

/-- A bound on the length, and a pattern with an open parenthesis. -/
def lengthAndPattern : List Rule :=
  [[("type", .str "min_length"), ("min", .int 3)],
    [("type", .str "regex_match"), ("pattern", .str "(")]]

/-- **An invalid pattern** discards the results of all rules. -/
theorem invalid_pattern_discards_rules :
    ¬∀ (runtime : RuleRuntime) (text : String) (config : Config) (rules : List Rule),
      rules ≠ [] → OrderedDict.find "rules" config = some (.list (rules.map .dict)) →
        ∃ result, score runtime text config = .ok result ∧
          JudgedIndependently runtime text rules result := by
  intro always
  obtain ⟨result, returned, -⟩ := always plainRuntime "hello"
    [("rules", .list (lengthAndPattern.map .dict))] lengthAndPattern (List.cons_ne_nil _ _) rfl
  obtain ⟨failure, raised⟩ := @score_of_error plainRuntime "hello"
    [("rules", .list (lengthAndPattern.map .dict))] lengthAndPattern
    [("type", .str "regex_match"), ("pattern", .str "(")] (by simp [lengthAndPattern])
    (by decide +kernel) rfl
  rw [raised] at returned
  cases returned

end RuleBasedScorer

end LlmopsPlatform.Scoring
