import LlmopsPlatform.Foundations.CosineSimilarity
import LlmopsPlatform.Foundations.Tallies
import LlmopsPlatform.Python.Words
import LlmopsPlatform.Scoring.Pipeline

/-!
# Similarity to a reference text

The tokens of a text are its words in lowercase, without the punctuation around them, and the
similarity of two texts is computed from how often each token occurs.

Over exact real numbers it is the cosine of the two frequencies (`cosineSimilarity_eq`). No
division is by zero, and what the cosine says about vectors is so for texts
(`tfSimilarity_is_cosine`): the similarity is zero without a common token and one for
proportional frequencies, and neither the order of the words nor repeating a text changes it.

An answer that equals its reference scores one, unless the reference has no token at all
(`perfect_answer_score`).
-/

set_option autoImplicit false

namespace LlmopsPlatform.Scoring

open Foundations Python

namespace EmbeddingSimilarityScorer

section Model

variable (lowercase : Lowercase)

/-- What is stripped from both ends of a word. -/
def punctuation : List Char :=
  ['.', ',', '!', '?', ';', ':', '\x27', '\x22', '(', ')', '[', ']', '\x7b', '\x7d']

/-- The body of the loop over the words. -/
def countWord (freq : OrderedDict (List Char) ℕ) (w : List Char) : OrderedDict (List Char) ℕ :=
  let w := lowercase.toFun (strip punctuation w)
  if w ≠ [] then freq.upsert w fun count => count.getD 0 + 1 else freq

/-- `_simple_tokenize`. -/
def simpleTokenize (text : String) : OrderedDict (List Char) ℕ :=
  (words isSpace (lowercase.toFun text.toList)).foldl (countWord lowercase) .empty

variable {K : Type*} [Field K] [DecidableEq K] (sqrt : K → K)

/-- `dividend / divisor`. -/
def divide (dividend divisor : K) : Except PyException K :=
  if divisor = 0 then .error (.exception "ZeroDivisionError") else .ok (dividend / divisor)

/-- `sum(v**2 for v in vec.values())`. -/
def sumOfSquares (vec : OrderedDict (List Char) ℕ) : ℕ :=
  (vec.entries.map fun entry => entry.2 ^ 2).sum

/-- `_cosine_similarity`, given the square root. -/
def cosineSimilarity (vec_a vec_b : OrderedDict (List Char) ℕ) : Except PyException K :=
  let all_keys := vec_a.keys.toFinset ∪ vec_b.keys.toFinset
  if all_keys = ∅ then .ok 0
  else
    let dot := ∑ k ∈ all_keys, (vec_a.get? k).getD 0 * (vec_b.get? k).getD 0
    let norm_a := sqrt (sumOfSquares vec_a)
    let norm_b := sqrt (sumOfSquares vec_b)
    if norm_a = 0 ∨ norm_b = 0 then .ok 0 else divide dot (norm_a * norm_b)

/-- `EmbeddingSimilarityScorer._tf_similarity`. -/
def tfSimilarity (text_a text_b : String) : Except PyException K :=
  cosineSimilarity sqrt (simpleTokenize lowercase text_a) (simpleTokenize lowercase text_b)

example : tfSimilarity asciiLowercase (fun square : ℚ => if square = 25 then 5 else square)
    "Deep, deep (deep) sea sea sea sea" "DEEP!" = .ok (3 / 5) := by
  decide +kernel

end Model

section Score

variable (lowercase : Lowercase) {K : Type} [Field K] [DecidableEq K] [LinearOrder K] [FloorRing K]
  (sqrt : K → K) (str : Json → String)

/-- A number in units of the fourth decimal. -/
def fourthDecimals (number : K) : ℤ := roundHalfEven (number * 10000)

/-- `f"{number:.4f}"`, for a number that is not negative. -/
def formatFixed (number : K) : String :=
  let units := (fourthDecimals number).toNat
  toString (units / 10000) ++ "." ++
    String.ofList ((toString (units % 10000)).toList.leftpad 4 '0')

example : formatFixed (1 / 20 : ℚ) = "0.0500" := by decide +kernel

/-- The result for a similarity, with the text of the method given. -/
def resultOf (method : Json) (similarity : K) : ScoreResult ℚ where
  name := "embedding"
  value := fourthDecimals similarity / 10000
  data_type := .numeric
  comment := some ("Cosine similarity (" ++ str method ++ "): " ++ formatFixed similarity)
  metadata := [("method", method)]

/-- `EmbeddingSimilarityScorer.score`. -/
def score (output_text : String) (reference : Option String) (config : Config) :
    Except PyException (ScoreResult ℚ) :=
  match reference.filter (· ≠ "") with
  | none =>
      .ok ⟨"embedding", 0, .numeric,
        some "No reference text provided for similarity comparison", []⟩
  | some reference => do
      let method := (OrderedDict.find "method" config).getD (.str "tf")
      let similarity ←
        if method.equalsText "tf" then tfSimilarity lowercase sqrt output_text reference
        else tfSimilarity lowercase sqrt output_text reference
      pure (resultOf str method similarity)

theorem name_of_score {output_text : String} {reference : Option String} {config : Config}
    {result : ScoreResult ℚ}
    (returned : score lowercase sqrt str output_text reference config = .ok result) :
    result.name = "embedding" := by
  simp only [score, bind, Except.bind, pure, Except.pure, ite_self] at returned
  split at returned
  · cases returned
    rfl
  · split at returned
    · cases returned
    · cases returned
      rfl

/-- With a reference, the method is only reported. -/
theorem score_of_reference {reference : String} (given : reference ≠ "") (output_text : String)
    (config : Config) :
    score lowercase sqrt str output_text (some reference) config =
      (tfSimilarity lowercase sqrt output_text reference).map
        (resultOf str ((OrderedDict.find "method" config).getD (.str "tf"))) := by
  have filtered : (some reference).filter (· ≠ "") = some reference := by simp [given]
  rw [score, filtered]
  simp only [ite_self]
  cases tfSimilarity lowercase sqrt output_text reference <;> rfl

end Score

/-! ## The similarity is a cosine -/

/-- The entries of a dictionary, with zero for absent keys. -/
def entryOf (vec : OrderedDict (List Char) ℕ) (key : List Char) : ℝ := ((vec.get? key).getD 0 : ℕ)

theorem sumOfSquares_eq (vec : OrderedDict (List Char) ℕ) {keys : Finset (List Char)}
    (subset : vec.keys.toFinset ⊆ keys) :
    ((sumOfSquares vec : ℕ) : ℝ) = ∑ key ∈ keys, entryOf vec key ^ 2 := by
  have squares : sumOfSquares vec = ∑ key ∈ keys, ((vec.get? key).getD 0) ^ 2 :=
    vec.sum_entries_eq (fun value => value ^ 2) subset rfl
  rw [squares]
  push_cast
  rfl

/-- **The computed similarity** is the cosine, and no division by zero is reached. -/
theorem cosineSimilarity_eq (vec_a vec_b : OrderedDict (List Char) ℕ) :
    cosineSimilarity Real.sqrt vec_a vec_b =
      .ok (cosine (vec_a.keys.toFinset ∪ vec_b.keys.toFinset) (entryOf vec_a) (entryOf vec_b)) := by
  have squares_a := sumOfSquares_eq vec_a
    (@Finset.subset_union_left _ _ vec_a.keys.toFinset vec_b.keys.toFinset)
  have squares_b := sumOfSquares_eq vec_b
    (@Finset.subset_union_right _ _ vec_a.keys.toFinset vec_b.keys.toFinset)
  rw [cosine, ← squares_a, ← squares_b]
  simp only [cosineSimilarity]
  split
  · rename_i noKeys
    rw [noKeys, Finset.sum_empty, zero_div]
  · split
    · rename_i zero
      rw [mul_eq_zero.mpr zero, div_zero]
    · rename_i nonzero
      rw [divide, if_neg (fun zero => nonzero (mul_eq_zero.mp zero))]
      push_cast
      rfl

/-! ## The frequencies of a text -/

section Frequencies

variable (lowercase : Lowercase)

/-- The tokens of some words, in their order. -/
def tokens (words : List (List Char)) : List (List Char) :=
  (words.map fun w => lowercase.toFun (strip punctuation (lowercase.toFun w))).filter (· ≠ [])

/-- The loop over the words tallies their tokens. -/
theorem foldl_countWord (words : List (List Char)) (freq : OrderedDict (List Char) ℕ) :
    (words.map lowercase.toFun).foldl (countWord lowercase) freq =
      OrderedDict.accumulate id (fun count _ => count.getD 0 + 1) (tokens lowercase words)
        freq := by
  induction words generalizing freq with
  | nil => rfl
  | cons word rest ih =>
      rw [List.map_cons, List.foldl_cons, ih, tokens, tokens, List.map_cons, countWord]
      by_cases empty : lowercase.toFun (strip punctuation (lowercase.toFun word)) = []
      · rw [if_neg (by simp [empty]), List.filter_cons_of_neg (by simp [empty])]
      · rw [if_pos empty, List.filter_cons_of_pos (by simp [empty])]
        rfl

/-- **The frequencies of a text** are a tally of the tokens of its words. -/
theorem simpleTokenize_eq (text : String) :
    simpleTokenize lowercase text =
      OrderedDict.tally id (fun count _ => count + 1) 0 (tokens lowercase (splitWords text)) := by
  rw [simpleTokenize, lowercase.words_map, foldl_countWord]
  rfl

variable {lowercase} {text : String}

theorem mem_keys_simpleTokenize {token : List Char} :
    token ∈ (simpleTokenize lowercase text).keys ↔
      token ∈ tokens lowercase (splitWords text) := by
  rw [simpleTokenize_eq, OrderedDict.mem_keys_iff]
  simp only [OrderedDict.get?_tally_eq_some_iff, List.map_id]
  constructor
  · rintro ⟨_, member, -⟩
    exact member
  · intro member
    exact ⟨_, member, rfl⟩

/-- **A token's frequency** is how often the words have it. -/
theorem entryOf_simpleTokenize :
    entryOf (simpleTokenize lowercase text) =
      occurrences (tokens lowercase (splitWords text) : Multiset (List Char)) := by
  funext token
  rw [entryOf, occurrences, simpleTokenize_eq, OrderedDict.getD_tally_id, Multiset.coe_count]

/-- **The similarity of two texts** is the cosine of the bags of their tokens. -/
theorem tfSimilarity_eq (text_a text_b : String) :
    tfSimilarity lowercase Real.sqrt text_a text_b =
      .ok (bagCosine (tokens lowercase (splitWords text_a) : Multiset (List Char))
        (tokens lowercase (splitWords text_b) : Multiset (List Char))) := by
  have keys (text : String) : (simpleTokenize lowercase text).keys.toFinset =
      (tokens lowercase (splitWords text) : Multiset (List Char)).toFinset := by
    ext token
    rw [List.mem_toFinset, mem_keys_simpleTokenize, Multiset.mem_toFinset, Multiset.mem_coe]
  rw [tfSimilarity, cosineSimilarity_eq, entryOf_simpleTokenize, entryOf_simpleTokenize, keys,
    keys, bagCosine]

/-- The order of the words does not matter to the bag of their tokens. -/
theorem coe_tokens_of_perm {first second : List (List Char)} (perm : first.Perm second) :
    (tokens lowercase first : Multiset (List Char)) = tokens lowercase second :=
  Multiset.coe_eq_coe.mpr ((perm.map _).filter _)

/-- Repeated words repeat the bag of their tokens. -/
theorem coe_tokens_repeat (count : ℕ) (words : List (List Char)) :
    (tokens lowercase (List.replicate count words).flatten : Multiset (List Char)) =
      count • (tokens lowercase words : Multiset (List Char)) := by
  induction count with
  | zero => rw [zero_nsmul, List.replicate_zero]; rfl
  | succ count ih =>
      rw [List.replicate_succ, List.flatten_cons, succ_nsmul', ← ih, Multiset.coe_add, tokens,
        List.map_append, List.filter_append]
      rfl

variable (lowercase)

/-- What a similarity of two texts is, over exact real numbers. -/
structure IsCosine (text_a text_b : String) (value : ℝ) : Prop where
  nonneg : 0 ≤ value
  le_one : value ≤ 1
  symmetric : tfSimilarity lowercase Real.sqrt text_b text_a = .ok value
  eq_zero_iff : value = 0 ↔ ¬∃ token, token ∈ (simpleTokenize lowercase text_a).keys ∧
    token ∈ (simpleTokenize lowercase text_b).keys
  eq_one_iff : value = 1 ↔ (simpleTokenize lowercase text_a).keys ≠ [] ∧
    (simpleTokenize lowercase text_b).keys ≠ [] ∧ ∃ factor : ℝ, 0 < factor ∧ ∀ token,
      entryOf (simpleTokenize lowercase text_a) token =
        factor * entryOf (simpleTokenize lowercase text_b) token
  permuted : ∀ other_a other_b, (splitWords text_a).Perm (splitWords other_a) →
    (splitWords text_b).Perm (splitWords other_b) →
      tfSimilarity lowercase Real.sqrt other_a other_b = .ok value
  repeated : ∀ count_a count_b, 1 ≤ count_a → 1 ≤ count_b →
    tfSimilarity lowercase Real.sqrt (" ".intercalate (List.replicate count_a text_a))
      (" ".intercalate (List.replicate count_b text_b)) = .ok value

variable {lowercase} in
theorem keys_simpleTokenize_ne_nil_iff :
    (simpleTokenize lowercase text).keys ≠ [] ↔
      (tokens lowercase (splitWords text) : Multiset (List Char)) ≠ 0 := by
  rw [Ne, Ne, Multiset.coe_eq_zero, List.eq_nil_iff_forall_not_mem, List.eq_nil_iff_forall_not_mem]
  simp only [mem_keys_simpleTokenize]

/-- **Text similarity is a cosine.** Whatever the two texts are, the similarity is computed
without a division by zero, and it is as above. -/
theorem tfSimilarity_is_cosine (text_a text_b : String) :
    ∃ value, tfSimilarity lowercase Real.sqrt text_a text_b = .ok value ∧
      IsCosine lowercase text_a text_b value := by
  refine ⟨_, tfSimilarity_eq text_a text_b, ?_⟩
  constructor
  case nonneg => exact bagCosine_nonneg _ _
  case le_one => exact bagCosine_le_one _ _
  case symmetric => rw [tfSimilarity_eq, bagCosine_comm]
  case eq_zero_iff =>
    rw [bagCosine_eq_zero_iff]
    simp only [mem_keys_simpleTokenize, Multiset.mem_coe]
  case eq_one_iff =>
    rw [bagCosine_eq_one_iff, keys_simpleTokenize_ne_nil_iff, keys_simpleTokenize_ne_nil_iff,
      entryOf_simpleTokenize, entryOf_simpleTokenize]
  case permuted =>
    intro other_a other_b perm_a perm_b
    rw [tfSimilarity_eq, coe_tokens_of_perm perm_a, coe_tokens_of_perm perm_b]
  case repeated =>
    intro count_a count_b positive_a positive_b
    rw [tfSimilarity_eq, splitWords_repeat, splitWords_repeat, coe_tokens_repeat,
      coe_tokens_repeat, bagCosine_nsmul positive_a, bagCosine_comm,
      bagCosine_nsmul positive_b, bagCosine_comm]

end Frequencies

/-! ## Perfect answers -/

section PerfectAnswers

variable (lowercase : Lowercase)

/-- One of the words has something else than punctuation in its lowercase. -/
def HasToken (text : String) : Prop :=
  ∃ word ∈ splitWords text, ∃ char ∈ lowercase.toFun word, char ∉ punctuation

-- The characters of a word are searched through, and not all characters there are.
instance (text : String) : Decidable (HasToken lowercase text) :=
  @List.decidableBEx _ _ (fun word => List.decidableBEx _ (lowercase.toFun word))
    (splitWords text)

example : HasToken asciiLowercase "the quick brown fox jumps" := by decide

variable {lowercase} {text : String}

/-- The token of a word is empty when the word is made of punctuation. -/
theorem token_ne_nil_iff {word : List Char} (isWord : word ∈ splitWords text) :
    lowercase.toFun (strip punctuation (lowercase.toFun word)) ≠ [] ↔
      ∃ char ∈ lowercase.toFun word, char ∉ punctuation := by
  obtain ⟨-, unseparated⟩ := lowercase.map_word word (ne_nil_of_mem_words isWord)
    (unseparated_of_mem_words _ isWord)
  rw [← strip_ne_nil_iff]
  constructor
  · intro filled empty
    rw [empty, lowercase.map_nil] at filled
    exact filled rfl
  · intro remains
    exact (lowercase.map_word _ remains fun char member =>
      unseparated char (strip_subset _ _ member)).1

theorem tokens_ne_zero_iff :
    (tokens lowercase (splitWords text) : Multiset (List Char)) ≠ 0 ↔
      HasToken lowercase text := by
  rw [Ne, Multiset.coe_eq_zero, tokens, List.filter_eq_nil_iff]
  simp only [List.mem_map, decide_eq_true_eq, not_not, forall_exists_index, and_imp,
    forall_apply_eq_imp_iff₂, not_forall, exists_prop]
  constructor
  · rintro ⟨word, isWord, filled⟩
    exact ⟨word, isWord, (token_ne_nil_iff isWord).mp filled⟩
  · rintro ⟨word, isWord, other⟩
    exact ⟨word, isWord, (token_ne_nil_iff isWord).mpr other⟩

/-- **The similarity of a text to itself** is one, or zero without tokens. -/
theorem tfSimilarity_self (text : String) :
    ∃ similarity, tfSimilarity lowercase Real.sqrt text text = .ok similarity ∧
      (HasToken lowercase text → similarity = 1) ∧ (¬HasToken lowercase text → similarity = 0) := by
  refine ⟨_, tfSimilarity_eq text text, ?_, ?_⟩
  · intro hasToken
    have filled := tokens_ne_zero_iff.mpr hasToken
    exact bagCosine_eq_one_iff.mpr ⟨filled, filled, 1, one_pos, fun token => (one_mul _).symm⟩
  · intro noToken
    refine bagCosine_eq_zero_iff.mpr ?_
    rintro ⟨token, member, -⟩
    have empty := not_not.mp (mt tokens_ne_zero_iff.mp noToken)
    rw [empty] at member
    exact Multiset.notMem_zero token member

/-- An integer is reported as it is. -/
theorem value_resultOf_intCast (str : Json → String) (method : Json) (number : ℤ) :
    (resultOf str method (number : ℝ)).value = number := by
  have exactly : (number : ℝ) * 10000 = ((number * 10000 : ℤ) : ℝ) := by push_cast; rfl
  rw [resultOf, fourthDecimals, exactly, roundHalfEven_intCast]
  push_cast
  exact mul_div_cancel_right₀ _ (by norm_num)

variable (lowercase)

/-- **A perfect answer** to a reference with a token scores one, and to any other reference
zero. -/
theorem perfect_answer_score (str : Json → String) (reference : String) (config : Config) :
    ∃ result, score lowercase Real.sqrt str reference (some reference) config = .ok result ∧
      (HasToken lowercase reference → result.value = 1) ∧
      (¬HasToken lowercase reference → result.value = 0) := by
  obtain ⟨similarity, computed, perfect, without⟩ := @tfSimilarity_self lowercase reference
  by_cases given : reference = ""
  · have noToken : ¬HasToken lowercase reference := by
      rw [given]
      rintro ⟨word, isWord, -⟩
      cases isWord
    rw [score, given]
    exact ⟨_, rfl, fun hasToken => absurd hasToken (given ▸ noToken), fun _ => rfl⟩
  · rw [score_of_reference _ _ _ given, computed]
    refine ⟨_, rfl, fun hasToken => ?_, fun noToken => ?_⟩
    · rw [perfect hasToken, ← @Int.cast_one ℝ, value_resultOf_intCast, Int.cast_one]
    · rw [without noToken, ← @Int.cast_zero ℝ, value_resultOf_intCast, Int.cast_zero]

/-- **A reference without a token** does not score one. -/
theorem punctuation_scores_zero :
    ¬∀ (lowercase : Lowercase) (str : Json → String) (reference : String) (config : Config),
      reference ≠ "" → ∃ result,
        score lowercase Real.sqrt str reference (some reference) config = .ok result ∧
          result.value = 1 := by
  intro always
  have noToken : ¬HasToken asciiLowercase "?!" := by decide
  obtain ⟨result, returned, one⟩ := always asciiLowercase (fun _ => "tf") "?!" [] (by decide)
  obtain ⟨similarity, computed, -, without⟩ := @tfSimilarity_self asciiLowercase "?!"
  rw [score_of_reference _ _ _ (by decide), computed] at returned
  cases returned
  rw [without noToken, ← @Int.cast_zero ℝ, value_resultOf_intCast] at one
  norm_num at one

end PerfectAnswers

end EmbeddingSimilarityScorer

end LlmopsPlatform.Scoring
