import LlmopsPlatform.Python.Double

/-!
# Scores and their records

The data of the scoring engine: what a scorer returns, what a pipeline returns, and
the row that is stored for an evaluation.

The numbers that weights and scores are, and what a pipeline computes with them, are an
`Arithmetic`. In the program they are floats, and so they are where nothing else is said.
Exact rational numbers are what the floats stand for as long as nothing is rounded.
-/

set_option autoImplicit false

namespace LlmopsPlatform.Scoring

open Foundations Python

/-- Numbers with the operations that a pipeline applies to weights and scores. -/
class Arithmetic (Number : Type) where
  zero : Number
  /-- The built-in `sum`. -/
  sum : List Number → Number
  add : Number → Number → Number
  mul : Number → Number → Number
  /-- The quotient by a positive number. -/
  div : Number → Number → Number
  /-- `number > 0`. -/
  IsPositive : Number → Prop
  decidablePositive : DecidablePred IsPositive
  /-- `round(number, decimals)`. -/
  round : ℕ → Number → Number
  round_zero : ∀ decimals, round decimals zero = zero
  /-- The float that the number is in JSON. -/
  float : Number → PyFloat

instance Arithmetic.instDecidablePositive {Number : Type} [Arithmetic Number] (number : Number) :
    Decidable (IsPositive number) :=
  decidablePositive number

/-- The floats of the program. -/
instance Arithmetic.floats : Arithmetic Double where
  zero := .zero
  sum := .sum
  add := .add
  mul := .mul
  div := .div
  IsPositive := Double.IsPositive
  decidablePositive := inferInstance
  round := .round
  round_zero decimals := by
    have exact : roundDecimals decimals (0 : ℚ) = 0 := by simp [roundDecimals, roundHalfEven]
    rw [Double.zero, Double.round, exact]
    exact Double.rounded_of_isDouble _
  float := Double.toPyFloat

/-- Exact rational numbers, which are only rounded where the source says so. -/
instance Arithmetic.exact : Arithmetic ℚ where
  zero := 0
  sum := List.sum
  add := (· + ·)
  mul := (· * ·)
  div := (· / ·)
  IsPositive := (0 < ·)
  decidablePositive := inferInstance
  round := roundDecimals
  round_zero decimals := by simp [roundDecimals, roundHalfEven]
  float := .finite

/-- The enumeration `ScoreDataType`. -/
inductive ScoreDataType where
  | numeric
  | categorical
  | boolean
deriving DecidableEq, Repr

/-- Result from a single scorer. -/
structure ScoreResult (Number : Type := Double) where
  name : String
  value : Number
  data_type : ScoreDataType
  comment : Option String
  metadata : List (String × Json)

/-- Aggregated result from a scoring pipeline. -/
structure PipelineResult (Number : Type := Double) where
  individual_scores : List (ScoreResult Number)
  aggregate_score : Number

/-- Configuration for a scorer within a pipeline. -/
structure ScorerConfig (Number : Type := Double) where
  strategy : String
  weight : Number
  config : List (String × Json)

/-- A row of the table `score_results`, with the attributes the program assigns. They
are JSON values here, since a job is not validated before the row is built. -/
structure ScoreResultModel where
  pipeline_id : Json
  trace_id : Json
  input_text : Json
  output_text : Json
  reference_text : Json
  aggregate_score : Double
  individual_scores : List ScoreResult

end LlmopsPlatform.Scoring
