import LlmopsPlatform.Tuning.Experiment

/-!
# Parameter spaces and the variants generated from them

A parameter space declares the values that each parameter may take. The variants of
an experiment are generated from it, either all combinations of the expanded ranges or
a number of random samples.

Identifiers and random numbers come from outside and are arguments. The loop that
expands a continuous range is run for a given number of rounds, and has no value when
it is not finished by then.

The arithmetic on bounds and steps takes the rounding of its results as an argument:
`toFloat` is the arithmetic of the source, and the identity reads it as exact.
-/

set_option autoImplicit false

namespace LlmopsPlatform.Tuning

open Foundations Python

/-- Defines a single parameter's search space. -/
structure ParameterRange where
  name : String
  type : String
  min_value : Option ℚ
  max_value : Option ℚ
  values : Option (List Json)
  step : Option ℚ

/-- Defines the full parameter search space for an experiment. -/
structure ParameterSpace where
  parameters : List ParameterRange

/-! ## The stored form -/

def ParameterRange.modelDump (param : ParameterRange) : Json :=
  let number (value : Option ℚ) : Json := value.elim .null fun value => .float (.finite value)
  .dict
    [("name", .str param.name), ("type", .str param.type), ("min_value", number param.min_value),
      ("max_value", number param.max_value), ("values", param.values.elim .null .list),
      ("step", number param.step)]

/-- `ParameterSpace.model_dump()`. -/
def ParameterSpace.modelDump (space : ParameterSpace) : Json :=
  .dict [("parameters", .list (space.parameters.map ParameterRange.modelDump))]

/-! ## Expanding a range -/

namespace ParameterRange

/-- The condition `param.values`: a list that is not empty. -/
def givenValues (param : ParameterRange) : Option (List Json) :=
  param.values.filter fun values => !values.isEmpty

/-- Both bounds of a continuous parameter. -/
def continuousBounds (param : ParameterRange) : Option (ℚ × ℚ) :=
  if param.type = "continuous" then
    match param.min_value, param.max_value with
    | some min_value, some max_value => some (min_value, max_value)
    | _, _ => none
  else none

end ParameterRange

section Arithmetic

variable (float : ℚ → ℚ)

/-- `param.step or (param.max_value - param.min_value) / 5`. -/
def stepOf (step : Option ℚ) (min_value max_value : ℚ) : ℚ :=
  match step.filter (· ≠ 0) with
  | some step => step
  | none => float (float (max_value - min_value) / 5)

/-- The loop `while v <= param.max_value`, for at most so many rounds. -/
def expandLoop (max_value step : ℚ) : Nat → ℚ → Option (List ℚ)
  | 0, _ => none
  | rounds + 1, v =>
      if v ≤ max_value then
        (expandLoop max_value step rounds (float (v + step))).map
          (float (roundDecimals 6 v) :: ·)
      else some []

/-- `_expand_range`. -/
def expandRange (rounds : Nat) (param : ParameterRange) : Option (List Json) :=
  match param.givenValues with
  | some values =>
      if param.type = "categorical" ∨ param.type = "discrete" then some values else expandBounds
  | none => expandBounds
where
  /-- The values of a continuous parameter, and none of any other. -/
  expandBounds : Option (List Json) :=
    match param.continuousBounds with
    | some (min_value, max_value) =>
        (expandLoop float max_value (stepOf float param.step min_value max_value) rounds
          min_value).map (List.map fun value => .float (.finite value))
    | none => some []

/-! ## Generating variants -/

/-- `itertools.product`: the last position changes fastest. -/
def product {Item : Type} : List (List Item) → List (List Item)
  | [] => [[]]
  | items :: rest => items.flatMap fun item => (product rest).map (item :: ·)

/-- `dict(zip(names, values))`. -/
def dictZip (names : List String) (values : List Json) : OrderedDict String Json :=
  (names.zip values).foldl (fun dict entry => dict.set entry.1 entry.2) .empty

/-- The variant identifier built from the prefix of a new UUID. -/
def newVariantId (hexPrefix : String) : String := "variant-" ++ hexPrefix

/-- `generate_grid_variants`. The arguments are the prefixes of the new UUIDs in turn. -/
def generateGridVariants (rounds : Nat) (newPrefix : Nat → String) (space : ParameterSpace) :
    Option (List ParameterSet) := do
  let param_names := space.parameters.map ParameterRange.name
  let param_values ← space.parameters.mapM (expandRange float rounds)
  pure <| (product param_values).zipIdx.map fun (combo, number) =>
    { variant_id := newVariantId (newPrefix number)
      values := (dictZip param_names combo).entries }

/-- What the random number generator returns for one parameter of one variant. -/
structure Draw where
  below : Nat → Nat
  fraction : ℚ
  below_lt : ∀ bound, 0 < bound → below bound < bound
  fraction_nonneg : 0 ≤ fraction
  fraction_lt_one : fraction < 1

/-- `random.choice(values)`. -/
def Draw.choice (draw : Draw) (values : List Json) : Option Json :=
  values[draw.below values.length]?

/-- `random.uniform(min_value, max_value)`. -/
def Draw.uniform (draw : Draw) (min_value max_value : ℚ) : ℚ :=
  float (min_value + float (float (max_value - min_value) * draw.fraction))

/-- The random value of one parameter, if it gets one, for any functions `random.choice` and
`random.uniform`. -/
def randomValueFrom (choose : List Json → Option Json) (uniform : ℚ → ℚ → ℚ)
    (param : ParameterRange) : Option Json :=
  match param.givenValues with
  | some values =>
      if param.type = "categorical" then choose values
      else match sampleBounds with
        | some sample => some sample
        | none => choose values
  | none => sampleBounds
where
  /-- The sample of a continuous parameter. -/
  sampleBounds : Option Json :=
    param.continuousBounds.map fun (min_value, max_value) =>
      .float (.finite (float (roundDecimals 4 (uniform min_value max_value))))

def randomValue (draw : Draw) (param : ParameterRange) : Option Json :=
  randomValueFrom float draw.choice (draw.uniform float) param

/-- The values of one random variant. -/
def randomValues (draw : Nat → Draw) (space : ParameterSpace) : OrderedDict String Json :=
  space.parameters.zipIdx.foldl (fun values (param, position) =>
    match randomValue float (draw position) param with
    | some value => values.set param.name value
    | none => values) .empty

/-- `generate_random_variants`. -/
def generateRandomVariants (newPrefix : Nat → String) (draw : Nat → Nat → Draw)
    (space : ParameterSpace) (count : Nat) : List ParameterSet :=
  (List.range count).map fun number =>
    { variant_id := newVariantId (newPrefix number)
      values := (randomValues float (draw number) space).entries }

end Arithmetic

end LlmopsPlatform.Tuning
