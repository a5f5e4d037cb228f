import LlmopsPlatform.Tuning.GridVariants

/-!
# Which parameters the two generators can use

Grid generation and random generation decide separately which values a parameter has. They
look at its type, its list of values and its bounds in a different order: a list of values
is expanded only for a categorical or discrete parameter, but a random value is chosen from
it for any type; and bounds in the wrong order have no expansion, but a random value.

The generators agree on every other parameter. One parameter without an expansion makes the
whole grid empty, so that a space has to be free of such parameters
(`generators_agree_iff`).
-/

set_option autoImplicit false

namespace LlmopsPlatform.Tuning

open Foundations Python

/-- A parameter that is given by a list of values, and not by the bounds of a range. -/
def ParameterRange.GivenByList (param : ParameterRange) : Prop :=
  param.givenValues ≠ none ∧ param.continuousBounds = none

/-- A random variant has a value for the parameter exactly when its expansion has one, and
a random value from its list is a value of the expansion. -/
structure GeneratorsAgree (float : ℚ → ℚ) (param : ParameterRange) : Prop where
  assigned_iff : ∀ rounds values, expandRange float rounds param = some values →
    ∀ draw, (randomValue float draw param).isSome ↔ values ≠ []
  member : param.GivenByList → ∀ rounds values, expandRange float rounds param = some values →
    ∀ draw value, randomValue float draw param = some value → value ∈ values

/-- With a random variant that has as many values as there are parameters, the grid has a
variant. -/
def CompleteVariantHasGrid (float : ℚ → ℚ) (space : ParameterSpace) : Prop :=
  ∀ newPrefix draw count, ∀ variant ∈ generateRandomVariants float newPrefix draw space count,
    variant.values.length = space.parameters.length →
      ∃ rounds variants, generateGridVariants float rounds newPrefix space = some variants ∧
        variants ≠ []

/-- The list of values is used for its type, and the bounds are not in the wrong order. -/
structure ParameterRange.UsedAlike (param : ParameterRange) : Prop where
  list_used : param.givenValues ≠ none → param.continuousBounds = none →
    param.type = "categorical" ∨ param.type = "discrete"
  ordered : ∀ min_value max_value, param.continuousBounds = some (min_value, max_value) →
    min_value ≤ max_value

section Arithmetic

variable {float : ℚ → ℚ} {param : ParameterRange}

/-! ## One parameter -/

theorem givenValues_ne_nil {values : List Json} (given : param.givenValues = some values) :
    values ≠ [] := by
  obtain ⟨-, filled⟩ := Option.filter_eq_some_iff.mp given
  simpa using filled

/-- A loop that has ended has values unless it did not start. -/
theorem expandLoop_ne_nil_iff {max_value step v : ℚ} {rounds : ℕ} {values : List ℚ}
    (ended : expandLoop float max_value step rounds v = some values) :
    values ≠ [] ↔ v ≤ max_value := by
  cases rounds with
  | zero => cases ended
  | succ rounds =>
      rw [expandLoop] at ended
      by_cases inside : v ≤ max_value
      · rw [if_pos inside] at ended
        obtain ⟨rest, -, rfl⟩ := Option.map_eq_some_iff.mp ended
        exact iff_of_true (List.cons_ne_nil _ _) inside
      · rw [if_neg inside] at ended
        cases ended
        exact iff_of_false (fun filled => filled rfl) inside

/-- A continuous parameter with both bounds gets a sample. -/
theorem isSome_randomValue_of_bounds {min_value max_value : ℚ}
    (bounds : param.continuousBounds = some (min_value, max_value)) (draw : Draw) :
    (randomValue float draw param).isSome := by
  have notCategorical := ne_categorical_of_bounds bounds
  unfold randomValue randomValueFrom randomValueFrom.sampleBounds
  rw [bounds]
  cases param.givenValues with
  | none => rfl
  | some values =>
      dsimp only
      rw [if_neg notCategorical]
      rfl

/-- Any other parameter gets a value of its list. -/
theorem randomValue_of_unbounded (unbounded : param.continuousBounds = none) (draw : Draw) :
    randomValue float draw param = param.givenValues.bind draw.choice := by
  unfold randomValue randomValueFrom randomValueFrom.sampleBounds
  rw [unbounded]
  cases param.givenValues with
  | none => rfl
  | some values => exact ite_self _

theorem isSome_choice (draw : Draw) {values : List Json} (filled : values ≠ []) :
    (draw.choice values).isSome := by
  have inRange := draw.below_lt values.length (List.length_pos_iff.mpr filled)
  rw [Draw.choice, List.getElem?_eq_getElem inRange]
  rfl

/-- A value is assigned when there are both bounds or a list. -/
theorem isSome_randomValue_iff (draw : Draw) :
    (randomValue float draw param).isSome ↔
      param.continuousBounds ≠ none ∨ param.givenValues ≠ none := by
  cases bounds : param.continuousBounds with
  | some pair => exact iff_of_true (isSome_randomValue_of_bounds bounds draw) (.inl nofun)
  | none =>
      rw [randomValue_of_unbounded bounds]
      cases given : param.givenValues with
      | none => simp
      | some values => simp [isSome_choice draw (givenValues_ne_nil given)]

/-- There is a generator: one that always returns its least number. -/
theorem nonempty_draw : Nonempty Draw :=
  ⟨⟨fun _ => 0, 0, fun _ positive => positive, le_rfl, one_pos⟩⟩

/-- With both bounds of a continuous parameter, the generators agree when it has an
expansion. -/
theorem generatorsAgree_iff_of_bounds
    (ends : Terminates fun rounds => expandRange float rounds param) {min_value max_value : ℚ}
    (bounds : param.continuousBounds = some (min_value, max_value)) :
    GeneratorsAgree float param ↔ min_value ≤ max_value := by
  have expansion {rounds : ℕ} {values : List Json}
      (expanded : expandRange float rounds param = some values) :
      values ≠ [] ↔ min_value ≤ max_value := by
    rw [expandRange_of_bounds float bounds, Option.map_eq_some_iff] at expanded
    obtain ⟨points, looped, rfl⟩ := expanded
    rw [← expandLoop_ne_nil_iff looped]
    simp
  constructor
  · intro agree
    obtain ⟨rounds, ended⟩ := ends
    obtain ⟨values, expanded⟩ := Option.isSome_iff_exists.mp ended
    obtain ⟨draw⟩ := nonempty_draw
    exact (expansion expanded).mp ((agree.assigned_iff rounds values expanded draw).mp
      (isSome_randomValue_of_bounds bounds draw))
  · intro ordered
    refine ⟨fun rounds values expanded draw => ?_, fun given => ?_⟩
    · exact iff_of_true (isSome_randomValue_of_bounds bounds draw)
        ((expansion expanded).mpr ordered)
    · exact absurd (bounds.symm.trans given.2) nofun

/-- Without them, the generators agree when the list is expanded, if there is one. -/
theorem generatorsAgree_iff_of_unbounded (unbounded : param.continuousBounds = none) :
    GeneratorsAgree float param ↔
      (param.givenValues ≠ none → param.type = "categorical" ∨ param.type = "discrete") := by
  have expansion := expandRange_of_unbounded float unbounded
  constructor
  · intro agree given
    by_contra notListed
    rw [if_neg notListed] at expansion
    obtain ⟨draw⟩ := nonempty_draw
    exact (agree.assigned_iff 0 [] (expansion 0) draw).mp
      ((isSome_randomValue_iff draw).mpr (.inr given)) rfl
  · intro used
    constructor
    · intro rounds values expanded draw
      rw [expansion] at expanded
      cases expanded
      rw [randomValue_of_unbounded unbounded]
      cases given : param.givenValues with
      | none => simp
      | some listed =>
          have filled := givenValues_ne_nil given
          rw [if_pos (used (by simp [given]))]
          exact iff_of_true (isSome_choice draw filled) filled
    · intro given rounds values expanded draw value chosen
      rw [expansion, if_pos (used given.1)] at expanded
      cases expanded
      rw [randomValue_of_unbounded unbounded] at chosen
      obtain ⟨listed, isListed, picked⟩ := Option.bind_eq_some_iff.mp chosen
      rw [isListed]
      exact List.mem_of_getElem? picked

/-- **The generators agree** on a parameter exactly when both use it alike. -/
theorem generatorsAgree_iff (ends : Terminates fun rounds => expandRange float rounds param) :
    GeneratorsAgree float param ↔ param.UsedAlike := by
  cases bounds : param.continuousBounds with
  | some pair =>
      obtain ⟨min_value, max_value⟩ := pair
      rw [generatorsAgree_iff_of_bounds ends bounds]
      constructor
      · intro ordered
        refine ⟨fun _ unbounded => absurd (bounds.symm.trans unbounded) nofun, ?_⟩
        intro lower upper isPair
        cases bounds.symm.trans isPair
        exact ordered
      · exact fun alike => alike.ordered min_value max_value bounds
  | none =>
      rw [generatorsAgree_iff_of_unbounded bounds]
      constructor
      · exact fun used => ⟨fun given _ => used given, fun _ _ isPair =>
          absurd (bounds.symm.trans isPair) nofun⟩
      · exact fun alike given => alike.list_used given bounds

/-! ## A space -/

/-- The parameter at a position gets a value. -/
def assigns (float : ℚ → ℚ) (draw : ℕ → Draw) (numbered : ParameterRange × ℕ) : Bool :=
  (randomValue float (draw numbered.2) numbered.1).isSome

/-- A random variant has at most one value for each parameter that gets one. -/
theorem length_foldl_set_le (draw : ℕ → Draw) (numbered : List (ParameterRange × ℕ))
    (dict : OrderedDict String Json) :
    (numbered.foldl (fun values numbered =>
        match randomValue float (draw numbered.2) numbered.1 with
        | some value => values.set numbered.1.name value
        | none => values) dict).entries.length ≤
      dict.entries.length + numbered.countP (assigns float draw) := by
  induction numbered generalizing dict with
  | nil => exact le_rfl
  | cons first rest ih =>
      rw [List.foldl_cons, List.countP_cons, assigns]
      refine (ih _).trans ?_
      cases randomValue float (draw first.2) first.1 with
      | none => simp
      | some value =>
          have written := OrderedDict.length_write_le first.1.name (fun _ => value) dict.entries
          change (OrderedDict.write first.1.name (fun _ => value) dict.entries).length + _ ≤ _
          simp only [Option.isSome_some, if_true]
          omega

/-- With as many values as parameters, every parameter got one. -/
theorem assigned_of_complete {draw : ℕ → Draw} {space : ParameterSpace}
    (complete : (randomValues float draw space).entries.length = space.parameters.length)
    (isParam : param ∈ space.parameters) :
    param.continuousBounds ≠ none ∨ param.givenValues ≠ none := by
  have bound := @length_foldl_set_le float draw space.parameters.zipIdx .empty
  have counted := @List.countP_le_length _ (assigns float draw) space.parameters.zipIdx
  have length : space.parameters.zipIdx.length = space.parameters.length := List.length_zipIdx
  change (randomValues float draw space).entries.length ≤ 0 + _ at bound
  have all := List.countP_eq_length.mp
    (show space.parameters.zipIdx.countP (assigns float draw) = space.parameters.zipIdx.length by
      omega)
  obtain ⟨position, inRange, rfl⟩ := List.mem_iff_getElem.mp isParam
  have numbered : (space.parameters[position], position) ∈ space.parameters.zipIdx :=
    List.mk_mem_zipIdx_iff_getElem?.mpr (List.getElem?_eq_getElem inRange)
  exact (isSome_randomValue_iff _).mp (all _ numbered)

/-- **A complete random variant** of a space on which the generators agree has a grid. -/
theorem completeVariantHasGrid {space : ParameterSpace}
    (ends : ∀ param ∈ space.parameters, Terminates fun rounds => expandRange float rounds param)
    (agree : ∀ param ∈ space.parameters, GeneratorsAgree float param) :
    CompleteVariantHasGrid float space := by
  intro newPrefix draw count variant isVariant complete
  obtain ⟨number, -, rfl⟩ := List.mem_map.mp isVariant
  obtain ⟨rounds, ended⟩ := @terminates_generateGridVariants _ newPrefix _ ends
  obtain ⟨variants, generated⟩ := Option.isSome_iff_exists.mp ended
  obtain ⟨expansions, expanded, rfl⟩ := exists_expansions generated
  refine ⟨rounds, _, generated, ?_⟩
  refine (gridOf_ne_nil_iff _ _).mpr fun values isExpansion => ?_
  obtain ⟨position, inRange, rfl⟩ := List.mem_iff_getElem.mp isExpansion
  have pairs := forall₂_of_mapM expanded
  have isParam : position < space.parameters.length := pairs.length_eq ▸ inRange
  have expansion := pairs.get isParam inRange
  have assigned := assigned_of_complete complete (List.getElem_mem isParam)
  exact ((agree _ (List.getElem_mem isParam)).assigned_iff rounds _ expansion (draw number 0)).mp
    ((isSome_randomValue_iff _).mpr assigned)

end Arithmetic

/-- **Where the generators agree.** For any arithmetic and any space whose expansions end: the
generators agree on each parameter, and a complete random variant has a grid, exactly when
each list of values without the bounds of a range is that of a categorical or discrete
parameter, and no bounds are in the wrong order. -/
theorem generators_agree_iff (float : ℚ → ℚ) (space : ParameterSpace)
    (ends : ∀ param ∈ space.parameters,
      Terminates fun rounds => expandRange float rounds param) :
    (∀ param ∈ space.parameters, GeneratorsAgree float param) ∧
        CompleteVariantHasGrid float space ↔
      ∀ param ∈ space.parameters, param.UsedAlike := by
  constructor
  · intro agree param isParam
    exact (generatorsAgree_iff (ends param isParam)).mp (agree.1 param isParam)
  · intro alike
    have agree : ∀ param ∈ space.parameters, GeneratorsAgree float param := fun param isParam =>
      (generatorsAgree_iff (ends param isParam)).mpr (alike param isParam)
    exact ⟨agree, completeVariantHasGrid ends agree⟩

/-- The generators agree on a continuous and a categorical parameter. -/
theorem temperatureAndTone_agree : CompleteVariantHasGrid id temperatureAndTone := by
  refine ((generators_agree_iff id temperatureAndTone temperatureAndTone_ends).mpr ?_).2
  intro param isParam
  rcases List.mem_pair.mp isParam with rfl | rfl
  · refine ⟨fun given _ => absurd rfl given, fun min_value max_value isPair => ?_⟩
    cases isPair
    norm_num
  · exact ⟨fun _ _ => .inl rfl, fun min_value max_value isPair => nomatch isPair⟩

/-- A tone whose type is left to the default. -/
def untypedTone : ParameterRange where
  name := "tone"
  type := "continuous"
  min_value := none
  max_value := none
  values := some [.str "formal", .str "casual"]
  step := none

/-- **A list without its type** has random values, but no expansion. -/
theorem untypedTone_has_no_grid :
    ¬∀ (float : ℚ → ℚ) (space : ParameterSpace), (∀ param ∈ space.parameters,
        Terminates fun rounds => expandRange float rounds param) →
      (∀ param ∈ space.parameters, GeneratorsAgree float param) ∧
        CompleteVariantHasGrid float space := by
  intro always
  have ends : Terminates fun rounds => expandRange toFloat rounds untypedTone := ⟨0, rfl⟩
  obtain ⟨agree, -⟩ := always toFloat ⟨[untypedTone]⟩ (by simpa using ends)
  have alike := (generatorsAgree_iff ends).mp (agree untypedTone (by simp))
  have listed := alike.list_used (by decide) rfl
  exact absurd listed (by decide)

end LlmopsPlatform.Tuning
