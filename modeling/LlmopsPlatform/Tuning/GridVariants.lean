import LlmopsPlatform.Foundations.Combinations
import LlmopsPlatform.Tuning.GridExpansion
import Mathlib.Algebra.Order.Floor.Semiring

/-!
# The variants of a grid

A grid has one variant for each combination of positions in the expansions of its
parameters, in lexicographic order. A value that an expansion repeats is in several
combinations, and each of them has a variant of its own.

The expansion of a continuous parameter is an arithmetic progression, whose values are
rounded to six decimals. It ends with the last value that is not above the upper bound
(`eventually_expanded`), and the default step leads exactly to that bound
(`eventually_expanded_default`).
-/

set_option autoImplicit false

namespace LlmopsPlatform.Tuning

open Foundations Python

/-! ## Combinations -/

theorem product_eq_combinations {Item : Type} (lists : List (List Item)) :
    product lists = combinations lists := by
  induction lists with
  | nil => rfl
  | cons items rest ih => rw [product, combinations, ih]

/-- Zipping distinct names with values gives the values under these names. -/
theorem entries_dictZip {names : List String} (distinct : names.Nodup) {values : List Json}
    (length : values.length = names.length) :
    (dictZip names values).entries = names.zip values := by
  have keys : UniqueKey Prod.fst ((OrderedDict.empty : OrderedDict String Json).entries ++
      names.zip values) := by
    have zipped : (names.zip values).map Prod.fst = names := List.map_fst_zip length.ge
    rw [OrderedDict.empty, List.nil_append, UniqueKey, zipped]
    exact distinct
  exact OrderedDict.entries_foldl_set keys

/-- The variant assigns to each name the value at a position of its expansion. -/
structure Represents (names : List String) (expansions : List (List Json)) (combo : List ℕ)
    (variant : ParameterSet) : Prop where
  names_eq : variant.values.map Prod.fst = names
  values_eq : (variant.values.map fun entry => some entry.2) =
    List.zipWith (fun position values => values[position]?) combo expansions

/-- One variant for every combination of positions, in lexicographic order. -/
structure CompleteGrid (names : List String) (expansions : List (List Json))
    (variants : List ParameterSet) : Prop where
  count : variants.length = (expansions.map List.length).prod
  members : ∀ variant ∈ variants, variant.values.map Prod.fst = names ∧
    List.Forall₂ (fun entry values => entry.2 ∈ values) variant.values expansions
  represented : ∃ combos : List (List ℕ), combos.Pairwise (· < ·) ∧
    (∀ combo, combo ∈ combos ↔
      List.Forall₂ (fun position values => position < values.length) combo expansions) ∧
    List.Forall₂ (Represents names expansions) combos variants

section Grid

variable {float : ℚ → ℚ} {rounds : ℕ} {newPrefix : ℕ → String} {space : ParameterSpace}
  {expansions : List (List Json)}

/-- The variants that are built from some expansions. -/
def gridOf (newPrefix : ℕ → String) (names : List String) (expansions : List (List Json)) :
    List ParameterSet :=
  (product expansions).zipIdx.map fun numbered =>
    { variant_id := newVariantId (newPrefix numbered.2)
      values := (dictZip names numbered.1).entries }

/-- There is a variant unless one of the expansions is empty. -/
theorem gridOf_ne_nil_iff (newPrefix : ℕ → String) (names : List String) :
    gridOf newPrefix names expansions ≠ [] ↔ ∀ values ∈ expansions, values ≠ [] := by
  rw [← combinations_ne_nil_iff, ← product_eq_combinations, gridOf, ne_eq, List.map_eq_nil_iff,
    List.zipIdx_eq_nil_iff]

/-- A grid is generated once every parameter is expanded. -/
theorem generateGridVariants_eq (float : ℚ → ℚ) (rounds : ℕ) (newPrefix : ℕ → String)
    (space : ParameterSpace) :
    generateGridVariants float rounds newPrefix space =
      (space.parameters.mapM (expandRange float rounds)).map
        (gridOf newPrefix (space.parameters.map ParameterRange.name)) := by
  change (space.parameters.mapM (expandRange float rounds)).bind _ = _
  cases space.parameters.mapM (expandRange float rounds) <;> rfl

/-- There are as many expansions as parameters. -/
theorem forall₂_of_mapM {Item Value : Type} {compute : Item → Option Value} {items : List Item}
    {values : List Value} (computed : items.mapM compute = some values) :
    List.Forall₂ (fun item value => compute item = some value) items values := by
  induction items generalizing values with
  | nil =>
      cases computed
      exact .nil
  | cons item rest ih =>
      rw [List.mapM_cons] at computed
      cases isValue : compute item with
      | none =>
          rw [isValue] at computed
          cases computed
      | some value =>
          rw [isValue] at computed
          cases others : rest.mapM compute with
          | none =>
              rw [others] at computed
              cases computed
          | some restValues =>
              rw [others] at computed
              cases computed
              exact .cons isValue (ih others)

section Combination

variable {names : List String} (distinct : names.Nodup)
  (lengths : expansions.length = names.length) {combo : List Json}
  (chosen : combo ∈ combinations expansions)

include distinct lengths chosen

/-- A combination is written under the names. -/
theorem dictZip_combination :
    (dictZip names combo).entries.map Prod.fst = names ∧
      (dictZip names combo).entries.map Prod.snd = combo := by
  have length : combo.length = names.length :=
    (mem_combinations_iff.mp chosen).length_eq.trans lengths
  rw [entries_dictZip distinct length]
  exact ⟨List.map_fst_zip length.ge, List.map_snd_zip length.le⟩

/-- Its values are from the expansions. -/
theorem forall₂_dictZip :
    List.Forall₂ (fun entry values => entry.2 ∈ values) (dictZip names combo).entries
      expansions := by
  have items := mem_combinations_iff.mp chosen
  rwa [← (dictZip_combination distinct lengths chosen).2, List.forall₂_map_left_iff] at items

end Combination

/-- The variant at a number has the values at the positions with this number. -/
theorem represents_gridOf (newPrefix : ℕ → String) {names : List String} (distinct : names.Nodup)
    (lengths : expansions.length = names.length) :
    List.Forall₂ (Represents names expansions) (positions expansions)
      (gridOf newPrefix names expansions) := by
  have sameItems := combinations_eq_positions expansions
  rw [← product_eq_combinations] at sameItems
  have sameLength : (product expansions).length = (positions expansions).length := by
    simpa using congrArg List.length sameItems
  refine List.forall₂_iff_get.mpr ⟨by simp [gridOf, sameLength], ?_⟩
  intro number inPositions inGrid
  have inProduct : number < (product expansions).length := sameLength ▸ inPositions
  have chosen : (product expansions)[number] ∈ combinations expansions := by
    rw [← product_eq_combinations]
    exact List.getElem_mem inProduct
  have items : (product expansions)[number].map some =
      List.zipWith (fun position values => values[position]?) (positions expansions)[number]
        expansions := by
    have atNumber := List.getElem_of_eq sameItems (by simpa using inProduct)
    simpa using atNumber
  have values : ((gridOf newPrefix names expansions).get ⟨number, inGrid⟩).values =
      (dictZip names (product expansions)[number]).entries := by simp [gridOf]
  obtain ⟨keys, written⟩ := dictZip_combination distinct lengths chosen
  constructor
  · rw [values, keys]
  · calc
      _ = ((dictZip names (product expansions)[number]).entries.map Prod.snd).map some := by
        rw [values, List.map_map]
        rfl
      _ = (product expansions)[number].map some := by rw [written]
      _ = _ := items

/-- **The grid over given expansions** is complete. -/
theorem completeGrid_gridOf (newPrefix : ℕ → String) {names : List String}
    (distinct : names.Nodup) (lengths : expansions.length = names.length) :
    CompleteGrid names expansions (gridOf newPrefix names expansions) where
  count := by
    rw [gridOf, List.length_map, List.length_zipIdx, product_eq_combinations,
      length_combinations]
  members := by
    intro variant isVariant
    obtain ⟨numbered, member, rfl⟩ := List.mem_map.mp isVariant
    rw [product_eq_combinations] at member
    have chosen := List.fst_mem_of_mem_zipIdx member
    exact ⟨(dictZip_combination distinct lengths chosen).1,
      forall₂_dictZip distinct lengths chosen⟩
  represented :=
    ⟨positions expansions, pairwise_positions expansions, fun _ => mem_positions_iff,
      represents_gridOf newPrefix distinct lengths⟩

/-- **A grid is generated** when every expansion ends. -/
theorem terminates_generateGridVariants
    (ends : ∀ param ∈ space.parameters, Terminates fun rounds => expandRange float rounds param) :
    Terminates fun rounds => generateGridVariants float rounds newPrefix space := by
  have expanded := (@terminates_mapM_iff _ _ (fun param rounds => expandRange float rounds param)
    (expandRange_stable float) space.parameters).mpr ends
  simp only [generateGridVariants_eq]
  exact (terminates_map_iff _).mpr expanded

/-- What is generated is the grid over the expansions. -/
theorem exists_expansions {variants : List ParameterSet}
    (generated : generateGridVariants float rounds newPrefix space = some variants) :
    ∃ expansions, space.parameters.mapM (expandRange float rounds) = some expansions ∧
      variants = gridOf newPrefix (space.parameters.map ParameterRange.name) expansions := by
  rw [generateGridVariants_eq, Option.map_eq_some_iff] at generated
  obtain ⟨expansions, expanded, rfl⟩ := generated
  exact ⟨expansions, expanded, rfl⟩

end Grid

/-! ## Arithmetic progressions -/

/-- A value of an expansion. -/
def gridPoint (value : ℚ) : Json := .float (.finite (roundDecimals 6 value))

/-- The rounded values of an arithmetic progression. -/
def gridPoints (min_value step : ℚ) (count : ℕ) : List Json :=
  (List.range count).map fun k : ℕ => gridPoint (min_value + k * step)

section Progression

variable {min_value max_value step v : ℚ} {param : ParameterRange}

/-- The loop runs through the values that are not above the upper bound. -/
theorem expandLoop_eq_range {count : ℕ} (inside : ∀ k < count, v + k * step ≤ max_value)
    (passed : max_value < v + count * step) (more : ℕ) :
    expandLoop id max_value step (count + 1 + more) v =
      some ((List.range count).map fun k : ℕ => roundDecimals 6 (v + k * step)) := by
  induction count generalizing v with
  | zero =>
      have outside : ¬v ≤ max_value := by simpa using passed
      rw [Nat.add_right_comm, expandLoop, if_neg outside]
      rfl
  | succ count ih =>
      have first : v ≤ max_value := by simpa using inside 0 count.succ_pos
      have shifted (k : ℕ) : v + step + k * step = v + (k + 1 : ℕ) * step := by
        push_cast
        ring
      have rest := @ih (v + step)
        (fun k below => (shifted k).trans_le (inside (k + 1) (Nat.succ_lt_succ below)))
        (passed.trans_eq (shifted count).symm)
      rw [show count + 1 + 1 + more = count + 1 + more + 1 by omega, expandLoop, if_pos first, id,
        id, rest, Option.map_some, List.range_succ_eq_map, List.map_cons, List.map_map]
      simp [Function.comp_def, shifted]

/-- The number of the last value that is not above the upper bound. -/
def lastNumber (min_value max_value step : ℚ) : ℕ := ⌊(max_value - min_value) / step⌋₊

theorem le_max_iff_le_lastNumber (forward : 0 < step) (order : min_value ≤ max_value) {k : ℕ} :
    min_value + k * step ≤ max_value ↔ k ≤ lastNumber min_value max_value step := by
  have nonneg : 0 ≤ (max_value - min_value) / step := div_nonneg (by linarith) forward.le
  rw [lastNumber, Nat.le_floor_iff nonneg, le_div_iff₀ forward, le_sub_iff_add_le, add_comm]

/-- **The expansion of a continuous parameter** with a positive step. -/
theorem eventually_expanded (bounds : param.continuousBounds = some (min_value, max_value))
    (isStep : stepOf id param.step min_value max_value = step) (forward : 0 < step)
    (order : min_value ≤ max_value) :
    ∃ enough, ∀ rounds ≥ enough, param.exactExpansion rounds =
      some (gridPoints min_value step (lastNumber min_value max_value step + 1)) := by
  refine ⟨lastNumber min_value max_value step + 1 + 1, fun rounds ended => ?_⟩
  obtain ⟨more, rfl⟩ := Nat.exists_eq_add_of_le ended
  have looped := @expandLoop_eq_range max_value step min_value
    (lastNumber min_value max_value step + 1)
    (fun k below => (le_max_iff_le_lastNumber forward order).mpr (Nat.lt_succ_iff.mp below))
    (not_le.mp fun inside =>
      absurd ((le_max_iff_le_lastNumber forward order).mp inside) (Nat.lt_irrefl _)) more
  rw [ParameterRange.exactExpansion, expandRange_of_bounds id bounds, isStep, looped,
    Option.map_some, List.map_map]
  rfl

/-- Five default steps lead from the lower bound to the upper one. -/
theorem lastNumber_default (order : min_value < max_value) :
    lastNumber min_value max_value ((max_value - min_value) / 5) = 5 := by
  have distance : max_value - min_value ≠ 0 := sub_ne_zero.mpr order.ne'
  have five : (max_value - min_value) / ((max_value - min_value) / 5) = (5 : ℕ) := by
    field_simp
    norm_num
  rw [lastNumber, five, Nat.floor_natCast]

/-- **The expansion with the default step** has six values, from bound to bound. -/
theorem eventually_expanded_default
    (bounds : param.continuousBounds = some (min_value, max_value))
    (missing : param.step = none ∨ param.step = some 0) (order : min_value < max_value) :
    ∃ enough, ∀ rounds ≥ enough, param.exactExpansion rounds =
      some (gridPoints min_value ((max_value - min_value) / 5) 6) := by
  have expanded := eventually_expanded bounds (stepOf_default missing min_value max_value)
    (div_pos (sub_pos.mpr order) (by norm_num)) order.le
  rwa [lastNumber_default order] at expanded

/-- Their first and last values. -/
theorem ends_gridPoints_default (min_value max_value : ℚ) :
    (gridPoints min_value ((max_value - min_value) / 5) 6).head? = some (gridPoint min_value) ∧
      (gridPoints min_value ((max_value - min_value) / 5) 6).getLast? =
        some (gridPoint max_value) := by
  have last : min_value + 5 * ((max_value - min_value) / 5) = max_value := by ring
  constructor
  · simp [gridPoints, List.range_succ]
  · simp [gridPoints, List.range_succ, last]

end Progression

/-- **A grid is complete and without repetitions.** For any arithmetic and any space with
distinct names whose expansions end: the grid is generated, and whatever is generated has one
variant for every combination of positions in the expansions, in lexicographic order, which
assigns to every name a value of its expansion. With exact arithmetic the expansion of a
continuous parameter with a positive step has the values `min_value + k * step` up to the
upper bound, rounded to six decimals, and with the default step, a fifth of the difference of
the bounds, it has six of them, from bound to bound. -/
theorem grid_is_complete (float : ℚ → ℚ) (newPrefix : ℕ → String) (space : ParameterSpace)
    (distinct : (space.parameters.map ParameterRange.name).Nodup)
    (ends : ∀ param ∈ space.parameters,
      Terminates fun rounds => expandRange float rounds param) :
    (∃ rounds variants, generateGridVariants float rounds newPrefix space = some variants) ∧
    (∀ rounds variants, generateGridVariants float rounds newPrefix space = some variants →
      ∃ expansions, space.parameters.mapM (expandRange float rounds) = some expansions ∧
        CompleteGrid (space.parameters.map ParameterRange.name) expansions variants) ∧
    (∀ (param : ParameterRange) (min_value max_value step : ℚ),
      param.continuousBounds = some (min_value, max_value) → param.step = some step → 0 < step →
        min_value ≤ max_value → ∃ enough, ∀ rounds ≥ enough, expandRange id rounds param =
          some ((List.range (⌊(max_value - min_value) / step⌋₊ + 1)).map fun k : ℕ =>
            .float (.finite (roundDecimals 6 (min_value + k * step))))) ∧
    (∀ (param : ParameterRange) (min_value max_value : ℚ),
      param.continuousBounds = some (min_value, max_value) →
        param.step = none ∨ param.step = some 0 → min_value < max_value →
          ∃ enough points, (∀ rounds ≥ enough, expandRange id rounds param = some points) ∧
            points = ((List.range 6).map fun k : ℕ =>
              .float (.finite (roundDecimals 6 (min_value + k * ((max_value - min_value) / 5))))) ∧
            points.length = 6 ∧
            points.head? = some (.float (.finite (roundDecimals 6 min_value))) ∧
            points.getLast? = some (.float (.finite (roundDecimals 6 max_value)))) := by
  refine ⟨?_, ?_, ?_, ?_⟩
  · obtain ⟨rounds, ended⟩ := @terminates_generateGridVariants _ newPrefix _ ends
    exact ⟨rounds, Option.isSome_iff_exists.mp ended⟩
  · intro rounds variants generated
    obtain ⟨expansions, expanded, rfl⟩ := exists_expansions generated
    refine ⟨expansions, expanded, completeGrid_gridOf newPrefix distinct ?_⟩
    rw [List.length_map, (forall₂_of_mapM expanded).length_eq]
  · intro param min_value max_value step bounds isStep forward order
    refine eventually_expanded bounds ?_ forward order
    rw [isStep, stepOf_given forward.ne']
  · intro param min_value max_value bounds missing order
    obtain ⟨enough, expanded⟩ := eventually_expanded_default bounds missing order
    obtain ⟨first, last⟩ := ends_gridPoints_default min_value max_value
    exact ⟨enough, _, expanded, rfl, by simp [gridPoints], first, last⟩

/-- A temperature with the default step, and a tone. -/
def temperatureAndTone : ParameterSpace where
  parameters :=
    [⟨"temperature", "continuous", some 0, some 1, none, none⟩,
      ⟨"tone", "categorical", none, none, some [.str "formal", .str "casual"], none⟩]

/-- Its expansions end. -/
theorem temperatureAndTone_ends :
    ∀ param ∈ temperatureAndTone.parameters,
      Terminates fun rounds => expandRange id rounds param := by
  intro param member
  refine ⟨8, ?_⟩
  rcases List.mem_pair.mp member with rfl | rfl <;> decide +kernel

/-- Its grid has a complete list of variants. -/
theorem temperatureAndTone_generated :
    ∃ rounds variants,
      generateGridVariants id rounds (fun _ => "0") temperatureAndTone = some variants :=
  (grid_is_complete id (fun _ => "0") temperatureAndTone (by decide) temperatureAndTone_ends).1

end LlmopsPlatform.Tuning
