import LlmopsPlatform.Python.Double

/-!
# Sums of floats

The built-in `sum` of floats that are not negative has a small relative error, or it
overflows, which only large sums do (`sum_cases`).

A sum that a loop adds up is the one of the numbers that its terms denote, as long as the
exact partial sums are in range (`value_foldl_add`).
-/

set_option autoImplicit false

namespace Python

open Foundations

namespace Double

/-! ## The built-in sum -/

section Sum

/-- After some items the state is that of a compensated sum of numbers, or the sum has
overflowed. -/
inductive SumState (values : List ℚ) (state : Double × Double) : Prop
  | inRange (total : state.1.value? = some (Foundations.compensated toFloat values).1)
      (lost : state.2.value? = some (Foundations.compensated toFloat values).2)
      (nonneg : 0 ≤ (Foundations.compensated toFloat values).1)
  | overflow (total : state.1 = .posInf) (lost : state.2.value? = none)
      (large : 2 ^ 1023 < values.sum)

variable {values : List ℚ} {state : Double × Double} {item : Double} {value : ℚ}

/-- Few items have a small error. -/
theorem few_items {count : ℕ} (few : count ≤ 2 ^ 30) : 16 * (1 / 2 ^ 53 : ℚ) * count ≤ 1 := by
  have cast : (count : ℚ) ≤ 2 ^ 30 := by exact_mod_cast few
  linarith

/-- The state of a compensated sum is close to the exact sum. -/
theorem compensated_close (isDouble : ∀ term ∈ values, IsDouble term)
    (nonneg : ∀ term ∈ values, 0 ≤ term) (few : values.length ≤ 2 ^ 30) :
    |(Foundations.compensated toFloat values).1 - values.sum| +
      |(Foundations.compensated toFloat values).2| ≤ values.sum / 2 ^ 20 := by
  have here := compensatedState_compensated roundsOn_toFloat (by norm_num) (few_items few)
    (fun term member => (isDouble term member).mem_floatGrid) nonneg
  have cast : (values.length : ℚ) ≤ 2 ^ 30 := by exact_mod_cast few
  have scaled := mul_le_mul_of_nonneg_right cast (List.sum_nonneg nonneg)
  linarith [here.close]

/-- What a rounding lost is not too large for a float. -/
theorem value_lost {first second total : Double} {a b : ℚ} (isFirst : first.value? = some a)
    (isSecond : second.value? = some b) (isTotal : total.value? = some (toFloat (a + b)))
    (firstNonneg : 0 ≤ a) (secondNonneg : 0 ≤ b) :
    (add (sub first total) second).value? = some (toFloat (toFloat (a - toFloat (a + b)) + b)) ∧
      |toFloat (toFloat (a - toFloat (a + b)) + b)| ≤ 2 ^ 1022 / 4 := by
  have firstDouble := isDouble_of_value isFirst
  have secondDouble := isDouble_of_value isSecond
  have totalDouble := isDouble_of_value isTotal
  have sumInGrid := floatGrid.add_mem firstDouble.mem_floatGrid secondDouble.mem_floatGrid
  have difference := value_sub_of_nonneg isFirst isTotal firstNonneg
    (toFloat_nonneg (add_nonneg firstNonneg secondNonneg))
  have restInGrid := floatGrid.sub_mem firstDouble.mem_floatGrid totalDouble.mem_floatGrid
  have sumClose := roundsOn_toFloat.close _ sumInGrid
  have restClose := roundsOn_toFloat.close _ restInGrid
  have lostClose := roundsOn_toFloat.close _
    (floatGrid.add_mem (isDouble_of_value difference).mem_floatGrid secondDouble.mem_floatGrid)
  have firstBound := firstDouble.2
  have secondBound := secondDouble.2
  have totalBound := totalDouble.2
  rw [add_of_value difference isSecond]
  generalize toFloat (a + b) = sum at *
  generalize toFloat (a - sum) = rest at *
  have positive : (0 : ℚ) < 2 ^ 1022 := pow_pos two_pos _
  rw [two_pow_1024] at firstBound secondBound totalBound
  have isSafe : safe = 3 * 2 ^ 1022 := rfl
  generalize (2 : ℚ) ^ 1022 = unit at *
  have sumMagnitude := abs_add_le a b
  have restMagnitude := abs_sub a sum
  have same : rest + b = (rest - (a - sum)) - (sum - (a + b)) := by ring
  have lostMagnitude : |rest + b| ≤ unit / 8 := by
    rw [same]
    have parts := abs_sub (rest - (a - sum)) (sum - (a + b))
    linarith
  have whole := abs_sub_abs_le_abs_sub (toFloat (rest + b)) (rest + b)
  refine ⟨value_rounded_of_safe ?_, ?_⟩ <;> linarith

/-- The loss of an addition is computed as it is for numbers, and it is not too large. -/
theorem value_lostIn {total : Double} {before : ℚ} (isTotal : total.value? = some before)
    (isValue : item.value? = some value) (totalNonneg : 0 ≤ before) (valueNonneg : 0 ≤ value)
    (inRange : (add total item).value? = some (toFloat (before + value))) :
    (lostIn total item).value? = some (Foundations.lostIn toFloat before value) ∧
      |Foundations.lostIn toFloat before value| ≤ 2 ^ 1022 / 4 := by
  unfold lostIn Foundations.lostIn
  rw [absLe_of_value isValue isTotal]
  by_cases order : |value| ≤ |before|
  · simp only [decide_eq_true order, if_true, if_pos order]
    exact value_lost isTotal isValue inRange totalNonneg valueNonneg
  · simp only [decide_eq_false order, Bool.false_eq_true, if_false, if_neg order]
    rw [add_comm before value] at inRange ⊢
    exact value_lost isValue isTotal inRange valueNonneg totalNonneg

/-- The losses of all additions can be added. -/
theorem abs_losses_le {before : ℚ × ℚ} {sum lost : ℚ} (totalBound : |before.1| < 2 ^ 1024)
    (close : |before.1 - sum| + |before.2| ≤ sum / 2 ^ 20) (lostSmall : |lost| ≤ 2 ^ 1022 / 4) :
    |before.2 + lost| ≤ safe := by
  refine (abs_add_le before.2 lost).trans ?_
  rw [two_pow_1024] at totalBound
  have isSafe : safe = 3 * 2 ^ 1022 := rfl
  have positive : (0 : ℚ) < 2 ^ 1022 := pow_pos two_pos _
  generalize (2 : ℚ) ^ 1022 = unit at *
  have below := neg_abs_le (before.1 - sum)
  have magnitude := le_abs_self before.1
  linarith [abs_nonneg before.2, abs_nonneg (before.1 - sum)]

/-- An item that does not make the sum overflow. -/
theorem SumState.append_inRange (isDouble : ∀ term ∈ values, IsDouble term)
    (nonneg : ∀ term ∈ values, 0 ≤ term) (few : values.length ≤ 2 ^ 30) (nonempty : values ≠ [])
    (isValue : item.value? = some value) (valueNonneg : 0 ≤ value)
    (total : state.1.value? = some (Foundations.compensated toFloat values).1)
    (lost : state.2.value? = some (Foundations.compensated toFloat values).2)
    (totalNonneg : 0 ≤ (Foundations.compensated toFloat values).1)
    (inRange : |toFloat ((Foundations.compensated toFloat values).1 + value)| < 2 ^ 1024) :
    SumState (values ++ [value]) (compensate state item) := by
  have nextTotal : (add state.1 item).value? =
      some (toFloat ((Foundations.compensated toFloat values).1 + value)) := by
    rw [add_of_value total isValue]
    exact value_rounded inRange
  obtain ⟨lostValue, lostSmall⟩ := value_lostIn total isValue totalNonneg valueNonneg nextTotal
  have step := compensated_concat toFloat nonempty value
  apply SumState.inRange
  · rw [step]
    exact nextTotal
  · rw [step, compensate, add_of_value lost lostValue]
    exact value_rounded_of_safe (abs_losses_le (isDouble_of_value total).2
      (compensated_close isDouble nonneg few) lostSmall)
  · rw [step]
    exact toFloat_nonneg (add_nonneg totalNonneg valueNonneg)

/-- An item that makes the sum overflow. -/
theorem SumState.append_overflow (isDouble : ∀ term ∈ values, IsDouble term)
    (nonneg : ∀ term ∈ values, 0 ≤ term) (few : values.length ≤ 2 ^ 30)
    (isValue : item.value? = some value) (valueNonneg : 0 ≤ value)
    (total : state.1.value? = some (Foundations.compensated toFloat values).1)
    (lost : state.2.value? = some (Foundations.compensated toFloat values).2)
    (totalNonneg : 0 ≤ (Foundations.compensated toFloat values).1)
    (overflow : ¬|toFloat ((Foundations.compensated toFloat values).1 + value)| < 2 ^ 1024) :
    SumState (values ++ [value]) (compensate state item) := by
  have close := compensated_close isDouble nonneg few
  obtain ⟨infinite, large⟩ := rounded_of_overflow (add_nonneg totalNonneg valueNonneg) overflow
  have nextTotal : add state.1 item = .posInf := (add_of_value total isValue).trans infinite
  obtain ⟨_, isTotal⟩ := value_eq_some.mp total
  obtain ⟨_, isLost⟩ := value_eq_some.mp lost
  obtain ⟨_, rfl⟩ := value_eq_some.mp isValue
  apply SumState.overflow
  · exact nextTotal
  · simp only [compensate, lostIn, nextTotal]
    rw [isTotal, isLost]
    split <;> rfl
  · rw [List.sum_append, List.sum_singleton]
    rw [two_pow_1023]
    have isSafe : safe = 3 * 2 ^ 1022 := rfl
    have positive : (0 : ℚ) < 2 ^ 1022 := pow_pos two_pos _
    generalize (2 : ℚ) ^ 1022 = unit at *
    have below := le_abs_self ((Foundations.compensated toFloat values).1 - values.sum)
    linarith [abs_nonneg (Foundations.compensated toFloat values).2]

/-- **One item of the built-in sum.** -/
theorem SumState.append (here : SumState values state) (isDouble : ∀ term ∈ values, IsDouble term)
    (nonneg : ∀ term ∈ values, 0 ≤ term) (few : values.length ≤ 2 ^ 30) (nonempty : values ≠ [])
    (isValue : item.value? = some value) (valueNonneg : 0 ≤ value) :
    SumState (values ++ [value]) (compensate state item) := by
  cases here with
  | inRange total lost totalNonneg =>
      by_cases inRange : |toFloat ((Foundations.compensated toFloat values).1 + value)| < 2 ^ 1024
      · exact append_inRange isDouble nonneg few nonempty isValue valueNonneg total lost totalNonneg
          inRange
      · exact append_overflow isDouble nonneg few isValue valueNonneg total lost totalNonneg inRange
  | overflow total lost large =>
      obtain ⟨_, rfl⟩ := value_eq_some.mp isValue
      apply SumState.overflow
      · rw [compensate, total]
        rfl
      · simp only [compensate, total]
        cases state.2 <;> rfl
      · rw [List.sum_append, List.sum_singleton]
        exact lt_add_of_lt_of_nonneg large valueNonneg

/-- The numbers that the floats of a list denote are floats. -/
theorem isDouble_of_mem {items : List Double} (isValues : items.map value? = values.map some)
    (member : value ∈ values) : IsDouble value := by
  have isTerm : some value ∈ items.map value? := isValues ▸ List.mem_map_of_mem member
  obtain ⟨number, -, isNumber⟩ := List.mem_map.mp isTerm
  exact isDouble_of_value isNumber

/-- The last float of a list denotes the last number. -/
theorem exists_of_map_value {items : List Double}
    (isValues : (items ++ [item]).map value? = values.map some) :
    ∃ earlier value, values = earlier ++ [value] ∧ items.map value? = earlier.map some ∧
      item.value? = some value := by
  rcases values.eq_nil_or_concat with rfl | ⟨earlier, value, rfl⟩
  · simp at isValues
  · simp only [List.concat_eq_append, List.map_append, List.map_cons, List.map_nil] at isValues
    obtain ⟨earlierValues, lastValue⟩ := List.append_inj' isValues rfl
    exact ⟨earlier, value, by simp, earlierValues, by simpa using lastValue⟩

theorem compensated_append {items : List Double} (nonempty : items ≠ []) (item : Double) :
    compensated (items ++ [item]) = compensate (compensated items) item := by
  cases items with
  | nil => exact absurd rfl nonempty
  | cons first rest => simp [compensated]

theorem sumState_compensated {items : List Double}
    (isValues : items.map value? = values.map some) (nonneg : ∀ term ∈ values, 0 ≤ term)
    (few : values.length ≤ 2 ^ 30) : SumState values (compensated items) := by
  induction items using List.reverseRecOn generalizing values with
  | nil =>
      have empty : values = [] := by simpa using isValues.symm
      subst empty
      exact .inRange rfl rfl le_rfl
  | append_singleton items item ih =>
      obtain ⟨earlier, value, rfl, earlierValues, isValue⟩ := exists_of_map_value isValues
      have valueNonneg := nonneg value (by simp)
      have earlierNonneg : ∀ term ∈ earlier, 0 ≤ term := fun term member =>
        nonneg term (List.mem_append_left _ member)
      have earlierFew : earlier.length ≤ 2 ^ 30 := by
        rw [List.length_append] at few
        omega
      have here := ih earlierValues earlierNonneg earlierFew
      by_cases empty : items = []
      · subst empty
        have none : earlier = [] := by simpa using earlierValues.symm
        subst none
        exact .inRange isValue rfl valueNonneg
      · have nonempty : earlier ≠ [] := by
          rintro rfl
          simp [empty] at earlierValues
        rw [compensated_append empty]
        exact here.append (fun term member => isDouble_of_mem earlierValues member) earlierNonneg
          earlierFew nonempty isValue valueNonneg

/-- Only a large sum overflows when it is corrected at the end. -/
theorem rounded_corrected_of_overflow {state : ℚ × ℚ} {sum : ℚ} (sum_nonneg : 0 ≤ sum)
    (close : |state.1 - sum| + |state.2| ≤ sum / 2 ^ 20)
    (overflow : ¬|toFloat (state.1 + state.2)| < 2 ^ 1024) :
    rounded (state.1 + state.2) = .posInf ∧ 2 ^ 1023 < sum := by
  have positive : 0 ≤ state.1 + state.2 := by
    have totalBelow := neg_abs_le (state.1 - sum)
    have lostBelow := neg_abs_le state.2
    linarith
  obtain ⟨infinite, large⟩ := rounded_of_overflow positive overflow
  refine ⟨infinite, ?_⟩
  rw [two_pow_1023]
  have isSafe : safe = 3 * 2 ^ 1022 := rfl
  have unitPositive : (0 : ℚ) < 2 ^ 1022 := pow_pos two_pos _
  generalize (2 : ℚ) ^ 1022 = unit at *
  have totalAbove := le_abs_self (state.1 - sum)
  have lostAbove := le_abs_self state.2
  linarith

/-- **The built-in sum** of floats that are not negative has a small relative error, or it
overflows. -/
theorem sum_cases {items : List Double} (isValues : items.map value? = values.map some)
    (nonneg : ∀ term ∈ values, 0 ≤ term) (few : values.length ≤ 2 ^ 30) :
    sum items = .posInf ∧ 2 ^ 1023 < values.sum ∨
      ∃ total, (sum items).value? = some total ∧
        |total - values.sum| ≤ (values.length + 1) / 2 ^ 50 * values.sum := by
  have isDouble : ∀ term ∈ values, IsDouble term :=
    fun term member => isDouble_of_mem isValues member
  cases sumState_compensated isValues nonneg few with
  | overflow total lost large =>
      left
      rw [sum]
      cases isLost : (compensated items).2 with
      | finite value _ =>
          rw [isLost] at lost
          cases lost
      | _ => exact ⟨total, large⟩
  | inRange total lost totalNonneg =>
      have close := abs_compensatedSum_sub_le roundsOn_toFloat (by norm_num) (few_items few)
        (fun term member => (isDouble term member).mem_floatGrid) nonneg
      have factor : 8 * (1 / 2 ^ 53 : ℚ) * (values.length + 1) =
          (values.length + 1) / 2 ^ 50 := by ring
      rw [factor, compensatedSum] at close
      obtain ⟨lostDouble, isLost⟩ := value_eq_some.mp lost
      rw [sum]
      simp only [isLost]
      by_cases zero : (Foundations.compensated toFloat values).2 = 0
      · rw [if_pos zero] at close ⊢
        exact .inr ⟨_, total, close⟩
      · rw [if_neg zero] at close ⊢
        rw [← isLost, add_of_value total lost]
        by_cases inRange : |toFloat ((Foundations.compensated toFloat values).1 +
            (Foundations.compensated toFloat values).2)| < 2 ^ 1024
        · exact .inr ⟨_, value_rounded inRange, close⟩
        · exact .inl (rounded_corrected_of_overflow (List.sum_nonneg nonneg)
            (compensated_close isDouble nonneg few) inRange)

end Sum

/-! ## Sums of a loop -/

/-- **A loop that adds floats** computes the rounded sum of the numbers they denote, as long
as no exact partial sum is out of range. -/
theorem value_foldl_add {terms : List Double} {values : List ℚ}
    (isValues : terms.map value? = values.map some)
    (inRange : ∀ earlier value, (earlier ++ [value]) <+: values →
      |accumulate toFloat earlier + value| ≤ safe) :
    (terms.foldl add zero).value? = some (accumulate toFloat values) := by
  induction terms using List.reverseRecOn generalizing values with
  | nil =>
      have empty : values = [] := by simpa using isValues.symm
      subst empty
      rfl
  | append_singleton terms term ih =>
      obtain ⟨earlier, value, rfl, earlierValues, isValue⟩ := exists_of_map_value isValues
      have before := ih earlierValues fun others other within =>
        inRange others other (within.trans (List.prefix_append _ _))
      rw [List.foldl_append, List.foldl_cons, List.foldl_nil, add_of_value before isValue,
        accumulate_concat]
      exact value_rounded_of_safe (inRange earlier value List.prefix_rfl)

end Double

end Python
