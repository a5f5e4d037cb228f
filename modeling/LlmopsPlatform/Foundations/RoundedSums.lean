import Mathlib.Algebra.Group.Subgroup.Defs
import Mathlib.Algebra.Order.BigOperators.Group.List
import Mathlib.Algebra.Order.BigOperators.Group.Multiset
import Mathlib.Algebra.Order.AbsoluteValue.Basic
import Mathlib.Algebra.Order.Field.Basic
import Mathlib.Data.List.Induction
import Mathlib.Tactic.Linarith
import Mathlib.Tactic.Ring

/-!
# Sums that are rounded after every addition

Numbers on a grid are added, and every result is rounded on the grid with a relative
error. A plain sum of approximate terms is close to the exact one when its terms are close
and their magnitudes have a bounded total (`abs_accumulate_sub_le`).

A compensated sum also adds up what the roundings lost, and corrects the total once at the
end. For terms that are not negative its error is a small part of the exact sum
(`abs_compensatedSum_sub_le`).
-/

set_option autoImplicit false

namespace Foundations

variable {K : Type*} [Field K] [LinearOrder K] [IsStrictOrderedRing K]

/-- Rounding keeps numbers on a grid and has a small relative error there. -/
structure RoundsOn (round : K → K) (grid : AddSubgroup K) (unit : K) : Prop where
  mem : ∀ exact ∈ grid, round exact ∈ grid
  close : ∀ exact ∈ grid, |round exact - exact| ≤ unit * |exact|

/-! ## Plain sums -/

/-- The sum that is rounded after every addition. -/
def accumulate (round : K → K) (terms : List K) : K :=
  terms.foldl (fun total term => round (total + term)) 0

omit [LinearOrder K] [IsStrictOrderedRing K] in
theorem accumulate_concat (round : K → K) (terms : List K) (term : K) :
    accumulate round (terms ++ [term]) = round (accumulate round terms + term) := by
  simp [accumulate]

section Plain

variable {round : K → K} {grid : AddSubgroup K} {unit : K}

omit [IsStrictOrderedRing K] in
theorem accumulate_mem (rounds : RoundsOn round grid unit) {terms : List K}
    (terms_mem : ∀ term ∈ terms, term ∈ grid) : accumulate round terms ∈ grid := by
  induction terms using List.reverseRecOn with
  | nil => exact grid.zero_mem
  | append_singleton terms term ih =>
      rw [accumulate_concat]
      refine rounds.mem _ (grid.add_mem (ih fun other member => ?_) (terms_mem term ?_))
      · exact terms_mem other (List.mem_append_left _ member)
      · exact List.mem_append_right _ List.mem_cons_self

/-- One addition adds the error of the term and a part of the bound to the error. -/
theorem abs_round_add_sub_le (rounds : RoundsOn round grid unit) (unit_nonneg : 0 ≤ unit)
    {total term exact exactTerm error termError bound : K} (total_mem : total ∈ grid)
    (term_mem : term ∈ grid) (totalClose : |total - exact| ≤ error)
    (termClose : |term - exactTerm| ≤ termError) (bounded : |exact + exactTerm| ≤ bound) :
    |round (total + term) - (exact + exactTerm)| ≤
      (1 + unit) * (error + termError + unit * bound) := by
  have rounding := rounds.close _ (grid.add_mem total_mem term_mem)
  have terms : |total + term - (exact + exactTerm)| ≤ error + termError := by
    rw [add_sub_add_comm]
    exact (abs_add_le _ _).trans (add_le_add totalClose termClose)
  have magnitude : |total + term| ≤ error + termError + bound := by
    have split := abs_sub_abs_le_abs_sub (total + term) (exact + exactTerm)
    linarith
  have part := mul_le_mul_of_nonneg_left magnitude unit_nonneg
  have whole := abs_sub_le (round (total + term)) (total + term) (exact + exactTerm)
  have bound_nonneg : 0 ≤ bound := (abs_nonneg _).trans bounded
  have square : 0 ≤ unit * (unit * bound) :=
    mul_nonneg unit_nonneg (mul_nonneg unit_nonneg bound_nonneg)
  linarith

/-- **The error of a plain sum**, where every term stands for an exact one. -/
theorem abs_accumulate_sub_le (rounds : RoundsOn round grid unit) (unit_nonneg : 0 ≤ unit)
    {Item : Type*} {term exact error : Item → K} {items : List Item}
    (term_mem : ∀ item ∈ items, term item ∈ grid)
    (close : ∀ item ∈ items, |term item - exact item| ≤ error item) {bound : K}
    (bounded : (items.map fun item => |exact item|).sum ≤ bound) :
    |accumulate round (items.map term) - (items.map exact).sum| ≤
      (1 + unit) ^ items.length * ((items.map error).sum + items.length * (unit * bound)) := by
  induction items using List.reverseRecOn with
  | nil => simp [accumulate]
  | append_singleton items item ih =>
      have earlierMem : ∀ other ∈ items, term other ∈ grid := fun other member =>
        term_mem other (List.mem_append_left _ member)
      have last : item ∈ items ++ [item] := List.mem_append_right _ List.mem_cons_self
      simp only [List.map_append, List.map_cons, List.map_nil, List.sum_append, List.sum_cons,
        List.sum_nil, add_zero, List.length_append, List.length_cons, List.length_nil, zero_add,
        Nat.cast_add, Nat.cast_one, accumulate_concat] at bounded ⊢
      have earlier :=
        ih earlierMem (fun other member => close other (List.mem_append_left _ member))
        (by linarith [abs_nonneg (exact item)])
      have total_mem : accumulate round (items.map term) ∈ grid := by
        apply accumulate_mem rounds
        intro value member
        obtain ⟨other, otherMember, rfl⟩ := List.mem_map.mp member
        exact earlierMem other otherMember
      have magnitude : |(items.map exact).sum + exact item| ≤ bound := by
        have sums : |(items.map exact).sum| ≤ (items.map fun other => |exact other|).sum := by
          simpa [Function.comp_def] using
            Multiset.abs_sum_le_sum_abs (s := (items.map exact : Multiset K))
        exact (abs_add_le _ _).trans ((add_le_add sums le_rfl).trans bounded)
      have step := abs_round_add_sub_le rounds unit_nonneg total_mem (term_mem item last) earlier
        (close item last) magnitude
      have bound_nonneg : 0 ≤ bound := (abs_nonneg _).trans magnitude
      have grown : 1 ≤ (1 + unit) ^ items.length := one_le_pow₀ (by linarith)
      have rest_nonneg : 0 ≤ error item + unit * bound :=
        add_nonneg ((abs_nonneg _).trans (close item last)) (mul_nonneg unit_nonneg bound_nonneg)
      have scaled := le_mul_of_one_le_left rest_nonneg grown
      calc
        |round (accumulate round (items.map term) + term item) -
            ((items.map exact).sum + exact item)| ≤
          (1 + unit) * ((1 + unit) ^ items.length *
            ((items.map error).sum + items.length * (unit * bound)) + error item +
              unit * bound) := step
        _ ≤ (1 + unit) * ((1 + unit) ^ items.length *
            ((items.map error).sum + items.length * (unit * bound)) +
              (1 + unit) ^ items.length * (error item + unit * bound)) := by
          apply mul_le_mul_of_nonneg_left _ (by linarith)
          linarith
        _ = (1 + unit) ^ (items.length + 1) * ((items.map error).sum + error item +
            (items.length + 1) * (unit * bound)) := by ring

/-- Few small factors grow linearly. -/
theorem one_add_pow_le (unit_nonneg : 0 ≤ unit) {count : ℕ} (few : 2 * unit * count ≤ 1) :
    (1 + unit) ^ count ≤ 1 + 2 * unit * count := by
  have linear : ∀ steps ≤ count, (1 + unit) ^ steps ≤ 1 + 2 * unit * steps := by
    intro steps
    induction steps with
    | zero => simp
    | succ steps ih =>
        intro within
        have before := ih (Nat.le_of_succ_le within)
        have fewSteps : 2 * unit * steps ≤ 1 := by
          have cast : (steps : K) ≤ count := Nat.cast_le.mpr (Nat.le_of_succ_le within)
          exact (mul_le_mul_of_nonneg_left cast (by linarith)).trans few
        rw [pow_succ, Nat.cast_add, Nat.cast_one]
        have scaled := mul_le_mul_of_nonneg_right before (by linarith : 0 ≤ 1 + unit)
        have square := mul_le_mul_of_nonneg_left fewSteps unit_nonneg
        linarith
  exact linear count le_rfl

end Plain

/-! ## Compensated sums -/

/-- What the rounding of a sum loses, computed from the larger of the two. -/
def lostIn (round : K → K) (total term : K) : K :=
  if |term| ≤ |total| then round (round (total - round (total + term)) + term)
  else round (round (term - round (total + term)) + total)

/-- One addition. The pair holds the total so far and what its roundings lost. -/
def compensate (round : K → K) (state : K × K) (term : K) : K × K :=
  (round (state.1 + term), round (state.2 + lostIn round state.1 term))

/-- The total and what its roundings lost, after some terms. -/
def compensated (round : K → K) : List K → K × K
  | [] => (0, 0)
  | first :: rest => rest.foldl (compensate round) (first, 0)

/-- The sum with one correction at the end. -/
def compensatedSum (round : K → K) (terms : List K) : K :=
  let state := compensated round terms
  if state.2 = 0 then state.1 else round (state.1 + state.2)

omit [IsStrictOrderedRing K] in
theorem compensated_concat (round : K → K) {terms : List K} (nonempty : terms ≠ []) (term : K) :
    compensated round (terms ++ [term]) = compensate round (compensated round terms) term := by
  cases terms with
  | nil => exact absurd rfl nonempty
  | cons first rest => simp [compensated]

section Compensated

variable (grid : AddSubgroup K) (unit : K)

/-- The state after some terms with a given sum. -/
structure CompensatedState (count : ℕ) (sum : K) (state : K × K) : Prop where
  total_mem : state.1 ∈ grid
  lost_mem : state.2 ∈ grid
  close : |state.1 - sum| + |state.2| ≤ 8 * unit * count * sum

variable {grid unit} {round : K → K} {count : ℕ} {sum term : K} {state : K × K}

/-- What the rounding of a sum lost is small, whichever of the two is taken first. -/
theorem abs_lost_le (rounds : RoundsOn round grid unit) (unit_nonneg : 0 ≤ unit)
    (small : 8 * unit ≤ 1) {first second size : K} (first_mem : first ∈ grid)
    (second_mem : second ∈ grid) (bounded : |first| + |second| ≤ size) :
    |round (round (first - round (first + second)) + second)| ≤ 3 * unit * size := by
  have sum_mem := grid.add_mem first_mem second_mem
  have total_mem := rounds.mem _ sum_mem
  have rest_mem := grid.sub_mem first_mem total_mem
  have totalClose := rounds.close _ sum_mem
  have restClose := rounds.close _ rest_mem
  have lostClose := rounds.close _ (grid.add_mem (rounds.mem _ rest_mem) second_mem)
  generalize round (first + second) = total at *
  generalize round (first - total) = rest at *
  generalize round (rest + second) = lost at *
  have size_nonneg : 0 ≤ size := by linarith [abs_nonneg first, abs_nonneg second]
  have totalBound : |total - (first + second)| ≤ unit * size :=
    totalClose.trans (mul_le_mul_of_nonneg_left ((abs_add_le _ _).trans bounded) unit_nonneg)
  have restBound : |first - total| ≤ (1 + unit) * size := by
    have same : first - total = -(total - (first + second)) - second := by ring
    rw [same]
    have parts := abs_sub (-(total - (first + second))) second
    rw [abs_neg] at parts
    linarith [abs_nonneg first]
  have restError := restClose.trans (mul_le_mul_of_nonneg_left restBound unit_nonneg)
  have lostBound : |rest + second| ≤ unit * size + unit * ((1 + unit) * size) := by
    have same : rest + second = (rest - (first - total)) - (total - (first + second)) := by ring
    rw [same]
    have parts := abs_sub (rest - (first - total)) (total - (first + second))
    linarith
  have lostError := lostClose.trans (mul_le_mul_of_nonneg_left lostBound unit_nonneg)
  have whole := abs_sub_abs_le_abs_sub lost (rest + second)
  have part_nonneg : 0 ≤ unit * size := mul_nonneg unit_nonneg size_nonneg
  have square : unit * (unit * size) ≤ unit * size / 8 := by
    have part := mul_le_mul_of_nonneg_right small part_nonneg
    linarith
  have cube : unit * (unit * (unit * size)) ≤ unit * (unit * size) := by
    have part := mul_le_mul_of_nonneg_right (by linarith : unit ≤ 1)
      (mul_nonneg unit_nonneg part_nonneg)
    linarith
  linarith

theorem abs_lostIn_le (rounds : RoundsOn round grid unit) (unit_nonneg : 0 ≤ unit)
    (small : 8 * unit ≤ 1) {total size : K} (total_mem : total ∈ grid) (term_mem : term ∈ grid)
    (bounded : |total| + |term| ≤ size) : |lostIn round total term| ≤ 3 * unit * size := by
  unfold lostIn
  split
  · exact abs_lost_le rounds unit_nonneg small total_mem term_mem bounded
  · rw [add_comm total term]
    exact abs_lost_le rounds unit_nonneg small term_mem total_mem (by linarith)

omit [IsStrictOrderedRing K] in
theorem lostIn_mem (rounds : RoundsOn round grid unit) {total : K} (total_mem : total ∈ grid)
    (term_mem : term ∈ grid) : lostIn round total term ∈ grid := by
  have sum_mem := rounds.mem _ (grid.add_mem total_mem term_mem)
  unfold lostIn
  split
  · exact rounds.mem _
      (grid.add_mem (rounds.mem _ (grid.sub_mem total_mem sum_mem)) term_mem)
  · exact rounds.mem _
      (grid.add_mem (rounds.mem _ (grid.sub_mem term_mem sum_mem)) total_mem)

/-- In one addition the error grows by a small part of itself and of the new sum. -/
theorem abs_compensate_le (rounds : RoundsOn round grid unit) (unit_nonneg : 0 ≤ unit)
    (small : 8 * unit ≤ 1) (total_mem : state.1 ∈ grid) (lost_mem : state.2 ∈ grid)
    (term_mem : term ∈ grid) (sum_nonneg : 0 ≤ sum) (term_nonneg : 0 ≤ term) {error : K}
    (close : |state.1 - sum| + |state.2| ≤ error) :
    |(compensate round state term).1 - (sum + term)| + |(compensate round state term).2| ≤
      error + 6 * (unit * error) + 5 * (unit * (sum + term)) := by
  have magnitude : |state.1| + |term| ≤ sum + term + error := by
    have split := abs_sub_abs_le_abs_sub state.1 sum
    rw [abs_of_nonneg sum_nonneg] at split
    rw [abs_of_nonneg term_nonneg]
    linarith [abs_nonneg state.2]
  have lost_small := abs_lostIn_le rounds unit_nonneg small total_mem term_mem magnitude
  have total_close := rounds.close _ (grid.add_mem total_mem term_mem)
  have lost_close := rounds.close _ (grid.add_mem lost_mem (lostIn_mem rounds total_mem term_mem))
  simp only [compensate]
  generalize lostIn round state.1 term = lost at *
  -- The total is off by its own rounding, the losses by theirs and by the new loss.
  have totalBound := total_close.trans (mul_le_mul_of_nonneg_left
    ((abs_add_le state.1 term).trans magnitude) unit_nonneg)
  have totalError := abs_sub_le (round (state.1 + term)) (state.1 + term) (sum + term)
  rw [add_sub_add_right_eq_sub] at totalError
  have lostSum := abs_add_le state.2 lost
  have lostBound := lost_close.trans (mul_le_mul_of_nonneg_left
    (lostSum.trans (add_le_add le_rfl lost_small)) unit_nonneg)
  have lostError := abs_sub_abs_le_abs_sub (round (state.2 + lost)) (state.2 + lost)
  have lost_le : unit * |state.2| ≤ unit * error :=
    mul_le_mul_of_nonneg_left ((le_add_of_nonneg_left (abs_nonneg _)).trans close) unit_nonneg
  have square : unit * (3 * unit * (sum + term + error)) ≤ unit * (sum + term + error) := by
    have size_nonneg : 0 ≤ unit * (sum + term + error) :=
      mul_nonneg unit_nonneg ((add_nonneg (abs_nonneg _) (abs_nonneg _)).trans magnitude)
    have part := mul_le_mul_of_nonneg_right (by linarith : 3 * unit ≤ 1) size_nonneg
    linarith
  linarith

/-- **One compensated addition.** -/
theorem CompensatedState.compensate (rounds : RoundsOn round grid unit) (unit_nonneg : 0 ≤ unit)
    (few : 16 * unit * (count + 1) ≤ 1) (here : CompensatedState grid unit count sum state)
    (sum_nonneg : 0 ≤ sum) (term_mem : term ∈ grid) (term_nonneg : 0 ≤ term) :
    CompensatedState grid unit (count + 1) (sum + term)
      (Foundations.compensate round state term) := by
  have counted : 0 ≤ unit * count := mul_nonneg unit_nonneg (Nat.cast_nonneg count)
  refine ⟨rounds.mem _ (grid.add_mem here.total_mem term_mem),
    rounds.mem _ (grid.add_mem here.lost_mem (lostIn_mem rounds here.total_mem term_mem)), ?_⟩
  have grown := abs_compensate_le rounds unit_nonneg (by linarith) here.total_mem here.lost_mem
    term_mem sum_nonneg term_nonneg here.close
  -- The part of the old error is at most half of the part of the new sum.
  have errorPart : unit * (8 * unit * count * sum) ≤ unit * (sum + term) / 2 := by
    have whole := mul_nonneg unit_nonneg (add_nonneg sum_nonneg term_nonneg)
    have more : 0 ≤ unit * (unit * count * term) :=
      mul_nonneg unit_nonneg (mul_nonneg counted term_nonneg)
    have part := mul_le_mul_of_nonneg_right (by linarith : 16 * unit * count ≤ 1) whole
    linarith
  have more : 0 ≤ unit * count * term := mul_nonneg counted term_nonneg
  push_cast
  linarith

/-- The state after some terms that are not negative. -/
theorem compensatedState_compensated (rounds : RoundsOn round grid unit) (unit_nonneg : 0 ≤ unit)
    {terms : List K} (few : 16 * unit * terms.length ≤ 1) (terms_mem : ∀ term ∈ terms, term ∈ grid)
    (terms_nonneg : ∀ term ∈ terms, 0 ≤ term) :
    CompensatedState grid unit terms.length terms.sum (compensated round terms) := by
  induction terms using List.reverseRecOn with
  | nil => exact ⟨grid.zero_mem, grid.zero_mem, by simp [compensated]⟩
  | append_singleton terms term ih =>
      have last : term ∈ terms ++ [term] := List.mem_append_right _ List.mem_cons_self
      have term_nonneg := terms_nonneg term last
      by_cases empty : terms = []
      · subst empty
        refine ⟨terms_mem term last, grid.zero_mem, ?_⟩
        simp only [compensated, List.nil_append, List.foldl_nil, List.sum_cons, List.sum_nil,
          add_zero, sub_self, abs_zero, List.length_cons, List.length_nil, zero_add, Nat.cast_one,
          mul_one]
        exact mul_nonneg (by linarith) term_nonneg
      · rw [compensated_concat round empty, List.sum_append, List.sum_singleton, List.length_append]
        rw [List.length_append, List.length_singleton, Nat.cast_add, Nat.cast_one] at few
        have earlier_nonneg : ∀ other ∈ terms, 0 ≤ other := fun other member =>
          terms_nonneg other (List.mem_append_left _ member)
        have here := ih (by linarith)
          (fun other member => terms_mem other (List.mem_append_left _ member)) earlier_nonneg
        exact here.compensate rounds unit_nonneg few (List.sum_nonneg earlier_nonneg)
          (terms_mem term last) term_nonneg

/-- The correction at the end adds little to the error. -/
theorem CompensatedState.corrected (rounds : RoundsOn round grid unit) (unit_nonneg : 0 ≤ unit)
    (few : 16 * unit * count ≤ 1) (here : CompensatedState grid unit count sum state)
    (sum_nonneg : 0 ≤ sum) :
    |(if state.2 = 0 then state.1 else round (state.1 + state.2)) - sum| ≤
      8 * unit * (count + 1) * sum := by
  have earlier := here.close
  have part : 0 ≤ unit * sum := mul_nonneg unit_nonneg sum_nonneg
  split
  · linarith [abs_nonneg state.2]
  · have corrected := rounds.close _ (grid.add_mem here.total_mem here.lost_mem)
    have uncorrected : |state.1 + state.2 - sum| ≤ 8 * unit * count * sum := by
      rw [add_sub_right_comm]
      exact (abs_add_le _ _).trans earlier
    have half := mul_le_mul_of_nonneg_right few sum_nonneg
    have magnitude : |state.1 + state.2| ≤ 2 * sum := by
      have split := abs_sub_abs_le_abs_sub (state.1 + state.2) sum
      rw [abs_of_nonneg sum_nonneg] at split
      linarith
    have rounded := corrected.trans (mul_le_mul_of_nonneg_left magnitude unit_nonneg)
    have whole := abs_sub_le (round (state.1 + state.2)) (state.1 + state.2) sum
    linarith

/-- **The error of a compensated sum** is a small part of the exact sum. -/
theorem abs_compensatedSum_sub_le (rounds : RoundsOn round grid unit) (unit_nonneg : 0 ≤ unit)
    {terms : List K} (few : 16 * unit * terms.length ≤ 1) (terms_mem : ∀ term ∈ terms, term ∈ grid)
    (terms_nonneg : ∀ term ∈ terms, 0 ≤ term) :
    |compensatedSum round terms - terms.sum| ≤ 8 * unit * (terms.length + 1) * terms.sum :=
  (compensatedState_compensated rounds unit_nonneg few terms_mem terms_nonneg).corrected rounds
    unit_nonneg few (List.sum_nonneg terms_nonneg)

end Compensated

end Foundations
