import Mathlib.Data.List.Nodup
import Mathlib.Data.List.Sort
import Mathlib.Order.MinMax

/-!
# Rows with a key

Two facts about rows of a table that a query relies on.

A unique key identifies its row: selecting by the key gives that row and nothing
else (`UniqueKey.filter_eq_singleton`), and changing other columns keeps the key
unique (`UniqueKey.map`).

A counter column that hands out the next number holds the numbers from one to the
count of its rows (`oneTo`).

Ordering the rows by a key, greatest first, and taking the first one gives a row
whose key bounds all the others. The order is the stable one, so among equal keys
the rows stay in the order in which they were read.
-/

set_option autoImplicit false

namespace Foundations

variable {Row Key : Type*}

/-! ## Unique keys -/

/-- No two rows share a key. -/
abbrev UniqueKey (key : Row → Key) (rows : List Row) : Prop := (rows.map key).Nodup

namespace UniqueKey

variable {key : Row → Key} {rows : List Row}

theorem eq_of_key_eq (unique : UniqueKey key rows) {first second : Row} (firstMember : first ∈ rows)
    (secondMember : second ∈ rows) (same : key first = key second) : first = second :=
  List.inj_on_of_nodup_map unique firstMember secondMember same

/-- Selecting by a unique key gives exactly the row that has it. -/
theorem filter_eq_singleton [DecidableEq Key] (unique : UniqueKey key rows) {row : Row}
    (member : row ∈ rows) : rows.filter (fun other => key other = key row) = [row] := by
  induction rows with
  | nil => cases member
  | cons head tail ih =>
      have keys : (key head :: tail.map key).Nodup := unique
      obtain ⟨headFresh, tailUnique⟩ := List.nodup_cons.mp keys
      rcases List.mem_cons.mp member with rfl | inTail
      · have noOther : tail.filter (fun other => key other = key row) = [] := by
          refine List.filter_eq_nil_iff.mpr fun other otherMember => ?_
          have different : key other ≠ key row :=
            fun same => headFresh (same ▸ List.mem_map_of_mem otherMember)
          simpa using different
        simp [noOther]
      · have different : key head ≠ key row :=
          fun same => headFresh (same ▸ List.mem_map_of_mem inTail)
        simpa [List.filter_cons, different] using ih tailUnique inTail

/-- A search by a unique key finds the row that has it. -/
theorem find_eq_some_iff [DecidableEq Key] (unique : UniqueKey key rows) {wanted : Key}
    {row : Row} :
    rows.find? (fun other => key other = wanted) = some row ↔ row ∈ rows ∧ key row = wanted := by
  constructor
  · intro found
    exact ⟨List.mem_of_find?_eq_some found, by simpa using List.find?_some found⟩
  · rintro ⟨member, rfl⟩
    rw [← List.head?_filter, unique.filter_eq_singleton member]
    rfl

/-- A row with a new key can be appended. -/
theorem append_fresh (unique : UniqueKey key rows) {row : Row} (fresh : key row ∉ rows.map key) :
    UniqueKey key (rows ++ [row]) := by
  rw [UniqueKey, List.map_append, List.map_singleton]
  exact List.nodup_append.mpr ⟨unique, List.nodup_singleton _, fun _ member _ last same =>
    fresh (by rwa [← List.mem_singleton.mp last, ← same])⟩

/-- An update that leaves the key column alone keeps the key unique. -/
theorem map (unique : UniqueKey key rows) {update : Row → Row}
    (keepsKey : ∀ row, key (update row) = key row) : UniqueKey key (rows.map update) := by
  have same : key ∘ update = key := funext keepsKey
  rwa [UniqueKey, List.map_map, same]

end UniqueKey

/-! ## Consecutive numbers -/

/-- The numbers from one to a count, in order. -/
def oneTo (count : Nat) : List Int := (List.range count).map fun index : Nat => (index : Int) + 1

theorem mem_oneTo {count : Nat} {number : Int} :
    number ∈ oneTo count ↔ 1 ≤ number ∧ number ≤ count := by
  simp only [oneTo, List.mem_map, List.mem_range]
  constructor
  · rintro ⟨index, below, rfl⟩
    omega
  · intro between
    exact ⟨(number - 1).toNat, by omega, by omega⟩

theorem oneTo_succ (count : Nat) : oneTo (count + 1) = oneTo count ++ [(count : Int) + 1] := by
  simp [oneTo, List.range_succ]

@[simp] theorem length_oneTo (count : Nat) : (oneTo count).length = count := by simp [oneTo]

theorem pairwise_oneTo (count : Nat) :
    (oneTo count).Pairwise fun first second => first ≤ second := by
  induction count with
  | zero => exact .nil
  | succ count ih =>
      rw [oneTo_succ]
      refine List.pairwise_append.mpr ⟨ih, List.pairwise_singleton _ _, ?_⟩
      intro number member last isLast
      rw [List.mem_singleton.mp isLast]
      have := (mem_oneTo.mp member).2
      omega

theorem max_oneTo {count : Nat} (positive : 1 ≤ count) : (oneTo count).max? = some (count : Int) :=
  List.max?_eq_some_iff.mpr
    ⟨mem_oneTo.mpr (by omega), fun _ member => (mem_oneTo.mp member).2⟩

/-! ## Descending order -/

section Descending

variable [LinearOrder Key]

/-- The rows ordered by a key, greatest first, equal keys in the order read. -/
def sortDescending (key : Row → Key) (rows : List Row) : List Row :=
  rows.insertionSort fun first second => key second ≤ key first

variable {key : Row → Key} {rows : List Row}

theorem sortDescending_perm (key : Row → Key) (rows : List Row) :
    (sortDescending key rows).Perm rows :=
  List.perm_insertionSort _ rows

@[simp] theorem mem_sortDescending {row : Row} : row ∈ sortDescending key rows ↔ row ∈ rows :=
  (sortDescending_perm key rows).mem_iff

theorem sortDescending_pairwise (key : Row → Key) (rows : List Row) :
    (sortDescending key rows).Pairwise fun first second => key second ≤ key first := by
  have : Std.Total fun first second : Row => key second ≤ key first :=
    ⟨fun first second => le_total (key second) (key first)⟩
  have : IsTrans Row fun first second => key second ≤ key first :=
    ⟨fun _ _ _ earlier later => later.trans earlier⟩
  exact List.pairwise_insertionSort _ rows

/-- The keys of the ordered rows, when they are known in descending order. -/
theorem map_sortDescending {keys : List Key} (perm : (rows.map key).Perm keys)
    (descending : keys.Pairwise fun first second => second ≤ first) :
    (sortDescending key rows).map key = keys := by
  have ordered : ((sortDescending key rows).map key).Pairwise fun first second =>
      second ≤ first := List.pairwise_map.mpr (sortDescending_pairwise key rows)
  have samePerm := ((sortDescending_perm key rows).map key).trans perm
  exact samePerm.eq_of_pairwise (fun _ _ _ _ below above => le_antisymm above below) ordered
    descending

/-- The first row in descending order has the greatest key. -/
theorem head_sortDescending {top : Row} (first : (sortDescending key rows).head? = some top) :
    top ∈ rows ∧ ∀ row ∈ rows, key row ≤ key top := by
  obtain ⟨rest, split⟩ := List.head?_eq_some_iff.mp first
  have pairwise := sortDescending_pairwise key rows
  rw [split] at pairwise
  refine ⟨mem_sortDescending.mp (split ▸ List.mem_cons_self), fun row member => ?_⟩
  rcases List.mem_cons.mp (split ▸ mem_sortDescending.mpr member) with rfl | later
  · exact le_rfl
  · exact (List.pairwise_cons.mp pairwise).1 row later

@[simp] theorem head_sortDescending_eq_none :
    (sortDescending key rows).head? = none ↔ rows = [] := by
  rw [List.head?_eq_none_iff]
  exact ⟨fun empty => List.Perm.nil_eq (empty ▸ sortDescending_perm key rows) |>.symm,
    fun empty => by rw [empty]; rfl⟩

/-- The least value does not depend on the order. -/
theorem min?_eq_of_perm {first second : List Key} (perm : first.Perm second) :
    first.min? = second.min? := by
  ext least
  simp only [List.min?_eq_some_iff, perm.mem_iff]

/-- The greatest value does not depend on the order. -/
theorem max?_eq_of_perm {first second : List Key} (perm : first.Perm second) :
    first.max? = second.max? := by
  ext greatest
  simp only [List.max?_eq_some_iff, perm.mem_iff]

end Descending

end Foundations
