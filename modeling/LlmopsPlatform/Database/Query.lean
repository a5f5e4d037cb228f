import LlmopsPlatform.Foundations.KeyedRows
import LlmopsPlatform.Python.Json

/-!
# Results of database queries

The parts of SQLAlchemy that the repositories use on the rows a query returned, and
the exceptions the database raises.
-/

set_option autoImplicit false

namespace LlmopsPlatform.Database

open Foundations Python

/-- A reading of the database clock. -/
abbrev Timestamp := Nat

/-- A statement broke a constraint. -/
def integrityError : PyException := .exception "IntegrityError"

/-- `Result.scalar_one_or_none()`: at most one row is allowed. -/
def scalarOneOrNone {Row : Type} : List Row → Except PyException (Option Row)
  | [] => .ok none
  | [row] => .ok (some row)
  | _ :: _ :: _ => .error (.exception "MultipleResultsFound")

/-- A query by a unique key finds its row, or there is no such row. -/
theorem scalarOneOrNone_filter_key {Row Key : Type} [DecidableEq Key] {key : Row → Key}
    {rows : List Row} (unique : UniqueKey key rows) (wanted : Key) :
    (∃ row ∈ rows, key row = wanted ∧
      scalarOneOrNone (rows.filter fun other => key other = wanted) = .ok (some row)) ∨
    (∀ row ∈ rows, key row ≠ wanted) ∧
      scalarOneOrNone (rows.filter fun other => key other = wanted) = .ok none := by
  by_cases present : ∃ row ∈ rows, key row = wanted
  · obtain ⟨row, member, rfl⟩ := present
    exact .inl ⟨row, member, rfl, by rw [unique.filter_eq_singleton member]; rfl⟩
  · have absent : ∀ row ∈ rows, key row ≠ wanted :=
      fun row member same => present ⟨row, member, same⟩
    have nothing : rows.filter (fun other => key other = wanted) = [] :=
      List.filter_eq_nil_iff.mpr fun row member => by simpa using absent row member
    exact .inr ⟨absent, by rw [nothing]; rfl⟩

end LlmopsPlatform.Database
