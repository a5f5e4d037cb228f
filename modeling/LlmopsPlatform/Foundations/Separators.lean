import Mathlib.Data.List.Basic

/-!
# Sequences with separators

Two parts joined by a separator determine the joined sequence, but not the other way
round: the separator can also occur inside a part, and then the same sequence is joined
from other parts, cut at another separator (`append_separator_eq_iff`).

Parts without the separator, joined by it, have no separator at either end as long as none
of them is empty (`separator_not_end`).

A doubled separator ends a line that has no separator itself. The lines are then read
back from the sequence, whatever follows them (`splitDoubled_append`). A sequence that is cut
anywhere has its first lines as a whole, and nothing else that looks like a line
(`splitDoubled_take`).
-/

set_option autoImplicit false

namespace Foundations

variable {Symbol : Type*} {separator : Symbol}

/-! ## One separator between two parts -/

/-- Two parts from two others whose join is the same, with the cut moved to a later
separator. -/
def LaterCut (separator : Symbol) (first rest laterFirst laterRest : List Symbol) : Prop :=
  ∃ middle, laterFirst = first ++ separator :: middle ∧ rest = middle ++ separator :: laterRest

theorem LaterCut.join_eq {first rest laterFirst laterRest : List Symbol}
    (later : LaterCut separator first rest laterFirst laterRest) :
    first ++ separator :: rest = laterFirst ++ separator :: laterRest := by
  obtain ⟨middle, rfl, rfl⟩ := later
  rw [List.append_assoc, List.cons_append]

/-- A later cut has a longer first part. -/
theorem LaterCut.ne {first rest laterFirst laterRest : List Symbol}
    (later : LaterCut separator first rest laterFirst laterRest) : laterFirst ≠ first := by
  obtain ⟨middle, rfl, -⟩ := later
  intro same
  have lengths := congrArg List.length same
  simp only [List.length_append, List.length_cons] at lengths
  omega

/-- The first part of one join and some more symbols are the first part of the other. -/
theorem eq_or_laterCut {first rest piece otherRest : List Symbol}
    (parts : separator :: rest = piece ++ separator :: otherRest) :
    (first = first ++ piece ∧ rest = otherRest) ∨
      LaterCut separator first rest (first ++ piece) otherRest := by
  cases piece with
  | nil =>
      rw [List.nil_append, List.cons.injEq] at parts
      exact .inl ⟨(List.append_nil first).symm, parts.2⟩
  | cons symbol middle =>
      rw [List.cons_append, List.cons.injEq] at parts
      obtain ⟨rfl, parts⟩ := parts
      exact .inr ⟨middle, rfl, parts⟩

/-- **Joined parts.** Two joins are equal when their parts are, or when one of them is cut at
a later separator than the other, and in no other case. -/
theorem append_separator_eq_iff {first rest otherFirst otherRest : List Symbol} :
    first ++ separator :: rest = otherFirst ++ separator :: otherRest ↔
      (first = otherFirst ∧ rest = otherRest) ∨
        LaterCut separator first rest otherFirst otherRest ∨
        LaterCut separator otherFirst otherRest first rest := by
  constructor
  · intro same
    rcases List.append_eq_append_iff.mp same with ⟨piece, rfl, parts⟩ | ⟨piece, rfl, parts⟩
    · rcases @eq_or_laterCut _ _ first _ _ _ parts with equal | later
      · exact .inl equal
      · exact .inr (.inl later)
    · rcases @eq_or_laterCut _ _ otherFirst _ _ _ parts with ⟨firsts, rests⟩ | later
      · exact .inl ⟨firsts.symm, rests.symm⟩
      · exact .inr (.inr later)
  · rintro (⟨rfl, rfl⟩ | later | later)
    · rfl
    · exact later.join_eq
    · exact later.join_eq.symm

/-! ## One separator between any number of parts -/

/-- The first and the last symbol of non-empty parts that are joined are symbols of a part. -/
theorem exists_part_of_end {parts : List (List Symbol)} (filled : ∀ part ∈ parts, part ≠ [])
    {symbol : Symbol} :
    symbol ∈ ([separator].intercalate parts).head? ∨
        symbol ∈ ([separator].intercalate parts).getLast? →
      ∃ part ∈ parts, symbol ∈ part := by
  induction parts with
  | nil => simp
  | cons part rest ih =>
      have laterFilled : ∀ other ∈ rest, other ≠ [] := by
        intro other member
        exact filled other (List.mem_cons_of_mem _ member)
      cases rest with
      | nil =>
          rw [List.intercalate_singleton]
          rintro (atStart | atEnd)
          · exact ⟨part, List.mem_cons_self, List.mem_of_mem_head? atStart⟩
          · exact ⟨part, List.mem_cons_self, List.mem_of_mem_getLast? atEnd⟩
      | cons next more =>
          have nonempty : [separator].intercalate (next :: more) ≠ [] := by
            cases more with
            | nil =>
                rw [List.intercalate_singleton]
                exact laterFilled next List.mem_cons_self
            | cons other further => simp [List.intercalate_cons_cons]
          -- The first symbol is one of this part, and the last is one of the parts after it.
          rw [List.intercalate_cons_cons, List.append_assoc,
            List.head?_append_of_ne_nil _ (filled part List.mem_cons_self), ← List.append_assoc,
            List.getLast?_append_of_ne_nil _ nonempty]
          rintro (atStart | atEnd)
          · exact ⟨part, List.mem_cons_self, List.mem_of_mem_head? atStart⟩
          · obtain ⟨other, isOther, member⟩ := ih laterFilled (.inr atEnd)
            exact ⟨other, List.mem_cons_of_mem _ isOther, member⟩

/-- **No separator at the ends** of joined parts that are not empty. -/
theorem separator_not_end {parts : List (List Symbol)} (filled : ∀ part ∈ parts, part ≠ [])
    (absent : ∀ part ∈ parts, separator ∉ part) {symbol : Symbol}
    (isEnd : symbol ∈ ([separator].intercalate parts).head? ∨
      symbol ∈ ([separator].intercalate parts).getLast?) :
    symbol ∉ [separator] := by
  obtain ⟨part, isPart, member⟩ := exists_part_of_end filled isEnd
  rw [List.mem_singleton]
  rintro rfl
  exact absent part isPart member

/-! ## Lines that end with a doubled separator -/

/-- Lines, each ended with a doubled separator. -/
def doubleEnded (separator : Symbol) (lines : List (List Symbol)) : List Symbol :=
  lines.flatMap fun line => line ++ [separator, separator]

theorem length_doubleEnded_cons (line : List Symbol) (rest : List (List Symbol)) :
    (doubleEnded separator (line :: rest)).length =
      line.length + 2 + (doubleEnded separator rest).length := by
  rw [doubleEnded, List.flatMap_cons, List.length_append, List.length_append]
  rfl

variable [DecidableEq Symbol]

/-- The pieces between doubled separators, read from the left. The last piece is what
follows the last one. -/
def splitDoubled (separator : Symbol) : List Symbol → List (List Symbol)
  | [] => [[]]
  | [symbol] => [[symbol]]
  | symbol :: next :: rest =>
      if symbol = separator ∧ next = separator then [] :: splitDoubled separator rest
      else (splitDoubled separator (next :: rest)).modifyHead (symbol :: ·)

/-- A symbol that is no separator belongs to the first piece. -/
theorem splitDoubled_cons_of_ne {symbol : Symbol} (other : symbol ≠ separator)
    (rest : List Symbol) :
    splitDoubled separator (symbol :: rest) =
      (splitDoubled separator rest).modifyHead (symbol :: ·) := by
  cases rest with
  | nil => rfl
  | cons next further =>
      rw [splitDoubled, if_neg]
      exact fun both => other both.1

/-- **A line is read back** when a doubled separator follows it, whatever comes then. -/
theorem splitDoubled_append {line : List Symbol} (single : separator ∉ line)
    (rest : List Symbol) :
    splitDoubled separator (line ++ separator :: separator :: rest) =
      line :: splitDoubled separator rest := by
  induction line with
  | nil => rw [List.nil_append, splitDoubled, if_pos ⟨rfl, rfl⟩]
  | cons symbol further ih =>
      rw [List.mem_cons, not_or] at single
      rw [List.cons_append, splitDoubled_cons_of_ne (Ne.symm single.1), ih single.2]
      rfl

/-- **Lines are read back** one by one, and nothing follows the last. -/
theorem splitDoubled_doubleEnded {lines : List (List Symbol)}
    (single : ∀ line ∈ lines, separator ∉ line) :
    splitDoubled separator (doubleEnded separator lines) = lines ++ [[]] := by
  induction lines with
  | nil => rfl
  | cons line rest ih =>
      have later : ∀ other ∈ rest, separator ∉ other := by
        intro other member
        exact single other (List.mem_cons_of_mem _ member)
      have parts : doubleEnded separator (line :: rest) =
          line ++ separator :: separator :: doubleEnded separator rest := by
        simp [doubleEnded]
      rw [parts, splitDoubled_append (single line List.mem_cons_self), ih later,
        List.cons_append]

/-- There is always a last piece. -/
theorem splitDoubled_ne_nil (symbols : List Symbol) : splitDoubled separator symbols ≠ [] := by
  fun_induction splitDoubled separator symbols with
  | case1 => exact List.cons_ne_nil _ _
  | case2 symbol => exact List.cons_ne_nil _ _
  | case3 symbol next rest doubled ih => exact List.cons_ne_nil _ _
  | case4 symbol next rest single ih => simpa [List.modifyHead_eq_nil_iff] using ih

/-- A part of a line is one piece, also when the first of its two separators follows. -/
theorem splitDoubled_part {part : List Symbol} (single : separator ∉ part) :
    splitDoubled separator part = [part] ∧
      splitDoubled separator (part ++ [separator]) = [part ++ [separator]] := by
  induction part with
  | nil => exact ⟨rfl, rfl⟩
  | cons symbol rest ih =>
      rw [List.mem_cons, not_or] at single
      obtain ⟨alone, followed⟩ := ih single.2
      rw [List.cons_append, splitDoubled_cons_of_ne (Ne.symm single.1),
        splitDoubled_cons_of_ne (Ne.symm single.1), alone, followed]
      exact ⟨rfl, rfl⟩

/-- **A sequence that is cut** has the first of its lines: those that are there with both
of their separators. -/
theorem splitDoubled_take {lines : List (List Symbol)}
    (single : ∀ line ∈ lines, separator ∉ line) (length : ℕ) :
    ∃ count, (splitDoubled separator ((doubleEnded separator lines).take length)).dropLast =
        lines.take count ∧
      ∀ first ≤ lines.length,
        first ≤ count ↔ (doubleEnded separator (lines.take first)).length ≤ length := by
  induction lines generalizing length with
  | nil =>
      refine ⟨0, by simp [doubleEnded, splitDoubled], fun first none => ?_⟩
      simp [Nat.le_zero.mp none, doubleEnded]
  | cons line rest ih =>
      obtain ⟨here, later⟩ := List.forall_mem_cons.mp single
      have parts : doubleEnded separator (line :: rest) =
          line ++ separator :: separator :: doubleEnded separator rest := by
        simp [doubleEnded]
      rcases Nat.lt_or_ge (line.length + 1) length with beyond | within
      · -- the line is whole, and the cut is in the lines after it
        obtain ⟨further, rfl⟩ := Nat.exists_eq_add_of_le (show line.length + 2 ≤ length from beyond)
        obtain ⟨count, remaining, whole⟩ := ih later further
        have left : line.length + 2 + further - line.length = further + 1 + 1 := by omega
        have cut : (doubleEnded separator (line :: rest)).take (line.length + 2 + further) =
            line ++ separator :: separator :: (doubleEnded separator rest).take further := by
          rw [parts, List.take_append, List.take_of_length_le (by omega), left,
            List.take_succ_cons, List.take_succ_cons]
        refine ⟨count + 1, ?_, fun first atMost => ?_⟩
        · rw [cut, splitDoubled_append here,
            List.dropLast_cons_of_ne_nil (splitDoubled_ne_nil _), remaining, List.take_succ_cons]
        · cases first with
          | zero => simp [doubleEnded]
          | succ fewer =>
              rw [Nat.succ_le_succ_iff, whole fewer (Nat.le_of_succ_le_succ atMost),
                List.take_succ_cons, length_doubleEnded_cons, Nat.add_le_add_iff_left]
      · refine ⟨0, ?_, fun first _ => ?_⟩
        · have split : doubleEnded separator (line :: rest) =
              (line ++ [separator]) ++ separator :: doubleEnded separator rest := by
            simp [parts]
          rw [split, List.take_append_of_le_length (by simpa using within), List.take_zero]
          rcases Nat.lt_or_ge line.length length with ended | inside
          · rw [List.take_of_length_le (by simp; omega), (splitDoubled_part here).2]
            rfl
          · have part : separator ∉ line.take length :=
              fun member => here (List.mem_of_mem_take member)
            rw [List.take_append_of_le_length inside, (splitDoubled_part part).1]
            rfl
        · cases first with
          | zero => simp [doubleEnded]
          | succ fewer =>
              rw [List.take_succ_cons, length_doubleEnded_cons]
              omega

end Foundations
