import LlmopsPlatform.Python.JsonReader

/-!
# The fuel of the reader

Every part of the reader consumes some of its text, so the fuel that `loadsText` gives is
enough: with more of it, a text is read, or rejected, in the same way (`loadsWithin_eq`).
-/

set_option autoImplicit false

namespace Python

variable {floats : FloatFormat} {text rest : List Char}

/-- A computation succeeds if its parts do. -/
theorem exists_of_bind_eq_ok {Result Next : Type} {first : Except PyException Result}
    {next : Result → Except PyException Next} {final : Next}
    (ok : (first >>= next) = .ok final) :
    ∃ value, first = .ok value ∧ next value = .ok final := by
  cases first with
  | error failure => cases ok
  | ok value => exact ⟨value, rfl, ok⟩

theorem length_skipBlanks_le (text : List Char) : (skipBlanks text).length ≤ text.length :=
  (List.dropWhile_sublist _).length_le

/-! ## What is consumed -/

theorem readPieces_shorter {pieces : List StringPiece}
    (read : readPieces text = some (pieces, rest)) : rest.length < text.length := by
  fun_induction readPieces text generalizing pieces rest with
  | case1 => cases read
  | case2 later =>
      cases read
      exact Nat.lt_succ_self _
  | case3 first second third fourth later unit others remaining readLater isUnit notQuote ih =>
      cases read
      have shorter := ih readLater
      simp only [List.length_cons]
      omega
  | case4 => cases read
  | case5 letter later noUnit char others remaining readLater isLetter notQuote ih =>
      cases read
      have shorter := ih readLater
      simp only [List.length_cons]
      omega
  | case6 => cases read
  | case7 => cases read
  | case8 => cases read
  | case9 char later notQuote notBackslash printable others remaining readLater ih =>
      cases read
      have shorter := ih readLater
      simp only [List.length_cons]
      omega
  | case10 => cases read

theorem readString_shorter {chars : List Char} (read : readString text = .ok (chars, rest)) :
    rest.length < text.length := by
  unfold readString at read
  split at read
  · cases read
  · rename_i pieces remaining isRead
    split at read
    · cases read
    · cases read
      exact readPieces_shorter isRead

theorem length_afterDigits_le (text : List Char) : (afterDigits text).length ≤ text.length :=
  (List.dropWhile_sublist _).length_le

theorem readWhole_shorter {whole : List Char} (read : readWhole text = some (whole, rest)) :
    rest.length < text.length := by
  unfold readWhole at read
  split at read
  · rename_i isZero
    cases read
    cases text with
    | nil => cases isZero
    | cons char later => exact Nat.lt_succ_self _
  · split at read
    · cases read
    · rename_i filled
      cases read
      cases text with
      | nil => exact absurd rfl filled
      | cons char later =>
          by_cases isDigit : char.isDigit
          · have tail : afterDigits (char :: later) = afterDigits later :=
              List.dropWhile_cons_of_pos isDigit
            rw [tail]
            exact Nat.lt_succ_of_le (length_afterDigits_le later)
          · exact absurd (List.takeWhile_cons_of_neg isDigit) filled

theorem length_readFraction_le (text : List Char) :
    (readFraction text).2.length ≤ text.length := by
  unfold readFraction
  split
  · exact (length_afterDigits_le _).trans (by simp)
  · exact le_rfl

theorem length_readSign_le (text : List Char) : (readSign text).2.length ≤ text.length := by
  cases text with
  | nil => exact le_rfl
  | cons sign later =>
      rw [readSign]
      split
      · exact Nat.le_succ _
      · exact le_rfl

theorem length_readExponent_le (text : List Char) :
    (readExponent text).2.length ≤ text.length := by
  cases text with
  | nil => exact le_rfl
  | cons mark later =>
      rw [readExponent]
      split
      · exact ((length_afterDigits_le _).trans (length_readSign_le later)).trans (Nat.le_succ _)
      · exact le_rfl

theorem readUnsigned_shorter {negative : Bool} {number : NumberText}
    (read : readUnsigned negative text = some (number, rest)) : rest.length < text.length := by
  unfold readUnsigned at read
  split at read
  · cases read
  · rename_i whole afterWhole isWhole
    cases read
    exact ((length_readExponent_le _).trans (length_readFraction_le _)).trans_lt
      (readWhole_shorter isWhole)

theorem readNumber_shorter {number : NumberText} (read : readNumber text = some (number, rest)) :
    rest.length < text.length := by
  unfold readNumber at read
  split at read
  · exact (readUnsigned_shorter read).trans_le (by simp)
  · exact readUnsigned_shorter read

theorem readScalar_shorter {value : Json} (read : readScalar floats text = .ok (value, rest)) :
    rest.length < text.length := by
  unfold readScalar at read
  split at read
  · rename_i word found isFound
    cases read
    have isWord := List.mem_of_find?_eq_some isFound
    have isThere : word.isPrefixOf text = true :=
      List.find?_some (p := fun word : List Char × Json => word.1.isPrefixOf text) isFound
    have filled : 0 < word.length := by
      simp only [jsonWords, List.mem_cons, List.not_mem_nil, or_false, Prod.mk.injEq] at isWord
      rcases isWord with same | same | same | same | same | same <;> rw [same.1] <;> decide
    have fits := (List.isPrefixOf_iff_prefix.mp isThere).length_le
    rw [List.length_drop]
    omega
  · split at read
    · rename_i number remaining isNumber
      cases isValue : number.value floats with
      | error failure =>
          rw [isValue] at read
          cases read
      | ok value =>
          rw [isValue] at read
          cases read
          exact readNumber_shorter isNumber
    · cases read

theorem readKey_shorter {key : String} (read : readKey text = .ok (key, rest)) :
    rest.length < text.length := by
  unfold readKey at read
  split at read
  · rename_i first later
    split at read
    · cases isString : readString later with
      | error failure =>
          rw [isString] at read
          cases read
      | ok chars =>
          rw [isString] at read
          simp only [bind, Except.bind] at read
          have shorter := readString_shorter isString
          have noLonger := length_skipBlanks_le chars.2
          split at read
          · rename_i remaining isColon
            cases read
            have fewer := length_skipBlanks_le remaining
            rw [isColon, List.length_cons] at noLonger
            rw [List.length_cons]
            omega
          · cases read
    · cases read
  · cases read

/-- What is left after a value, the items of a list or the entries of an object. -/
theorem read_shorter (fuel : ℕ) :
    (∀ (text : List Char) (read : Json × List Char), readValue floats fuel text = .ok read →
      read.2.length < text.length) ∧
    (∀ (text : List Char) (read : List Json × List Char), readItems floats fuel text = .ok read →
      read.2.length < text.length) ∧
    (∀ (text : List Char) (read : List (String × Json) × List Char),
      readEntries floats fuel text = .ok read → read.2.length < text.length) := by
  induction fuel with
  | zero =>
      refine ⟨fun text read isRead => ?_, fun text read isRead => ?_, fun text read isRead => ?_⟩
      · cases isRead
      · cases isRead
      · cases isRead
  | succ fuel ih =>
      obtain ⟨values, items, entries⟩ := ih
      refine ⟨fun text read isRead => ?_, fun text read isRead => ?_, fun text read isRead => ?_⟩
      · cases text with
        | nil => cases isRead
        | cons first later =>
            have noLonger := length_skipBlanks_le later
            have tail : (skipBlanks later).tail.length ≤ (skipBlanks later).length := by simp
            rw [List.length_cons]
            rw [readValue] at isRead
            split_ifs at isRead with isQuote isBracket noItems isBrace noEntries
            · obtain ⟨chars, isString, last⟩ := exists_of_bind_eq_ok isRead
              cases last
              have shorter := readString_shorter isString
              dsimp only
              omega
            · cases isRead
              dsimp only
              omega
            · obtain ⟨inside, areItems, last⟩ := exists_of_bind_eq_ok isRead
              cases last
              have shorter := items _ _ areItems
              dsimp only
              omega
            · cases isRead
              dsimp only
              omega
            · obtain ⟨inside, areEntries, last⟩ := exists_of_bind_eq_ok isRead
              cases last
              have shorter := entries _ _ areEntries
              dsimp only
              omega
            · exact readScalar_shorter isRead
      · rw [readItems] at isRead
        obtain ⟨item, isItem, next⟩ := exists_of_bind_eq_ok isRead
        have shorter := values _ _ isItem
        have noLonger := length_skipBlanks_le item.2
        dsimp only at next
        split at next
        · rename_i remaining isClosing
          cases next
          rw [isClosing, List.length_cons] at noLonger
          dsimp only
          omega
        · rename_i remaining isComma
          obtain ⟨others, areOthers, last⟩ := exists_of_bind_eq_ok next
          cases last
          have fewer := items _ _ areOthers
          have blanks := length_skipBlanks_le remaining
          rw [isComma, List.length_cons] at noLonger
          dsimp only
          omega
        · cases next
      · rw [readEntries] at isRead
        obtain ⟨key, isKey, afterKey⟩ := exists_of_bind_eq_ok isRead
        obtain ⟨value, isValue, next⟩ := exists_of_bind_eq_ok afterKey
        have keyShorter := readKey_shorter isKey
        have shorter := values _ _ isValue
        have noLonger := length_skipBlanks_le value.2
        dsimp only at next
        split at next
        · rename_i remaining isComma
          obtain ⟨others, areOthers, last⟩ := exists_of_bind_eq_ok next
          cases last
          have fewer := entries _ _ areOthers
          have blanks := length_skipBlanks_le remaining
          rw [isComma, List.length_cons] at noLonger
          dsimp only
          omega
        · rename_i closing remaining notComma isClosing
          split at next
          · cases next
            rw [isClosing, List.length_cons] at noLonger
            dsimp only
            omega
          · cases next
        · cases next

/-! ## Enough fuel -/

/-- Two computations that agree on the results of a first one. -/
theorem bind_congr_ok {Result Next : Type} (first : Except PyException Result)
    {next other : Result → Except PyException Next}
    (agree : ∀ value, first = .ok value → next value = other value) :
    (first >>= next) = (first >>= other) := by
  cases first with
  | error failure => rfl
  | ok value => exact agree value rfl

/-- More fuel than enough does not change what is read. -/
theorem read_fuel (fuel : ℕ) :
    (∀ (text : List Char) (more : ℕ), 2 * text.length < fuel → fuel ≤ more →
      readValue floats more text = readValue floats fuel text) ∧
    (∀ (text : List Char) (more : ℕ), 2 * text.length + 1 < fuel → fuel ≤ more →
      readItems floats more text = readItems floats fuel text) ∧
    (∀ (text : List Char) (more : ℕ), 2 * text.length + 1 < fuel → fuel ≤ more →
      readEntries floats more text = readEntries floats fuel text) := by
  induction fuel with
  | zero =>
      refine ⟨fun text more enough => ?_, fun text more enough => ?_, fun text more enough => ?_⟩
      · omega
      · omega
      · omega
  | succ fuel ih =>
      obtain ⟨values, items, entries⟩ := ih
      obtain ⟨valuesShorter, -, -⟩ := @read_shorter floats fuel
      refine ⟨fun text more enough le => ?_, fun text more enough le => ?_,
        fun text more enough le => ?_⟩
      · obtain ⟨more, rfl⟩ : ∃ less, more = less + 1 := ⟨more - 1, by omega⟩
        cases text with
        | nil => rfl
        | cons first later =>
            have noLonger := length_skipBlanks_le later
            rw [List.length_cons] at enough
            rw [readValue, readValue, items (skipBlanks later) more (by omega) (by omega),
              entries (skipBlanks later) more (by omega) (by omega)]
      · obtain ⟨more, rfl⟩ : ∃ less, more = less + 1 := ⟨more - 1, by omega⟩
        rw [readItems, readItems, values text more (by omega) (by omega)]
        refine bind_congr_ok _ fun item isItem => ?_
        have shorter := valuesShorter _ _ isItem
        have noLonger := length_skipBlanks_le item.2
        dsimp only
        split
        · rfl
        · rename_i remaining isComma
          have blanks := length_skipBlanks_le remaining
          rw [isComma, List.length_cons] at noLonger
          rw [items (skipBlanks remaining) more (by omega) (by omega)]
        · rfl
      · obtain ⟨more, rfl⟩ : ∃ less, more = less + 1 := ⟨more - 1, by omega⟩
        rw [readEntries, readEntries]
        refine bind_congr_ok _ fun key isKey => ?_
        have keyShorter := readKey_shorter isKey
        dsimp only
        rw [values key.2 more (by omega) (by omega)]
        refine bind_congr_ok _ fun value isValue => ?_
        have shorter := valuesShorter _ _ isValue
        have noLonger := length_skipBlanks_le value.2
        split
        · rename_i remaining isComma
          have blanks := length_skipBlanks_le remaining
          rw [isComma, List.length_cons] at noLonger
          rw [entries (skipBlanks remaining) more (by omega) (by omega)]
        · rfl
        · rfl

/-- **The fuel is enough.** With more of it a text is read, or rejected, in the same way. -/
theorem loadsWithin_eq (floats : FloatFormat) (text : List Char) {fuel : ℕ}
    (more : 2 * text.length + 1 ≤ fuel) :
    loadsWithin floats fuel text = loadsText floats text := by
  have shorter := length_skipBlanks_le text
  have same := (@read_fuel floats (2 * text.length + 1)).1 (skipBlanks text) fuel (by omega)
    more
  rw [loadsText, loadsWithin, loadsWithin, same]

end Python
