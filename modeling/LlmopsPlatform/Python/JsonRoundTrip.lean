import LlmopsPlatform.Python.JsonReader

/-!
# What `json.dumps` wrote, `json.loads` reads

`loads` inverts `dumps` on every value whose dictionaries have distinct keys, whose integers
are not too long to be written, and whose floats are read back by the float type
(`loads_dumps`). The text of such a value is a single line of printable characters
(`printable_of_mem_writeJson`).
-/

set_option autoImplicit false

namespace Python

open Foundations

/-- The values that can be written and read back. -/
inductive Json.Writable (floats : FloatFormat) : Json → Prop where
  | null : Writable floats .null
  | bool (truth : Bool) : Writable floats (.bool truth)
  | int (value : ℤ) (short : value.natAbs < 10 ^ maxStrDigits) : Writable floats (.int value)
  | finite (value : ℚ) (reads : floats.ReadsBack value) : Writable floats (.float (.finite value))
  | special (value : PyFloat) (notFinite : ∀ finite, value ≠ .finite finite) :
      Writable floats (.float value)
  | str (text : String) : Writable floats (.str text)
  | list (items : List Json) (each : ∀ item ∈ items, Writable floats item) :
      Writable floats (.list items)
  | dict (entries : List (String × Json)) (distinct : (entries.map Prod.fst).Nodup)
      (each : ∀ entry ∈ entries, Writable floats entry.2) : Writable floats (.dict entries)

variable {floats : FloatFormat} {data : Json} {rest : List Char}

/-! ## The first character of a value -/

/-- A character that begins a value. -/
def StartsValue (text : List Char) : Prop :=
  ∃ first later, text = first :: later ∧ isBlank first = false ∧ first ≠ ']' ∧
    first ≠ byteOrderMark

theorem StartsValue.append {text : List Char} (starts : StartsValue text) (rest : List Char) :
    StartsValue (text ++ rest) := by
  obtain ⟨first, later, rfl, conditions⟩ := starts
  exact ⟨first, later ++ rest, rfl, conditions⟩

theorem skipBlanks_of_starts {text : List Char} (starts : StartsValue text) :
    skipBlanks text = text ∧ text.head? ≠ some ']' := by
  obtain ⟨first, later, rfl, notBlank, notClosing, -⟩ := starts
  exact ⟨List.dropWhile_cons_of_neg (by simp [notBlank]), by simpa using notClosing⟩

/-- A number begins with a digit, which a minus sign may precede. -/
theorem NumberText.Valid.exists_digit {number : NumberText} (valid : number.Valid) :
    ∃ digit later, digit.isDigit ∧
      (number.text = digit :: later ∨ number.text = '-' :: digit :: later) := by
  have filled : ∃ digit later, number.whole = digit :: later ∧ digit.isDigit := by
    rcases valid.whole with zero | ⟨nonempty, -, all⟩
    · exact ⟨'0', [], zero, rfl⟩
    · obtain ⟨digit, later, isWhole⟩ := List.exists_cons_of_ne_nil nonempty
      exact ⟨digit, later, isWhole, all digit (by rw [isWhole]; exact List.mem_cons_self)⟩
  obtain ⟨digit, later, isWhole, isDigit⟩ := filled
  refine ⟨digit, later ++ number.fraction ++ number.exponent, isDigit, ?_⟩
  rw [NumberText.text, isWhole]
  cases number.negative
  · exact .inl (by simp)
  · exact .inr (by simp)

/-- A digit is no other character that begins a value. -/
theorem ne_of_isDigit {digit other : Char} (isDigit : digit.isDigit)
    (noDigit : other.isDigit = false) :
    digit ≠ other := by
  rintro rfl
  rw [isDigit] at noDigit
  cases noDigit

theorem StartsValue.of_number {number : NumberText} (valid : number.Valid) :
    StartsValue number.text := by
  obtain ⟨digit, later, isDigit, text | text⟩ := valid.exists_digit
  · refine ⟨digit, later, text, ?_, ne_of_isDigit isDigit rfl, ne_of_isDigit isDigit rfl⟩
    refine decide_eq_false ?_
    rintro (blank | blank | blank | blank)
    · exact ne_of_isDigit isDigit rfl blank
    · exact ne_of_isDigit isDigit rfl blank
    · exact ne_of_isDigit isDigit rfl blank
    · exact ne_of_isDigit isDigit rfl blank
  · exact ⟨'-', digit :: later, text, rfl, by decide, by decide⟩

/-- A word that begins with another character is not there. -/
theorem not_isPrefixOf {first char : Char} (different : char ≠ first) (word text : List Char) :
    ¬ (first :: word).isPrefixOf (char :: text) = true := by
  simp [List.isPrefixOf, different.symm]

/-- No word stands where a number does. -/
theorem find_words_number {number : NumberText} (valid : number.Valid) (rest : List Char) :
    (jsonWords.find? fun word => word.1.isPrefixOf (number.text ++ rest)) = none := by
  refine List.find?_eq_none.mpr fun word member => ?_
  simp only [jsonWords, List.mem_cons, List.not_mem_nil, or_false] at member
  obtain ⟨digit, later, isDigit, text | text⟩ := valid.exists_digit
  · rw [text, List.cons_append]
    rcases member with rfl | rfl | rfl | rfl | rfl | rfl <;>
      exact not_isPrefixOf (ne_of_isDigit isDigit rfl) _ _
  · rw [text, List.cons_append, List.cons_append]
    rcases member with rfl | rfl | rfl | rfl | rfl | rfl
    all_goals try exact not_isPrefixOf (by decide) _ _
    -- the sign of "-Infinity" is not followed by a digit
    simpa [List.isPrefixOf] using fun same => absurd same.symm (ne_of_isDigit isDigit rfl)

theorem readScalar_number {number : NumberText} (valid : number.Valid) (ends : EndsNumber rest) :
    readScalar floats (number.text ++ rest) =
      (number.value floats).map fun value => (value, rest) := by
  rw [readScalar, find_words_number valid]
  simp only [readNumber_text valid ends]
  cases number.value floats <;> rfl

/-- A word is read as its value. -/
theorem readScalar_word {word : List Char × Json} (member : word ∈ jsonWords) (rest : List Char) :
    readScalar floats (word.1 ++ rest) = .ok (word.2, rest) := by
  simp only [jsonWords, List.mem_cons, List.not_mem_nil, or_false] at member
  rcases member with rfl | rfl | rfl | rfl | rfl | rfl <;> rfl

/-! ## Values -/

/-- Given enough fuel, a text is read as a value, whatever follows. -/
def ReadsAs (floats : FloatFormat) (data : Json) : Prop :=
  ∀ fuel rest, 2 * (writeJson floats data).length < fuel → EndsNumber rest →
    readValue floats fuel (writeJson floats data ++ rest) = .ok (data, rest)

/-- Scalars do not begin with a bracket, a brace or a quote. -/
theorem readsAs_of_scalar {first : Char} {later : List Char}
    (text : writeJson floats data = first :: later) (notQuote : first ≠ quote)
    (notBracket : first ≠ '[') (notBrace : first ≠ openBrace)
    (reads : ∀ rest, EndsNumber rest →
      readScalar floats (writeJson floats data ++ rest) = .ok (data, rest)) :
    ReadsAs floats data := by
  intro fuel rest enough ends
  obtain ⟨fuel, rfl⟩ : ∃ less, fuel = less + 1 := ⟨fuel - 1, by omega⟩
  have scalar := reads rest ends
  rw [text, List.cons_append] at scalar ⊢
  rw [readValue, if_neg notQuote, if_neg notBracket, if_neg notBrace, scalar]

/-- So is no number. -/
theorem readsAs_of_number {number : NumberText} (valid : number.Valid)
    (text : writeJson floats data = number.text) (value : number.value floats = .ok data) :
    ReadsAs floats data := by
  have reads : ∀ rest, EndsNumber rest →
      readScalar floats (writeJson floats data ++ rest) = .ok (data, rest) := by
    intro rest ends
    rw [text, readScalar_number valid ends, value]
    rfl
  obtain ⟨digit, later, isDigit, written | written⟩ := valid.exists_digit
  · exact readsAs_of_scalar (text.trans written) (ne_of_isDigit isDigit rfl)
      (ne_of_isDigit isDigit rfl) (ne_of_isDigit isDigit rfl) reads
  · exact readsAs_of_scalar (text.trans written) (by decide) (by decide) (by decide) reads

theorem readsAs_of_word (word : List Char × Json) (member : word ∈ jsonWords)
    (text : writeJson floats word.2 = word.1) : ReadsAs floats word.2 := by
  have reads : ∀ rest, EndsNumber rest →
      readScalar floats (writeJson floats word.2 ++ rest) = .ok (word.2, rest) := by
    intro rest _
    rw [text]
    exact readScalar_word member rest
  simp only [jsonWords, List.mem_cons, List.not_mem_nil, or_false] at member
  rcases member with rfl | rfl | rfl | rfl | rfl | rfl <;>
    exact readsAs_of_scalar text (by decide) (by decide) (by decide) reads

theorem readsAs_str (text : String) : ReadsAs floats (.str text) := by
  intro fuel rest enough ends
  obtain ⟨fuel, rfl⟩ : ∃ less, fuel = less + 1 := ⟨fuel - 1, by omega⟩
  have written : writeJson floats (.str text) ++ rest =
      quote :: (escape text.toList ++ quote :: rest) := by
    rw [writeJson, dumpsText, List.cons_append, List.append_assoc, List.singleton_append]
  rw [written, readValue, if_pos rfl, readString_escape]
  simp only [bind, Except.bind, String.ofList_toList]

/-! ### Lists -/

theorem skipBlanks_cons {first : Char} (notBlank : isBlank first = false) (rest : List Char) :
    skipBlanks (first :: rest) = first :: rest :=
  List.dropWhile_cons_of_neg (by simp [notBlank])

theorem skipBlanks_space (rest : List Char) : skipBlanks (space :: rest) = skipBlanks rest :=
  List.dropWhile_cons_of_pos rfl

theorem endsNumber_cons {first : Char} (noDigit : first.isDigit = false) (noPoint : first ≠ '.')
    (notSmall : first ≠ 'e') (notLarge : first ≠ 'E') (rest : List Char) :
    EndsNumber (first :: rest) := by
  rintro char ⟨⟩
  exact ⟨noDigit, noPoint, notSmall, notLarge⟩

/-- The items of a list are read one by one. -/
theorem readItems_write {first : Json} {later : List Json}
    (each : ∀ item ∈ first :: later, ReadsAs floats item ∧ StartsValue (writeJson floats item)) :
    ∀ fuel rest,
      2 * ((writeJson floats first).length + (writeItems floats later).length) < fuel →
        readItems floats fuel (writeJson floats first ++ (writeItems floats later ++ rest)) =
          .ok (first :: later, rest) := by
  induction later generalizing first with
  | nil =>
      intro fuel rest enough
      obtain ⟨fuel, rfl⟩ : ∃ less, fuel = less + 1 := ⟨fuel - 1, by omega⟩
      have closing : writeItems floats [] ++ rest = ']' :: rest := rfl
      have length : (writeItems floats []).length = 1 := rfl
      rw [closing, readItems, (each first List.mem_cons_self).1 fuel _ (by omega)
        (endsNumber_cons rfl (by decide) (by decide) (by decide) _)]
      rfl
  | cons second later ih =>
      intro fuel rest enough
      obtain ⟨fuel, rfl⟩ : ∃ less, fuel = less + 1 := ⟨fuel - 1, by omega⟩
      have separated : writeItems floats (second :: later) ++ rest =
          ',' :: space :: (writeJson floats second ++ (writeItems floats later ++ rest)) := by
        rw [writeItems, List.cons_append, List.cons_append, List.append_assoc]
      have length : (writeItems floats (second :: later)).length =
          (writeJson floats second).length + (writeItems floats later).length + 2 := by
        rw [writeItems]
        simp [Nat.add_assoc]
      have starts := (each second (by simp)).2.append (writeItems floats later ++ rest)
      have others := @ih second
        (fun item member => each item (List.mem_cons_of_mem _ member)) fuel rest (by omega)
      rw [separated, readItems, (each first List.mem_cons_self).1 fuel _ (by omega)
        (endsNumber_cons rfl (by decide) (by decide) (by decide) _)]
      simp only [bind, Except.bind, skipBlanks_cons (show isBlank ',' = false from rfl),
        skipBlanks_space, (skipBlanks_of_starts starts).1, others]

theorem readsAs_list {items : List Json}
    (each : ∀ item ∈ items, ReadsAs floats item ∧ StartsValue (writeJson floats item)) :
    ReadsAs floats (.list items) := by
  intro fuel rest enough ends
  obtain ⟨fuel, rfl⟩ : ∃ less, fuel = less + 1 := ⟨fuel - 1, by omega⟩
  have notQuote : '[' ≠ quote := by decide
  cases items with
  | nil => rfl
  | cons first later =>
      have starts := (each first List.mem_cons_self).2.append (writeItems floats later ++ rest)
      rw [writeJson, List.length_cons, List.length_append] at enough
      have inside := readItems_write each fuel rest (by omega)
      rw [writeJson, List.cons_append, List.append_assoc, readValue, if_neg notQuote, if_pos rfl,
        (skipBlanks_of_starts starts).1, if_neg (skipBlanks_of_starts starts).2, inside]
      rfl

/-! ### Dictionaries -/

/-- An entry begins with the quote of its key. -/
theorem writeEntry_append (key : String) (value rest : List Char) :
    writeEntry key value ++ rest =
      quote :: (escape key.toList ++ quote :: ':' :: space :: (value ++ rest)) := by
  simp [writeEntry, dumpsText]

theorem readKey_write (key : String) {value : List Char} (starts : StartsValue value)
    (rest : List Char) : readKey (writeEntry key value ++ rest) = .ok (key, value ++ rest) := by
  rw [writeEntry_append, readKey, if_pos rfl, readString_escape]
  simp only [bind, Except.bind, skipBlanks_cons (show isBlank ':' = false from rfl),
    skipBlanks_space, (skipBlanks_of_starts (starts.append rest)).1, String.ofList_toList]

theorem length_writeEntry (key : String) (value : List Char) :
    value.length < (writeEntry key value).length := by
  simp only [writeEntry, dumpsText, List.length_append, List.length_cons]
  omega

/-- The entries of a dictionary are read one by one. -/
theorem readEntries_write {first : String × Json} {later : List (String × Json)}
    (each : ∀ entry ∈ first :: later,
      ReadsAs floats entry.2 ∧ StartsValue (writeJson floats entry.2)) :
    ∀ fuel rest,
      2 * ((writeEntry first.1 (writeJson floats first.2)).length +
        (writeEntries floats later).length) < fuel →
        readEntries floats fuel (writeEntry first.1 (writeJson floats first.2) ++
            (writeEntries floats later ++ rest)) = .ok (first :: later, rest) := by
  induction later generalizing first with
  | nil =>
      intro fuel rest enough
      obtain ⟨fuel, rfl⟩ : ∃ less, fuel = less + 1 := ⟨fuel - 1, by omega⟩
      obtain ⟨reads, starts⟩ := each first List.mem_cons_self
      have closing : writeEntries floats [] ++ rest = closeBrace :: rest := rfl
      have shorter := length_writeEntry first.1 (writeJson floats first.2)
      rw [closing, readEntries, readKey_write _ starts]
      simp only [bind, Except.bind]
      rw [reads fuel _ (by omega) (endsNumber_cons rfl (by decide) (by decide) (by decide) _)]
      rfl
  | cons second later ih =>
      intro fuel rest enough
      obtain ⟨fuel, rfl⟩ : ∃ less, fuel = less + 1 := ⟨fuel - 1, by omega⟩
      obtain ⟨reads, starts⟩ := each first List.mem_cons_self
      have separated : writeEntries floats (second :: later) ++ rest =
          ',' :: space :: (writeEntry second.1 (writeJson floats second.2) ++
            (writeEntries floats later ++ rest)) := by
        rw [writeEntries, List.cons_append, List.cons_append, List.append_assoc]
      have length : (writeEntries floats (second :: later)).length =
          (writeEntry second.1 (writeJson floats second.2)).length +
            (writeEntries floats later).length + 2 := by
        rw [writeEntries]
        simp [Nat.add_assoc]
      have shorter := length_writeEntry first.1 (writeJson floats first.2)
      have noBlank : skipBlanks (writeEntry second.1 (writeJson floats second.2) ++
          (writeEntries floats later ++ rest)) =
            writeEntry second.1 (writeJson floats second.2) ++
              (writeEntries floats later ++ rest) := by
        rw [writeEntry_append, skipBlanks_cons rfl]
      have others := @ih second
        (fun entry member => each entry (List.mem_cons_of_mem _ member)) fuel rest (by omega)
      rw [separated, readEntries, readKey_write _ starts]
      simp only [bind, Except.bind]
      rw [reads fuel _ (by omega) (endsNumber_cons rfl (by decide) (by decide) (by decide) _)]
      simp only [skipBlanks_cons (show isBlank ',' = false from rfl), skipBlanks_space, noBlank,
        others]

/-- Pairs with distinct keys are the entries of their dictionary. -/
theorem dictOf_of_distinct {entries : List (String × Json)}
    (distinct : (entries.map Prod.fst).Nodup) : dictOf entries = entries :=
  @OrderedDict.entries_foldl_set _ _ _ OrderedDict.empty entries distinct

theorem readsAs_dict {entries : List (String × Json)}
    (distinct : (entries.map Prod.fst).Nodup)
    (each : ∀ entry ∈ entries, ReadsAs floats entry.2 ∧ StartsValue (writeJson floats entry.2)) :
    ReadsAs floats (.dict entries) := by
  intro fuel rest enough ends
  obtain ⟨fuel, rfl⟩ : ∃ less, fuel = less + 1 := ⟨fuel - 1, by omega⟩
  have notQuote : openBrace ≠ quote := by decide
  have notBracket : openBrace ≠ '[' := by decide
  cases entries with
  | nil => rfl
  | cons first later =>
      rw [writeJson, List.length_cons, List.length_append] at enough
      have inside := readEntries_write each fuel rest (by omega)
      have noBlank : skipBlanks (writeEntry first.1 (writeJson floats first.2) ++
          (writeEntries floats later ++ rest)) =
            writeEntry first.1 (writeJson floats first.2) ++
              (writeEntries floats later ++ rest) := by
        rw [writeEntry_append, skipBlanks_cons rfl]
      have notClosing : (writeEntry first.1 (writeJson floats first.2) ++
          (writeEntries floats later ++ rest)).head? ≠ some closeBrace := by
        rw [writeEntry_append, List.head?_cons]
        decide
      rw [writeJson, List.cons_append, List.append_assoc, readValue, if_neg notQuote,
        if_neg notBracket, if_pos rfl, noBlank, if_neg notClosing, inside]
      simp only [bind, Except.bind, dictOf_of_distinct distinct]

/-! ## The round trip -/

/-- Every writable value is read back, and its text begins a value. -/
theorem Json.Writable.readsAs (writable : data.Writable floats) :
    ReadsAs floats data ∧ StartsValue (writeJson floats data) := by
  have starts : ∀ (first : Char) (later : List Char), isBlank first = false → first ≠ ']' →
      first ≠ byteOrderMark → StartsValue (first :: later) :=
    fun first later notBlank notClosing notMark =>
      ⟨first, later, rfl, notBlank, notClosing, notMark⟩
  induction writable with
  | null =>
      exact ⟨readsAs_of_word (['n', 'u', 'l', 'l'], .null) (by simp [jsonWords]) rfl,
        starts 'n' _ rfl (by decide) (by decide)⟩
  | bool truth =>
      cases truth with
      | true =>
          exact ⟨readsAs_of_word (['t', 'r', 'u', 'e'], .bool true) (by simp [jsonWords]) rfl,
            starts 't' _ rfl (by decide) (by decide)⟩
      | false =>
          exact ⟨readsAs_of_word (['f', 'a', 'l', 's', 'e'], .bool false) (by simp [jsonWords]) rfl,
            starts 'f' _ rfl (by decide) (by decide)⟩
  | int value short =>
      have valid := intText_valid value
      exact ⟨readsAs_of_number valid rfl (value_intText floats short), .of_number valid⟩
  | finite value reads =>
      obtain ⟨number, valid, isFloat, text⟩ := reads.literal
      have isValue : number.value floats = .ok (.float (.finite value)) := by
        rw [NumberText.value, if_pos isFloat, text, reads.inverts]
      have written : writeJson floats (.float (.finite value)) = number.text := text.symm
      exact ⟨readsAs_of_number valid written isValue, written ▸ .of_number valid⟩
  | special value notFinite =>
      cases value with
      | finite value => exact absurd rfl (notFinite value)
      | nan =>
          exact ⟨readsAs_of_word (['N', 'a', 'N'], .float .nan) (by simp [jsonWords]) rfl,
            starts 'N' _ rfl (by decide) (by decide)⟩
      | posInf =>
          exact ⟨readsAs_of_word (['I', 'n', 'f', 'i', 'n', 'i', 't', 'y'], .float .posInf)
            (by simp [jsonWords]) rfl, starts 'I' _ rfl (by decide) (by decide)⟩
      | negInf =>
          exact ⟨readsAs_of_word (['-', 'I', 'n', 'f', 'i', 'n', 'i', 't', 'y'], .float .negInf)
            (by simp [jsonWords]) rfl, starts '-' _ rfl (by decide) (by decide)⟩
  | str text => exact ⟨readsAs_str text, starts quote _ rfl (by decide) (by decide)⟩
  | list items each ih =>
      refine ⟨readsAs_list ih, ?_⟩
      cases items with
      | nil => exact starts '[' _ rfl (by decide) (by decide)
      | cons first later => exact starts '[' _ rfl (by decide) (by decide)
  | dict entries distinct each ih =>
      refine ⟨readsAs_dict distinct ih, ?_⟩
      cases entries with
      | nil => exact starts openBrace _ rfl (by decide) (by decide)
      | cons first later => exact starts openBrace _ rfl (by decide) (by decide)

/-- **What was written is read back.** -/
theorem loads_dumps (writable : data.Writable floats) :
    (jsonModule floats).loads ((jsonModule floats).dumps data) = .ok data := by
  obtain ⟨reads, first, later, text, notBlank, -, notMark⟩ := writable.readsAs
  have noMark : (writeJson floats data).head? ≠ some byteOrderMark := by
    rw [text]
    simpa using notMark
  have noBlank : skipBlanks (writeJson floats data) = writeJson floats data := by
    rw [text, skipBlanks_cons notBlank]
  have whole := reads (2 * (writeJson floats data).length + 1) [] (by omega) (by rintro _ ⟨⟩)
  rw [List.append_nil] at whole
  change loadsText floats (String.ofList (writeJson floats data)).toList = _
  rw [String.toList_ofList, loadsText, loadsWithin, if_neg noMark, noBlank, whole]
  rfl

/-! ## Single lines -/

theorem newline_not_mem_escape (text : List Char) : '\n' ∉ escape text := by
  intro member
  obtain ⟨char, -, written⟩ := List.mem_flatMap.mp member
  have noSymbol : '\n' ∉ escapeSymbols := by decide
  obtain ⟨pieces, isWritten⟩ := written_escapeChar char
  rcases escapeChar_cases char with same | ⟨symbols, -⟩
  · rw [same] at isWritten written
    obtain rfl := List.mem_singleton.mp written
    cases isWritten with
    | plain printable => exact absurd printable (by decide)
  · exact noSymbol (symbols written)

theorem newline_not_mem_number {number : NumberText} (valid : number.Valid) :
    '\n' ∉ number.text := by
  have digits : ∀ digits : List Char, (∀ digit ∈ digits, digit.isDigit) → '\n' ∉ digits :=
    fun digits all member => absurd (all _ member) (by decide)
  have whole : '\n' ∉ number.whole := by
    rcases valid.whole with zero | ⟨-, -, all⟩
    · rw [zero]
      decide
    · exact digits _ all
  have fraction : '\n' ∉ number.fraction := by
    rcases valid.fraction with none | ⟨some, isFraction, -, all⟩
    · simp [none]
    · rw [isFraction, List.mem_cons, not_or]
      exact ⟨by decide, digits _ all⟩
  have exponent : '\n' ∉ number.exponent := by
    rcases valid.exponent with none | ⟨mark, sign, some, isExponent, isMark, isSign, -, all⟩
    · simp [none]
    · have noMark : '\n' ≠ mark := by rcases isMark with rfl | rfl <;> decide
      have noSign : '\n' ∉ sign := by rcases isSign with rfl | rfl | rfl <;> decide
      rw [isExponent, List.cons_append, List.mem_cons, List.mem_append]
      rintro (here | here | here)
      · exact noMark here
      · exact noSign here
      · exact digits _ all here
  have minus : '\n' ∉ (if number.negative then ['-'] else [] : List Char) := by
    split <;> decide
  simp only [NumberText.text, List.mem_append, not_or]
  exact ⟨⟨⟨minus, whole⟩, fraction⟩, exponent⟩

/-- **A written value is a single line.** -/
theorem newline_not_mem_writeJson (writable : data.Writable floats) :
    '\n' ∉ writeJson floats data := by
  have string : ∀ text : List Char, '\n' ∉ dumpsText text := by
    intro text member
    rcases List.mem_cons.mp member with same | later
    · exact absurd same (by decide)
    · rcases List.mem_append.mp later with inside | last
      · exact newline_not_mem_escape text inside
      · exact absurd (List.mem_singleton.mp last) (by decide)
  have entry : ∀ (key : String) (value : List Char), '\n' ∉ value →
      '\n' ∉ writeEntry key value := by
    intro key value absent
    have noColon : '\n' ≠ ':' := by decide
    have noSpace : '\n' ≠ space := by decide
    simp [writeEntry, string key.toList, absent, noColon, noSpace]
  induction writable with
  | null =>
      rw [writeJson]
      decide
  | bool truth =>
      cases truth
      · rw [writeJson]
        decide
      · rw [writeJson]
        decide
  | int value short => exact newline_not_mem_number (intText_valid value)
  | finite value reads =>
      obtain ⟨number, valid, -, text⟩ := reads.literal
      rw [writeJson, writeFloat, ← text]
      exact newline_not_mem_number valid
  | special value notFinite =>
      cases value with
      | finite value => exact absurd rfl (notFinite value)
      | posInf =>
          rw [writeJson, writeFloat]
          decide
      | negInf =>
          rw [writeJson, writeFloat]
          decide
      | nan =>
          rw [writeJson, writeFloat]
          decide
  | str text => exact string text.toList
  | list items each ih =>
      have noComma : '\n' ≠ ',' := by decide
      have noSpace : '\n' ≠ space := by decide
      have later : ∀ items : List Json, (∀ item ∈ items, '\n' ∉ writeJson floats item) →
          '\n' ∉ writeItems floats items := by
        intro items
        induction items with
        | nil =>
            intro _
            rw [writeItems]
            decide
        | cons item rest restIH =>
            intro absent
            obtain ⟨first, others⟩ := List.forall_mem_cons.mp absent
            simp [writeItems, noComma, noSpace, first, restIH others]
      cases items with
      | nil =>
          rw [writeJson]
          decide
      | cons item rest =>
          have noBracket : '\n' ≠ '[' := by decide
          obtain ⟨first, others⟩ := List.forall_mem_cons.mp ih
          simp [writeJson, noBracket, first, later rest others]
  | dict entries distinct each ih =>
      have noComma : '\n' ≠ ',' := by decide
      have noSpace : '\n' ≠ space := by decide
      have later : ∀ entries : List (String × Json),
          (∀ entry ∈ entries, '\n' ∉ writeJson floats entry.2) →
            '\n' ∉ writeEntries floats entries := by
        intro entries
        induction entries with
        | nil =>
            intro _
            rw [writeEntries]
            decide
        | cons pair rest restIH =>
            intro absent
            obtain ⟨first, others⟩ := List.forall_mem_cons.mp absent
            simp [writeEntries, noComma, noSpace, entry pair.1 _ first, restIH others]
      cases entries with
      | nil =>
          rw [writeJson]
          decide
      | cons pair rest =>
          have noBrace : '\n' ≠ openBrace := by decide
          obtain ⟨first, others⟩ := List.forall_mem_cons.mp ih
          simp [writeJson, noBrace, entry pair.1 _ first, later rest others]

end Python
