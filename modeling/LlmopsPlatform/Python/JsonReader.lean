import LlmopsPlatform.Python.JsonNumbers
import LlmopsPlatform.Python.JsonStrings

/-!
# `json.dumps` and `json.loads`

`dumps` writes a value on one line, with `", "` between items and `": "` after keys. `loads`
is a recursive descent over the text that skips blanks between tokens. Of several entries
with one key the last counts.
-/

set_option autoImplicit false

namespace Python

open Foundations

def openBrace : Char := Char.ofNat 0x7b

def closeBrace : Char := Char.ofNat 0x7d

def space : Char := Char.ofNat 0x20

def byteOrderMark : Char := Char.ofNat 0xfeff

/-! ## The writer -/

def writeFloat (floats : FloatFormat) : PyFloat → List Char
  | .finite value => floats.repr value
  | .posInf => ['I', 'n', 'f', 'i', 'n', 'i', 't', 'y']
  | .negInf => ['-', 'I', 'n', 'f', 'i', 'n', 'i', 't', 'y']
  | .nan => ['N', 'a', 'N']

/-- A key, a colon and the text of a value. -/
def writeEntry (key : String) (value : List Char) : List Char :=
  dumpsText key.toList ++ ':' :: space :: value

mutual
/-- `json.dumps`. -/
def writeJson (floats : FloatFormat) : Json → List Char
  | .null => ['n', 'u', 'l', 'l']
  | .bool true => ['t', 'r', 'u', 'e']
  | .bool false => ['f', 'a', 'l', 's', 'e']
  | .int value => (intText value).text
  | .float value => writeFloat floats value
  | .str text => dumpsText text.toList
  | .list [] => ['[', ']']
  | .list (first :: later) => '[' :: (writeJson floats first ++ writeItems floats later)
  | .dict [] => [openBrace, closeBrace]
  | .dict ((key, value) :: later) =>
      openBrace :: (writeEntry key (writeJson floats value) ++ writeEntries floats later)

/-- The items after the first one, up to the closing bracket. -/
def writeItems (floats : FloatFormat) : List Json → List Char
  | [] => [']']
  | item :: later => ',' :: space :: (writeJson floats item ++ writeItems floats later)

/-- The entries after the first one, up to the closing brace. -/
def writeEntries (floats : FloatFormat) : List (String × Json) → List Char
  | [] => [closeBrace]
  | (key, value) :: later =>
      ',' :: space :: (writeEntry key (writeJson floats value) ++ writeEntries floats later)
end

/-! ## The reader -/

def isBlank (char : Char) : Bool := char = space ∨ char = '\t' ∨ char = '\n' ∨ char = '\r'

def skipBlanks (text : List Char) : List Char := text.dropWhile isBlank

/-- The words that are values. -/
def jsonWords : List (List Char × Json) :=
  [(['n', 'u', 'l', 'l'], .null), (['t', 'r', 'u', 'e'], .bool true),
    (['f', 'a', 'l', 's', 'e'], .bool false), (['N', 'a', 'N'], .float .nan),
    (['I', 'n', 'f', 'i', 'n', 'i', 't', 'y'], .float .posInf),
    (['-', 'I', 'n', 'f', 'i', 'n', 'i', 't', 'y'], .float .negInf)]

/-- A word or a number at the beginning of a text. -/
def readScalar (floats : FloatFormat) (text : List Char) : Except PyException (Json × List Char) :=
  match jsonWords.find? fun word => word.1.isPrefixOf text with
  | some (word, value) => .ok (value, text.drop word.length)
  | none =>
      match readNumber text with
      | some (number, rest) => do
          let value ← number.value floats
          .ok (value, rest)
      | none => .error .jsonDecodeError

/-- `dict(pairs)` -/
def dictOf (pairs : List (String × Json)) : List (String × Json) :=
  (pairs.foldl (fun dict pair => dict.set pair.1 pair.2) OrderedDict.empty).entries

/-- The key of an entry and its colon. -/
def readKey (text : List Char) : Except PyException (String × List Char) :=
  match text with
  | first :: rest =>
      if first = quote then do
        let (key, rest) ← readString rest
        match skipBlanks rest with
        | ':' :: rest => .ok (String.ofList key, skipBlanks rest)
        | _ => .error .jsonDecodeError
      else .error .jsonDecodeError
  | [] => .error .jsonDecodeError

mutual
/-- `scan_once`. The fuel bounds the number of nested calls. -/
def readValue (floats : FloatFormat) : ℕ → List Char → Except PyException (Json × List Char)
  | 0, _ => .error .jsonDecodeError
  | fuel + 1, text =>
      match text with
      | [] => .error .jsonDecodeError
      | first :: rest =>
          if first = quote then do
            let (chars, rest) ← readString rest
            .ok (.str (String.ofList chars), rest)
          else if first = '[' then
            if (skipBlanks rest).head? = some ']' then .ok (.list [], (skipBlanks rest).tail)
            else do
              let (items, rest) ← readItems floats fuel (skipBlanks rest)
              .ok (.list items, rest)
          else if first = openBrace then
            if (skipBlanks rest).head? = some closeBrace then
              .ok (.dict [], (skipBlanks rest).tail)
            else do
              let (entries, rest) ← readEntries floats fuel (skipBlanks rest)
              .ok (.dict (dictOf entries), rest)
          else readScalar floats (first :: rest)

/-- The items of a list from one of them on, up to the closing bracket. -/
def readItems (floats : FloatFormat) :
    ℕ → List Char → Except PyException (List Json × List Char)
  | 0, _ => .error .jsonDecodeError
  | fuel + 1, text => do
      let (item, rest) ← readValue floats fuel text
      match skipBlanks rest with
      | ']' :: rest => .ok ([item], rest)
      | ',' :: rest =>
          let (items, rest) ← readItems floats fuel (skipBlanks rest)
          .ok (item :: items, rest)
      | _ => .error .jsonDecodeError

/-- The pairs of an object from one of them on, up to the closing brace. -/
def readEntries (floats : FloatFormat) :
    ℕ → List Char → Except PyException (List (String × Json) × List Char)
  | 0, _ => .error .jsonDecodeError
  | fuel + 1, text => do
      let (key, rest) ← readKey text
      let (value, rest) ← readValue floats fuel rest
      match skipBlanks rest with
      | ',' :: rest =>
          let (entries, rest) ← readEntries floats fuel (skipBlanks rest)
          .ok ((key, value) :: entries, rest)
      | closing :: rest =>
          if closing = closeBrace then .ok ([(key, value)], rest) else .error .jsonDecodeError
      | [] => .error .jsonDecodeError
end

/-- `json.loads`, with some fuel for its reader. -/
def loadsWithin (floats : FloatFormat) (fuel : ℕ) (text : List Char) : Except PyException Json :=
  if text.head? = some byteOrderMark then .error .jsonDecodeError
  else do
    let (value, rest) ← readValue floats fuel (skipBlanks text)
    if skipBlanks rest = [] then .ok value else .error .jsonDecodeError

/-- `json.loads`, with as much fuel as the text can need. -/
def loadsText (floats : FloatFormat) (text : List Char) : Except PyException Json :=
  loadsWithin floats (2 * text.length + 1) text

/-- The `json` module. -/
def jsonModule (floats : FloatFormat) : JsonModule String where
  loads text := loadsText floats text.toList
  dumps data := String.ofList (writeJson floats data)

end Python
