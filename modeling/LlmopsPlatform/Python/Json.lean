import LlmopsPlatform.Foundations.OrderedDict
import LlmopsPlatform.Python.Float

/-!
# Decoded JSON values and the operations Python has on them

The values that `json.loads` returns, and the built-in operations that raise when
a value has the wrong shape: `.get`, subscription, iteration, comparison with an
integer and addition of an integer. A program that handles decoded data it did not
check first is modelled with these operations, so that every place where an
exception can arise is a place in the model.

A float is a rational number, an infinity or not a number.
-/

set_option autoImplicit false

namespace Python

open Foundations

/-- The exceptions a program can raise. `exception` stands for any further subclass
of `Exception`, and `baseException` for the ones that `except Exception` lets
through, such as `CancelledError` or `KeyboardInterrupt`. -/
inductive PyException where
  | jsonDecodeError
  | attributeError
  | typeError
  | keyError (key : String)
  | valueError (message : String)
  | overflowError
  | exception (name : String)
  | generatorExit
  | baseException (name : String)
deriving DecidableEq, Repr

/-- Whether `except Exception` catches it. -/
def PyException.isException : PyException → Bool
  | .generatorExit | .baseException _ => false
  | _ => true

/-- A Python float. -/
inductive PyFloat where
  | finite (value : ℚ)
  | posInf
  | negInf
  | nan
deriving DecidableEq

/-- A value returned by `json.loads`. -/
inductive Json where
  | null
  | bool (truth : Bool)
  | int (value : Int)
  | float (value : PyFloat)
  | str (text : String)
  | list (items : List Json)
  | dict (entries : List (String × Json))

namespace Json

/-- `data.get(key, default)`. Only a dictionary has the method. -/
def getMethod (data : Json) (key : String) (default : Json) : Except PyException Json :=
  match data with
  | .dict entries => .ok ((OrderedDict.find key entries).getD default)
  | _ => .error .attributeError

/-- `data[key]` for a string key. -/
def item (data : Json) (key : String) : Except PyException Json :=
  match data with
  | .dict entries =>
      match OrderedDict.find key entries with
      | some value => .ok value
      | none => .error (.keyError key)
  | _ => .error .typeError

/-- `data[key] = value` for a string key. -/
def setItem (data : Json) (key : String) (value : Json) : Except PyException Json :=
  match data with
  | .dict entries => .ok (.dict (OrderedDict.write key (fun _ => value) entries))
  | _ => .error .typeError

/-- The items that `for … in data` visits. -/
def iterate (data : Json) : Except PyException (List Json) :=
  match data with
  | .list items => .ok items
  | .dict entries => .ok (entries.map fun entry => .str entry.1)
  | .str text => .ok (text.toList.map fun char => .str char.toString)
  | _ => .error .typeError

/-- `data < bound`. -/
def isLess (data : Json) (bound : Int) : Except PyException Bool :=
  match data with
  | .int value => .ok (decide (value < bound))
  | .bool truth => .ok (decide ((truth.toNat : Int) < bound))
  | .float (.finite value) => .ok (decide (value < bound))
  | .float .negInf => .ok true
  | .float .posInf | .float .nan => .ok false
  | _ => .error .typeError

/-- `data + summand`. -/
def plus (data : Json) (summand : Int) : Except PyException Json :=
  match data with
  | .int value => .ok (.int (value + summand))
  | .bool truth => .ok (.int ((truth.toNat : Int) + summand))
  | .float (.finite value) => .ok (.float (.finite (toFloat (value + summand))))
  | .float special => .ok (.float special)
  | _ => .error .typeError

/-- `data == text` for a string. -/
def equalsText (data : Json) (text : String) : Bool :=
  match data with
  | .str other => other = text
  | _ => false

/-- The truth value of `data` in a condition. -/
def isTruthy (data : Json) : Bool :=
  match data with
  | .null => false
  | .bool truth => truth
  | .int value => value ≠ 0
  | .float (.finite value) => value ≠ 0
  | .float _ => true
  | .str text => text ≠ ""
  | .list items => !items.isEmpty
  | .dict entries => !entries.isEmpty

/-- What is visited are the items of a list, or texts. -/
theorem iterate_eq_ok {data : Json} {items : List Json} (visited : data.iterate = .ok items) :
    data = .list items ∨ ∀ item ∈ items, ∃ text, item = .str text := by
  cases data with
  | list others =>
      cases visited
      exact .inl rfl
  | dict entries =>
      cases visited
      exact .inr fun item member => by
        obtain ⟨entry, -, rfl⟩ := List.mem_map.mp member
        exact ⟨entry.1, rfl⟩
  | str text =>
      cases visited
      exact .inr fun item member => by
        obtain ⟨char, -, rfl⟩ := List.mem_map.mp member
        exact ⟨char.toString, rfl⟩
  | _ => cases visited

theorem iterate_eq_error {data : Json} {failure : PyException}
    (raised : data.iterate = .error failure) : failure = .typeError := by
  cases data <;> cases raised <;> rfl

mutual
/-- How deep lists and dictionaries are nested. -/
def depth : Json → Nat
  | .list items => depthOfItems items + 1
  | .dict entries => depthOfEntries entries + 1
  | .null | .bool _ | .int _ | .float _ | .str _ => 0

def depthOfItems : List Json → Nat
  | [] => 0
  | item :: rest => max (depth item) (depthOfItems rest)

def depthOfEntries : List (String × Json) → Nat
  | [] => 0
  | (_, value) :: rest => max (depth value) (depthOfEntries rest)
end

theorem depth_le_of_mem {items : List Json} {item : Json} (member : item ∈ items) :
    item.depth ≤ depthOfItems items := by
  induction items with
  | nil => cases member
  | cons head rest ih =>
      rw [depthOfItems]
      rcases List.mem_cons.mp member with rfl | later
      · exact Nat.le_max_left _ _
      · exact (ih later).trans (Nat.le_max_right _ _)

theorem depth_le_of_find {entries : List (String × Json)} {key : String} {value : Json}
    (found : OrderedDict.find key entries = some value) :
    value.depth ≤ depthOfEntries entries := by
  induction entries with
  | nil => cases found
  | cons entry rest ih =>
      obtain ⟨first, other⟩ := entry
      rw [depthOfEntries]
      by_cases here : first = key
      · rw [OrderedDict.find, if_pos here] at found
        cases found
        exact Nat.le_max_left _ _
      · rw [OrderedDict.find, if_neg here] at found
        exact (ih found).trans (Nat.le_max_right _ _)

end Json

/-- A value as a key of a dictionary. Numbers that are equal are the same key. -/
inductive DictKey where
  | null
  | number (value : ℚ)
  | special (value : PyFloat)
  | str (text : String)
deriving DecidableEq

/-- The key that a value is. Lists and dictionaries cannot be keys. -/
def Json.hashKey : Json → Except PyException DictKey
  | .null => .ok .null
  | .bool truth => .ok (.number truth.toNat)
  | .int value => .ok (.number value)
  | .float (.finite value) => .ok (.number value)
  | .float special => .ok (.special special)
  | .str text => .ok (.str text)
  | .list _ | .dict _ => .error .typeError

/-- The smallest magnitude of an integer that `float(…)` cannot represent: from here
on rounding to 53 bits gives `2 ** 1024`. -/
def floatOverflowBound : Int := 2 ^ 1024 - 2 ^ 970

/-- `2 ** exponent`. A negative power is a float, which is zero below the least positive
one. -/
def powerOfTwo (exponent : Int) : ℚ :=
  if exponent < -1074 then 0 else 2 ^ exponent

@[simp] theorem powerOfTwo_natCast (exponent : Nat) :
    powerOfTwo exponent = 2 ^ exponent := by
  rw [powerOfTwo, if_neg (by omega), zpow_natCast]

/-- `base * (2 ** exponent)` for a float `base` that is a power of two. Python raises a
negative power in floats, and converts a power that is an integer before it multiplies. The
product is `none` where the power of a float is not computed here. -/
def Json.scaledPowerOfTwo (base : ℚ) : Json → Except PyException (Option ℚ)
  | .int exponent =>
      if exponent ≤ -floatOverflowBound ∨ 1024 ≤ exponent then .error .overflowError
      else .ok (some (base * powerOfTwo exponent))
  | .bool truth => .ok (some (base * 2 ^ truth.toNat))
  | .float _ => .ok none
  | _ => .error .typeError

/-- The functions `json.loads` and `json.dumps` on a type of texts. -/
structure JsonModule (Text : Type) where
  loads : Text → Except PyException Json
  dumps : Json → Text

/-- A JSON module in which loading inverts dumping. -/
structure JsonCodec (Text : Type) extends JsonModule Text where
  loads_dumps : ∀ data, loads (dumps data) = .ok data

/-- The codec whose texts are the values themselves. -/
def JsonCodec.ofValues : JsonCodec Json where
  loads data := .ok data
  dumps data := data
  loads_dumps _ := rfl

end Python
