import LlmopsPlatform.Foundations.KeyedRows

/-!
# Dictionaries that keep the order of insertion

A dictionary is a list of entries with distinct keys, in the order in which the
keys were first written. Writing to a present key changes its value in place, and
writing to an absent key appends an entry.

Accumulating a list of items into a dictionary, each under its own key, leaves
under a key the accumulation of exactly the items with that key, in their order
(`get?_accumulate`). Grouping, counting and summing by key are instances.
-/

set_option autoImplicit false

namespace Foundations

/-- A dictionary in order of insertion. The keys are distinct by construction. -/
structure OrderedDict (Key Value : Type*) where
  entries : List (Key × Value)
  keysUnique : UniqueKey Prod.fst entries

namespace OrderedDict

variable {Key Value Item : Type*} [DecidableEq Key]

def empty : OrderedDict Key Value := ⟨[], List.nodup_nil⟩

/-- The value at a key in a list of entries. -/
def find (key : Key) : List (Key × Value) → Option Value
  | [] => none
  | (first, value) :: rest => if first = key then some value else find key rest

/-- Write to a key of a list of entries, given what is there. -/
def write (key : Key) (update : Option Value → Value) : List (Key × Value) → List (Key × Value)
  | [] => [(key, update none)]
  | (first, value) :: rest =>
      if first = key then (first, update (some value)) :: rest
      else (first, value) :: write key update rest

theorem mem_keys_write {key other : Key} {update : Option Value → Value}
    {entries : List (Key × Value)} :
    other ∈ (write key update entries).map Prod.fst ↔
      other = key ∨ other ∈ entries.map Prod.fst := by
  induction entries with
  | nil => simp [write]
  | cons entry rest ih =>
      obtain ⟨first, value⟩ := entry
      unfold write
      split
      · rename_i same
        subst same
        simp
      · rw [List.map_cons, List.mem_cons, ih, List.map_cons, List.mem_cons]
        tauto

theorem write_keysUnique {entries : List (Key × Value)} (unique : UniqueKey Prod.fst entries)
    (key : Key) (update : Option Value → Value) :
    UniqueKey Prod.fst (write key update entries) := by
  induction entries with
  | nil => exact List.nodup_singleton _
  | cons entry rest ih =>
      obtain ⟨first, value⟩ := entry
      have keys : (first :: rest.map Prod.fst).Nodup := unique
      obtain ⟨firstFresh, restUnique⟩ := List.nodup_cons.mp keys
      unfold write
      split
      · exact List.nodup_cons.mpr ⟨firstFresh, restUnique⟩
      · rename_i different
        refine List.nodup_cons.mpr ⟨fun member => ?_, ih restUnique⟩
        rcases mem_keys_write.mp member with same | inRest
        · exact different same
        · exact firstFresh inRest

/-- A key that is absent is appended. -/
theorem write_of_not_mem {key : Key} {entries : List (Key × Value)}
    (absent : key ∉ entries.map Prod.fst) (update : Option Value → Value) :
    write key update entries = entries ++ [(key, update none)] := by
  induction entries with
  | nil => rfl
  | cons entry rest ih =>
      obtain ⟨first, value⟩ := entry
      rw [List.map_cons, List.mem_cons, not_or] at absent
      rw [write, if_neg (Ne.symm absent.1), ih absent.2, List.cons_append]

/-- Writing adds at most one entry. -/
theorem length_write_le (key : Key) (update : Option Value → Value)
    (entries : List (Key × Value)) : (write key update entries).length ≤ entries.length + 1 := by
  induction entries with
  | nil => exact le_rfl
  | cons entry rest ih =>
      unfold write
      split
      · simp
      · simpa using ih

/-- The value at a key. -/
def get? (dict : OrderedDict Key Value) (key : Key) : Option Value := find key dict.entries

/-- Write to a key, given what is there. -/
def upsert (dict : OrderedDict Key Value) (key : Key) (update : Option Value → Value) :
    OrderedDict Key Value :=
  ⟨write key update dict.entries, write_keysUnique dict.keysUnique key update⟩

/-- Set the value at a key. -/
def set (dict : OrderedDict Key Value) (key : Key) (value : Value) : OrderedDict Key Value :=
  dict.upsert key fun _ => value

@[simp] theorem get?_empty (key : Key) : (empty : OrderedDict Key Value).get? key = none := rfl

/-- Looking up in entries whose values were mapped. -/
theorem find_map {Image : Type*} (image : Value → Image) (key : Key)
    (entries : List (Key × Value)) :
    find key (entries.map fun entry => (entry.1, image entry.2)) =
      (find key entries).map image := by
  induction entries with
  | nil => rfl
  | cons entry rest ih =>
      by_cases same : entry.1 = key
      · simp [find, same]
      · simp [find, same, ih]

theorem find_write (key other : Key) (update : Option Value → Value)
    (entries : List (Key × Value)) :
    find other (write key update entries) =
      if other = key then some (update (find key entries)) else find other entries := by
  induction entries with
  | nil =>
      by_cases same : other = key
      · simp [write, find, same]
      · simp [write, find, same, Ne.symm same]
  | cons entry rest ih =>
      obtain ⟨first, value⟩ := entry
      by_cases here : first = key
      · subst here
        by_cases same : other = first
        · subst same
          simp [write, find]
        · simp [write, find, same, Ne.symm same]
      · by_cases same : first = other
        · subst same
          simp [write, find, here]
        · simp [write, find, here, same, ih]

theorem get?_upsert (dict : OrderedDict Key Value) (key other : Key)
    (update : Option Value → Value) :
    (dict.upsert key update).get? other =
      if other = key then some (update (dict.get? key)) else dict.get? other :=
  find_write key other update dict.entries

/-- An entry is in the dictionary exactly when its key has its value. -/
theorem mem_entries_iff (dict : OrderedDict Key Value) {key : Key} {value : Value} :
    (key, value) ∈ dict.entries ↔ dict.get? key = some value := by
  obtain ⟨entries, unique⟩ := dict
  simp only [get?]
  induction entries with
  | nil => simp [find]
  | cons entry rest ih =>
      obtain ⟨first, found⟩ := entry
      have keys : (first :: rest.map Prod.fst).Nodup := unique
      obtain ⟨firstFresh, restUnique⟩ := List.nodup_cons.mp keys
      by_cases same : first = key
      · subst same
        have notInRest : (first, value) ∉ rest :=
          fun member => firstFresh (List.mem_map.mpr ⟨_, member, rfl⟩)
        simp [find, notInRest, eq_comm]
      · simp [find, same, Ne.symm same, ih restUnique]

/-- The keys, in the order of their first writes. -/
def keys (dict : OrderedDict Key Value) : List Key := dict.entries.map Prod.fst

theorem mem_keys_upsert (dict : OrderedDict Key Value) {key other : Key}
    {update : Option Value → Value} :
    other ∈ (dict.upsert key update).keys ↔ other = key ∨ other ∈ dict.keys :=
  mem_keys_write

theorem mem_keys_iff (dict : OrderedDict Key Value) {key : Key} :
    key ∈ dict.keys ↔ ∃ value, dict.get? key = some value := by
  rw [keys, List.mem_map]
  constructor
  · rintro ⟨⟨_, value⟩, member, rfl⟩
    exact ⟨value, dict.mem_entries_iff.mp member⟩
  · rintro ⟨value, found⟩
    exact ⟨(key, value), dict.mem_entries_iff.mpr found, rfl⟩

/-- Setting distinct new keys appends their entries. -/
theorem entries_foldl_set {dict : OrderedDict Key Value} {added : List (Key × Value)}
    (unique : UniqueKey Prod.fst (dict.entries ++ added)) :
    (added.foldl (fun dict entry => dict.set entry.1 entry.2) dict).entries =
      dict.entries ++ added := by
  induction added generalizing dict with
  | nil => simp
  | cons entry rest ih =>
      have keys := unique
      rw [UniqueKey, List.map_append, List.map_cons, List.nodup_middle, List.nodup_cons] at keys
      have absent : entry.1 ∉ dict.entries.map Prod.fst :=
        fun member => keys.1 (List.mem_append_left _ member)
      have appended : (dict.set entry.1 entry.2).entries = dict.entries ++ [entry] :=
        write_of_not_mem absent _
      have assembled : dict.entries ++ entry :: rest =
          (dict.set entry.1 entry.2).entries ++ rest := by simp [appended]
      rw [assembled] at unique ⊢
      exact ih unique

/-! ## Accumulation -/

/-- Accumulate items into a dictionary, each under its own key. -/
def accumulate (key : Item → Key) (step : Option Value → Item → Value)
    (items : List Item) (dict : OrderedDict Key Value) : OrderedDict Key Value :=
  items.foldl (fun partialDict item => partialDict.upsert (key item) fun old => step old item) dict

/-- **Accumulating by key.** A key holds the accumulation of exactly the items that
have the key, in their order. -/
theorem get?_accumulate (key : Item → Key) (step : Option Value → Item → Value)
    (items : List Item) (dict : OrderedDict Key Value) (wanted : Key) :
    (accumulate key step items dict).get? wanted =
      (items.filter fun item => key item = wanted).foldl (fun old item => some (step old item))
        (dict.get? wanted) := by
  induction items generalizing dict with
  | nil => rfl
  | cons item rest ih =>
      have unfolded : accumulate key step (item :: rest) dict =
          accumulate key step rest (dict.upsert (key item) fun old => step old item) := rfl
      rw [unfolded, ih, get?_upsert]
      by_cases same : key item = wanted
      · subst same
        simp
      · simp [same, Ne.symm same]

end OrderedDict

end Foundations
