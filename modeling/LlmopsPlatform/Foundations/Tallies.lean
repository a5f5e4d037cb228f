import LlmopsPlatform.Foundations.OrderedDict
import Mathlib.Algebra.BigOperators.Group.Finset.Basic
import Mathlib.Algebra.BigOperators.Group.List.Basic
import Mathlib.Algebra.Ring.Nat
import Mathlib.Data.List.Perm.Basic

/-!
# Tallies

A tally adds each item of a list to the total of its key, and starts the total of a key that
it meets for the first time from nothing. It has a total for exactly the keys that occur, and
each is the total of the items with this key (`get?_tally`).

When it does not matter in which order two items are added to a total, it does not matter in
which order the items are tallied, up to the order of the entries (`tally_perm`). A quantity
to which every item adds its amount sums up, over all totals, to the sum over all items
(`sum_tally`).
-/

set_option autoImplicit false

namespace Foundations

variable {Key Value Item : Type*}

/-- A quantity to which every item adds its amount. -/
theorem foldl_quantity {Amount : Type*} [AddMonoid Amount] {add : Value → Item → Value}
    {quantity : Value → Amount} {amount : Item → Amount}
    (adds : ∀ value item, quantity (add value item) = quantity value + amount item)
    (items : List Item) (value : Value) :
    quantity (items.foldl add value) = quantity value + (items.map amount).sum := by
  induction items generalizing value with
  | nil => simp
  | cons item rest ih => rw [List.foldl_cons, ih, adds, List.map_cons, List.sum_cons, add_assoc]

/-- Adding to a value that is created at the first item. -/
theorem foldl_created (add : Value → Item → Value) (zero : Value) (items : List Item) :
    items.foldl (fun old item => some (add (old.getD zero) item)) none =
      if items = [] then none else some (items.foldl add zero) := by
  have present (value : Value) (others : List Item) :
      others.foldl (fun old item => some (add (old.getD zero) item)) (some value) =
        some (others.foldl add value) := by
    induction others generalizing value with
    | nil => rfl
    | cons item rest ih => exact ih (add value item)
  cases items with
  | nil => rfl
  | cons first rest => exact present (add zero first) rest

/-- Items with keys below a bound are as many as there are for all these keys together. -/
theorem length_eq_sum_count (key : Item → ℕ) {items : List Item} {bound : ℕ}
    (inRange : ∀ item ∈ items, key item < bound) :
    items.length = ∑ value ∈ Finset.range bound, (items.map key).count value := by
  have known : ∀ value ∈ (items.map key : Multiset ℕ), value ∈ Finset.range bound := by
    intro value member
    obtain ⟨item, listed, rfl⟩ := List.mem_map.mp (Multiset.mem_coe.mp member)
    exact Finset.mem_range.mpr (inRange item listed)
  simpa using (Multiset.sum_count_eq_card known).symm

/-- The items of several keys are as many as those of each key together. -/
theorem sum_length_filter_key [DecidableEq Key] (key : Item → Key) {names : List Key}
    (distinct : names.Nodup) (items : List Item) :
    (names.map fun name => (items.filter fun item => key item = name).length).sum =
      (items.filter fun item => key item ∈ names).length := by
  induction names with
  | nil => simp
  | cons name rest ih =>
      obtain ⟨fresh, restDistinct⟩ := List.nodup_cons.mp distinct
      rw [List.map_cons, List.sum_cons, ih restDistinct]
      clear ih
      induction items with
      | nil => rfl
      | cons item others ih =>
          by_cases here : key item = name
          · subst here
            simp only [fresh, List.mem_cons, true_or, decide_true, decide_false, List.length_cons,
              List.filter_cons_of_pos, List.filter_cons, Bool.false_eq_true, if_false] at ih ⊢
            omega
          · by_cases there : key item ∈ rest
            · simp [here, there] at ih ⊢
              omega
            · simpa [here, there] using ih

namespace OrderedDict

variable [DecidableEq Key]

/-! ## Dictionaries up to order -/

/-- Dictionaries with the same values have the same entries, up to their order. -/
theorem entries_perm_iff {first second : OrderedDict Key Value} :
    first.entries.Perm second.entries ↔ ∀ key, first.get? key = second.get? key := by
  constructor
  · intro perm key
    refine Option.ext fun value => ?_
    rw [← mem_entries_iff, ← mem_entries_iff, perm.mem_iff]
  · intro same
    refine (List.perm_ext_iff_of_nodup first.keysUnique.of_map second.keysUnique.of_map).mpr ?_
    rintro ⟨key, value⟩
    rw [mem_entries_iff, mem_entries_iff, same]

section Related

variable {related : Value → Value → Prop} {first second : OrderedDict Key Value}
  (relates : ∀ key, Option.Rel related (first.get? key) (second.get? key))

include relates

/-- An entry of the second dictionary is related to the value at its key in the first. -/
theorem get?_of_related {entry : Key × Value} (member : entry ∈ second.entries) :
    first.get? entry.1 = some ((first.get? entry.1).getD entry.2) ∧
      related ((first.get? entry.1).getD entry.2) entry.2 := by
  have here := relates entry.1
  rw [second.mem_entries_iff.mp member] at here
  generalize first.get? entry.1 = found at here ⊢
  cases here with
  | some relatedHere => exact ⟨rfl, relatedHere⟩

/-- A key of the first dictionary is a key of the second. -/
theorem exists_entry_of_related {key : Key} {value : Value}
    (found : first.get? key = some value) : ∃ other, (key, other) ∈ second.entries := by
  have here := relates key
  rw [found] at here
  cases isOther : second.get? key with
  | none =>
      rw [isOther] at here
      cases here
  | some other => exact ⟨other, second.mem_entries_iff.mpr isOther⟩

/-- Dictionaries with related values have related entries, up to their order. -/
theorem exists_perm_forall₂ :
    ∃ middle, first.entries.Perm middle ∧
      List.Forall₂ (fun one other => one.1 = other.1 ∧ related one.2 other.2) middle
        second.entries := by
  -- The values of the first dictionary at the keys of the second, in their order.
  let valueOf (entry : Key × Value) : Key × Value :=
    (entry.1, (first.get? entry.1).getD entry.2)
  have keys : UniqueKey Prod.fst (second.entries.map valueOf) :=
    second.keysUnique.map fun _ => rfl
  refine ⟨second.entries.map valueOf, ?_, ?_⟩
  · refine (List.perm_ext_iff_of_nodup first.keysUnique.of_map keys.of_map).mpr ?_
    rintro ⟨key, value⟩
    rw [mem_entries_iff, List.mem_map]
    constructor
    · intro found
      obtain ⟨other, member⟩ := exists_entry_of_related relates found
      have same : (first.get? key).getD other = value := by rw [found, Option.getD_some]
      exact ⟨(key, other), member, congrArg (Prod.mk key) same⟩
    · rintro ⟨entry, member, same⟩
      cases same
      exact (get?_of_related relates member).1
  · rw [List.forall₂_map_left_iff, List.forall₂_same]
    exact fun entry member => ⟨rfl, (get?_of_related relates member).2⟩

end Related

/-! ## Tallies -/

/-- Add each item to the total of its key. -/
def tally (key : Item → Key) (add : Value → Item → Value) (zero : Value) (items : List Item) :
    OrderedDict Key Value :=
  accumulate key (fun old item => add (old.getD zero) item) items .empty

variable {key : Item → Key} {add : Value → Item → Value} {zero : Value}

/-- **The total of a key** is that of the items with this key. -/
theorem get?_tally (items : List Item) (wanted : Key) :
    (tally key add zero items).get? wanted =
      if items.filter (fun item => key item = wanted) = [] then none
      else some ((items.filter fun item => key item = wanted).foldl add zero) := by
  rw [tally, get?_accumulate, get?_empty, foldl_created]

theorem mem_keys_iff_filter_ne_nil {items : List Item} {wanted : Key} :
    wanted ∈ items.map key ↔ items.filter (fun item => key item = wanted) ≠ [] := by
  rw [List.mem_map, Ne, List.filter_eq_nil_iff]
  simp

theorem get?_tally_eq_some_iff {items : List Item} {wanted : Key} {value : Value} :
    (tally key add zero items).get? wanted = some value ↔
      wanted ∈ items.map key ∧
        (items.filter fun item => key item = wanted).foldl add zero = value := by
  rw [get?_tally, mem_keys_iff_filter_ne_nil]
  by_cases absent : items.filter (fun item => key item = wanted) = []
  · simp [absent]
  · simp [absent]

theorem exists_get?_tally {items : List Item} {item : Item} (member : item ∈ items) :
    ∃ value, (tally key add zero items).get? (key item) = some value :=
  ⟨_, get?_tally_eq_some_iff.mpr ⟨List.mem_map_of_mem member, rfl⟩⟩

/-- A tally of the items themselves counts them. -/
theorem getD_tally_id (items : List Key) (wanted : Key) :
    ((tally id (fun count _ => count + 1) 0 items).get? wanted).getD 0 = items.count wanted := by
  have occurrences : items.count wanted =
      (items.filter fun item => id item = wanted).length := List.count_eq_length_filter
  rw [get?_tally, List.foldl_add_const, occurrences]
  split
  · rename_i absent
    rw [absent]
    rfl
  · rw [Option.getD_some, Nat.one_mul, Nat.zero_add]

/-- **The order of the items** does not matter, up to the order of the entries. -/
theorem tally_perm {first second : List Item} (perm : first.Perm second)
    (comm : ∀ value one other, add (add value one) other = add (add value other) one) :
    (tally key add zero first).entries.Perm (tally key add zero second).entries := by
  refine entries_perm_iff.mpr fun wanted => ?_
  have filtered := perm.filter fun item => key item = wanted
  rw [get?_tally, get?_tally, filtered.foldl_eq' (fun one _ other _ value => comm value one other)]
  simp only [← List.length_eq_zero_iff, filtered.length_eq]

section Sums

variable {Amount : Type*} [AddCommMonoid Amount] {quantity : Value → Amount}
  {amount : Item → Amount}

/-- Adding an item changes the sum of a quantity over all entries by its amount. -/
theorem sum_write (adds : ∀ value item, quantity (add value item) = quantity value + amount item)
    (nothing : quantity zero = 0) (wanted : Key) (item : Item) (entries : List (Key × Value)) :
    ((write wanted (fun old => add (old.getD zero) item) entries).map
        fun entry => quantity entry.2).sum =
      (entries.map fun entry => quantity entry.2).sum + amount item := by
  induction entries with
  | nil => simp [write, adds, nothing]
  | cons entry rest ih =>
      obtain ⟨first, value⟩ := entry
      unfold write
      split
      · simp only [List.map_cons, List.sum_cons, Option.getD_some, adds]
        exact add_right_comm _ _ _
      · simp only [List.map_cons, List.sum_cons, ih, add_assoc]

/-- **The sum over all totals** is the sum over all items. -/
theorem sum_tally (adds : ∀ value item, quantity (add value item) = quantity value + amount item)
    (nothing : quantity zero = 0) (items : List Item) :
    ((tally key add zero items).entries.map fun entry => quantity entry.2).sum =
      (items.map amount).sum := by
  have sums := @foldl_quantity _ _ _ _
    (fun dict item => dict.upsert (key item) fun old => add (old.getD zero) item)
    (fun dict : OrderedDict Key Value => (dict.entries.map fun entry => quantity entry.2).sum)
    amount (fun dict item => sum_write adds nothing (key item) item dict.entries) items .empty
  rwa [empty, List.map_nil, List.sum_nil, zero_add] at sums

variable (quantity) in
/-- The sum of a quantity over all entries is its sum over the keys, and over any further ones
where the quantity is zero. -/
theorem sum_entries_eq (dict : OrderedDict Key Value) {keys : Finset Key}
    (subset : dict.keys.toFinset ⊆ keys) (nothing : quantity zero = 0) :
    (dict.entries.map fun entry => quantity entry.2).sum =
      ∑ key ∈ keys, quantity ((dict.get? key).getD zero) := by
  have values : (dict.entries.map fun entry => quantity entry.2) =
      dict.keys.map fun key => quantity ((dict.get? key).getD zero) := by
    rw [OrderedDict.keys, List.map_map]
    refine List.map_congr_left fun entry member => ?_
    rw [Function.comp_apply, dict.mem_entries_iff.mp member, Option.getD_some]
  have unique : dict.keys.Nodup := dict.keysUnique
  rw [values, ← List.sum_toFinset _ unique]
  refine Finset.sum_subset subset fun key _ absent => ?_
  have notFound : dict.get? key = none := by
    rw [Option.eq_none_iff_forall_ne_some]
    intro value found
    exact absent (List.mem_toFinset.mpr (dict.mem_keys_iff.mpr ⟨value, found⟩))
  rw [notFound, Option.getD_none, nothing]

end Sums

end OrderedDict

end Foundations
