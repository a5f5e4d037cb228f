import LlmopsPlatform.Foundations.OrderedDict
import Mathlib.Algebra.BigOperators.Group.List.Basic

/-!
# Counters in hashes

A store has hashes under its keys, and a hash has amounts in its fields. A counter is a
field of a hash. It is increased by an amount, and it starts at zero when the hash or the
field does not exist.

After a list of increments every counter has grown by the sum of the increments that name
it, in whichever order they were made (`counter_incrementAll`), and the keys are those that
were there and those that are named (`hasKey_incrementAll_iff`). Increments of different
fields do not disturb each other, even when they share a key.
-/

set_option autoImplicit false

namespace Foundations

/-- The increase of one counter. -/
structure Increment (Key Field Amount : Type*) where
  key : Key
  field : Field
  amount : Amount

/-- Hashes of amounts under keys. -/
abbrev CounterStore (Key Field Amount : Type*) := OrderedDict Key (OrderedDict Field Amount)

namespace CounterStore

variable {Key Field Amount : Type*} [DecidableEq Key] [DecidableEq Field] [AddCommMonoid Amount]

/-- The amount in a field of a hash. A field that does not exist has none. -/
def amountIn (hash : OrderedDict Field Amount) (field : Field) : Amount :=
  (hash.get? field).getD 0

/-- The hash under a key. A key that does not exist has no fields. -/
def hashAt (store : CounterStore Key Field Amount) (key : Key) : OrderedDict Field Amount :=
  (store.get? key).getD .empty

/-- The amount of a counter. -/
def counter (store : CounterStore Key Field Amount) (key : Key) (field : Field) : Amount :=
  amountIn (hashAt store key) field

/-- The key exists. -/
def HasKey (store : CounterStore Key Field Amount) (key : Key) : Prop :=
  (store.get? key).isSome

/-- Increase one counter. -/
def increment (store : CounterStore Key Field Amount) (change : Increment Key Field Amount) :
    CounterStore Key Field Amount :=
  OrderedDict.upsert store change.key fun hash =>
    (hash.getD .empty).upsert change.field fun amount => amount.getD 0 + change.amount

/-- Increase counters one after another. -/
def incrementAll (store : CounterStore Key Field Amount)
    (changes : List (Increment Key Field Amount)) : CounterStore Key Field Amount :=
  changes.foldl increment store

/-- The amounts by which a list of increments changes a counter. -/
def amountsFor (changes : List (Increment Key Field Amount)) (key : Key) (field : Field) :
    List Amount :=
  (changes.filter fun change => change.key = key ∧ change.field = field).map Increment.amount

variable {store : CounterStore Key Field Amount} {key : Key} {field : Field}

omit [AddCommMonoid Amount] in
theorem amountsFor_append (first second : List (Increment Key Field Amount)) :
    amountsFor (first ++ second) key field =
      amountsFor first key field ++ amountsFor second key field := by
  rw [amountsFor, List.filter_append, List.map_append]
  rfl

omit [AddCommMonoid Amount] in
theorem amountsFor_flatMap {Item : Type*} (changesOf : Item → List (Increment Key Field Amount))
    (items : List Item) :
    amountsFor (items.flatMap changesOf) key field =
      items.flatMap fun item => amountsFor (changesOf item) key field := by
  induction items with
  | nil => rfl
  | cons item rest ih => rw [List.flatMap_cons, amountsFor_append, ih, List.flatMap_cons]

@[simp] theorem counter_empty : counter (.empty : CounterStore Key Field Amount) key field = 0 :=
  rfl

/-- An increment changes the counter that it names, and no other. -/
theorem counter_increment (change : Increment Key Field Amount) :
    counter (increment store change) key field =
      counter store key field +
        if change.key = key ∧ change.field = field then change.amount else 0 := by
  unfold counter hashAt amountIn increment
  rw [OrderedDict.get?_upsert]
  by_cases sameKey : key = change.key
  · subst sameKey
    rw [if_pos rfl, Option.getD_some, OrderedDict.get?_upsert]
    by_cases sameField : field = change.field
    · subst sameField
      rw [if_pos rfl, if_pos ⟨rfl, rfl⟩, Option.getD_some]
    · rw [if_neg sameField, if_neg fun both => sameField both.2.symm, add_zero]
  · rw [if_neg sameKey, if_neg fun both => sameKey both.1.symm, add_zero]

/-- **Counters add up.** After some increments a counter has grown by the sum of those that
name it. -/
theorem counter_incrementAll (changes : List (Increment Key Field Amount)) :
    counter (incrementAll store changes) key field =
      counter store key field + (amountsFor changes key field).sum := by
  induction changes generalizing store with
  | nil => exact (add_zero _).symm
  | cons change rest ih =>
      have grown : counter (incrementAll store (change :: rest)) key field =
          counter (increment store change) key field + (amountsFor rest key field).sum := ih
      rw [grown, counter_increment, add_assoc]
      congr 1
      by_cases named : change.key = key ∧ change.field = field
      · simp [amountsFor, named]
      · simp [amountsFor, named]

theorem hasKey_increment_iff (change : Increment Key Field Amount) :
    HasKey (increment store change) key ↔ change.key = key ∨ HasKey store key := by
  unfold HasKey increment
  rw [OrderedDict.get?_upsert]
  by_cases same : key = change.key
  · simp [same]
  · simp [same, Ne.symm same]

/-- **The keys** after some increments. -/
theorem hasKey_incrementAll_iff (changes : List (Increment Key Field Amount)) :
    HasKey (incrementAll store changes) key ↔
      (∃ change ∈ changes, change.key = key) ∨ HasKey store key := by
  induction changes generalizing store with
  | nil => simp [incrementAll]
  | cons change rest ih =>
      have further : HasKey (incrementAll store (change :: rest)) key ↔
          (∃ later ∈ rest, later.key = key) ∨ HasKey (increment store change) key := ih
      rw [further, hasKey_increment_iff, List.exists_mem_cons_iff, or_left_comm, or_assoc]

end CounterStore

end Foundations
