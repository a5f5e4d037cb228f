import Mathlib.Data.List.Basic
import Mathlib.Data.List.Forall2

/-!
# Programs that change a state and may raise

A program takes a state and ends either with a result or with an exception, in a
new state. What the program had changed before it raised stays changed: an
exception is not a rollback.

The control structures are those of an imperative language with exceptions.
Handling an exception continues in the state in which it was raised
(`tryExcept`), and a clean-up runs on both ways out (`ensure`).

Two properties of programs are closed under sequencing: leaving a view of the state
alone (`Keeps`), and never raising (`Succeeds`).

A list whose items are computed one by one, up to the first exception, is related to
the list of results item by item (`forall₂_of_mapM_ok`).
-/

set_option autoImplicit false

namespace Foundations

/-- A program over a state that ends with a result or with an exception. -/
structure Effectful (State Failure : Type*) (Result : Type) where
  run : State → Except Failure Result × State

namespace Effectful

variable {State Failure : Type*} {Result Next : Type}

instance : Monad (Effectful State Failure) where
  pure result := ⟨fun state => (.ok result, state)⟩
  bind first rest := ⟨fun state =>
    match first.run state with
    | (.ok result, middle) => (rest result).run middle
    | (.error failure, middle) => (.error failure, middle)⟩

/-- Raise an exception. -/
def raise (failure : Failure) : Effectful State Failure Result :=
  ⟨fun state => (.error failure, state)⟩

/-- Evaluate something that does not touch the state. -/
def ofExcept (outcome : Except Failure Result) : Effectful State Failure Result :=
  ⟨fun state => (outcome, state)⟩

/-- Read a part of the state. -/
def gets (read : State → Result) : Effectful State Failure Result :=
  ⟨fun state => (.ok (read state), state)⟩

/-- Change the state. -/
def modify (change : State → State) : Effectful State Failure Unit :=
  ⟨fun state => (.ok (), change state)⟩

/-- `try: body except …: handler`, for the exceptions that are caught. -/
def tryExcept (body : Effectful State Failure Result) (caught : Failure → Bool)
    (handler : Failure → Effectful State Failure Result) : Effectful State Failure Result :=
  ⟨fun state =>
    match body.run state with
    | (.ok result, middle) => (.ok result, middle)
    | (.error failure, middle) =>
        if caught failure then (handler failure).run middle else (.error failure, middle)⟩

/-- `try: body finally: cleanup`. An exception of the clean-up replaces the outcome. -/
def ensure (body : Effectful State Failure Result) (cleanup : Effectful State Failure Unit) :
    Effectful State Failure Result :=
  ⟨fun state =>
    match body.run state with
    | (outcome, middle) =>
        match cleanup.run middle with
        | (.ok _, final) => (outcome, final)
        | (.error failure, final) => (.error failure, final)⟩

/-- A program on a part of the state. -/
def onPart {Whole : Type*} (read : Whole → State) (write : State → Whole → Whole)
    (program : Effectful State Failure Result) : Effectful Whole Failure Result :=
  ⟨fun whole =>
    match program.run (read whole) with
    | (outcome, part) => (outcome, write part whole)⟩

section Run

variable (state : State)

@[simp] theorem run_pure (result : Result) :
    (pure result : Effectful State Failure Result).run state = (.ok result, state) := rfl

theorem run_bind (first : Effectful State Failure Result)
    (rest : Result → Effectful State Failure Next) :
    (first >>= rest).run state =
      match first.run state with
      | (.ok result, middle) => (rest result).run middle
      | (.error failure, middle) => (.error failure, middle) := rfl

/-- After a first part that succeeds, the rest runs in the state it left. -/
theorem run_bind_of_ok {first : Effectful State Failure Result}
    {rest : Result → Effectful State Failure Next} {result : Result} {middle : State}
    (succeeded : first.run state = (.ok result, middle)) :
    (first >>= rest).run state = (rest result).run middle := by
  rw [run_bind, succeeded]

/-- After a first part that raises, the rest does not run. -/
theorem run_bind_of_error {first : Effectful State Failure Result}
    {rest : Result → Effectful State Failure Next} {failure : Failure} {middle : State}
    (raised : first.run state = (.error failure, middle)) :
    (first >>= rest).run state = (.error failure, middle) := by
  rw [run_bind, raised]

@[simp] theorem run_pure_bind (result : Result) (rest : Result → Effectful State Failure Next) :
    (pure result >>= rest).run state = (rest result).run state := rfl

@[simp] theorem run_raise (failure : Failure) :
    (raise failure : Effectful State Failure Result).run state = (.error failure, state) := rfl

@[simp] theorem run_raise_bind (failure : Failure) (rest : Result → Effectful State Failure Next) :
    (raise failure >>= rest).run state = (.error failure, state) := rfl

@[simp] theorem run_ofExcept (outcome : Except Failure Result) :
    (ofExcept outcome : Effectful State Failure Result).run state = (outcome, state) := rfl

@[simp] theorem run_ofExcept_ok_bind (result : Result)
    (rest : Result → Effectful State Failure Next) :
    (ofExcept (.ok result) >>= rest).run state = (rest result).run state := rfl

@[simp] theorem run_ofExcept_error_bind (failure : Failure)
    (rest : Result → Effectful State Failure Next) :
    (ofExcept (.error failure) >>= rest).run state = (.error failure, state) := rfl

@[simp] theorem run_gets (read : State → Result) :
    (gets read : Effectful State Failure Result).run state = (.ok (read state), state) := rfl

@[simp] theorem run_gets_bind (read : State → Result)
    (rest : Result → Effectful State Failure Next) :
    (gets read >>= rest).run state = (rest (read state)).run state := rfl

@[simp] theorem run_modify (change : State → State) :
    (modify change : Effectful State Failure Unit).run state = (.ok (), change state) := rfl

@[simp] theorem run_modify_bind (change : State → State)
    (rest : Unit → Effectful State Failure Next) :
    (modify change >>= rest).run state = (rest ()).run (change state) := rfl

theorem run_tryExcept_of_ok {body : Effectful State Failure Result} {caught : Failure → Bool}
    {handler : Failure → Effectful State Failure Result} {result : Result} {middle : State}
    (succeeded : body.run state = (.ok result, middle)) :
    (tryExcept body caught handler).run state = (.ok result, middle) := by
  simp only [tryExcept, succeeded]

theorem run_tryExcept_of_error {body : Effectful State Failure Result} {caught : Failure → Bool}
    {handler : Failure → Effectful State Failure Result} {failure : Failure} {middle : State}
    (raised : body.run state = (.error failure, middle)) :
    (tryExcept body caught handler).run state =
      if caught failure then (handler failure).run middle else (.error failure, middle) := by
  simp only [tryExcept, raised]

theorem run_onPart {Whole : Type*} (read : Whole → State) (write : State → Whole → Whole)
    (program : Effectful State Failure Result) (whole : Whole) :
    (onPart read write program).run whole =
      ((program.run (read whole)).1, write (program.run (read whole)).2 whole) := rfl

end Run

/-! ## Frames and success -/

/-- The program leaves a view of the state as it was, also when it raises. -/
def Keeps {View : Type*} (view : State → View) (program : Effectful State Failure Result) : Prop :=
  ∀ state, view (program.run state).2 = view state

/-- The program never raises. -/
def Succeeds (program : Effectful State Failure Result) : Prop :=
  ∀ state, ∃ result, (program.run state).1 = .ok result

namespace Keeps

variable {View : Type*} {view : State → View}

theorem pure (result : Result) :
    Keeps view (Pure.pure result : Effectful State Failure Result) := by
  intro state
  rfl

theorem ofExcept (outcome : Except Failure Result) :
    Keeps view (Effectful.ofExcept outcome : Effectful State Failure Result) := by
  intro state
  rfl

theorem modify {change : State → State} (same : ∀ state, view (change state) = view state) :
    Keeps view (Effectful.modify change : Effectful State Failure Unit) := by
  intro state
  exact same state

theorem bind {first : Effectful State Failure Result}
    {rest : Result → Effectful State Failure Next} (firstKeeps : Keeps view first)
    (restKeeps : ∀ result, Keeps view (rest result)) : Keeps view (first >>= rest) := by
  intro state
  have kept := firstKeeps state
  rcases outcome : first.run state with ⟨failure | result, middle⟩
  · rw [run_bind_of_error _ outcome]
    rw [outcome] at kept
    exact kept
  · rw [run_bind_of_ok _ outcome, restKeeps result middle]
    rw [outcome] at kept
    exact kept

end Keeps

namespace Succeeds

theorem pure (result : Result) :
    Succeeds (Pure.pure result : Effectful State Failure Result) := by
  intro state
  exact ⟨result, rfl⟩

theorem ofExcept {outcome : Except Failure Result} {result : Result}
    (isOk : outcome = .ok result) :
    Succeeds (Effectful.ofExcept outcome : Effectful State Failure Result) := by
  intro state
  exact ⟨result, isOk⟩

theorem modify (change : State → State) :
    Succeeds (Effectful.modify change : Effectful State Failure Unit) := by
  intro state
  exact ⟨(), rfl⟩

theorem bind {first : Effectful State Failure Result}
    {rest : Result → Effectful State Failure Next} (firstSucceeds : Succeeds first)
    (restSucceeds : ∀ result, Succeeds (rest result)) : Succeeds (first >>= rest) := by
  intro state
  obtain ⟨result, isOk⟩ := firstSucceeds state
  have outcome : first.run state = (.ok result, (first.run state).2) := Prod.ext isOk rfl
  rw [run_bind_of_ok _ outcome]
  exact restSucceeds result _

end Succeeds

end Effectful

/-! ## Lists of fallible computations -/

/-- When every item of a list was computed, the results correspond to the items. -/
theorem forall₂_of_mapM_ok {Failure Item Result : Type} {compute : Item → Except Failure Result}
    {items : List Item} {results : List Result} (isOk : items.mapM compute = .ok results) :
    List.Forall₂ (fun item result => compute item = .ok result) items results := by
  induction items generalizing results with
  | nil =>
      cases isOk
      exact .nil
  | cons item rest ih =>
      rw [List.mapM_cons] at isOk
      cases first : compute item with
      | error failure =>
          rw [first] at isOk
          cases isOk
      | ok result =>
          cases others : rest.mapM compute with
          | error failure =>
              rw [first, others] at isOk
              cases isOk
          | ok further =>
              rw [first, others] at isOk
              cases isOk
              exact .cons first (ih others)

/-- Corresponding lists have for each item of the first one of the second. -/
theorem exists_of_forall₂ {First Second : Type*} {related : First → Second → Prop}
    {firsts : List First} {seconds : List Second}
    (corresponding : List.Forall₂ related firsts seconds) {first : First}
    (member : first ∈ firsts) : ∃ second ∈ seconds, related first second := by
  induction corresponding with
  | nil => cases member
  | @cons head second rest further relatedHeads tail ih =>
      rcases List.mem_cons.mp member with rfl | later
      · exact ⟨second, List.mem_cons_self, relatedHeads⟩
      · obtain ⟨other, otherMember, relatedOther⟩ := ih later
        exact ⟨other, List.mem_cons_of_mem _ otherMember, relatedOther⟩

/-- When a list was computed, every item of it was. -/
theorem exists_of_mapM_ok {Failure Item Result : Type} {compute : Item → Except Failure Result}
    {items : List Item} {results : List Result} (isOk : items.mapM compute = .ok results)
    {item : Item} (member : item ∈ items) : ∃ result ∈ results, compute item = .ok result :=
  exists_of_forall₂ (forall₂_of_mapM_ok isOk) member

/-- Every result of a list was computed from an item. -/
theorem exists_item_of_mapM_ok {Failure Item Result : Type} {compute : Item → Except Failure Result}
    {items : List Item} {results : List Result} (isOk : items.mapM compute = .ok results)
    {result : Result} (member : result ∈ results) : ∃ item ∈ items, compute item = .ok result :=
  exists_of_forall₂ (forall₂_of_mapM_ok isOk).flip member

/-- When every item of a list can be computed, so can the list. -/
theorem mapM_of_forall_ok {Failure Item Result : Type} {compute : Item → Except Failure Result}
    {result : Item → Result} {items : List Item}
    (isOk : ∀ item ∈ items, compute item = .ok (result item)) :
    items.mapM compute = .ok (items.map result) := by
  induction items with
  | nil => rfl
  | cons item rest ih =>
      obtain ⟨first, others⟩ := List.forall_mem_cons.mp isOk
      rw [List.mapM_cons, first, ih others]
      rfl

/-- The exception of a list is that of one of its items. -/
theorem exists_of_mapM_error {Failure Item Result : Type} {compute : Item → Except Failure Result}
    {items : List Item} {failure : Failure} (raised : items.mapM compute = .error failure) :
    ∃ item ∈ items, compute item = .error failure := by
  induction items with
  | nil => cases raised
  | cons item rest ih =>
      rw [List.mapM_cons] at raised
      cases first : compute item with
      | error other =>
          rw [first] at raised
          cases raised
          exact ⟨item, List.mem_cons_self, first⟩
      | ok result =>
          cases others : rest.mapM compute with
          | error other =>
              rw [first, others] at raised
              cases raised
              obtain ⟨later, member, failed⟩ := ih others
              exact ⟨later, List.mem_cons_of_mem _ member, failed⟩
          | ok further =>
              rw [first, others] at raised
              cases raised

end Foundations
