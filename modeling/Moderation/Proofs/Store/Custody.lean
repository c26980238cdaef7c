import Moderation.Proofs.Result
import Moderation.Registry.Standard

/-!
# `Moderation.Proofs.Store.Custody`: which stores are open

A book is kept of the stores that factories open. A store is entered under the next number when it is
opened, and its number is noted when it is asked to close, whether it closes or cannot be reached
(`Custody`). Otherwise it is the store that it was.

* `custodial` are the factories of Bayes classifiers over any adapters, with such a book.
* `Dependable` adapters open and close their stores, or say that they cannot be reached.
* `Closes`: closing a store of theirs notes its number and fails in no other way (`openBooked_cases`).
-/

set_option autoImplicit false

namespace Moderation

/-- A store cannot be reached. -/
def Error.IsOutage (e : Error) : Prop := ∃ outage, e = .storeUnavailable outage

/-- The state of all stores, and the book of those that have been opened and closed. -/
structure Custody (σ : Type) where
  stores : σ
  /-- The number of stores that have been opened. -/
  opened : Nat
  /-- The numbers of the stores that have been asked to close, time after time. -/
  closings : List Nat

namespace Custody

variable {σ β : Type}

/-- A book without entries. -/
def blank (stores : σ) : Custody σ := ⟨stores, 0, []⟩

/-- The stores that have been opened and that nobody has asked to close. -/
def openStores (custody : Custody σ) : List Nat :=
  (List.range custody.opened).filter fun id => !custody.closings.contains id

/-- An action that is not entered in the book. -/
def onStores (act : Act σ β) : Act (Custody σ) β :=
  act.zoom Custody.stores fun stores custody => { custody with stores }

/-- The store with a number, which is noted when it is asked to close. -/
def booked (id : Nat) (store : Store σ) : Store (Custody σ) where
  id := id
  answer request := onStores (store.answer request)
  close := do
    modify fun custody => { custody with closings := custody.closings ++ [id] }
    onStores store.close
  content custody := store.content custody.stores

/-- Opens a store and enters it under the next number. -/
def openBooked (factory : Act σ (Store σ)) : Act (Custody σ) (Store (Custody σ)) := do
  let store ← onStores factory
  modifyGet fun custody =>
    (booked custody.opened store, { custody with opened := custody.opened + 1 })

/-- Ways to open stores, by the names of the adapters. -/
abbrev Adapters (σ : Type) := List (String × ((params : Value.Map Value) → Act σ (Store σ)))

/-- The factories of Bayes classifiers whose stores are in the book. -/
def custodial (adapters : Adapters σ) : Registry.Factories (Custody σ) Number where
  stores := adapters.map fun adapter => (adapter.1, fun params => openBooked (adapter.2 params))
  strategies := [("bayes", Registry.makeBayes)]

/-- Stores are opened and closed, or cannot be reached. -/
structure Dependable (adapters : Adapters σ) : Prop where
  opening : ∀ adapter ∈ adapters, ∀ params state,
    FailsAs Error.IsOutage ((adapter.2 params).outcome state).1
  closing : ∀ adapter ∈ adapters, ∀ params state store,
    ((adapter.2 params).outcome state).1 = .ok store →
    ∀ later, FailsAs Error.IsOutage (store.close.outcome later).1

/-- An action notes the number of a store as asked to close. It succeeds, or the store cannot be
reached. -/
def Closes (act : Act (Custody σ) Unit) (id : Nat) : Prop :=
  ∀ custody, ∃ result stores, FailsAs Error.IsOutage result ∧ act.outcome custody
    = (result, { custody with stores, closings := custody.closings ++ [id] })

/-- A store in the book notes its number before it closes, so also if it cannot be reached then. -/
theorem closes_booked {id : Nat} {store : Store σ}
    (closing : ∀ later, FailsAs Error.IsOutage (store.close.outcome later).1) :
    Closes (booked id store).close id := by
  intro custody
  exact ⟨(store.close.outcome custody.stores).1, (store.close.outcome custody.stores).2,
    closing custody.stores, rfl⟩

variable {adapters : Adapters σ}

/-- An adapter opens a store under the next number, or the store cannot be reached. -/
theorem openBooked_cases (dependable : Dependable adapters)
    {adapter : String × ((params : Value.Map Value) → Act σ (Store σ))} (listed : adapter ∈ adapters)
    (params : Value.Map Value) (custody : Custody σ) :
    (∃ outage stores, (∀ store, ((adapter.2 params).outcome custody.stores).1 ≠ .ok store)
        ∧ (openBooked (adapter.2 params)).outcome custody
          = (.error (.storeUnavailable outage), { custody with stores }))
      ∨ ∃ store stores, (∃ given, ((adapter.2 params).outcome custody.stores).1 = .ok given)
        ∧ store.id = custody.opened ∧ Closes store.close custody.opened
        ∧ (openBooked (adapter.2 params)).outcome custody
          = (.ok store, { custody with stores, opened := custody.opened + 1 }) := by
  have opening := dependable.opening adapter listed params custody.stores
  cases ran : (adapter.2 params).outcome custody.stores with
  | mk result stores =>
  have zoomed : (onStores (adapter.2 params)).outcome custody = (result, { custody with stores }) := by
    rw [onStores, Act.outcome_zoom, ran]
  -- The book is written after the store is open, so an outage leaves it as it is.
  cases result with
  | error e =>
    obtain ⟨outage, rfl⟩ := opening e (by rw [ran])
    exact Or.inl ⟨outage, stores, nofun, Act.outcome_bind_error zoomed⟩
  | ok store =>
    have closing := dependable.closing adapter listed params custody.stores store (by rw [ran])
    refine Or.inr ⟨booked custody.opened store, stores, ⟨store, rfl⟩, rfl, closes_booked closing, ?_⟩
    exact Act.outcome_bind_ok zoomed

/-- The adapters of a book go by their own names. -/
theorem lookup_custodial (adapters : Adapters σ) (name : String) :
    (custodial adapters).stores.lookup name
      = (adapters.lookup name).map fun connect params => openBooked (connect params) := by
  show (adapters.map _).lookup name = _
  induction adapters with
  | nil => rfl
  | cons adapter rest ih =>
    rw [List.map_cons, List.lookup_cons, List.lookup_cons]
    cases name == adapter.1
    · exact ih
    · rfl

/-- There is one strategy, that of the Bayes classifier. -/
theorem lookup_strategies_custodial (adapters : Adapters σ) (strategy : String) :
    (custodial adapters).strategies.lookup strategy
      = if strategy = "bayes" then some Registry.makeBayes else none := by
  show [("bayes", Registry.makeBayes)].lookup strategy = _
  rw [List.lookup_cons]
  by_cases h : strategy = "bayes"
  · rw [if_pos h, h, beq_self_eq_true]
  · rw [if_neg h, beq_eq_false_iff_ne.mpr h]
    rfl

/-- A strategy that is made closes its store when it is closed. -/
theorem close_of_makeBayes {store : Store (Custody σ)} {strategy : Strategy (Custody σ) Number}
    {analyzer : String} {options params : Entries Value}
    (made : Registry.makeBayes analyzer store options params = .ok strategy) :
    strategy.close = store.close := by
  obtain ⟨classifier, -, same⟩ := ok_of_bind made
  cases same
  rfl

/-! ### The balance of the book -/

/-- One more number has its place among the others. -/
theorem perm_range_succ {n : Nat} {before after : List Nat}
    (h : (List.range n).Perm (before ++ after)) :
    (List.range (n + 1)).Perm (before ++ n :: after) := by
  rw [List.range_succ]
  calc (List.range n ++ [n]).Perm (n :: List.range n) := List.perm_append_singleton ..
    List.Perm _ (n :: (before ++ after)) := h.cons n
    List.Perm _ (before ++ n :: after) := List.perm_middle.symm

/-- If every store that has been opened is held or has been asked to close, and never both, then the
stores that are open are those that are held. -/
theorem openStores_perm {custody : Custody σ} {held : List Nat}
    (balance : (List.range custody.opened).Perm (held ++ custody.closings)) :
    custody.openStores.Perm held := by
  -- Each store was opened once, so none of the held ones is also among those asked to close.
  have distinct : (held ++ custody.closings).Nodup := balance.nodup_iff.mp List.nodup_range
  have apart := (List.nodup_append.mp distinct).2.2
  have kept : held.filter (fun id => !custody.closings.contains id) = held := by
    rw [List.filter_eq_self]
    intro id member
    simpa using fun closed => apart id member id closed rfl
  have gone : custody.closings.filter (fun id => !custody.closings.contains id) = [] := by
    simp [List.filter_eq_nil_iff]
  have filtered := balance.filter fun id => !custody.closings.contains id
  rwa [List.filter_append, kept, gone, List.append_nil] at filtered

/-! ### Stores in memory -/

/-- Stores in memory. -/
def shelved : Adapters Store.Shelf := [("memory", fun _ => Store.Memory.fresh)]

/-- Stores in memory open and close, whatever happens. -/
theorem dependable_shelved : Dependable shelved where
  opening adapter listed params state := by
    rw [List.mem_singleton.mp listed]
    exact failsAs_ok _
  closing adapter listed params state store opened later := by
    rw [List.mem_singleton.mp listed] at opened
    cases opened
    exact failsAs_ok _

end Custody

end Moderation
