import Mathlib.Algebra.Group.Pi.Basic
import Mathlib.Algebra.Ring.Int.Defs
import Moderation.Bayes.Training
import Moderation.Proofs.Bayes.CounterKey
import Moderation.Proofs.Store.Ensures

/-!
# `Moderation.Proofs.Bayes.Balance`: what a content says about the counters

`amount scope content counter` is what a content holds under the name of a counter, an absent name
counting as zero. A balance is a function from counters to numbers, and `Holds` ties a content to
it: the counters have the amounts of the balance, and all names that belong to no counter are as
they were in `rest`. `Keeps` says further that no zero is stored, so two contents that keep one
balance over one rest are the same (`Keeps.get?_eq`).

The store changes a balance in three ways, and each has its lemma: `increment` adds to one counter,
`clear` starts over, and `Holds.set` sets one counter, which may store a zero. Reading changes
nothing (`get?_getMany`). From here on the programs of a classifier are followed on balances, and
the names of the counters do not come up again.
-/

set_option autoImplicit false

namespace Moderation.Store.Memory

/-- An addition changes the number under one name. A sum of zero is not stored. -/
theorem get?_increment_eq (content : Entries Int) (key other : String) (delta : Int) :
    (increment content key delta).2.get? other
      = if key = other then
          if (content.get? key).getD 0 + delta = 0 then none
          else some ((content.get? key).getD 0 + delta)
        else content.get? other := by
  simp only [increment]
  split
  · rw [Entries.get?_erase]
  · rw [Entries.get?_set]

/-- Putting looked-up values in turn: a name among the keys gets its value, if it has one. -/
theorem get?_setAll_lookup (content : Entries Int) (keys : List String) (start : Entries Int)
    (key : String) :
    (start.setAll (keys.filterMap fun k => (content.get? k).map (k, ·))).get? key
      = if key ∈ keys ∧ (content.get? key).isSome then content.get? key else start.get? key := by
  induction keys generalizing start with
  | nil => simp [Entries.setAll]
  | cons k rest ih =>
    cases hk : content.get? k with
    | none =>
      rw [List.filterMap_cons_none (by simp [hk]), ih]
      by_cases same : key = k
      · subst same; simp [hk]
      · simp [same]
    | some value =>
      rw [List.filterMap_cons_some (b := (k, value)) (by simp [hk])]
      show ((start.set k value).setAll _).get? key = _
      rw [ih, Entries.get?_set]
      -- The name that is put now may stand among the later ones again, with the same value.
      by_cases same : k = key
      · subst same; simp [hk]
      · simp [same, Ne.symm same]

/-- Many numbers at once are the numbers one by one. -/
theorem get?_getMany (content : Entries Int) (keys : List String) (key : String) :
    (getMany content keys).get? key = if key ∈ keys then content.get? key else none := by
  rw [getMany, Entries.ofPairs, get?_setAll_lookup]
  by_cases h : key ∈ keys <;> cases content.get? key <;> simp [h]

end Moderation.Store.Memory

namespace Moderation.Bayes

open Store

/-- What a content holds for a counter. -/
def amount (scope : String) (content : Entries Int) (counter : Counter) : Int :=
  replied content (counter.key scope)

/-- A reply to a look-up of a counter says what the content holds. -/
theorem replied_getMany {scope : String} {content : Entries Int} {keys : List String}
    {counter : Counter} (h : counter.key scope ∈ keys) :
    replied (Memory.getMany content keys) (counter.key scope) = amount scope content counter := by
  rw [replied, Memory.get?_getMany, if_pos h]
  rfl

/-- An addition to a proper counter changes this counter only. -/
theorem amount_increment {scope : String} {content : Entries Int} {a b : Counter}
    (ha : a.IsProper) (hb : b.IsProper) (delta : Int) :
    amount scope (Memory.increment content (a.key scope) delta).2 b
      = amount scope content b + if a = b then delta else 0 := by
  rw [amount, replied, Memory.get?_increment]
  by_cases h : a = b
  · simp [h, amount, replied]
  · have : a.key scope ≠ b.key scope := fun heq => h (Counter.key_inj ha hb heq)
    simp [h, this, amount, replied]

/-- The sum that an addition replies. -/
theorem increment_fst (scope : String) (content : Entries Int) (counter : Counter) (delta : Int) :
    (Memory.increment content (counter.key scope) delta).1
      = amount scope content counter + delta := rfl

/-! ### Balances -/

/-- What all counters hold. -/
abbrev Balance := Counter → Int

/-- A content holds a balance: its counters have the amounts of the balance. The other names are
as they were in `rest`. -/
structure Holds (scope : String) (rest : Entries Int) (balance : Balance)
    (content : Entries Int) : Prop where
  amount_eq : ∀ a : Counter, a.IsProper → amount scope content a = balance a
  other : ∀ key, (∀ a : Counter, a.IsProper → a.key scope ≠ key) →
    content.get? key = rest.get? key

/-- A content keeps a balance: it holds the balance, and stores no zero. -/
structure Keeps (scope : String) (rest : Entries Int) (balance : Balance)
    (content : Entries Int) : Prop extends Holds scope rest balance content where
  ne_zero : ∀ a : Counter, a.IsProper → content.get? (a.key scope) ≠ some 0

variable {scope : String} {rest : Entries Int} {balance : Balance} {content : Entries Int}

namespace Holds

/-- The sum that an addition replies is the amount in the balance and what is added. -/
theorem total_eq (h : Holds scope rest balance content) {a : Counter} (ha : a.IsProper)
    (delta : Int) : (Memory.increment content (a.key scope) delta).1 = balance a + delta := by
  rw [increment_fst, h.amount_eq a ha]

/-- An addition to a counter is an addition to the balance. -/
theorem increment (h : Holds scope rest balance content) {a : Counter} (ha : a.IsProper)
    (delta : Int) :
    Holds scope rest (balance + Pi.single a delta)
      (Memory.increment content (a.key scope) delta).2 where
  amount_eq b hb := by
    rw [amount_increment ha hb, h.amount_eq b hb]
    by_cases same : a = b
    · subst same
      simp
    · simp [same]
  -- A name that is no counter's is not the name of this one.
  other key hkey := by
    rw [Memory.get?_increment_eq, if_neg (hkey a ha)]
    exact h.other key hkey

/-- Setting a counter sets it in the balance. -/
theorem set (h : Holds scope rest balance content) {a : Counter} (ha : a.IsProper) (value : Int) :
    Holds scope rest (Function.update balance a value) (content.set (a.key scope) value) where
  amount_eq b hb := by
    rw [amount, replied, Entries.get?_set]
    by_cases same : a = b
    · subst same
      simp
    · -- Proper counters have keys of their own, so another counter is not touched.
      have : a.key scope ≠ b.key scope := fun heq => same (Counter.key_inj ha hb heq)
      rw [if_neg this, Function.update_of_ne (Ne.symm same)]
      exact h.amount_eq b hb
  other key hkey := by
    rw [Entries.get?_set, if_neg (hkey a ha)]
    exact h.other key hkey

/-- Clearing the scope starts over, if the rest has no name of the scope. -/
theorem clear (h : Holds scope rest balance content)
    (outside : ∀ key, Memory.inScope (scopeStart scope) key = true → rest.get? key = none) :
    Holds scope rest 0 (Memory.clear content (scopeStart scope)) where
  amount_eq a _ := by
    rw [amount, replied, Memory.get?_clear, if_pos (a.inScope_key scope)]
    rfl
  other key hkey := by
    rw [Memory.get?_clear]
    split
    · next inside => exact (outside key inside).symm
    · exact h.other key hkey

/-- What is stored under a name of the scope is a counter, if the rest has no name of the scope. -/
theorem exists_counter (h : Holds scope rest balance content)
    (outside : ∀ key, Memory.inScope (scopeStart scope) key = true → rest.get? key = none)
    {key : String} {n : Int} (hkey : Memory.inScope (scopeStart scope) key = true)
    (hn : content.get? key = some n) : ∃ a : Counter, a.IsProper ∧ a.key scope = key := by
  by_contra none
  have : content.get? key = rest.get? key := h.other key fun a ha heq => none ⟨a, ha, heq⟩
  rw [this, outside key hkey] at hn
  cases hn

end Holds

namespace Keeps

/-- A counter is stored exactly if it is not zero. -/
theorem counter (h : Keeps scope rest balance content) {a : Counter} (ha : a.IsProper) :
    content.get? (a.key scope) = if balance a = 0 then none else some (balance a) := by
  have held := h.amount_eq a ha
  have stored := h.ne_zero a ha
  rw [amount, replied] at held
  -- A counter that is missing counts as zero, and one that is stored is not zero.
  cases hget : content.get? (a.key scope) with
  | none =>
    rw [hget, Option.getD_none] at held
    rw [if_pos held.symm]
  | some value =>
    rw [hget] at stored held
    rw [Option.getD_some] at held
    subst held
    rw [if_neg (fun zero => stored (by rw [zero]))]

/-- An addition to a counter is an addition to the balance. -/
theorem increment (h : Keeps scope rest balance content) {a : Counter} (ha : a.IsProper)
    (delta : Int) :
    Keeps scope rest (balance + Pi.single a delta)
      (Memory.increment content (a.key scope) delta).2 where
  toHolds := h.toHolds.increment ha delta
  ne_zero b hb := by
    rw [Memory.get?_increment_eq]
    split
    · split
      · simp
      · next nonzero => exact fun heq => nonzero (Option.some.inj heq)
    · exact h.ne_zero b hb

/-- Clearing the scope starts over, if the rest has no name of the scope. -/
theorem clear (h : Keeps scope rest balance content)
    (outside : ∀ key, Memory.inScope (scopeStart scope) key = true → rest.get? key = none) :
    Keeps scope rest 0 (Memory.clear content (scopeStart scope)) where
  toHolds := h.toHolds.clear outside
  ne_zero a _ := by
    rw [Memory.get?_clear, if_pos (a.inScope_key scope)]
    simp

/-- A content without a name of the scope keeps the balance of nothing. -/
theorem of_outside
    (outside : ∀ key, Memory.inScope (scopeStart scope) key = true → rest.get? key = none) :
    Keeps scope rest 0 rest where
  amount_eq a _ := by
    rw [amount, replied, outside _ (a.inScope_key scope)]
    rfl
  other _ _ := rfl
  ne_zero a _ := by
    rw [outside _ (a.inScope_key scope)]
    simp

/-- Two contents that keep one balance over one rest hold the same under every name. -/
theorem get?_eq {content' : Entries Int} (h : Keeps scope rest balance content)
    (h' : Keeps scope rest balance content') (key : String) :
    content.get? key = content'.get? key := by
  by_cases hkey : ∃ a : Counter, a.IsProper ∧ a.key scope = key
  · obtain ⟨a, ha, rfl⟩ := hkey
    rw [h.counter ha, h'.counter ha]
  · have hother : ∀ a : Counter, a.IsProper → a.key scope ≠ key :=
      fun a ha heq => hkey ⟨a, ha, heq⟩
    rw [h.other key hother, h'.other key hother]

end Keeps

end Moderation.Bayes
