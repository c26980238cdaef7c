import Moderation.Act
import Moderation.Store.Memory
import Moderation.Value.Conversion

/-!
# `Moderation.Store.Ledger`: amounts under any names

A store in memory does not look at what its callers count: an amount goes by any value that names
something, and any number can be added to it. Callers who keep to texts and whole numbers find in
it what `Moderation.Store.Memory` says; the others find the rules of the values that they bring.

* `find` and `findMany` look amounts up; `put`, `add` and `clear` change them.
* `get?_ofContent` and `outcome_add_ofContent` compare a ledger with the content of a store.
-/

set_option autoImplicit false

namespace Moderation.Store

/-- Amounts by their names. -/
abbrev Ledger := Value.Map Number

namespace Ledger

/-- The amount under a name. -/
def find (key : Value) : Act Ledger (Option Number) := do
  let name ← Act.ofExcept key.toName
  return Value.Map.get? (← get) name

/-- The amounts under the names that `keys` lists and that have one. -/
def findMany (keys : Value) : Act Ledger Ledger := do
  let keys ← Act.ofExcept keys.elements
  let names ← keys.mapM fun key => Act.ofExcept key.toName
  let ledger ← get
  return Value.Map.ofPairs
    (names.filterMap fun name => (Value.Map.get? ledger name).map (name, ·))

/-- Sets the amount under a name to a value, which is read as a whole number. -/
def put (key value : Value) : Act Ledger Unit := do
  let amount ← Act.ofExcept value.toWhole
  let name ← Act.ofExcept key.toName
  modify fun ledger => Value.Map.set ledger name (.whole amount)

/-- Adds to the amount under a name, and gives the sum. An amount that becomes zero is removed. -/
def add (key delta : Value) : Act Ledger Number := do
  let name ← Act.ofExcept key.toName
  let delta ← Act.ofExcept delta.toNumber
  let amount := (Value.Map.get? (← get) name).getD (.whole 0)
  let total ← Act.ofArithmetic (Arithmetic.add amount delta)
  modify fun ledger =>
    if total.isZero then Value.Map.erase ledger name else Value.Map.set ledger name total
  return total

/-- Whether a name begins with `scope`. Only texts have beginnings. -/
def inScope (scope key : Value) : Except Error Bool := do
  match scope, ← key.toText with
  | .text scope, key => return Memory.inScope scope key
  | _, _ => throw .wrongKind

/-- Removes the names that begin with `scope`, and gives their count. -/
def clear (scope : Value) : Act Ledger Nat := do
  let ledger ← get
  let kept ← Act.ofExcept (ledger.filterM fun entry => do return !(← inScope scope entry.1))
  set kept
  return ledger.length - kept.length

/-! ### Texts and whole numbers -/

/-- The ledger with the numbers of a content. -/
def ofContent (content : Entries Int) : Ledger :=
  Value.Map.ofEntries (content.map fun entry => (entry.1, .whole entry.2))

/-- A counter is looked up in a ledger as in the content. -/
theorem get?_ofContent (content : Entries Int) (key : String) :
    Value.Map.get? (ofContent content) (.text key) = (content.get? key).map .whole := by
  rw [ofContent, Value.Map.get?_ofEntries]
  induction content with
  | nil => rfl
  | cons entry rest ih =>
    obtain ⟨k, n⟩ := entry
    rw [List.map_cons, Entries.get?_cons, Entries.get?_cons, ih]
    by_cases h : k = key <;> simp [h]

/-- A counter is set in a ledger as in the content. -/
theorem set_ofContent (content : Entries Int) (key : String) (n : Int) :
    Value.Map.set (ofContent content) (.text key) (.whole n) = ofContent (content.set key n) := by
  rw [ofContent, Value.Map.set_ofEntries, ofContent]
  congr 1
  induction content with
  | nil => rfl
  | cons entry rest ih =>
    obtain ⟨k, m⟩ := entry
    by_cases h : k = key <;> simp [Entries.set, h, ih]

/-- A counter is erased from a ledger as from the content. -/
theorem erase_ofContent (content : Entries Int) (key : String) :
    Value.Map.erase (ofContent content) (.text key) = ofContent (content.erase key) := by
  rw [ofContent, Value.Map.erase_ofEntries, ofContent, Entries.erase, List.filter_map]
  rfl

/-- Adding a whole number under a text does to the ledger what it does to the content. -/
theorem outcome_add_ofContent (content : Entries Int) (key : String) (delta : Int) :
    (add (.text key) (.int delta)).outcome (ofContent content) =
      (.ok (.whole (Memory.increment content key delta).1),
        ofContent (Memory.increment content key delta).2) := by
  have amount : (Value.Map.get? (ofContent content) (.text key)).getD (.whole 0) =
      .whole ((content.get? key).getD 0) := by
    rw [get?_ofContent]
    cases content.get? key <;> rfl
  -- The run itself is a computation, but for the amount that the ledger holds.
  have run (held : Int) (h : (Value.Map.get? (ofContent content) (.text key)).getD (.whole 0) =
      .whole held) : (add (.text key) (.int delta)).outcome (ofContent content) =
        (.ok (.whole (held + delta)),
          if (Number.whole (held + delta)).isZero then
            Value.Map.erase (ofContent content) (.text key)
          else Value.Map.set (ofContent content) (.text key) (.whole (held + delta))) := by
    have sum : Act.ofArithmetic (σ := Ledger) (Arithmetic.add
        ((Value.Map.get? (ofContent content) (.text key)).getD (.whole 0)) (.whole delta)) =
        pure (.whole (held + delta)) := by
      rw [h]
      rfl
    change (Act.ofArithmetic (σ := Ledger) (Arithmetic.add
      ((Value.Map.get? (ofContent content) (.text key)).getD (.whole 0)) (.whole delta)) >>=
        fun total => _ : Act Ledger Number).outcome _ = _
    rw [sum]
    rfl
  rw [run _ amount, Number.isZero_whole, erase_ofContent, set_ofContent]
  by_cases h : (content.get? key).getD 0 + delta = 0 <;> simp [Memory.increment, h]

end Ledger

end Moderation.Store
