import Moderation.Value.Basic

/-!
# `Moderation.Value.Map`: values under values

Scores are kept by category, and a category can be any value that names something; so can be the
name of a parameter. Two keys are one if they are equal as values, so `1` and `1.0` are.

* `Map.ofPairs` makes a map, `Map.get?`, `Map.set` and `Map.erase` act on one key.
* `Map.named` is the part under texts, `Map.labelled` the form with the keys as messages show them.
* `get?_ofEntries`, `set_ofEntries`, `erase_ofEntries` and `setAll_ofEntries` say that a map under
  texts is a table.
-/

set_option autoImplicit false

namespace Moderation.Value

/-- Values of type `β` under distinct keys, in the order in which the keys came. -/
abbrev Map (β : Type) := List (Value × β)

namespace Map

variable {β : Type}

/-- What is under `key`. -/
def get? (map : Map β) (key : Value) : Option β := (map.find? (·.1.same key)).map (·.2)

/-- Puts `x` under `key`, in its place if it has one and at the end otherwise. -/
def set : Map β → Value → β → Map β
  | [], key, x => [(key, x)]
  | (k, y) :: rest, key, x => if k.same key then (k, x) :: rest else (k, y) :: set rest key x

/-- Removes what is under `key`. -/
def erase (map : Map β) (key : Value) : Map β := map.filter (!·.1.same key)

/-- Puts each pair in turn, so a later pair wins over an earlier one of its key. -/
def setAll (map : Map β) (pairs : List (Value × β)) : Map β :=
  pairs.foldl (fun map pair => map.set pair.1 pair.2) map

/-- The map of a list of pairs: a key has the place of its first pair and what its last says. -/
def ofPairs (pairs : List (Value × β)) : Map β := setAll [] pairs

/-! ### Keys that are texts -/

/-- The map of some entries. -/
def ofEntries (entries : Entries β) : Map β := entries.map fun entry => (text entry.1, entry.2)

/-- What is under texts. -/
def named (map : Map β) : Entries β :=
  map.filterMap fun entry =>
    match entry.1 with
    | text name => some (name, entry.2)
    | _ => none

/-- The map with its keys as messages show them; of two keys that look alike the later wins. -/
def labelled (map : Map β) : Entries β :=
  Entries.ofPairs (map.map fun entry => (entry.1.display, entry.2))

/-- A value is set under a name in a map as among entries. -/
theorem set_ofEntries (entries : Entries β) (name : String) (x : β) :
    set (ofEntries entries) (text name) x = ofEntries (entries.set name x) := by
  induction entries with
  | nil => rfl
  | cons entry rest ih =>
    obtain ⟨k, y⟩ := entry
    rw [ofEntries] at ih
    by_cases h : k = name <;> simp [ofEntries, set, Entries.set, same, h, ih]

/-- A name is looked up in a map as among entries. -/
theorem get?_ofEntries (entries : Entries β) (name : String) :
    get? (ofEntries entries) (text name) = entries.get? name := by
  induction entries with
  | nil => rfl
  | cons entry rest ih =>
    obtain ⟨k, y⟩ := entry
    rw [Entries.get?_cons, ← ih]
    by_cases h : k = name <;> simp [ofEntries, get?, same, h]

/-- A name is erased from a map as from entries. -/
theorem erase_ofEntries (entries : Entries β) (name : String) :
    erase (ofEntries entries) (text name) = ofEntries (entries.erase name) := by
  rw [erase, ofEntries, List.filter_map]
  exact congrArg ofEntries (List.filter_congr fun entry _ => by simp [same, bne])

/-- Several values are set in a map as among entries. -/
theorem setAll_ofEntries (entries pairs : Entries β) :
    setAll (ofEntries entries) (ofEntries pairs) = ofEntries (entries.setAll pairs) := by
  induction pairs generalizing entries with
  | nil => rfl
  | cons pair rest ih =>
    have step := ih (entries.set pair.1 pair.2)
    rw [← set_ofEntries] at step
    exact step

/-- The names of a map of entries are those of the entries. -/
theorem named_ofEntries (entries : Entries β) : named (ofEntries entries) = entries := by
  induction entries with
  | nil => rfl
  | cons entry rest ih => exact congrArg (entry :: ·) ih

/-- Whether the keys have an order. -/
def isSortable : Map β → Bool
  | [] => true
  | first :: rest => rest.all fun entry => first.1.isComparable entry.1

end Map

end Moderation.Value
