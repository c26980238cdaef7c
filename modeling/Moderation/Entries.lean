/-!
# `Moderation.Entries`: values under names, in the order of their first entry

A table of a configuration, the counters of a store, the variables of an environment and the
analyzers of a registry are all lists of values under distinct names. A name keeps its place
when its value changes, a new name goes to the end.

* `get?_set` and `get?_erase` say what each operation does to the values.
* `keys_set` says what it does to the order, and `nodup_keys_set` that names stay distinct.
-/

set_option autoImplicit false

namespace Moderation

/-- Values under names. -/
abbrev Entries (β : Type) := List (String × β)

namespace Entries

variable {β : Type}

/-- The value under `key`. -/
def get? (entries : Entries β) (key : String) : Option β := entries.lookup key

/-- Whether there is a value under `key`. -/
def has (entries : Entries β) (key : String) : Bool := (entries.get? key).isSome

/-- The names, in order. -/
def keys (entries : Entries β) : List String := entries.map (·.1)

/-- Puts `value` under `key`: in its place if it has one, at the end otherwise. -/
def set : Entries β → String → β → Entries β
  | [], key, value => [(key, value)]
  | (k, v) :: rest, key, value =>
    if k = key then (key, value) :: rest else (k, v) :: set rest key value

/-- Removes what is under `key`. -/
def erase (entries : Entries β) (key : String) : Entries β := entries.filter (·.1 != key)

/-- Puts each pair in turn, so a later pair wins over an earlier one of its name. -/
def setAll (entries : Entries β) (pairs : List (String × β)) : Entries β :=
  pairs.foldl (fun table pair => table.set pair.1 pair.2) entries

/-- The entries of a list of pairs, the last pair of a name deciding its value. -/
def ofPairs (pairs : List (String × β)) : Entries β := setAll [] pairs

/-! ### The value under a name -/

/-- Nothing is found among no entries. -/
@[simp]
theorem get?_nil (key : String) : get? ([] : Entries β) key = none := rfl

/-- The first entry is looked at before the others. -/
theorem get?_cons (k : String) (v : β) (rest : Entries β) (key : String) :
    get? ((k, v) :: rest) key = if k = key then some v else get? rest key := by
  by_cases h : k = key
  · subst h; simp [get?]
  · simp [get?, List.lookup_cons, h, beq_eq_false_iff_ne.2 (Ne.symm h)]

/-- A value that is set is found, and nothing else changes. -/
theorem get?_set (entries : Entries β) (key : String) (value : β) (other : String) :
    (entries.set key value).get? other =
      if key = other then some value else entries.get? other := by
  induction entries with
  | nil => simp [set, get?_cons]
  | cons head rest ih =>
    obtain ⟨k, v⟩ := head
    -- The value takes the place of the first entry with its key, and the search stops at the first
    -- one too.
    by_cases h : k = key
    · subst h
      by_cases h' : k = other <;> simp [set, get?_cons, h']
    · by_cases h' : k = other
      · subst h'
        simp [set, get?_cons, h, Ne.symm h]
      · simp [set, get?_cons, h, h', ih]

/-- A key that is erased is not found, and nothing else changes. -/
theorem get?_erase (entries : Entries β) (key other : String) :
    (entries.erase key).get? other = if key = other then none else entries.get? other := by
  induction entries with
  | nil => simp [erase]
  | cons head rest ih =>
    obtain ⟨k, v⟩ := head
    rw [erase] at ih
    -- All entries of the key are dropped, so the rest has none of it either.
    by_cases h : k = key
    · subst h
      by_cases h' : k = other
      · subst h'; simpa [erase] using ih
      · simpa [erase, get?_cons, h'] using ih
    · by_cases h' : k = other
      · subst h'
        simp [erase, get?_cons, h, Ne.symm h]
      · simpa [erase, get?_cons, h, h'] using ih

/-! ### The names -/

/-- A key that is set keeps its place, and a new one comes last. -/
theorem keys_set (entries : Entries β) (key : String) (value : β) :
    (entries.set key value).keys =
      if key ∈ entries.keys then entries.keys else entries.keys ++ [key] := by
  induction entries with
  | nil => simp [set, keys]
  | cons head rest ih =>
    obtain ⟨k, v⟩ := head
    by_cases h : k = key
    · subst h; simp [set, keys]
    · simp only [keys] at ih
      by_cases member : key ∈ rest.map (·.1) <;>
        simp_all [set, keys, List.mem_cons, Ne.symm h]

/-- Setting a value keeps the keys apart. -/
theorem nodup_keys_set (entries : Entries β) (key : String) (value : β)
    (h : entries.keys.Nodup) : (entries.set key value).keys.Nodup := by
  rw [keys_set]
  split
  · exact h
  · next absent => simpa [List.nodup_append] using ⟨h, fun k hk same => absent (same ▸ hk)⟩

/-- If all keys are different, an entry is found under its key. -/
theorem get?_of_mem {entries : Entries β} (h : entries.keys.Nodup) {key : String} {value : β}
    (member : (key, value) ∈ entries) : entries.get? key = some value := by
  induction entries with
  | nil => exact absurd member List.not_mem_nil
  | cons head rest ih =>
    obtain ⟨k, v⟩ := head
    obtain ⟨fresh, distinct⟩ := List.nodup_cons.mp h
    rw [get?_cons]
    -- An entry behind the first one has another key than that.
    rcases List.mem_cons.mp member with same | member
    · cases same
      simp
    · have other : k ≠ key := by
        rintro rfl
        exact fresh (List.mem_map.mpr ⟨_, member, rfl⟩)
      rw [if_neg other]
      exact ih distinct member

end Entries

end Moderation
