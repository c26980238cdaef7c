import Moderation.Error

/-!
# `Moderation.Config.Merge`: one table on top of another

A configuration may be spread over files. A later file overrides an earlier one path by path:
where both have a table the tables are merged, and anywhere else the later value stands.

* `get?_merge` says what the merged table holds under a name.
-/

set_option autoImplicit false

namespace Moderation.Config

mutual

/-- The value `new` where there was `old`: tables are merged, all else is replaced. -/
def mergeValue : (new old : Value) → Value
  | .table new, .table old => .table (mergeOver new old)
  | new, _ => new

/-- The table `old` with the entries of a table on top. -/
def mergeOver : (new old : List (String × Value)) → List (String × Value)
  | [], old => old
  | (name, value) :: new, old =>
    mergeOver new (Entries.set old name
      (match Entries.get? old name with
        | some previous => mergeValue value previous
        | none => value))

end

/-- The table `old` with the entries of `new` on top. -/
def merge (old new : Entries Value) : Entries Value := mergeOver new old

/-- Entries are merged one after the other, each over what the ones before it have left. -/
theorem mergeOver_cons (name : String) (value : Value) (new old : List (String × Value)) :
    mergeOver ((name, value) :: new) old = mergeOver new (Entries.set old name
      (((Entries.get? old name).map (mergeValue value)).getD value)) := by
  rw [mergeOver]
  cases Entries.get? old name <;> rfl

/-- Under a key that only one side has, the merged tree has its value. Where both have one, the new
value is merged over the old one. -/
theorem get?_merge (old : Entries Value) {new : Entries Value} (distinct : new.keys.Nodup)
    (key : String) :
    (merge old new).get? key =
      match new.get? key with
      | none => old.get? key
      | some value => some (((old.get? key).map (mergeValue value)).getD value) := by
  unfold merge
  induction new generalizing old with
  | nil => rfl
  | cons entry rest ih =>
    obtain ⟨name, value⟩ := entry
    simp only [Entries.keys, List.map_cons, List.nodup_cons] at distinct
    rw [mergeOver_cons, ih _ distinct.2, Entries.get?_cons, Entries.get?_set]
    -- The names are distinct, so nothing behind the first entry is merged under its name again.
    by_cases same : name = key
    · subst same
      have absent : Entries.get? rest name = none := by
        rw [Entries.get?, List.lookup_eq_none_iff]
        intro entry member
        exact bne_iff_ne.2 fun h => distinct.1 (List.mem_map.2 ⟨entry, member, h.symm⟩)
      simp [absent]
    · simp [same]

/-- A value with another on top, when neither is known to be a table. A list takes no entries, so
it can only be merged with an empty table. -/
def mergeGiven : (old new : Value) → Except Error Value
  | .table old, .table new => .ok (.table (merge old new))
  | .list items, .table [] => .ok (.list items)
  | .list _, .table _ => .error .wrongKind
  | _, _ => .error .lacking

/-- The tables of a list, each on top of those before it. -/
def mergeAll (tables : List (Entries Value)) : Entries Value := tables.foldl merge []

end Moderation.Config
