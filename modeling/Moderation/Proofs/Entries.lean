import Mathlib.Data.List.Dedup
import Moderation.Entries

/-!
# `Moderation.Proofs.Entries`: what a table says about its names

Two tables are one if they have the same names in the same order and the same values under them
(`eq_of_get?`). A table without some names is what is left of it by whoever removes the names
(`without`), and the difference of the lengths tells how many of them there were (`countP_has`).
-/

set_option autoImplicit false

namespace Moderation.Entries

variable {β : Type}

/-- What is found under a name is an entry of that name. -/
theorem mem_of_get? {entries : Entries β} {key : String} {value : β}
    (h : entries.get? key = some value) : (key, value) ∈ entries := by
  induction entries with
  | nil => cases h
  | cons head rest ih =>
    obtain ⟨k, v⟩ := head
    rw [get?_cons] at h
    -- The search stops at the first entry of the name.
    split at h
    · next same =>
      cases same
      cases h
      exact List.mem_cons_self
    · exact List.mem_cons_of_mem _ (ih h)

/-- Putting a value makes one entry, and leaves the others or drops one. -/
theorem mem_set {entries : Entries β} {key : String} {value : β} {entry : String × β}
    (h : entry ∈ entries.set key value) : entry = (key, value) ∨ entry ∈ entries := by
  -- The value takes the place of an entry or is put behind all of them.
  induction entries with
  | nil => exact Or.inl (List.mem_singleton.mp h)
  | cons head rest ih =>
    obtain ⟨k, v⟩ := head
    rw [set] at h
    split at h
    · rcases List.mem_cons.mp h with rfl | h
      · exact Or.inl rfl
      · exact Or.inr (List.mem_cons_of_mem _ h)
    · rcases List.mem_cons.mp h with rfl | h
      · exact Or.inr List.mem_cons_self
      · exact (ih h).imp id (List.mem_cons_of_mem _)

/-- The later value under a name takes the place of the earlier one. -/
theorem set_set (entries : Entries β) (key : String) (old new : β) :
    (entries.set key old).set key new = entries.set key new := by
  induction entries with
  | nil => simp [set]
  | cons head rest ih =>
    rw [set]
    split
    · next same => rw [set, set, if_pos rfl, if_pos same]
    · next other => rw [set, set, if_neg other, if_neg other, ih]

/-- Nothing is found under a name that is none of the table's. -/
theorem get?_eq_none_iff (entries : Entries β) (key : String) :
    entries.get? key = none ↔ key ∉ entries.keys := by
  rw [get?, List.lookup_eq_none_iff, keys, List.mem_map]
  simp only [not_exists, not_and, bne_iff_ne]
  exact forall₂_congr fun _ _ => ne_comm

/-- A table has the names of its entries. -/
theorem has_iff (entries : Entries β) (key : String) :
    entries.has key = true ↔ key ∈ entries.keys := by
  rw [has, Option.isSome_iff_ne_none, Ne, get?_eq_none_iff, not_not]

/-- Values changed under their names. -/
theorem get?_mapValues {γ : Type} (entries : Entries β) (f : String → β → γ) (key : String) :
    get? (entries.map fun entry => (entry.1, f entry.1 entry.2)) key
      = (entries.get? key).map (f key) := by
  induction entries with
  | nil => rfl
  | cons head rest ih =>
    rw [List.map_cons, get?_cons, get?_cons, ih]
    split
    · next same => rw [same, Option.map_some]
    · rfl

/-! ### Pairs put in turn -/

/-- Of the pairs that are put in turn the last one of a name decides. A name without a pair keeps
its value. -/
theorem get?_setAll (entries : Entries β) (pairs : List (String × β)) (key : String) :
    (entries.setAll pairs).get? key = (get? pairs.reverse key).or (entries.get? key) := by
  induction pairs generalizing entries with
  | nil => rfl
  | cons pair pairs ih =>
    have split : get? (pair :: pairs).reverse key
        = (get? pairs.reverse key).or (get? [pair] key) := by
      rw [List.reverse_cons, get?, List.lookup_append]
      rfl
    show ((entries.set pair.1 pair.2).setAll pairs).get? key = _
    rw [ih, get?_set, split, Option.or_assoc, get?_cons]
    split <;> rfl

/-- Putting values makes no name occur twice. -/
theorem nodup_keys_setAll {entries : Entries β} (distinct : entries.keys.Nodup)
    (pairs : List (String × β)) : (entries.setAll pairs).keys.Nodup := by
  induction pairs generalizing entries with
  | nil => exact distinct
  | cons pair pairs ih => exact ih (nodup_keys_set _ _ _ distinct)

/-- The last pair of a name decides its value. -/
theorem get?_ofPairs (pairs : List (String × β)) (key : String) :
    (ofPairs pairs).get? key = get? pairs.reverse key := by
  rw [ofPairs, get?_setAll, get?_nil, Option.or_none]

/-- An entry was there before, or is one of the pairs. -/
theorem mem_setAll {entries : Entries β} {pairs : List (String × β)} {entry : String × β}
    (h : entry ∈ entries.setAll pairs) : entry ∈ entries ∨ entry ∈ pairs := by
  induction pairs generalizing entries with
  | nil => exact Or.inl h
  | cons pair pairs ih =>
    rcases ih h with h | h
    · rcases mem_set h with rfl | h
      · exact Or.inr List.mem_cons_self
      · exact Or.inl h
    · exact Or.inr (List.mem_cons_of_mem _ h)

/-- A table made of pairs holds nothing else. -/
theorem mem_ofPairs {pairs : List (String × β)} {entry : String × β} (h : entry ∈ ofPairs pairs) :
    entry ∈ pairs :=
  (mem_setAll h).resolve_left List.not_mem_nil

/-! ### Tables that are one -/

/-- Tables with the same names in the same order and the same values are one. -/
theorem eq_of_get? {entries others : Entries β} (names : entries.keys = others.keys)
    (distinct : entries.keys.Nodup) (values : ∀ key, entries.get? key = others.get? key) :
    entries = others := by
  induction entries generalizing others with
  | nil =>
    cases others with
    | nil => rfl
    | cons entry others => cases names
  | cons entry entries ih =>
    cases others with
    | nil => cases names
    | cons entry' others =>
      obtain ⟨k, x⟩ := entry
      obtain ⟨k', x'⟩ := entry'
      obtain ⟨same, behind⟩ : k = k' ∧ keys entries = keys others := List.cons.inj names
      subst same
      obtain ⟨fresh, distinct⟩ := List.nodup_cons.mp distinct
      have first := values k
      rw [get?_cons, get?_cons, if_pos rfl, if_pos rfl] at first
      cases first
      congr 1
      -- Under the first name neither rest has a value, as no name comes twice.
      refine ih behind distinct fun key => ?_
      by_cases same : k = key
      · subst same
        rw [(get?_eq_none_iff entries k).mpr fresh, (get?_eq_none_iff others k).mpr (behind ▸ fresh)]
      · simpa [get?_cons, same] using values key

/-! ### Without some names -/

/-- The entries under other names. -/
def without (entries : Entries β) (names : List String) : Entries β :=
  entries.filter fun entry => entry.1 ∉ names

/-- Names can be left out one group after the other. -/
theorem without_append (entries : Entries β) (names more : List String) :
    entries.without (names ++ more) = (entries.without names).without more := by
  rw [without, without, without, List.filter_filter]
  refine List.filter_congr fun entry _ => ?_
  simp only [List.mem_append, not_or, Bool.decide_and, Bool.and_comm]

/-- Leaving names out makes no name occur twice. -/
theorem nodup_keys_without {entries : Entries β} (h : entries.keys.Nodup) (names : List String) :
    (entries.without names).keys.Nodup :=
  (List.filter_sublist.map _).nodup h

/-- The other names stay. -/
theorem has_without (entries : Entries β) {names : List String} {name : String}
    (other : name ∉ names) : (entries.without names).has name = entries.has name := by
  rw [Bool.eq_iff_iff, has_iff, has_iff, keys, keys, without, List.mem_map, List.mem_map]
  refine exists_congr fun entry => and_congr_left fun same => ?_
  simp [List.mem_filter, same, other]

/-- The names of which there were entries are told from the length of what is left. -/
theorem countP_has (entries : Entries β) (distinct : entries.keys.Nodup) (names : List String) :
    (names.dedup.countP entries.has : Int) = entries.length - (entries.without names).length := by
  have parts := List.length_eq_length_filter_add (l := entries) fun entry => entry.1 ∈ names
  have found : (names.dedup.filter entries.has).Perm (entries.keys.filter (· ∈ names)) := by
    refine (List.perm_ext_iff_of_nodup (names.nodup_dedup.filter _) (distinct.filter _)).mpr ?_
    intro name
    rw [List.mem_filter, List.mem_filter, List.mem_dedup, has_iff, decide_eq_true_iff, and_comm]
  rw [List.countP_eq_length_filter, found.length_eq, keys, List.filter_map, List.length_map, parts,
    Int.natCast_add, without]
  simp only [Function.comp_def, decide_not, Int.add_sub_cancel]

end Moderation.Entries
