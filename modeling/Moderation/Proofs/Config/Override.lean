import Moderation.Config.Merge
import Moderation.Proofs.Config.Surfacing
import Moderation.Proofs.Entries

/-!
# `Moderation.Proofs.Config.Override`: a table on top of another, path by path

A path of names leads from a value into its tables (`Value.at?`). It reaches nothing where a name is
missing, and nothing behind a value that is no table (`Value.Obstructs`).

`Value.Overrides` lists what a path reaches when one value is put on top of another. The cases are
split by what the path reaches in the new value, because it alone decides who wins: what it has
stands, unless both have a table, and where it has nothing the old value is kept, unless the new one
is in its way.

* `overrides_mergeValue`: merged values follow the list. The induction is on the path, and one step
  of it looks one name up in each table.
* `mergeValue_again`: a value that is on top already changes nothing when it is put there again. The
  induction is on the nested tables (`Value.induction_names`).
* `merge_overrides` puts both together for the tables of two files.
-/

set_option autoImplicit false

namespace Moderation

/-! ### Paths -/

namespace Value

/-- What a path of names reaches. -/
def at? : Value → List String → Option Value
  | value, [] => some value
  | .table entries, key :: path => (Entries.get? entries key).bind fun value => value.at? path
  | _, _ :: _ => none

/-- A path leads through a value that is no table. -/
def Obstructs (value : Value) (path : List String) : Prop :=
  ∃ start, start <+: path ∧ start ≠ path ∧ ∃ x, value.at? start = some x ∧ ¬ x.IsTable

/-- In every table that a path reaches, each name occurs once. -/
def NamesOnce (value : Value) : Prop :=
  ∀ path entries, value.at? path = some (.table entries) → (Entries.keys entries).Nodup

variable {value : Value} {entries : Entries Value} {key : String} {path : List String}

/-- The empty path reaches the value itself. -/
@[simp]
theorem at?_nil (value : Value) : value.at? [] = some value := by
  rw [at?]

/-- A path looks up its first name, and goes on below what it has found. -/
theorem at?_table (entries : Entries Value) (key : String) (path : List String) :
    (table entries).at? (key :: path) = (entries.get? key).bind (·.at? path) := by
  rw [at?]

/-- No path leads into a value that is no table. -/
theorem at?_cons_of_not_isTable (h : ¬ value.IsTable) : value.at? (key :: path) = none := by
  cases value with
  | table entries => exact absurd ⟨entries, rfl⟩ h
  | _ => rfl

/-- So a value that a path leads into is a table. -/
theorem isTable_of_at?_cons {x : Value} (h : value.at? (key :: path) = some x) : value.IsTable := by
  by_contra plain
  rw [at?_cons_of_not_isTable plain] at h
  cases h

/-- A value that is no table is in the way of every path into it. -/
theorem obstructs_cons_of_not_isTable (h : ¬ value.IsTable) : value.Obstructs (key :: path) :=
  ⟨[], List.nil_prefix, (List.cons_ne_nil _ _).symm, value, at?_nil value, h⟩

/-- In a table the obstacle lies below the value under the first name. -/
theorem obstructs_table_iff : (table entries).Obstructs (key :: path)
    ↔ ∃ value, entries.get? key = some value ∧ value.Obstructs path := by
  constructor
  · rintro ⟨start, begins, other, x, reached, plain⟩
    -- The path to the obstacle is not empty, since the table itself is none.
    cases start with
    | nil =>
      cases reached
      exact absurd ⟨entries, rfl⟩ plain
    | cons key' start =>
      obtain ⟨rfl, within⟩ := List.cons_prefix_cons.mp begins
      rw [at?_table, Option.bind_eq_some_iff] at reached
      obtain ⟨value, found, reached⟩ := reached
      exact ⟨value, found, start, within, fun same => other (congrArg _ same), x, reached, plain⟩
  · rintro ⟨value, found, start, begins, other, x, reached, plain⟩
    refine ⟨key :: start, List.cons_prefix_cons.mpr ⟨rfl, begins⟩,
      fun same => other (List.cons.inj same).2, x, ?_, plain⟩
    rw [at?_table, found]
    exact reached

/-- The empty path reaches the table itself, so its names occur once. -/
theorem NamesOnce.keys (h : (table entries).NamesOnce) : entries.keys.Nodup := h [] entries rfl

/-- What lies below a value of the table lies below the table. -/
theorem NamesOnce.get? (h : (table entries).NamesOnce) (found : entries.get? key = some value) :
    value.NamesOnce := by
  intro path inner reached
  refine h (key :: path) inner ?_
  rw [at?_table, found]
  exact reached

/-- Below a value that is no table there is nothing. -/
theorem namesOnce_of_not_isTable (h : ¬ value.IsTable) : value.NamesOnce := by
  intro path entries reached
  cases path with
  | nil =>
    cases reached
    exact absurd ⟨entries, rfl⟩ h
  | cons key path => exact absurd (isTable_of_at?_cons reached) h

/-- A table has each name once if it does so itself and so do its values. -/
theorem namesOnce_table (distinct : entries.keys.Nodup)
    (inner : ∀ entry ∈ entries, entry.2.NamesOnce) : (table entries).NamesOnce := by
  intro path below reached
  cases path with
  | nil =>
    cases reached
    exact distinct
  | cons key path =>
    rw [at?_table, Option.bind_eq_some_iff] at reached
    obtain ⟨value, found, reached⟩ := reached
    exact inner _ (Entries.mem_of_get? found) path below reached

/-- A property holds of all values if a value has it once all that it has under names do. -/
theorem induction_names {P : Value → Prop}
    (step : ∀ value, (∀ entries key inner, value = table entries →
      Entries.get? entries key = some inner → P inner) → P value) (value : Value) : P value :=
  step value fun entries key inner same found =>
    have : sizeOf inner < sizeOf value := by
      have member := List.sizeOf_lt_of_mem (Entries.mem_of_get? found)
      rw [same]
      simp only [Prod.mk.sizeOf_spec, table.sizeOf_spec] at member ⊢
      omega
    induction_names step inner
termination_by sizeOf value

/-! ### One value on top of another -/

/-- What a path reaches in a merged value. -/
structure Overrides (new old merged : Value) (path : List String) : Prop where
  plain : ∀ x, new.at? path = some x → ¬ x.IsTable → merged.at? path = some x
  both : ∀ x y, old.at? path = some (.table x) → new.at? path = some (.table y) →
    merged.at? path = some (.table (Config.merge x y))
  table : ∀ y, new.at? path = some (.table y) → (∀ x, old.at? path ≠ some (.table x)) →
    merged.at? path = some (.table y)
  obstructed : new.at? path = none → new.Obstructs path → merged.at? path = none
  absent : new.at? path = none → ¬ new.Obstructs path → merged.at? path = old.at? path

end Value

namespace Config

open Value

/-- Two tables are merged as tables. -/
theorem mergeValue_table (new old : Entries Value) :
    mergeValue (.table new) (.table old) = .table (merge old new) := by
  rw [mergeValue, merge]

/-- In all other cases the new value stands. -/
theorem mergeValue_of_not_isTable {new old : Value} (h : ¬ (new.IsTable ∧ old.IsTable)) :
    mergeValue new old = new := by
  cases new with
  | table new =>
    cases old with
    | table old => exact absurd ⟨⟨new, rfl⟩, old, rfl⟩ h
    | _ => rfl
  | _ => rfl

/-- The empty path reaches the values themselves. -/
theorem overrides_nil (new old : Value) : Overrides new old (mergeValue new old) [] := by
  have whole : ∀ value : Value, value.at? [] = some value := at?_nil
  -- The empty path reaches something on both sides, so the cases without a value on one side are
  -- void.
  constructor
  · intro x reached plain
    cases reached
    rw [mergeValue_of_not_isTable fun both => plain both.1, whole]
  · intro x y reachedOld reachedNew
    cases reachedOld
    cases reachedNew
    rw [mergeValue_table, whole]
  · intro y reached other
    cases reached
    rw [mergeValue_of_not_isTable, whole]
    rintro ⟨-, x, rfl⟩
    exact other x rfl
  · intro unreached
    cases unreached
  · intro unreached
    cases unreached

/-- Unless both values are tables, the new one stands with all that is below it. -/
theorem overrides_of_not_isTable {new old : Value} (h : ¬ (new.IsTable ∧ old.IsTable))
    (key : String) (path : List String) : Overrides new old new (key :: path) := by
  constructor
  · exact fun _ reached _ => reached
  · intro x y reachedOld reachedNew
    exact absurd ⟨isTable_of_at?_cons reachedNew, isTable_of_at?_cons reachedOld⟩ h
  · exact fun _ reached _ => reached
  · exact fun unreached _ => unreached
  · -- That nothing is in the way means that the new value is a table, so the old one is none.
    intro unreached free
    have inner : new.IsTable := by
      by_contra plain
      exact free (obstructs_cons_of_not_isTable plain)
    rw [unreached, at?_cons_of_not_isTable fun outer => h ⟨inner, outer⟩]

/-- Where the new table has nothing, the old one keeps what it has. -/
theorem overrides_of_get?_none {new old merged : Entries Value} {key : String}
    (fresh : new.get? key = none) (kept : merged.get? key = old.get? key) (path : List String) :
    Overrides (.table new) (.table old) (.table merged) (key :: path) := by
  have nothing : (Value.table new).at? (key :: path) = none := by rw [at?_table, fresh]; rfl
  have same : (Value.table merged).at? (key :: path) = (Value.table old).at? (key :: path) := by
    rw [at?_table, at?_table, kept]
  have free : ¬ (Value.table new).Obstructs (key :: path) := by
    rw [obstructs_table_iff, fresh]
    rintro ⟨_, found, -⟩
    cases found
  -- The new table reaches nothing under the key and blocks nothing, so one case is left.
  exact
    { plain := fun _ reached _ => nomatch nothing.symm.trans reached
      both := fun _ _ _ reached => nomatch nothing.symm.trans reached
      table := fun _ reached _ => nomatch nothing.symm.trans reached
      obstructed := fun _ blocked => absurd blocked free
      absent := fun _ _ => same }

/-- Where the new table has a value and the old one has none, the new one stands. -/
theorem overrides_of_get?_some_none {new old merged : Entries Value} {key : String} {value : Value}
    (found : new.get? key = some value) (free : old.get? key = none)
    (put : merged.get? key = some value) (path : List String) :
    Overrides (.table new) (.table old) (.table merged) (key :: path) := by
  have nothing : (Value.table old).at? (key :: path) = none := by rw [at?_table, free]; rfl
  have same : (Value.table merged).at? (key :: path) = (Value.table new).at? (key :: path) := by
    rw [at?_table, at?_table, put, found]
  exact
    { plain := fun _ reached _ => same.trans reached
      both := fun _ _ reached _ => nomatch nothing.symm.trans reached
      table := fun _ reached _ => same.trans reached
      obstructed := fun unreached _ => same.trans unreached
      absent := fun unreached _ => same.trans (unreached.trans nothing.symm) }

/-- Where both tables have a value, the path goes on below it. -/
theorem overrides_of_get?_some_some {new old merged : Entries Value} {key : String}
    {value previous put : Value} (found : new.get? key = some value)
    (had : old.get? key = some previous) (has : merged.get? key = some put) {path : List String}
    (below : Overrides value previous put path) :
    Overrides (.table new) (.table old) (.table merged) (key :: path) := by
  have intoNew : (Value.table new).at? (key :: path) = value.at? path := by
    rw [at?_table, found, Option.bind_some]
  have intoOld : (Value.table old).at? (key :: path) = previous.at? path := by
    rw [at?_table, had, Option.bind_some]
  have intoMerged : (Value.table merged).at? (key :: path) = put.at? path := by
    rw [at?_table, has, Option.bind_some]
  have blocked : (Value.table new).Obstructs (key :: path) ↔ value.Obstructs path := by
    rw [obstructs_table_iff, found]
    exact ⟨fun ⟨_, same, h⟩ => Option.some.inj same ▸ h, fun h => ⟨value, rfl, h⟩⟩
  -- Each field is the one of the path below, with all three trees looked up under the key.
  exact
    { plain := by rw [intoNew, intoMerged]; exact below.plain
      both := by rw [intoNew, intoOld, intoMerged]; exact below.both
      table := by rw [intoNew, intoOld, intoMerged]; exact below.table
      obstructed := by rw [intoNew, intoMerged, blocked]; exact below.obstructed
      absent := by rw [intoNew, intoOld, intoMerged, blocked]; exact below.absent }

/-- A value on top of another overrides it at each path. -/
theorem overrides_mergeValue {new : Value} (once : new.NamesOnce) (old : Value)
    (path : List String) : Overrides new old (mergeValue new old) path := by
  -- One step of the path goes below both values, so both change from step to step.
  induction path generalizing new old with
  | nil => exact overrides_nil new old
  | cons key path ih =>
    by_cases inner : ¬ (new.IsTable ∧ old.IsTable)
    · rw [mergeValue_of_not_isTable inner]
      exact overrides_of_not_isTable inner key path
    obtain ⟨⟨new, rfl⟩, old, rfl⟩ := not_not.mp inner
    have held := get?_merge old once.keys key
    rw [mergeValue_table]
    cases found : Entries.get? new key with
    | none =>
      rw [found] at held
      exact overrides_of_get?_none found held path
    | some value =>
      rw [found] at held
      cases had : Entries.get? old key with
      | none =>
        rw [had] at held
        exact overrides_of_get?_some_none found had held path
      | some previous =>
        rw [had] at held
        exact overrides_of_get?_some_some found had held (ih (once.get? found) previous)

/-! ### The same table on top again -/

/-- A table with known names only adds none. -/
theorem keys_merge {old new : Entries Value} (known : ∀ key ∈ new.keys, key ∈ old.keys) :
    (merge old new).keys = old.keys := by
  unfold merge
  induction new generalizing old with
  | nil => rfl
  | cons entry new ih =>
    obtain ⟨key, value⟩ := entry
    obtain ⟨first, behind⟩ := List.forall_mem_cons.mp known
    have kept : (Entries.set old key
        (((Entries.get? old key).map (mergeValue value)).getD value)).keys = old.keys := by
      rw [Entries.keys_set, if_pos first]
    rw [mergeOver_cons, ih (kept ▸ behind), kept]

/-- Merging makes no name occur twice. -/
theorem nodup_keys_merge {old : Entries Value} (distinct : old.keys.Nodup) (new : Entries Value) :
    (merge old new).keys.Nodup := by
  unfold merge
  induction new generalizing old with
  | nil => exact distinct
  | cons entry new ih =>
    rw [mergeOver_cons]
    exact ih (Entries.nodup_keys_set old _ _ distinct)

/-- A table on top changes nothing if none of its values does. -/
theorem merge_eq_self {old new : Entries Value} (distinctOld : old.keys.Nodup)
    (distinctNew : new.keys.Nodup)
    (settled : ∀ key value, new.get? key = some value →
      ∃ previous, old.get? key = some previous ∧ mergeValue value previous = previous) :
    merge old new = old := by
  have known : ∀ key ∈ new.keys, key ∈ old.keys := by
    intro key
    rw [← Entries.has_iff, ← Entries.has_iff, Entries.has, Option.isSome_iff_exists]
    rintro ⟨value, found⟩
    obtain ⟨previous, had, -⟩ := settled key value found
    rw [Entries.has, had, Option.isSome_some]
  -- The keys are the old ones in their order, so it is enough to compare values.
  refine Entries.eq_of_get? (keys_merge known) (nodup_keys_merge distinctOld new) fun key => ?_
  rw [get?_merge old distinctNew]
  cases found : new.get? key with
  | none => rfl
  | some value =>
    obtain ⟨previous, had, stays⟩ := settled key value found
    simp only [had, Option.map_some, Option.getD_some, stays]

/-- A value on top of itself changes nothing. Tables need their names once, or the later value of a
name would meet the earlier one. -/
theorem mergeValue_self {value : Value} (once : value.NamesOnce) :
    mergeValue value value = value := by
  induction value using induction_names with
  | step value ih =>
    by_cases inner : value.IsTable
    · obtain ⟨entries, rfl⟩ := inner
      rw [mergeValue_table, merge_eq_self once.keys once.keys]
      exact fun key inner found => ⟨inner, found, ih entries key inner rfl found (once.get? found)⟩
    · exact mergeValue_of_not_isTable fun both => inner both.1

/-- A value that is on top of another already changes nothing when it is put there again. -/
theorem mergeValue_again {new old : Value} (onceNew : new.NamesOnce) (onceOld : old.NamesOnce) :
    mergeValue new (mergeValue new old) = mergeValue new old := by
  induction new using induction_names generalizing old with
  | step new ih =>
    by_cases inner : ¬ (new.IsTable ∧ old.IsTable)
    · rw [mergeValue_of_not_isTable inner, mergeValue_self onceNew]
    obtain ⟨⟨new, rfl⟩, old, rfl⟩ := not_not.mp inner
    rw [mergeValue_table, mergeValue_table,
      merge_eq_self (nodup_keys_merge onceOld.keys new) onceNew.keys]
    -- Under each name of the new table the merged one has its value, on top of another or alone.
    intro key value found
    have held := get?_merge old onceNew.keys key
    rw [found] at held
    refine ⟨_, held, ?_⟩
    cases had : Entries.get? old key with
    | none => exact mergeValue_self (onceNew.get? found)
    | some previous => exact ih new key value rfl found (onceNew.get? found) (onceOld.get? had)

/-- A table on top of another overrides it path by path, and the same table on top again changes
nothing. -/
theorem merge_overrides {old new : Entries Value} (onceOld : (Value.table old).NamesOnce)
    (onceNew : (Value.table new).NamesOnce) :
    (∀ path, Overrides (.table new) (.table old) (.table (merge old new)) path)
      ∧ merge (merge old new) new = merge old new := by
  constructor
  · intro path
    rw [← mergeValue_table]
    exact overrides_mergeValue onceNew (.table old) path
  · have again := mergeValue_again onceNew onceOld
    rw [mergeValue_table, mergeValue_table] at again
    exact Value.table.inj again

/-- The settings of a site on top of shared ones: a threshold is changed and the adapter beside it
kept, and a text gives way to a table. -/
theorem merge_overrides_site :
    let shared : Entries Value :=
      [("spam", .table [("threshold", .int 1), ("adapter", .text "bayes")]), ("redis", .text "local")]
    let site : Entries Value :=
      [("spam", .table [("threshold", .int 2)]), ("redis", .table [("port", .int 3)])]
    (Value.table shared).NamesOnce ∧ (Value.table site).NamesOnce
      ∧ (Value.table (merge shared site)).at? ["spam", "threshold"] = some (.int 2)
      ∧ (Value.table (merge shared site)).at? ["spam", "adapter"] = some (.text "bayes")
      ∧ (Value.table (merge shared site)).at? ["redis", "port"] = some (.int 3)
      ∧ merge (merge shared site) site = merge shared site := by
  intro shared site
  have leaf : ∀ n : Int, ¬ (Value.int n).IsTable := fun _ ⟨_, same⟩ => nomatch same
  have word : ∀ s : String, ¬ (Value.text s).IsTable := fun _ ⟨_, same⟩ => nomatch same
  have onceShared : (Value.table shared).NamesOnce := by
    refine namesOnce_table (by decide) (List.forall_mem_cons.mpr ⟨?_, List.forall_mem_singleton.mpr
      (namesOnce_of_not_isTable (word _))⟩)
    exact namesOnce_table (by decide) (List.forall_mem_cons.mpr ⟨namesOnce_of_not_isTable (leaf _),
      List.forall_mem_singleton.mpr (namesOnce_of_not_isTable (word _))⟩)
  have onceSite : (Value.table site).NamesOnce := by
    have inner : ∀ key n, (Value.table [(key, .int n)]).NamesOnce := fun key n =>
      namesOnce_table (List.nodup_singleton key)
        (List.forall_mem_singleton.mpr (namesOnce_of_not_isTable (leaf n)))
    exact namesOnce_table (by decide)
      (List.forall_mem_cons.mpr ⟨inner _ _, List.forall_mem_singleton.mpr (inner _ _)⟩)
  obtain ⟨overrides, again⟩ := merge_overrides onceShared onceSite
  refine ⟨onceShared, onceSite, (overrides _).plain _ rfl (leaf _), ?_,
    (overrides _).plain _ rfl (leaf _), again⟩
  -- The table of the site has no adapter, and nothing is in the way of one.
  refine (overrides _).absent rfl ?_
  rw [obstructs_table_iff]
  rintro ⟨_, found, blocked⟩
  cases found
  rw [obstructs_table_iff] at blocked
  obtain ⟨_, found, -⟩ := blocked
  cases found

end Config

end Moderation
