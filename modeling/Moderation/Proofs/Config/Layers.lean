import Moderation.Config.Load
import Moderation.Proofs.Config.Placeholders

/-!
# `Moderation.Proofs.Config.Layers`: placeholders in one table or in many

A configuration is put together from the tables of its files before its placeholders give way to the
values of variables. It could be done the other way round. Merging only asks which names a table has
and which of its values are tables, and substitution keeps both: `get?_substituteEntries` for the
names, the cases of `substituteValue_mergeValue` for the kinds. So the two can be exchanged, for two
values, for two tables, and by `List.foldl_hom` for any number of tables (`substituteEntries_foldl_merge`).

The induction is on the value on top, since merging follows its entries; the value below changes with
each entry.
-/

set_option autoImplicit false

namespace Moderation.Config

variable (env : Environment)

/-! ### One table -/

/-- Substitution keeps the names of a table, and changes each value on its own. -/
theorem get?_substituteEntries (entries : Entries Value) (key : String) :
    Entries.get? (substituteEntries env entries) key
      = (entries.get? key).map (substituteValue env) := by
  induction entries with
  | nil => rfl
  | cons entry entries ih =>
    obtain ⟨name, value⟩ := entry
    rw [substituteEntries, Entries.get?_cons, Entries.get?_cons, ih]
    split <;> rfl

/-- A value that is put under a name can be substituted before or after. -/
theorem substituteEntries_set (entries : Entries Value) (key : String) (value : Value) :
    substituteEntries env (entries.set key value)
      = Entries.set (substituteEntries env entries) key (substituteValue env value) := by
  induction entries with
  | nil => simp only [Entries.set, substituteEntries]
  | cons entry entries ih =>
    obtain ⟨name, previous⟩ := entry
    by_cases same : name = key
    · simp only [Entries.set, substituteEntries, same, if_true]
    · simp only [Entries.set, substituteEntries, same, if_false, ih]

/-! ### One table on top of another -/

mutual

/-- Two values are merged if both are tables. Otherwise the new one stays alone, and substitution
makes no value a table. -/
theorem substituteValue_mergeValue : ∀ new old : Value,
    substituteValue env (mergeValue new old)
      = mergeValue (substituteValue env new) (substituteValue env old)
  | .table new, .table old => by
    simp only [mergeValue, substituteValue, substituteEntries_mergeOver new old]
  | .table new, .null | .table new, .number _ | .table new, .text _ | .table new, .moment _
  | .table new, .list _ => by
    simp only [mergeValue, substituteValue]
  | .null, _ | .number _, _ | .text _, _ | .moment _, _ | .list _, _ => by
    simp only [mergeValue, substituteValue]

/-- Two tables are merged entry by entry of the new one. -/
theorem substituteEntries_mergeOver : ∀ new old : List (String × Value),
    substituteEntries env (mergeOver new old)
      = mergeOver (substituteEntries env new) (substituteEntries env old)
  | [], _ => by
    simp only [mergeOver, substituteEntries]
  | (name, value) :: new, old => by
    -- What is put under the name is exchanged, whether or not the table below has it.
    have put : substituteValue env (((Entries.get? old name).map (mergeValue value)).getD value)
        = ((Entries.get? (substituteEntries env old) name).map
            (mergeValue (substituteValue env value))).getD (substituteValue env value) := by
      rw [get?_substituteEntries]
      cases Entries.get? old name with
      | none => rfl
      | some previous => exact substituteValue_mergeValue value previous
    rw [mergeOver_cons, substituteEntries_mergeOver new, substituteEntries_set, put,
      substituteEntries, mergeOver_cons]

end

/-- Substitution may come before or after two tables are merged. -/
theorem substituteEntries_merge (old new : Entries Value) :
    substituteEntries env (merge old new)
      = merge (substituteEntries env old) (substituteEntries env new) :=
  substituteEntries_mergeOver env new old

/-! ### Any number of tables -/

/-- Any number of tables on top of `base`, one after the other. -/
theorem substituteEntries_foldl_merge (base : Entries Value) (tables : List (Entries Value)) :
    substituteEntries env (tables.foldl merge base)
      = (tables.map (substituteEntries env)).foldl merge (substituteEntries env base) := by
  rw [List.foldl_map]
  exact (List.foldl_hom (substituteEntries env)
    fun old new => (substituteEntries_merge env old new).symm).symm

/-- Substitution may come before or after any number of tables are merged. -/
theorem substituteEntries_mergeAll (tables : List (Entries Value)) :
    substituteEntries env (mergeAll tables) = mergeAll (tables.map (substituteEntries env)) := by
  rw [mergeAll, substituteEntries_foldl_merge, mergeAll, substituteEntries]

/-- Placeholders give way to the same values whether the tables are merged before or after. So it does
not matter how a configuration is spread over tables that merge to the same, and a configuration that is
loaded is what is merged of the substituted tables of its files, if there is room to substitute. This
holds whatever reads the documents and whatever room there is. -/
theorem substituted_layers :
    (∀ (env : Environment) (base : Entries Value) (tables : List (Entries Value)),
      substituteEntries env (tables.foldl merge base)
        = (tables.map (substituteEntries env)).foldl merge (substituteEntries env base))
      ∧ (∀ (env : Environment) (tables others : List (Entries Value)),
        mergeAll tables = mergeAll others →
        mergeAll (tables.map (substituteEntries env)) = mergeAll (others.map (substituteEntries env)))
      ∧ ∀ (reader : Toml.Reader) (room : Room) (tree : Files) (path directories : Value),
        load reader room tree path directories = do
          Environment.populate (← Act.ofExcept (readSettings tree settingsPath))
          let tables ← Act.ofExcept (readTables reader room tree path directories)
          let env ← get
          if !room.forPlaceholders env (mergeAll tables) then throw .tooDeep
          return mergeAll (tables.map (substituteEntries env)) := by
  refine ⟨substituteEntries_foldl_merge, fun env tables others same => ?_,
    fun reader room tree path directories => ?_⟩
  · -- Both sides are the substituted merge, and the merges are the same.
    rw [← substituteEntries_mergeAll, same, substituteEntries_mergeAll]
  · simp only [load, fillIn, substituteEntries_mergeAll]

/-- The address of a store in one table, or in two of which the second overrides the first. -/
theorem substituted_layers_store :
    let env : Environment := [("HOST", "cache"), ("PORT", "6379")]
    let host : Value := .text (placeholder "HOST")
    let port : Value := .text (placeholder "PORT")
    let tables : List (Entries Value) :=
      [[("redis", .table [("host", .text (placeholder "NAME")), ("port", port)])],
        [("redis", .table [("host", host)])]]
    let others : List (Entries Value) := [[("redis", .table [("host", host), ("port", port)])]]
    mergeAll tables = mergeAll others
      ∧ mergeAll (tables.map (substituteEntries env)) = mergeAll (others.map (substituteEntries env))
      ∧ mergeAll (others.map (substituteEntries env))
        = [("redis", .table [("host", .text "cache"), ("port", .text "6379")])] := by
  intro env host port tables others
  have same : mergeAll tables = mergeAll others := rfl
  refine ⟨same, substituted_layers.2.1 env tables others same, ?_⟩
  -- A placeholder that is a whole text gives way to the value of its variable.
  have value {name : String} (named : IsVariable name) :
      substituteValue env (.text (placeholder name))
        = .text ((env.get? name).getD (placeholder name)) := by
    rw [substituteValue, substitute_placeholder env named]
  have hostNamed : IsVariable "HOST" := ⟨'H', ['O', 'S', 'T'], rfl, rfl, by simp [isNamePart]⟩
  have portNamed : IsVariable "PORT" := ⟨'P', ['O', 'R', 'T'], rfl, rfl, by simp [isNamePart]⟩
  show mergeAll [[("redis", .table [("host", substituteValue env host),
    ("port", substituteValue env port)])]] = _
  rw [value hostNamed, value portNamed]
  rfl

end Moderation.Config
