import Moderation.Config.Basic
import Moderation.Proofs.Result

/-!
# `Moderation.Proofs.Config.Surfacing`: which values surface as a faulty configuration

Whoever reads a configuration wants to be told by one kind of error that it is faulty. A result
`Surfaces` if it is no error of another kind. Reading goes step by step and ends at the first error,
so a reading surfaces if each step that it comes to does (`surfaces_bind_iff`, `surfaces_mapM_iff`).

The conversions of values know nothing of configurations: none of their errors surfaces, and they
surface if and only if the value has the kind that is asked for. Some readers turn the errors that
they expect into faults of the configuration. What they do not expect stays as it is:

* a threshold and a weight may be whole numbers beyond all floats (`surfaces_readThreshold_iff`,
  `surfaces_readWeight_iff`),
* an entry of the list of analyzers may be anything (`surfaces_ofEntry_iff`),
* and so may be the table itself, its lists and its maps.

`surfaces_ofTable_iff` gives the exact condition on the table of the engine, `Config.Legible`.
-/

set_option autoImplicit false

namespace Moderation

variable {β γ ι : Type}

/-! ### Errors that surface -/

/-- A result that, if it is an error, says that the configuration is faulty. -/
def Surfaces (result : Except Error β) : Prop :=
  FailsAs (fun e => ∃ fault, e = .configuration fault) result

/-- What has succeeded is no error of another kind. -/
@[simp]
theorem surfaces_ok (x : β) : Surfaces (.ok x) := failsAs_ok x

/-- The same, the way steps end. -/
@[simp]
theorem surfaces_pure (x : β) : Surfaces (pure x) := failsAs_ok x

/-- An error surfaces if it is a fault of the configuration. -/
@[simp]
theorem surfaces_error_iff (e : Error) :
    Surfaces (.error e : Except Error β) ↔ ∃ fault, e = .configuration fault := failsAs_error_iff e

/-- The same, the way steps fail. -/
@[simp]
theorem surfaces_throw_iff (e : Error) :
    Surfaces (throw e : Except Error β) ↔ ∃ fault, e = .configuration fault := failsAs_error_iff e

/-- Two steps surface if the first does, and the second after whatever the first gives. -/
theorem surfaces_bind_iff {result : Except Error β} {f : β → Except Error γ} :
    Surfaces (result >>= f) ↔ Surfaces result ∧ ∀ x, result = .ok x → Surfaces (f x) :=
  failsAs_bind_iff

/-- What is made of a result does not matter. -/
theorem surfaces_map_iff {result : Except Error β} (f : β → γ) :
    Surfaces (f <$> result) ↔ Surfaces result := failsAs_map_iff f

/-- A check surfaces if its error does wherever it fails, and the rest does elsewhere. -/
theorem surfaces_unless_iff {reason : Prop} [Decidable reason] {e : Error} {result : Except Error β} :
    Surfaces (if reason then (throw e : Except Error PUnit) >>= fun _ => result else result)
      ↔ (reason → ∃ fault, e = .configuration fault) ∧ (¬ reason → Surfaces result) :=
  failsAs_unless_iff

/-- The items of a list are read up to the first error, so an item matters if all before it could be
read. -/
theorem surfaces_mapM_iff {f : ι → Except Error β} {items : List ι} :
    Surfaces (items.mapM f) ↔ ∀ before item after, items = before ++ item :: after →
      (∀ earlier ∈ before, ∃ x, f earlier = .ok x) → Surfaces (f item) := failsAs_mapM_iff

/-- The same of items that are worked through, each on what those before it have left. -/
theorem surfaces_foldlM_iff {f : β → ι → Except Error β} {items : List ι} {start : β} :
    Surfaces (items.foldlM f start) ↔ ∀ before item after x, items = before ++ item :: after →
      before.foldlM f start = .ok x → Surfaces (f x item) := failsAs_foldlM_iff

/-! ### Conversions -/

namespace Value

/-- A text. -/
def IsText (value : Value) : Prop := ∃ s, value = .text s

/-- A table. -/
def IsTable (value : Value) : Prop := ∃ entries, value = .table entries

/-- A list, a table or a text, which is a list of characters. -/
def IsCollection (value : Value) : Prop := ∃ items, value.elements = .ok items

/-- A collection of texts. -/
def ListsTexts (value : Value) : Prop :=
  ∃ items, value.elements = .ok items ∧ ∀ item ∈ items, item.IsText

/-- A collection of two, the first of which can name something. -/
def IsPair (value : Value) : Prop := ∃ name x, value.elements = .ok [name, x] ∧ name.isName = true

/-- A table or a collection of pairs, or what counts as not given. -/
def IsMappable (value : Value) : Prop :=
  value.isSet = true → value.IsTable ∨ ∃ items, value.elements = .ok items ∧ ∀ item ∈ items, item.IsPair

/-- A whole number beyond all floats. -/
def IsImmense (value : Value) : Prop := ∃ n, value = .number (.whole n) ∧ Binary64.ofInt? n = none

variable {value : Value}

/-- Only a table is taken for one. -/
theorem surfaces_asTable_iff : Surfaces value.asTable ↔ value.IsTable := by
  cases value <;> simp [asTable, IsTable]

/-- A table that is taken for one is taken as it is. -/
theorem asTable_ok_iff {entries : Entries Value} :
    value.asTable = .ok entries ↔ value = .table entries := by
  cases value <;> simp [asTable]

/-- No error in collecting elements is a fault of the configuration, so they have to be collected.
-/
theorem surfaces_elements_iff : Surfaces value.elements ↔ value.IsCollection := by
  cases value <;> simp [elements, IsCollection]

/-- Only a text has letters to lower. -/
theorem surfaces_toLowered_iff : Surfaces value.toLowered ↔ value.IsText := by
  rw [toLowered, surfaces_map_iff]
  cases value <;> simp [toText, IsText]

/-- That a message cannot show a value is no fault of the configuration. -/
theorem surfaces_requireShowable_iff : Surfaces (requireShowable [value]) ↔ value.isShowable = true := by
  cases h : value.isShowable <;> simp [requireShowable, h]

/-- So a value is displayed if it can be shown. -/
theorem surfaces_toDisplay_iff : Surfaces value.toDisplay ↔ value.isShowable = true := by
  rw [toDisplay, surfaces_bind_iff, surfaces_requireShowable_iff]
  simp

/-- Reading texts surfaces if all are texts. -/
theorem surfaces_mapM_toLowered_iff {items : List Value} :
    Surfaces (items.mapM toLowered) ↔ ∀ item ∈ items, item.IsText := by
  induction items with
  | nil => simp
  | cons item items ih =>
    rw [List.mapM_cons, surfaces_bind_iff, surfaces_toLowered_iff, List.forall_mem_cons]
    refine and_congr_right ?_
    rintro ⟨s, rfl⟩
    show (∀ x, Except.ok (Text.lowered s) = .ok x → _) ↔ _
    simp [surfaces_map_iff, ih]

/-- The items of a list are read as pairs one after the other. The errors count the items, but no
count makes one surface. -/
theorem surfaces_pairsFrom_iff (index : Nat) {items : List Value} :
    Surfaces (pairsFrom index items) ↔ ∀ item ∈ items, item.IsPair := by
  induction items generalizing index with
  | nil => simp [pairsFrom]
  | cons item items ih =>
    rw [pairsFrom, surfaces_bind_iff, surfaces_elements_iff, List.forall_mem_cons]
    have pair : item.IsPair ↔ ∃ name x, item.elements = .ok [name, x] ∧ name.isName = true := Iff.rfl
    rw [pair, IsCollection]
    cases item.elements with
    | error e => simp
    | ok parts =>
      -- Of the parts of an item, neither fewer than two nor more make a pair.
      rcases parts with _ | ⟨name, _ | ⟨x, _ | ⟨other, rest⟩⟩⟩
      · simp
      · simp
      · cases named : name.isName <;>
          simp [toName, named, surfaces_bind_iff, surfaces_map_iff, ih]
      · simp

/-- A value is read as a map if it is a table or consists of pairs. What is not given is the empty
map. -/
theorem surfaces_toMap_iff : Surfaces value.toMap ↔ value.IsMappable := by
  -- What is no table is gone through as a collection, whose items have to be pairs.
  have pairs : Surfaces (do return Map.ofPairs (← pairsFrom 0 (← value.elements)))
      ↔ ∃ items, value.elements = .ok items ∧ ∀ item ∈ items, item.IsPair := by
    rw [surfaces_bind_iff, surfaces_elements_iff, IsCollection]
    cases value.elements with
    | error e => simp
    | ok items => simp [surfaces_map_iff, surfaces_pairsFrom_iff]
  rw [IsMappable, toMap.eq_def]
  split
  · next given =>
    rw [imp_iff_right given]
    cases value with
    | table entries => simp [IsTable]
    | _ => exact pairs.trans (or_iff_right (by simp [IsTable])).symm
  · next none => simp [none]

/-- The letters of a text can be lowered. -/
theorem IsText.exists_toLowered (h : value.IsText) : ∃ s, value.toLowered = .ok s := by
  obtain ⟨s, rfl⟩ := h
  exact ⟨Text.lowered s, rfl⟩

/-- Pairs can be read as pairs, wherever the count begins. -/
theorem exists_pairsFrom (index : Nat) {items : List Value} (h : ∀ item ∈ items, item.IsPair) :
    ∃ pairs, pairsFrom index items = .ok pairs := by
  -- The index is only told in errors, and grows from item to item.
  induction items generalizing index with
  | nil => exact ⟨[], rfl⟩
  | cons item items ih =>
    rw [List.forall_mem_cons] at h
    obtain ⟨⟨name, x, parts, named⟩, rest⟩ := h
    obtain ⟨pairs, read⟩ := ih (index + 1) rest
    have readable : name.toName = .ok name := if_pos named
    refine ⟨(name, x) :: pairs, ?_⟩
    rw [pairsFrom, parts, ok_bind]
    dsimp only
    rw [readable, ok_bind, read]
    rfl

/-- What can be read as a map is read as one. -/
theorem IsMappable.exists_toMap (h : value.IsMappable) : ∃ map, value.toMap = .ok map := by
  rw [toMap.eq_def]
  split
  · next given =>
    obtain ⟨entries, rfl⟩ | ⟨items, read, pairs⟩ := h given
    · exact ⟨_, rfl⟩
    · obtain ⟨pairs, paired⟩ := exists_pairsFrom 0 pairs
      cases value with
      | table entries => exact ⟨_, rfl⟩
      | _ =>
        refine ⟨Map.ofPairs pairs, ?_⟩
        rw [read, ok_bind, paired]
        rfl
  · exact ⟨[], rfl⟩

/-! ### Numbers -/

/-- A number is read as a float unless it is immense. -/
theorem toReal_number_cases (n : Number) :
    (number n).IsImmense ∧ (number n).toReal = .error .overflow
      ∨ ¬ (number n).IsImmense ∧ ∃ x, (number n).toReal = .ok x := by
  -- Only a whole number can be beyond all floats, as the others are floats or small.
  cases n with
  | whole n =>
    cases nearest : Binary64.ofInt? n with
    | none =>
      refine Or.inl ⟨⟨n, rfl, nearest⟩, ?_⟩
      rw [toReal, Number.toFloat, nearest]
      rfl
    | some x =>
      refine Or.inr ⟨by simp [IsImmense, nearest], x, ?_⟩
      rw [toReal, Number.toFloat, nearest]
      rfl
  | _ => exact Or.inr ⟨by simp [IsImmense], _, rfl⟩

/-- A value that cannot be read as a float is immense, or a mismatch. -/
theorem toReal_cases (value : Value) :
    value.IsImmense ∧ value.toReal = .error .overflow
      ∨ ¬ value.IsImmense ∧ ((∃ x, value.toReal = .ok x)
        ∨ ∃ e, value.toReal = .error e ∧ e.isMismatch = true) := by
  cases value with
  | number n => exact (toReal_number_cases n).imp_right (And.imp_right Or.inl)
  | text s =>
    refine Or.inr ⟨by simp [IsImmense], ?_⟩
    cases read : Numeral.readReal s with
    | none => exact Or.inr ⟨.invalid (.malformedReal s), by simp [toReal, read], rfl⟩
    | some x => exact Or.inl ⟨x, by simp [toReal, read]⟩
  | _ => exact Or.inr ⟨by simp [IsImmense], Or.inr ⟨_, rfl, rfl⟩⟩

end Value

open Value

/-- A threshold surfaces unless it is immense. -/
theorem surfaces_readThreshold_iff {threshold : Value} :
    Surfaces (Config.readThreshold threshold) ↔ ¬ threshold.IsImmense := by
  rw [Config.readThreshold]
  obtain ⟨immense, read⟩ | ⟨small, ⟨x, read⟩ | ⟨e, read, mismatch⟩⟩ := toReal_cases threshold
  · simp [read, immense, Error.isMismatch]
  · simp [read, small]
  · simp [read, small, mismatch]

/-! ### Analyzers -/

namespace AnalyzerConfig

/-- A weight surfaces unless it is immense, or a message about it would have to show a name that
cannot be shown. -/
theorem surfaces_readWeight_iff {name weight : Value} :
    Surfaces (readWeight name weight)
      ↔ ¬ weight.IsImmense ∧ ((∀ x, weight.toReal ≠ .ok x) → name.isShowable = true) := by
  rw [readWeight]
  obtain ⟨immense, read⟩ | ⟨small, ⟨x, read⟩ | ⟨e, read, mismatch⟩⟩ := toReal_cases weight
  · simp [read, immense, Error.isMismatch, surfaces_bind_iff]
  · simp [read, small]
  · simp [read, small, mismatch, surfaces_bind_iff, surfaces_requireShowable_iff]

/-- A name surfaces if messages can show it, or if it counts as not given. -/
theorem surfaces_readName_iff {name : Value} :
    Surfaces (readName name) ↔ (name.isSet = true → name.isShowable = true) := by
  rw [readName, surfaces_unless_iff]
  cases given : name.isSet
  · simp
  · simp [-bind_pure_comp, surfaces_bind_iff, surfaces_toDisplay_iff, surfaces_unless_iff]

/-- The parts pass all checks: the name can be read, there are a strategy and an adapter, and the
weight is positive. -/
structure Fields.Pass (fields : Fields) : Prop where
  name : ∃ name, readName fields.name = .ok name
  strategy : fields.strategy.isSet = true
  adapter : fields.adapter.isSet = true
  weight : ∃ n, fields.weight = .number n ∧ n.le (.whole 0) = false

/-- What is read of parts that have passed all checks. -/
structure Fields.Legible (fields : Fields) : Prop where
  strategy : fields.strategy.IsText
  adapter : fields.adapter.IsText
  params : fields.params.IsMappable
  options : fields.options.IsMappable

/-- The parts of an analyzer are checked first and read then. A check that fails is a fault of the
configuration, so what is read only matters if all pass. -/
theorem surfaces_ofFields_iff {fields : Fields} {n : Number} (weight : fields.weight = .number n) :
    Surfaces (ofFields? fields)
      ↔ (fields.name.isSet = true → fields.name.isShowable = true)
        ∧ (fields.Pass → fields.Legible) := by
  rw [ofFields?, surfaces_bind_iff, surfaces_readName_iff]
  refine and_congr_right fun _ => ?_
  -- What follows the checks: each part has to be of its kind, since no reading of another kind
  -- surfaces.
  have reads (name : String) : Surfaces (do
      let strategy ← fields.strategy.toLowered
      let adapter ← fields.adapter.toLowered
      let params ← fields.params.toMap
      let options ← fields.options.toMap
      return { name, strategy, adapter, params, weight := n, options : AnalyzerConfig })
      ↔ fields.Legible := by
    simp only [surfaces_bind_iff, surfaces_toLowered_iff, surfaces_toMap_iff, surfaces_pure]
    constructor
    · rintro ⟨strategy, h⟩
      obtain ⟨_, lowered⟩ := strategy.exists_toLowered
      obtain ⟨adapter, h⟩ := h _ lowered
      obtain ⟨_, lowered⟩ := adapter.exists_toLowered
      obtain ⟨params, h⟩ := h _ lowered
      obtain ⟨_, read⟩ := params.exists_toMap
      exact ⟨strategy, adapter, params, (h _ read).1⟩
    · rintro ⟨strategy, adapter, params, options⟩
      exact ⟨strategy, fun _ _ => ⟨adapter, fun _ _ =>
        ⟨params, fun _ _ => ⟨options, fun _ _ => trivial⟩⟩⟩⟩
  have number : fields.weight.toNumber = .ok n := by rw [weight]; rfl
  simp only [number, ok_bind, surfaces_unless_iff, reads]
  constructor
  · rintro h ⟨⟨name, read⟩, strategy, adapter, n', same, positive⟩
    cases weight.symm.trans same
    exact ((h name read).2 (by simp [strategy])).2 (by simp [adapter]) |>.2 (by simp [positive])
  · refine fun h name read => ⟨fun _ => ⟨_, rfl⟩, fun strategy => ⟨fun _ => ⟨_, rfl⟩, fun adapter =>
      ⟨fun _ => ⟨_, rfl⟩, fun positive => h ⟨⟨name, read⟩, ?_, ?_, n, weight, ?_⟩⟩⟩⟩
    · simpa using strategy
    · simpa using adapter
    · simpa using positive

/-- The parts that an entry of the list of analyzers gives, once its weight is read. -/
def Fields.ofSettings (settings store : Entries Value) (weight : Float) : Fields where
  name := settings.getOr "name" .null
  strategy := settings.getOr "strategy" (.text "bayes")
  adapter := store.getOr "adapter" (.text "memory")
  params := store.getOr "params" (.table [])
  weight := .float weight
  options := settings.getOr "strategy-options" (.table [])

/-- What is read of an entry that has a name: its weight, the settings of its store if the weight can
be read, and then its parts. A message about the weight shows the name. -/
structure LegibleNamed (settings : Entries Value) : Prop where
  weight : ¬ (settings.getOr "weight" (.number (.binary 1))).IsImmense
  shown : (∀ x, (settings.getOr "weight" (.number (.binary 1))).toReal ≠ .ok x) →
    (settings.getOr "name" .null).isShowable = true
  store : ∀ x, (settings.getOr "weight" (.number (.binary 1))).toReal = .ok x →
    (settings.getOr "options" (.table [])).IsTable
  parts : ∀ x store, (settings.getOr "weight" (.number (.binary 1))).toReal = .ok x →
    settings.getOr "options" (.table []) = .table store →
    ((settings.getOr "name" .null).isSet = true → (settings.getOr "name" .null).isShowable = true)
      ∧ ((Fields.ofSettings settings store x).Pass → (Fields.ofSettings settings store x).Legible)

/-- What is read of an entry: it can be shown if it has no name, and is a table otherwise. -/
def LegibleEntry (entry : Value) : Prop :=
  entry.finds "name" = .ok false ∧ entry.isShowable = true
    ∨ entry.finds "name" = .ok true ∧ ∃ settings, entry = .table settings ∧ LegibleNamed settings

/-- A weight is read as any number is. Only the errors are turned. -/
theorem readWeight_ok_iff {name weight : Value} {x : Float} :
    readWeight name weight = .ok x ↔ weight.toReal = .ok x := by
  rw [readWeight]
  cases weight.toReal with
  | ok y => rfl
  | error e =>
    cases mismatch : e.isMismatch <;> cases shown : name.isShowable <;>
      simp [mismatch, requireShowable, shown, bind, Except.bind, throw, throwThe, MonadExceptOf.throw]

/-- An entry with a name is a table. -/
theorem surfaces_named_iff {settings : Entries Value} (named : settings.has "name" = true) :
    Surfaces ( ofEntry? (.table settings)) ↔ LegibleNamed settings := by
  have found : (Value.table settings).finds "name" = .ok true := congrArg Except.ok named
  have table : (Value.table settings).asTable = .ok settings := rfl
  rw [ ofEntry?, found, ok_bind, table]
  simp only [Bool.not_true, Bool.false_eq_true, if_false, ok_bind, surfaces_bind_iff,
    surfaces_readWeight_iff, surfaces_asTable_iff, readWeight_ok_iff]
  -- The parts are read with the weight and the store that were read before them.
  have parts (x : Float) (store : Entries Value) :
      Surfaces (ofFields? (Fields.ofSettings settings store x)) ↔ _ := surfaces_ofFields_iff rfl
  constructor
  · rintro ⟨⟨weight, shown⟩, rest⟩
    exact ⟨weight, shown, fun x read => (rest x read).1, fun x store read same =>
      (parts x store).mp ((rest x read).2 store (asTable_ok_iff.mpr same))⟩
  · intro h
    exact ⟨⟨h.weight, h.shown⟩, fun x read => ⟨h.store x read, fun store same =>
      (parts x store).mpr (h.parts x store read (asTable_ok_iff.mp same))⟩⟩

/-- An entry surfaces if and only if it is legible. The cases follow the first question that is
asked of it, whether it has a name. -/
theorem surfaces_ofEntry_iff {entry : Value} :
    Surfaces ( ofEntry? entry) ↔ LegibleEntry entry := by
  rw [LegibleEntry]
  cases found : entry.finds "name" with
  | error e =>
    -- Nothing can be found in what is no collection.
    have lost : ¬ Surfaces (entry.finds "name") := by
      cases entry <;> simp [finds] at found ⊢
    have failed : ofEntry? entry = .error e := by
      rw [ ofEntry?, found]
      rfl
    rw [found] at lost
    simpa [failed] using lost
  | ok named =>
    cases named with
    | false =>
      rw [ ofEntry?, found, ok_bind]
      simp [surfaces_bind_iff, surfaces_requireShowable_iff]
    | true =>
      by_cases table : entry.IsTable
      · obtain ⟨settings, rfl⟩ := table
        simp [surfaces_named_iff (Except.ok.inj found)]
      · have failed : ¬ Surfaces ( ofEntry? entry) := by
          rw [ ofEntry?, found, ok_bind]
          simp [surfaces_bind_iff, surfaces_asTable_iff, table]
        refine iff_of_false failed ?_
        rintro (⟨h, -⟩ | ⟨-, settings, rfl, -⟩)
        · cases h
        · exact table ⟨settings, rfl⟩

end AnalyzerConfig

namespace Config

/-! ### The table of the engine -/

/-- What is read of the list of analyzers: a collection, and its entries up to the first that cannot
be read. -/
def LegibleAnalyzers (table : Entries Value) : Prop :=
  ∀ listed, table.get? "analyzers" = some listed →
    ∃ entries, listed.elements = .ok entries ∧ ∀ before entry after, entries = before ++ entry :: after →
      (∀ earlier ∈ before, ∃ config, AnalyzerConfig.ofEntry? earlier = .ok config) →
      AnalyzerConfig.LegibleEntry entry

/-- The analyzer that stands for a missing list can be read. -/
theorem surfaces_defaultAnalyzers : Surfaces defaultAnalyzers := by
  have fields : Surfaces (AnalyzerConfig.ofFields? { name := .text "bayes" }) :=
    (AnalyzerConfig.surfaces_ofFields_iff rfl).mpr
      ⟨fun _ => rfl, fun _ => ⟨⟨_, rfl⟩, ⟨_, rfl⟩, nofun, nofun⟩⟩
  exact surfaces_bind_iff.mpr ⟨fields, fun _ _ => surfaces_pure _⟩

/-- A list of analyzers surfaces if it is legible. -/
theorem surfaces_readAnalyzers_iff {table : Entries Value} :
    Surfaces (readAnalyzers table) ↔ LegibleAnalyzers table := by
  rw [readAnalyzers, LegibleAnalyzers]
  cases table.get? "analyzers" with
  | none => simp [surfaces_defaultAnalyzers]
  | some listed =>
    simp only [Option.some.injEq, forall_eq', surfaces_bind_iff, surfaces_elements_iff,
      surfaces_mapM_iff, AnalyzerConfig.surfaces_ofEntry_iff, IsCollection]
    cases listed.elements with
    | error e => simp
    | ok entries =>
      simp only [Except.ok.injEq, exists_eq_left', forall_eq', exists_eq', true_and,
        and_iff_left_iff_imp]
      -- That there are no analyzers is a fault of the configuration.
      intro _ analyzers _
      split <;> simp

/-- Reading the adapters of types surfaces if the modules are listed as texts and the exceptions are a
map. -/
theorem surfaces_trainedModelsOf_iff {modules overrides : Value} :
    Surfaces (trainedModelsOf modules overrides) ↔ modules.ListsTexts ∧ overrides.IsMappable := by
  rw [trainedModelsOf]
  simp only [surfaces_bind_iff, surfaces_elements_iff, surfaces_mapM_toLowered_iff, surfaces_toMap_iff,
    surfaces_pure, IsCollection, ListsTexts]
  constructor
  · -- Texts can be put in lower case, so the exceptions are always reached.
    rintro ⟨⟨items, listed⟩, h⟩
    obtain ⟨texts, rest⟩ := h items listed
    obtain ⟨names, lowered⟩ := exists_mapM_eq_ok fun item hitem => (texts item hitem).exists_toLowered
    exact ⟨⟨items, listed, texts⟩, (rest names lowered).1⟩
  · rintro ⟨⟨items, listed, texts⟩, mappable⟩
    refine ⟨⟨items, listed⟩, fun others same => ?_⟩
    cases listed.symm.trans same
    exact ⟨texts, fun _ _ => ⟨mappable, fun _ _ => trivial⟩⟩

/-- If the modules are texts and the exceptions a map, the adapters of types can be read. -/
theorem exists_trainedModelsOf {modules overrides : Value} (texts : modules.ListsTexts)
    (mappable : overrides.IsMappable) : ∃ models, trainedModelsOf modules overrides = .ok models := by
  obtain ⟨items, listed, texts⟩ := texts
  obtain ⟨names, lowered⟩ := exists_mapM_eq_ok fun item hitem => (texts item hitem).exists_toLowered
  obtain ⟨pairs, mapped⟩ := mappable.exists_toMap
  rw [trainedModelsOf, listed, ok_bind, lowered, mapped]
  exact ⟨_, rfl⟩

end Config

/-! ### The order of the types of resources -/

namespace Value

/-- Of two values that are the same, both are texts or none is. -/
theorem isText_congr {a b : Value} (h : a.same b = true) : a.IsText ↔ b.IsText := by
  cases a <;> cases b <;> simp [same, IsText] at h ⊢

/-- Only a text has a place before or after a text. -/
theorem isComparable_text_iff {s : String} {value : Value} :
    (text s).isComparable value = true ↔ value.IsText := by
  cases value <;> simp [isComparable, IsText]

namespace Map

/-- Putting a value under a key keeps all keys texts if and only if the key is one. -/
theorem forall_isText_set_iff {map : Map β} {key : Value} {x : β} :
    (∀ entry ∈ map.set key x, entry.1.IsText) ↔ (∀ entry ∈ map, entry.1.IsText) ∧ key.IsText := by
  induction map with
  | nil => simp [set]
  | cons head rest ih =>
    obtain ⟨k, y⟩ := head
    rw [set]
    -- A key that is the same as one of the map takes its place, and is a text if that one is.
    split
    · next same =>
      have text := isText_congr same
      rw [List.forall_mem_cons, List.forall_mem_cons, ← text]
      exact ⟨fun h => ⟨h, h.1⟩, fun h => h.1⟩
    · constructor
      · intro h
        obtain ⟨first, others⟩ := List.forall_mem_cons.mp h
        exact ⟨List.forall_mem_cons.mpr ⟨first, (ih.mp others).1⟩, (ih.mp others).2⟩
      · rintro ⟨h, isText⟩
        obtain ⟨first, others⟩ := List.forall_mem_cons.mp h
        exact List.forall_mem_cons.mpr ⟨first, ih.mpr ⟨others, isText⟩⟩

/-- Putting pairs keeps all keys texts if and only if their keys are. -/
theorem forall_isText_setAll_iff {map pairs : Map β} :
    (∀ entry ∈ map.setAll pairs, entry.1.IsText)
      ↔ (∀ entry ∈ map, entry.1.IsText) ∧ ∀ pair ∈ pairs, pair.1.IsText := by
  induction pairs generalizing map with
  | nil => simp [setAll]
  | cons pair pairs ih =>
    rw [List.forall_mem_cons, ← and_assoc, ← forall_isText_set_iff (x := pair.2)]
    exact ih

/-- The first key stays the first. -/
theorem exists_setAll_cons (k : Value) (y : β) (rest pairs : Map β) :
    ∃ y' rest', setAll ((k, y) :: rest) pairs = (k, y') :: rest' := by
  induction pairs generalizing y rest with
  | nil => exact ⟨y, rest, rfl⟩
  | cons pair pairs ih =>
    show ∃ y' rest', setAll (set ((k, y) :: rest) pair.1 pair.2) pairs = (k, y') :: rest'
    rw [set]
    split
    · exact ih _ _
    · exact ih _ _

/-- Keys that begin with a text have an order if and only if all are texts. -/
theorem isSortable_cons_text_iff {s : String} {y : β} {rest : Map β} :
    isSortable ((text s, y) :: rest) = true ↔ ∀ entry ∈ rest, entry.1.IsText := by
  rw [isSortable, List.all_eq_true]
  exact forall₂_congr fun entry _ => isComparable_text_iff

/-- Entries with some pairs on top have an order if and only if the keys of the pairs are texts. -/
theorem isSortable_setAll_iff {s : String} {y : β} {rest : Entries β} {pairs : Map β} :
    (setAll (ofEntries ((s, y) :: rest)) pairs).isSortable = true ↔ ∀ pair ∈ pairs, pair.1.IsText := by
  have texts : ∀ entry ∈ ofEntries ((s, y) :: rest), entry.1.IsText := by
    intro entry hentry
    obtain ⟨⟨name, x⟩, -, rfl⟩ := List.mem_map.mp hentry
    exact ⟨name, rfl⟩
  have all : (∀ entry ∈ setAll (ofEntries ((s, y) :: rest)) pairs, entry.1.IsText) ↔ _ :=
    forall_isText_setAll_iff
  rw [and_iff_right texts] at all
  rw [← all]
  -- The first key stays a text, and keys are in order with a text if all of them are texts.
  obtain ⟨y', rest', shape⟩ := exists_setAll_cons (.text s) y (ofEntries rest) pairs
  have shape : setAll (ofEntries ((s, y) :: rest)) pairs = (.text s, y') :: rest' := shape
  rw [shape, isSortable_cons_text_iff, List.forall_mem_cons]
  exact (and_iff_right ⟨s, rfl⟩).symm

end Map

end Value

namespace Config

/-- The types of resources have an order if and only if all are texts, as some are. -/
theorem isSortable_trainedModelsOf_iff {modules overrides : Value} {models pairs : Value.Map Value}
    (read : overrides.toMap = .ok pairs) (made : trainedModelsOf modules overrides = .ok models) :
    models.isSortable = true ↔ ∀ pair ∈ pairs, pair.1.IsText := by
  rw [trainedModelsOf] at made
  obtain ⟨items, -, made⟩ := ok_of_bind made
  obtain ⟨names, -, made⟩ := ok_of_bind made
  obtain ⟨others, same, made⟩ := ok_of_bind made
  cases read.symm.trans same
  cases made
  exact Value.Map.isSortable_setAll_iff

/-! ### The table as a whole -/

/-- The settings of the engine: the entries of its table, none if it is not given. -/
def settingsOf : Value → Entries Value
  | .table entries => entries
  | _ => []

/-- The threshold lies between 0 and 1, no two analyzers have one name, and the categories differ. -/
structure InRange (threshold : Float) (analyzers : List AnalyzerConfig) (spam ham : Value) : Prop where
  threshold : (Number.whole 0).le (.binary threshold) = true
    ∧ (Number.binary threshold).le (.whole 1) = true
  analyzers : repeatedNames (analyzers.map (·.name)) = []
  categories : spam.same ham = false

/-- What is read of the settings of the engine, one after the other up to the first error. -/
structure LegibleTable (table : Entries Value) (modules : Option Value) : Prop where
  threshold : ¬ (table.getOr "spam-threshold" (.number (.binary 0.75))).IsImmense
  analyzers : ∀ threshold,
    (table.getOr "spam-threshold" (.number (.binary 0.75))).toReal = .ok threshold →
    LegibleAnalyzers table
  models : ∀ threshold analyzers,
    (table.getOr "spam-threshold" (.number (.binary 0.75))).toReal = .ok threshold →
    readAnalyzers table = .ok analyzers →
    (modules.getD (table.getOr "installed-modules" (.list []))).ListsTexts
      ∧ (table.getOr "trained-models" .null).IsMappable
  types : ∀ threshold analyzers overrides,
    (table.getOr "spam-threshold" (.number (.binary 0.75))).toReal = .ok threshold →
    readAnalyzers table = .ok analyzers →
    InRange threshold analyzers (table.getOr "spam-category" (.text "spam"))
      (table.getOr "ham-category" (.text "ham")) →
    (table.getOr "trained-models" .null).toMap = .ok overrides → ∀ pair ∈ overrides, pair.1.IsText

/-- What is read of the configuration of the engine: it is a table, unless it is not given, and its
settings. -/
def Legible (raw : Value) (modules : Option Value) : Prop :=
  (raw.isSet = true → raw.IsTable) ∧ LegibleTable (settingsOf raw) modules

/-- A threshold is read as any number is. Only the errors are turned. -/
theorem readThreshold_ok_iff {threshold : Value} {x : Float} :
    readThreshold threshold = .ok x ↔ threshold.toReal = .ok x := by
  rw [readThreshold]
  cases threshold.toReal <;> simp

/-- What is in its range passes the checks of a configuration, and what is not is a fault of it. -/
theorem check_cases {fields : Fields} {x : Float} (threshold : fields.spamThreshold = .float x) :
    InRange x fields.analyzers fields.spamCategory fields.hamCategory
        ∧ (∃ config, check fields = .ok config ∧ config.trainedModels = fields.trainedModels)
      ∨ ¬ InRange x fields.analyzers fields.spamCategory fields.hamCategory
        ∧ ∃ fault, check fields = .error (.configuration fault) := by
  have read : fields.spamThreshold.toNumber = .ok (.binary x) := by
    rw [threshold]
    rfl
  rw [check, read]
  simp only [ok_bind]
  -- Three checks, one after the other. The first one that fails is the fault.
  split
  · next outside =>
    refine Or.inr ⟨fun range => ?_, _, rfl⟩
    simp [range.threshold] at outside
  · next between =>
    split
    · next repeated =>
      refine Or.inr ⟨fun range => ?_, _, rfl⟩
      simp [range.analyzers] at repeated
    · next distinct =>
      split
      · next coincide =>
        refine Or.inr ⟨fun range => ?_, _, rfl⟩
        simp [range.categories] at coincide
      · next differ =>
        refine Or.inl ⟨⟨?_, ?_, ?_⟩, _, rfl, rfl⟩
        · simpa using between
        · simpa using distinct
        · simpa using differ

/-- The last steps: what is in its range is only a configuration if its types have an order. -/
theorem surfaces_checked_iff {fields : Fields} {x : Float}
    (threshold : fields.spamThreshold = .float x) :
    (Surfaces (check fields) ∧ ∀ config, check fields = .ok config →
        Surfaces (if (!config.trainedModels.isSortable) = true then
          (throw .wrongKind : Except Error PUnit) >>= fun _ => pure config else pure config))
      ↔ (InRange x fields.analyzers fields.spamCategory fields.hamCategory →
        fields.trainedModels.isSortable = true) := by
  simp only [surfaces_unless_iff, surfaces_pure, implies_true, and_true]
  obtain ⟨range, config, checked, models⟩ | ⟨outside, fault, failed⟩ := check_cases threshold
  · simp [checked, range, models]
  · simp [failed, outside]

/-- The configuration of the engine's table surfaces if and only if all is legible that is read. -/
theorem surfaces_ofTable_iff {raw : Value} {modules : Option Value} :
    Surfaces (ofTable? raw modules) ↔ Legible raw modules := by
  -- The table is empty if none is given, and what is read of it does not depend on that.
  obtain ⟨rest, same, reads⟩ : ∃ rest : Entries Value → Except Error Config,
      ofTable? raw modules = (if raw.isSet then raw.asTable else .ok []) >>= rest
        ∧ ∀ table, Surfaces (rest table) ↔ LegibleTable table modules := by
    refine ⟨_, by rw [ofTable?]; split <;> rfl, fun table => ?_⟩
    simp only [surfaces_bind_iff, surfaces_readThreshold_iff, surfaces_readAnalyzers_iff,
      readThreshold_ok_iff, surfaces_trainedModelsOf_iff]
    constructor
    · -- The conditions on the steps are nested, those of the structure stand side by side; each
      -- repeats what has been read before.
      rintro ⟨threshold, h⟩
      refine ⟨threshold, fun x hx => (h x hx).1, fun x analyzers hx ha =>
        ((h x hx).2 analyzers ha).1, fun x analyzers overrides hx ha range mapped => ?_⟩
      obtain ⟨⟨texts, mappable⟩, checked⟩ := (h x hx).2 analyzers ha
      obtain ⟨models, made⟩ := exists_trainedModelsOf texts mappable
      rw [← isSortable_trainedModelsOf_iff mapped made]
      exact (surfaces_checked_iff rfl).mp (checked models made) range
    · intro h
      refine ⟨h.threshold, fun x hx => ⟨h.analyzers x hx, fun analyzers ha =>
        ⟨h.models x analyzers hx ha, fun models made => (surfaces_checked_iff rfl).mpr fun range => ?_⟩⟩⟩
      obtain ⟨overrides, mapped⟩ := (h.models x analyzers hx ha).2.exists_toMap
      rw [isSortable_trainedModelsOf_iff mapped made]
      exact h.types x analyzers overrides hx ha range mapped
  rw [same, surfaces_bind_iff, Legible]
  by_cases given : raw.isSet = true
  · rw [if_pos given, surfaces_asTable_iff, imp_iff_right given]
    refine and_congr_right ?_
    rintro ⟨table, rfl⟩
    simp [Value.asTable, reads, settingsOf]
  · have none : settingsOf raw = [] := by
      cases raw <;> simp_all [settingsOf, Value.isSet]
    simp [given, reads, none]

end Config

end Moderation
