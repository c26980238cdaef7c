import Moderation.Proofs.Config.Surfacing
import Moderation.Registry.Standard

/-!
# `Moderation.Proofs.Bayes.Options`: which options are told to be invalid

Whoever makes a Bayes classifier from options is told that an option is out of its range by an error
of its own, `Error.invalid`. An option of a kind that cannot be read at all is another matter, and the
errors for that are many. Options are read in a fixed order, and the first error ends the reading.

* `failsAs_invalid_makeBayes_iff` gives the exact condition on the options under which a classifier is
  made or an option is told to be invalid, `Bayes.LegibleOptions`.
* `failsAs_illegible_makeBayes`: no other error looks like one of the registry or of a store.
-/

set_option autoImplicit false

namespace Moderation

variable {β : Type}

/-- An option or an argument is out of its range. -/
def Error.IsInvalid (e : Error) : Prop := ∃ fault, e = .invalid fault

/-- A value cannot be read as what it is taken for: it is out of its range, of another kind, or beyond
all floats. -/
def Error.IsIllegible (e : Error) : Prop := e.isMismatch = true ∨ e = .overflow

/-- Whichever fault it names. -/
theorem isInvalid_invalid (fault : InvalidValue) : (Error.invalid fault).IsInvalid := ⟨fault, rfl⟩

/-- A value that is out of its range cannot be read as what it is taken for. -/
theorem isIllegible_invalid (fault : InvalidValue) : (Error.invalid fault).IsIllegible := Or.inl rfl

section

variable {kind : Error → Prop}

/-- An option is read if it is given. -/
theorem failsAs_readOr_iff {options : Entries Value} {key : String} {absent : β}
    {read : Value → Except Error β} :
    FailsAs kind (options.readOr key absent read)
      ↔ ∀ value, options.get? key = some value → FailsAs kind (read value) := by
  rw [Entries.readOr]
  cases options.get? key with
  | none => exact iff_of_true (failsAs_ok absent) nofun
  | some value => simp

end

namespace Value

/-! ### Conversions -/

variable {value : Value}

/-- A text, or a number other than an infinite float: a whole number, or told not to be one. -/
def IsCountable : Value → Prop
  | number (.binary x) => ∀ negative, Binary64.ofFloat x ≠ .infinite negative
  | number _ => True
  | text _ => True
  | _ => False

/-- A text, or a number that is not beyond all floats. -/
def IsMeasurable (value : Value) : Prop :=
  value.IsText ∨ (∃ n, value = .number n) ∧ ¬ value.IsImmense

/-- A text is a whole number, or is told not to be one. -/
theorem failsAs_invalid_wholeOfText (s : String) : FailsAs Error.IsInvalid (wholeOfText s) := by
  rw [wholeOfText]
  split
  · exact failsAs_ok _
  · exact (failsAs_error_iff _).mpr (isInvalid_invalid _)
  · exact (failsAs_error_iff _).mpr (isInvalid_invalid _)

/-- An infinite float is the only float that is neither whole nor told not to be. -/
theorem wholeOfFloat_cases (x : Float) :
    (∃ negative, Binary64.ofFloat x = .infinite negative) ∧ wholeOfFloat x = .error .overflow
      ∨ (∀ negative, Binary64.ofFloat x ≠ .infinite negative)
        ∧ FailsAs Error.IsInvalid (wholeOfFloat x) := by
  rw [wholeOfFloat]
  cases Binary64.ofFloat x with
  | nan => exact Or.inr ⟨nofun, (failsAs_error_iff _).mpr (isInvalid_invalid _)⟩
  | infinite negative => exact Or.inl ⟨⟨negative, rfl⟩, rfl⟩
  | finite negative significand exponent => exact Or.inr ⟨nofun, failsAs_ok _⟩

/-- Of the other kinds a value is told to be no whole number at all, and this is a mismatch and no
invalid option. -/
theorem failsAs_invalid_toWhole_iff : FailsAs Error.IsInvalid value.toWhole ↔ value.IsCountable := by
  -- Texts are countable, and numbers that are not infinite. Everything else is a mismatch.
  cases value with
  | number n =>
    cases n with
    | whole n => exact iff_of_true (failsAs_ok n) trivial
    | switch on => exact iff_of_true (failsAs_ok _) trivial
    | binary x =>
      obtain ⟨⟨negative, infinite⟩, read⟩ | ⟨finite, read⟩ := wholeOfFloat_cases x
      · refine iff_of_false (fun h => ?_) fun h => h negative infinite
        obtain ⟨fault, same⟩ := h .overflow read
        cases same
      · exact iff_of_true read finite
  | text s => exact iff_of_true (failsAs_invalid_wholeOfText s) trivial
  | _ => simp [toWhole, failsAs_error_iff, Error.IsInvalid, IsCountable]

/-- A text is measured by what it spells, and only a number can be beyond all floats. -/
theorem failsAs_invalid_toReal_iff : FailsAs Error.IsInvalid value.toReal ↔ value.IsMeasurable := by
  cases value with
  | number n =>
    obtain ⟨immense, read⟩ | ⟨small, x, read⟩ := toReal_number_cases n
    · simp [read, failsAs_error_iff, Error.IsInvalid, IsMeasurable, IsText, immense]
    · exact iff_of_true (read ▸ failsAs_ok x) (Or.inr ⟨⟨n, rfl⟩, small⟩)
  | text s =>
    refine iff_of_true ?_ (Or.inl ⟨s, rfl⟩)
    rw [toReal]
    cases Numeral.readReal s with
    | none => exact (failsAs_error_iff _).mpr (isInvalid_invalid _)
    | some x => exact failsAs_ok x
  | _ => simp [toReal, failsAs_error_iff, Error.IsInvalid, IsMeasurable, IsText]

/-- Collecting the elements of a value knows no invalid option, so it has to succeed. -/
theorem failsAs_invalid_elements_iff : FailsAs Error.IsInvalid value.elements ↔ value.IsCollection := by
  cases value <;> simp [elements, IsCollection, failsAs_ok, failsAs_error_iff, Error.IsInvalid]

/-- Reading a whole number ends in a mismatch or beyond all floats. What is countable is read or
told to be invalid, so the cases are of what is not. -/
theorem failsAs_illegible_toWhole (value : Value) : FailsAs Error.IsIllegible value.toWhole := by
  by_cases countable : value.IsCountable
  · intro e failed
    obtain ⟨fault, rfl⟩ := failsAs_invalid_toWhole_iff.mpr countable e failed
    exact isIllegible_invalid fault
  · cases value with
    | number n =>
      cases n with
      | binary x =>
        obtain ⟨-, read⟩ | ⟨finite, -⟩ := wholeOfFloat_cases x
        · exact fun e failed => Or.inr (Except.error.inj (failed.symm.trans read))
        · exact absurd finite countable
      | _ => exact absurd trivial countable
    | text s => exact absurd trivial countable
    | _ => exact (failsAs_error_iff _).mpr (Or.inl rfl)

/-- Reading a number ends likewise. -/
theorem failsAs_illegible_toReal (value : Value) : FailsAs Error.IsIllegible value.toReal := by
  obtain ⟨-, read⟩ | ⟨-, ⟨x, read⟩ | ⟨e, read, mismatch⟩⟩ := toReal_cases value
  · exact read ▸ (failsAs_error_iff _).mpr (Or.inr rfl)
  · exact read ▸ failsAs_ok x
  · exact read ▸ (failsAs_error_iff _).mpr (Or.inl mismatch)

/-- Collecting elements ends in a mismatch. -/
theorem failsAs_illegible_elements (value : Value) : FailsAs Error.IsIllegible value.elements := by
  cases value <;> first | exact failsAs_ok _ | exact (failsAs_error_iff _).mpr (Or.inl rfl)

end Value

open Value

namespace Bayes

variable {options : Entries Value}

/-! ### Options, one by one -/

/-- The least length of a token that options give. -/
def minLengthOf (options : Entries Value) : Except Error Int :=
  options.readOr "min-token-length" 2 Value.toWhole

/-- The smoothing that options give. -/
def smoothingOf (options : Entries Value) : Except Error Float :=
  options.readOr "alpha" 1 Value.toReal

/-- The categories that options give. -/
def categoriesOf (options : Entries Value) : Except Error (List Value) :=
  options.readOr "categories" defaultCategories Value.elements

/-- The least count of a token that options give. -/
def minTokenCountOf (options : Entries Value) : Except Error Int :=
  options.readOr "min-token-count" 0 Value.toWhole

/-- The greatest number of tokens that options give. -/
def maxTokensOf (options : Entries Value) : Except Error Int :=
  options.readOr "max-tokens-per-message" 2000 Value.toWhole

/-- The settings that have been read, before they are checked. -/
def fieldsOf (minLength : Int) (pairs : Bool) (smoothing : Float) (categories : List Value)
    (minTokenCount maxTokens : Int) : Fields where
  smoothing := .float smoothing
  categories := .list categories
  minTokenCount := .int minTokenCount
  maxTokens := .int maxTokens
  tokenizer := { minLength := .int minLength, pairs := .switch pairs }

/-- The options in the order in which they are read. The switch for pairs stands apart since no
value of it is refused. -/
theorem ofOptions?_eq (options : Entries Value) :
    Fields.ofOptions? options = (do
      let minLength ← minLengthOf options
      let smoothing ← smoothingOf options
      let categories ← categoriesOf options
      let minTokenCount ← minTokenCountOf options
      let maxTokens ← maxTokensOf options
      return fieldsOf minLength (((options.get? "use-bigrams").map Value.isSet).getD false) smoothing
        categories minTokenCount maxTokens) := by
  -- Every value can be read as a switch.
  have switch : options.readOr "use-bigrams" false (fun value => .ok value.isSet)
      = .ok (((options.get? "use-bigrams").map Value.isSet).getD false) := by
    rw [Entries.readOr]
    cases options.get? "use-bigrams" <;> rfl
  rw [Fields.ofOptions?, switch]
  rfl

/-! ### Checks -/

section

variable {kind : Error → Prop}

/-- A smoothing is refused as an invalid option. -/
theorem failsAs_checkSmoothing (invalid : ∀ fault, kind (.invalid fault)) (smoothing : Number) :
    FailsAs kind (checkSmoothing smoothing) := by
  rw [checkSmoothing]
  split
  · exact (failsAs_error_iff _).mpr (invalid _)
  · exact failsAs_ok _

/-- A least count of a token is refused as an invalid option. -/
theorem failsAs_checkMinTokenCount (invalid : ∀ fault, kind (.invalid fault)) (count : Number) :
    FailsAs kind (checkMinTokenCount count) := by
  rw [checkMinTokenCount]
  split
  · exact (failsAs_error_iff _).mpr (invalid _)
  · exact failsAs_ok _

/-- The settings of the tokenizer are refused as an invalid option. -/
theorem failsAs_checkTokenizer (invalid : ∀ fault, kind (.invalid fault))
    (settings : Tokenizer.Settings) : FailsAs kind (checkTokenizer settings) := by
  rw [checkTokenizer]
  split
  · exact failsAs_ok _
  · exact (failsAs_error_iff _).mpr (invalid _)

/-- Values that cannot be shown in a message are refused as an invalid option. -/
theorem failsAs_requireShowable (invalid : ∀ fault, kind (.invalid fault)) (values : List Value) :
    FailsAs kind (requireShowable values) := by
  rw [requireShowable]
  split
  · exact failsAs_ok _
  · exact (failsAs_error_iff _).mpr (invalid _)

/-- Fewer than two categories are refused as an invalid option, and so are repeated ones. In between
the names are compared, and a category that names nothing cannot be. -/
theorem failsAs_checkCategories_iff (invalid : ∀ fault, kind (.invalid fault))
    {categories : List Value} :
    FailsAs kind (checkCategories categories)
      ↔ (2 ≤ categories.length → categories.all isName = false → kind .wrongKind) := by
  rw [checkCategories]
  split
  · next few => exact iff_of_true ((failsAs_error_iff _).mpr (invalid _)) fun h => absurd few (by omega)
  · next enough =>
    rw [imp_iff_right (by omega)]
    cases named : categories.all isName with
    | false => exact (failsAs_error_iff _).trans (imp_iff_right rfl).symm
    -- Repeated names are shown in the message, unless they cannot be.
    | true =>
      refine iff_of_true ?_ nofun
      rw [Bool.not_true, if_neg Bool.false_ne_true]
      split
      · exact failsAs_bind_iff.mpr
          ⟨failsAs_requireShowable invalid _, fun _ _ => (failsAs_error_iff _).mpr (invalid _)⟩
      · exact failsAs_ok _

/-- A classifier is made of settings that have been read, unless they are out of their range or some
category names nothing. -/
theorem failsAs_ofFields?_iff (invalid : ∀ fault, kind (.invalid fault)) {minLength : Int}
    {pairs : Bool} {smoothing : Float} {categories : List Value} {minTokenCount maxTokens : Int} :
    FailsAs kind (Settings.ofFields?
        (fieldsOf minLength pairs smoothing categories minTokenCount maxTokens))
      ↔ ((Number.binary smoothing).le (.whole 0) = false → 2 ≤ categories.length →
        categories.all isName = false → kind .wrongKind) := by
  have read : Settings.ofFields?
      (fieldsOf minLength pairs smoothing categories minTokenCount maxTokens) = (do
        checkSmoothing (Number.binary smoothing)
        checkCategories categories
        checkMinTokenCount (Number.whole minTokenCount)
        checkTokenizer _
        return _) := rfl
  -- The checks follow one another. Only the first two matter: a smoothing that is out of its range
  -- ends the checks before the categories are compared.
  have positive (u : Unit) : checkSmoothing (Number.binary smoothing) = .ok u
      ↔ (Number.binary smoothing).le (.whole 0) = false := by
    show (if (Number.binary smoothing).le (.whole 0) = true then _ else _) = _ ↔ _
    cases (Number.binary smoothing).le (.whole 0) <;> simp
  have later (settings : Tokenizer.Settings) (made : Settings Number) : FailsAs kind (do
      checkMinTokenCount (Number.whole minTokenCount)
      checkTokenizer settings
      return made) :=
    failsAs_bind_iff.mpr ⟨failsAs_checkMinTokenCount invalid _, fun _ _ =>
      failsAs_bind_iff.mpr ⟨failsAs_checkTokenizer invalid _, fun _ _ => failsAs_ok _⟩⟩
  rw [read, failsAs_bind_iff, and_iff_right (failsAs_checkSmoothing invalid _)]
  constructor
  · intro h above
    have checked := failsAs_bind_iff.mp (h () ((positive ()).mpr above))
    exact (failsAs_checkCategories_iff invalid).mp checked.1
  · intro h _ above
    exact failsAs_bind_iff.mpr
      ⟨(failsAs_checkCategories_iff invalid).mpr (h ((positive _).mp above)), fun _ _ => later _ _⟩

/-- As far as an error other than `Error.invalid` matters, a classifier is made once its options are
read and its categories name something. -/
theorem failsAs_makeBayes_iff {σ : Type} (invalid : ∀ fault, kind (.invalid fault)) (analyzer : String)
    (store : Store σ) (params : Entries Value) :
    FailsAs kind (Registry.makeBayes analyzer store options params)
      ↔ FailsAs kind (minLengthOf options) ∧ ∀ n, minLengthOf options = .ok n →
        FailsAs kind (smoothingOf options) ∧ ∀ smoothing, smoothingOf options = .ok smoothing →
        FailsAs kind (categoriesOf options) ∧ ∀ categories, categoriesOf options = .ok categories →
        FailsAs kind (minTokenCountOf options) ∧ ∀ k, minTokenCountOf options = .ok k →
        FailsAs kind (maxTokensOf options) ∧ ∀ m, maxTokensOf options = .ok m →
        ((Number.binary smoothing).le (.whole 0) = false → 2 ≤ categories.length →
          categories.all isName = false → kind .wrongKind) := by
  -- Names that cannot be shown are an invalid option, so they do not count here.
  have shown (settings : Settings Number) : FailsAs kind (do
      requireShowable settings.categories
      return ({ name := analyzer, settings, scope := Classifier.scopeOf analyzer params } :
        Classifier Number)) :=
    failsAs_bind_iff.mpr ⟨failsAs_requireShowable invalid _, fun _ _ => failsAs_ok _⟩
  have made : FailsAs kind (Registry.makeBayes analyzer store options params)
      ↔ FailsAs kind (Fields.ofOptions? options >>= Settings.ofFields?) := by
    rw [Registry.makeBayes, bind_pure_comp, failsAs_map_iff, Classifier.ofOptions?, failsAs_bind_iff]
    exact and_iff_left fun settings _ => shown settings
  rw [made, ofOptions?_eq]
  simp only [bind_assoc, pure_bind, failsAs_bind_iff, failsAs_ofFields?_iff invalid]

end

/-! ### Options as a whole -/

/-- What is read of options, one after the other up to the first error: whole numbers and a number,
and a collection of categories. Settings in their range need categories that name something. -/
structure LegibleOptions (options : Entries Value) : Prop where
  minLength : ∀ value, options.get? "min-token-length" = some value → value.IsCountable
  smoothing : ∀ n, minLengthOf options = .ok n →
    ∀ value, options.get? "alpha" = some value → value.IsMeasurable
  categories : ∀ n a, minLengthOf options = .ok n → smoothingOf options = .ok a →
    ∀ value, options.get? "categories" = some value → value.IsCollection
  minTokenCount : ∀ n a cs, minLengthOf options = .ok n → smoothingOf options = .ok a →
    categoriesOf options = .ok cs →
    ∀ value, options.get? "min-token-count" = some value → value.IsCountable
  maxTokens : ∀ n a cs k, minLengthOf options = .ok n → smoothingOf options = .ok a →
    categoriesOf options = .ok cs → minTokenCountOf options = .ok k →
    ∀ value, options.get? "max-tokens-per-message" = some value → value.IsCountable
  names : ∀ n a cs k m, minLengthOf options = .ok n → smoothingOf options = .ok a →
    categoriesOf options = .ok cs → minTokenCountOf options = .ok k → maxTokensOf options = .ok m →
    (Number.binary a).le (.whole 0) = false → 2 ≤ cs.length → ∀ c ∈ cs, c.isName = true

/-- A classifier is made, or an option is told to be invalid, if and only if all is legible that is
read. -/
theorem failsAs_invalid_makeBayes_iff {σ : Type} (analyzer : String) (store : Store σ)
    (params : Entries Value) :
    FailsAs Error.IsInvalid (Registry.makeBayes analyzer store options params)
      ↔ LegibleOptions options := by
  have countable (key : String) (absent : Int) :
      FailsAs Error.IsInvalid (options.readOr key absent Value.toWhole)
        ↔ ∀ value, options.get? key = some value → value.IsCountable :=
    failsAs_readOr_iff.trans (forall₂_congr fun _ _ => failsAs_invalid_toWhole_iff)
  have measurable : FailsAs Error.IsInvalid (smoothingOf options)
      ↔ ∀ value, options.get? "alpha" = some value → value.IsMeasurable :=
    failsAs_readOr_iff.trans (forall₂_congr fun _ _ => failsAs_invalid_toReal_iff)
  have collection : FailsAs Error.IsInvalid (categoriesOf options)
      ↔ ∀ value, options.get? "categories" = some value → value.IsCollection :=
    failsAs_readOr_iff.trans (forall₂_congr fun _ _ => failsAs_invalid_elements_iff)
  have named (cs : List Value) : (cs.all isName = false → Error.IsInvalid .wrongKind)
      ↔ ∀ c ∈ cs, c.isName = true := by
    have other : ¬ Error.IsInvalid .wrongKind := nofun
    rw [imp_iff_not other, Bool.not_eq_false, List.all_eq_true]
  -- What is left is to read the nested conditions as the fields of a structure.
  rw [failsAs_makeBayes_iff isInvalid_invalid, measurable, collection]
  simp only [named]
  constructor
  · intro ⟨first, h⟩
    refine ⟨(countable _ _).mp first, fun n hn => (h n hn).1, fun n a hn ha => ((h n hn).2 a ha).1,
      fun n a cs hn ha hcs => (countable _ _).mp (((h n hn).2 a ha).2 cs hcs).1,
      fun n a cs k hn ha hcs hk => (countable _ _).mp ((((h n hn).2 a ha).2 cs hcs).2 k hk).1,
      fun n a cs k m hn ha hcs hk hm => ((((h n hn).2 a ha).2 cs hcs).2 k hk).2 m hm⟩
  · intro h
    refine ⟨(countable _ _).mpr h.minLength, fun n hn => ⟨h.smoothing n hn, fun a ha =>
      ⟨h.categories n a hn ha, fun cs hcs => ⟨(countable _ _).mpr (h.minTokenCount n a cs hn ha hcs),
        fun k hk => ⟨(countable _ _).mpr (h.maxTokens n a cs k hn ha hcs hk),
          fun m hm => h.names n a cs k m hn ha hcs hk hm⟩⟩⟩⟩⟩

/-- What cannot be read is a mismatch, or a number beyond all others. -/
theorem failsAs_illegible_makeBayes {σ : Type} (analyzer : String) (store : Store σ)
    (options params : Entries Value) :
    FailsAs Error.IsIllegible (Registry.makeBayes analyzer store options params) := by
  have option {β : Type} (key : String) (absent : β) {read : Value → Except Error β}
      (h : ∀ value, FailsAs Error.IsIllegible (read value)) :
      FailsAs Error.IsIllegible (options.readOr key absent read) :=
    failsAs_readOr_iff.mpr fun value _ => h value
  exact (failsAs_makeBayes_iff isIllegible_invalid analyzer store params).mpr
    ⟨option _ _ failsAs_illegible_toWhole, fun _ _ => ⟨option _ _ failsAs_illegible_toReal,
      fun _ _ => ⟨option _ _ failsAs_illegible_elements, fun _ _ =>
        ⟨option _ _ failsAs_illegible_toWhole, fun _ _ =>
          ⟨option _ _ failsAs_illegible_toWhole, fun _ _ _ _ _ => Or.inl rfl⟩⟩⟩⟩⟩

end Bayes

end Moderation
