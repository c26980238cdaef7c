import Mathlib.Data.List.Nodup
import Moderation.Bayes.Settings
import Moderation.Config.Basic
import Moderation.Proofs.Result

/-!
# `Moderation.Proofs.Config.Ranges`: what is known of an accepted configuration

The settings have documented ranges, and a table or options outside of them are refused. Some checks
ask whether a number is in its range, others whether it is outside. The two are not the same for a
float that is no number, since it compares with nothing (`Number.IsNaN`): the threshold is asked for,
so it is a number, while a weight and a smoothing are only refused if they are at most zero.

`Checked` says for an analyzer, a classifier and the engine what follows from the checks. A weight
and a smoothing are above zero if and only if they are numbers, and all else is in its range: counts
and lengths are read as whole numbers, which are always in order (`le_of_not_lt_whole`).

* `accepted_checked`: what is accepted is checked, whatever the values were that it was read from.
* `not_positive_nan`: a text such as `nan` is accepted as a weight and as a smoothing.
-/

set_option autoImplicit false

namespace Moderation

/-! ### Numbers without a place -/

namespace Number

/-- A float that is no number. -/
def IsNaN (n : Number) : Prop := ∃ x, n = .binary x ∧ Binary64.ofFloat x = .nan

/-- Only a float that is no number has no place on the line. -/
theorem point?_eq_none_iff (n : Number) : n.point? = none ↔ n.IsNaN := by
  cases n with
  | binary x => cases h : Binary64.ofFloat x <;> simp [point?, IsNaN, h]
  | _ => simp [point?, IsNaN]

/-- So two numbers can be compared unless one of them is none. -/
theorem order_eq_none_iff (a b : Number) : a.order b = none ↔ a.IsNaN ∨ b.IsNaN := by
  rw [← point?_eq_none_iff, ← point?_eq_none_iff, order]
  cases a.point? <;> cases b.point? <;> simp

/-- Points are compared alike from both sides. -/
theorem Point.order_swap (p q : Point) : (p.order q).swap = q.order p := by
  cases p <;> cases q <;> try rfl
  next num den num' den' =>
    have swapped : compare (num' * den) (num * den') = (compare (num * den') (num' * den)).swap :=
      Std.OrientedCmp.eq_swap
    exact swapped.symm

/-- Numbers are compared alike from both sides. -/
theorem order_swap (a b : Number) : (a.order b).map Ordering.swap = b.order a := by
  rw [order, order]
  cases a.point? <;> cases b.point? <;> simp [Point.order_swap]

/-- Where one number is not at most the other, it is above it, if both are numbers. -/
theorem le_eq_false_iff (a b : Number) :
    a.le b = false ↔ b.lt a = true ∨ a.IsNaN ∨ b.IsNaN := by
  rw [← order_eq_none_iff, le, lt, ← order_swap a b]
  rcases a.order b with - | (- | - | -) <;> decide

/-- Nothing is below what is no number. -/
theorem not_lt_of_isNaN {a b : Number} (h : b.IsNaN) : a.lt b = false := by
  rw [lt, (order_eq_none_iff a b).mpr (Or.inr h)]
  rfl

/-- A whole number is a number. -/
theorem not_isNaN_whole (n : Int) : ¬ (whole n).IsNaN := nofun

/-- What is not at most zero is above zero, unless it is no number. -/
theorem pos_iff_of_not_le_zero {n : Number} (h : n.le (whole 0) = false) :
    (whole 0).lt n = true ↔ ¬ n.IsNaN := by
  constructor
  · intro positive none
    rw [not_lt_of_isNaN none] at positive
    cases positive
  · intro some
    exact ((le_eq_false_iff n (whole 0)).mp h).resolve_right
      fun none => none.elim some (not_isNaN_whole 0)

/-- Whole numbers are always in order, so that one is not below is that it is above or the same. -/
theorem le_of_not_lt_whole {m n : Int} (h : (whole m).lt (whole n) = false) :
    (whole n).le (whole m) = true := by
  rw [lt_whole, decide_eq_false_iff_not] at h
  rw [le_whole, decide_eq_true_iff]
  exact Int.not_lt.mp h

/-- Whether two numbers are the same does not depend on which is named first. -/
theorem same_comm (a b : Number) : a.same b = b.same a := by
  rw [same, same, ← order_swap a b]
  rcases a.order b with - | (- | - | -) <;> rfl

end Number

open Number

/-! ### Values from both sides -/

/-- Nor does it for moments. Two of them have a case of their own if both have an offset. -/
theorem Moment.same_comm (a b : Moment) : a.same b = b.same a := by
  unfold same
  split
  · exact BEq.comm
  · next other =>
    split
    · next d' t' offset' d t offset =>
      exact (other d t offset d' t' offset' rfl rfl).elim
    · exact BEq.comm

/-- Values that can name something are compared alike from both sides. -/
theorem Value.same_comm {a : Value} (h : a.isName = true) (b : Value) : a.same b = b.same a := by
  cases a with
  | null => cases b <;> simp [same]
  | number n => cases b <;> simp [same, Number.same_comm]
  | text s => cases b <;> simp [same, BEq.comm]
  | moment m => cases b <;> simp [same, Moment.same_comm]
  | list items => cases h
  | table entries => cases h

/-! ### Analyzers -/

namespace AnalyzerConfig

/-- What the checks of an analyzer establish. -/
structure Checked (config : AnalyzerConfig) : Prop where
  named : Text.isAllBlank config.name = false
  positive : (whole 0).lt config.weight = true ↔ ¬ config.weight.IsNaN

/-- A name that is read has a character other than a blank. -/
theorem isAllBlank_of_readName {name : Value} {text : String} (h : readName name = .ok text) :
    Text.isAllBlank text = false := by
  obtain ⟨-, h⟩ := ok_of_unless h
  obtain ⟨shown, -, h⟩ := ok_of_bind h
  obtain ⟨spelt, h⟩ := ok_of_unless h
  cases h
  exact eq_false_of_ne_true spelt

/-- The checks of an analyzer are made in the order of its fields. Two of them say something of what
is accepted: the name and the weight. -/
theorem checked_of_ofFields? {fields : Fields} {config : AnalyzerConfig}
    (h : ofFields? fields = .ok config) : config.Checked := by
  -- One line for each step of the reading, in their order.
  obtain ⟨name, named, h⟩ := ok_of_bind h
  obtain ⟨-, h⟩ := ok_of_unless h
  obtain ⟨-, h⟩ := ok_of_unless h
  obtain ⟨weight, -, h⟩ := ok_of_bind h
  obtain ⟨above, h⟩ := ok_of_unless h
  obtain ⟨strategy, -, h⟩ := ok_of_bind h
  obtain ⟨adapter, -, h⟩ := ok_of_bind h
  obtain ⟨params, -, h⟩ := ok_of_bind h
  obtain ⟨options, -, h⟩ := ok_of_bind h
  cases h
  exact ⟨isAllBlank_of_readName named, pos_iff_of_not_le_zero (eq_false_of_ne_true above)⟩

/-- An entry that has all it needs is checked as its fields are. -/
theorem checked_of_ofEntry? {entry : Value} {config : AnalyzerConfig}
    (h : ofEntry? entry = .ok config) : config.Checked := by
  obtain ⟨found, -, h⟩ := ok_of_bind h
  split at h
  · obtain ⟨-, -, h⟩ := ok_of_bind h
    cases h
  obtain ⟨table, -, h⟩ := ok_of_bind h
  obtain ⟨weight, -, h⟩ := ok_of_bind h
  obtain ⟨store, -, h⟩ := ok_of_bind h
  exact checked_of_ofFields? h

end AnalyzerConfig

/-! ### Bayes classifiers -/

namespace Bayes

/-- What the checks of a classifier establish. -/
structure Settings.Checked (settings : Settings Number) : Prop where
  positive : (whole 0).lt settings.smoothing = true ↔ ¬ settings.smoothing.IsNaN
  plenty : 2 ≤ settings.categories.length
  distinct : settings.categories.Pairwise fun a b => a.same b = false ∧ b.same a = false
  counted : (whole 0).le settings.minTokenCount = true
  least : (whole 1).le settings.tokenizer.minLength = true
  greatest : settings.tokenizer.minLength.le settings.tokenizer.maxLength = true

/-- A smoothing is refused if it is at most zero. -/
theorem le_of_checkSmoothing {smoothing : Number} {u : Unit} (h : checkSmoothing smoothing = .ok u) :
    smoothing.le (whole 0) = false := eq_false_of_ok h

/-- A least count is refused if it is below zero. -/
theorem lt_of_checkMinTokenCount {count : Number} {u : Unit}
    (h : checkMinTokenCount count = .ok u) : count.lt (whole 0) = false := eq_false_of_ok h

/-- Settings of the tokenizer are refused if they have any fault. -/
theorem faults_of_checkTokenizer {settings : Tokenizer.Settings} {u : Unit}
    (h : checkTokenizer settings = .ok u) : settings.faults = [] := by
  rw [checkTokenizer] at h
  split at h
  · assumption
  · cases h

/-- Each category is compared with the ones behind it, and what is not the same from there is not
the same from here. -/
theorem pairwise_of_not_hasRepeated {categories : List Value}
    (names : categories.all Value.isName = true) (h : hasRepeated categories = false) :
    categories.Pairwise fun a b => a.same b = false ∧ b.same a = false := by
  induction categories with
  | nil => exact List.Pairwise.nil
  | cons category rest ih =>
    rw [hasRepeated, Bool.or_eq_false_iff, Value.isAmong, List.any_eq_false] at h
    rw [List.all_cons, Bool.and_eq_true] at names
    refine List.Pairwise.cons (fun other member => ?_) (ih names.2 h.2)
    have apart := eq_false_of_ne_true (h.1 other member)
    exact ⟨(Value.same_comm names.1 other).trans apart, apart⟩

/-- Categories that are accepted are two or more, and no two of them are the same. -/
theorem distinct_of_checkCategories {categories : List Value} {u : Unit}
    (h : checkCategories categories = .ok u) : 2 ≤ categories.length
      ∧ categories.Pairwise fun a b => a.same b = false ∧ b.same a = false := by
  rw [checkCategories] at h
  -- Three tests: enough categories, all of them names, and no two the same.
  split at h
  · cases h
  next enough =>
  split at h
  · cases h
  next names =>
  split at h
  · obtain ⟨-, -, h⟩ := ok_of_bind h
    cases h
  next once =>
  exact ⟨Nat.not_lt.mp enough, pairwise_of_not_hasRepeated (by simpa using names)
    (eq_false_of_ne_true once)⟩

/-- Of options only whole numbers can come where a count or a length is asked for. -/
theorem wholes_of_ofOptions? {options : Entries Value} {fields : Fields}
    (h : Fields.ofOptions? options = .ok fields) : ∃ count least, fields.minTokenCount = .int count
      ∧ fields.tokenizer.minLength = .int least ∧ fields.tokenizer.maxLength = .int 50 := by
  obtain ⟨least, -, h⟩ := ok_of_bind h
  obtain ⟨pairs, -, h⟩ := ok_of_bind h
  obtain ⟨smoothing, -, h⟩ := ok_of_bind h
  obtain ⟨categories, -, h⟩ := ok_of_bind h
  obtain ⟨count, -, h⟩ := ok_of_bind h
  obtain ⟨maxTokens, -, h⟩ := ok_of_bind h
  cases h
  exact ⟨count, least, rfl, rfl, rfl⟩

/-- The options that are read are checked one after the other. -/
theorem checked_of_ofOptions? {options : Entries Value} {settings : Settings Number}
    (h : Settings.ofOptions? options = .ok settings) : settings.Checked := by
  obtain ⟨fields, read, h⟩ := ok_of_bind h
  obtain ⟨count, least, counts, leasts, greatests⟩ := wholes_of_ofOptions? read
  obtain ⟨smoothing, -, h⟩ := ok_of_bind h
  obtain ⟨_, smoothed, h⟩ := ok_of_bind h
  obtain ⟨categories, -, h⟩ := ok_of_bind h
  obtain ⟨_, distinct, h⟩ := ok_of_bind h
  obtain ⟨minTokenCount, counted, h⟩ := ok_of_bind h
  obtain ⟨_, above, h⟩ := ok_of_bind h
  obtain ⟨tokenizer, made, h⟩ := ok_of_bind h
  obtain ⟨_, faultless, h⟩ := ok_of_bind h
  cases h
  -- What was read as a whole number is compared as one.
  rw [counts] at counted
  cases counted
  rw [Tokenizer.Fields.settings?, leasts, greatests] at made
  cases made
  obtain ⟨long, ordered⟩ :=
    (Tokenizer.Settings.faults_eq_nil_iff _).mp (faults_of_checkTokenizer faultless)
  obtain ⟨plenty, distinct⟩ := distinct_of_checkCategories distinct
  exact
    { positive := pos_iff_of_not_le_zero (le_of_checkSmoothing smoothed)
      plenty
      distinct
      counted := le_of_not_lt_whole (lt_of_checkMinTokenCount above)
      least := le_of_not_lt_whole long
      greatest := le_of_not_lt_whole ordered }

end Bayes

/-! ### The engine -/

namespace Config

/-- What the checks of the engine establish. -/
structure Checked (config : Config) : Prop where
  above : (whole 0).le config.spamThreshold = true
  below : config.spamThreshold.le (whole 1) = true
  present : config.analyzers ≠ []
  distinct : (config.analyzers.map (·.name)).Nodup
  apart : config.spamCategory.same config.hamCategory = false
  analyzers : ∀ analyzer ∈ config.analyzers, analyzer.Checked

/-- If no name is told to be repeated, none is. -/
theorem nodup_of_repeatedNames {names : List String} (h : repeatedNames names = []) :
    names.Nodup := by
  -- Neither sorting nor dropping doubles makes a list empty.
  have none : names.filter (fun name => 1 < names.count name) = [] := by
    rw [repeatedNames, ← List.length_eq_zero_iff, List.length_mergeSort, List.length_eq_zero_iff] at h
    cases repeated : names.filter fun name => 1 < names.count name with
    | nil => rfl
    | cons name rest =>
      rw [repeated, List.eraseDups_cons] at h
      cases h
  rw [List.filter_eq_nil_iff] at none
  rw [List.nodup_iff_count_le_one]
  intro name
  by_cases member : name ∈ names
  · simpa using none name member
  · rw [List.count_eq_zero.mpr member]
    exact Nat.zero_le 1

/-- There is at least one analyzer, and each has been checked: the one that stands for a missing
list, or those of the list. -/
theorem checked_of_readAnalyzers {table : Entries Value} {analyzers : List AnalyzerConfig}
    (h : readAnalyzers table = .ok analyzers) :
    analyzers ≠ [] ∧ ∀ analyzer ∈ analyzers, analyzer.Checked := by
  rw [readAnalyzers] at h
  -- Without a list there is one analyzer by default, which is checked like any other.
  split at h
  · obtain ⟨analyzer, made, h⟩ := ok_of_bind h
    cases h
    exact ⟨List.cons_ne_nil _ _,
      List.forall_mem_singleton.mpr (AnalyzerConfig.checked_of_ofFields? made)⟩
  · obtain ⟨items, -, h⟩ := ok_of_bind h
    obtain ⟨read, made, h⟩ := ok_of_bind h
    have checked : ∀ analyzer ∈ read, analyzer.Checked := fun analyzer member => by
      obtain ⟨item, -, made⟩ := exists_of_mem_mapM made analyzer member
      exact AnalyzerConfig.checked_of_ofEntry? made
    split at h
    · cases h
    · next nonempty =>
      cases h
      exact ⟨nonempty, checked⟩

/-- The checks of the engine, one after the other. That there are analyzers and that these are
checked is known before. -/
theorem checked_of_check {fields : Fields} {config : Config} (h : check fields = .ok config)
    (present : fields.analyzers ≠ []) (sound : ∀ analyzer ∈ fields.analyzers, analyzer.Checked) :
    config.Checked := by
  obtain ⟨threshold, -, h⟩ := ok_of_bind h
  obtain ⟨between, h⟩ := ok_of_unless h
  obtain ⟨distinct, h⟩ := ok_of_unless h
  obtain ⟨apart, h⟩ := ok_of_unless h
  cases h
  rw [Bool.not_eq_true', Bool.not_eq_false, Bool.and_eq_true] at between
  rw [Bool.not_eq_true', Bool.not_eq_false, List.isEmpty_iff] at distinct
  exact
    { above := between.1
      below := between.2
      present
      distinct := nodup_of_repeatedNames distinct
      apart := eq_false_of_ne_true apart
      analyzers := sound }

/-- A table that is accepted makes a checked configuration. -/
theorem checked_of_ofTable? {raw : Value} {modules : Option Value} {config : Config}
    (h : ofTable? raw modules = .ok config) : config.Checked := by
  -- The table is empty if none is given, and what is read of it does not depend on that.
  obtain ⟨read, same, checked⟩ : ∃ read : Entries Value → Except Error Config,
      ofTable? raw modules = (if raw.isSet then raw.asTable else .ok []) >>= read
        ∧ ∀ table, read table = .ok config → config.Checked := by
    refine ⟨_, by rw [ofTable?]; split <;> rfl, fun table h => ?_⟩
    obtain ⟨threshold, -, h⟩ := ok_of_bind h
    obtain ⟨analyzers, read, h⟩ := ok_of_bind h
    obtain ⟨models, -, h⟩ := ok_of_bind h
    obtain ⟨made, checked, h⟩ := ok_of_bind h
    obtain ⟨-, h⟩ := ok_of_unless h
    cases h
    obtain ⟨present, sound⟩ := checked_of_readAnalyzers read
    exact checked_of_check checked present sound
  rw [same] at h
  obtain ⟨table, -, h⟩ := ok_of_bind h
  exact checked table h

/-- What is accepted is within its ranges, but for a weight and a smoothing that are no numbers. -/
theorem accepted_checked (entry : Value) (options : Entries Value) (raw : Value)
    (modules : Option Value) :
    (∀ analyzer, AnalyzerConfig.ofEntry? entry = .ok analyzer → analyzer.Checked)
      ∧ (∀ settings, Bayes.Settings.ofOptions? options = .ok settings → settings.Checked)
      ∧ ∀ config, ofTable? raw modules = .ok config → config.Checked :=
  ⟨fun _ => AnalyzerConfig.checked_of_ofEntry?, fun _ => Bayes.checked_of_ofOptions?,
    fun _ => checked_of_ofTable?⟩

/-- An analyzer, options and a table that are accepted, each with some values that are given and the
others left out. -/
theorem accepted_checked_mail :
    (∃ analyzer, AnalyzerConfig.ofEntry? (.table [("name", .text "mail"), ("weight", .int 2)])
        = .ok analyzer ∧ analyzer.Checked)
      ∧ (∃ settings, Bayes.Settings.ofOptions? [("alpha", .int 2), ("min-token-length", .text "3")]
        = .ok settings ∧ settings.Checked)
      ∧ ∃ config, ofTable? (.table [("spam-threshold", .int 1)]) none = .ok config
        ∧ config.Checked := by
  obtain ⟨entries, options, tables⟩ := accepted_checked
    (.table [("name", .text "mail"), ("weight", .int 2)])
    [("alpha", .int 2), ("min-token-length", .text "3")] (.table [("spam-threshold", .int 1)]) none
  have entry : (AnalyzerConfig.ofEntry?
      (.table [("name", .text "mail"), ("weight", .int 2)])).toOption.isSome = true := by
    decide +kernel
  have option : (Bayes.Settings.ofOptions?
      [("alpha", .int 2), ("min-token-length", .text "3")]).toOption.isSome = true := by
    decide +kernel
  have table : (ofTable? (.table [("spam-threshold", .int 1)]) none).toOption.isSome = true := by
    decide +kernel
  -- That something is accepted is computed, and what it is need not be.
  obtain ⟨analyzer, entry⟩ := ok_of_isSome entry
  obtain ⟨settings, option⟩ := ok_of_isSome option
  obtain ⟨config, table⟩ := ok_of_isSome table
  exact ⟨⟨analyzer, entry, entries _ entry⟩, ⟨settings, option, options _ option⟩,
    config, table, tables _ table⟩

/-- A weight and a smoothing that are no numbers are accepted, and are not above zero. -/
theorem not_positive_nan :
    (¬ ∀ entry analyzer, AnalyzerConfig.ofEntry? entry = .ok analyzer →
        (whole 0).lt analyzer.weight = true)
      ∧ ¬ ∀ options settings, Bayes.Settings.ofOptions? options = .ok settings →
        (whole 0).lt settings.smoothing = true := by
  -- What is no number is not at most zero, and the tests ask for this.
  constructor
  · intro h
    have positive := h (.table [("name", .text "a"), ("weight", .text "nan")]) _ rfl
    rw [not_lt_of_isNaN ⟨_, rfl, by decide +kernel⟩] at positive
    cases positive
  · intro h
    have positive := h [("alpha", .text "nan")] _ rfl
    rw [not_lt_of_isNaN ⟨_, rfl, by decide +kernel⟩] at positive
    cases positive

end Config

end Moderation
