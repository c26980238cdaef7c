import Moderation.Tokenizer.Basic
import Moderation.Value.Conversion

/-!
# `Moderation.Tokenizer.Fields`: settings as they are given

The settings of a tokenizer may be given by name, each as any value. A switch is on if its value
counts as given, and a bound has to be a number. A tokenizer that nobody has checked notices a
bound that is none when it holds the first word against it, and not before.

* `Fields.ofTable?` reads the fields of a table, `Fields.settings?` makes settings of fields.
* `Fields.tokenize?` makes the tokens of a text with fields that nobody has checked; by
  `tokenize?_text` they are those of the settings if there are settings.
-/

set_option autoImplicit false

namespace Moderation.Tokenizer

/-- Settings as they are given. -/
structure Fields where
  minLength : Value := .int 2
  maxLength : Value := .int 50
  dropLinks : Value := .switch true
  dropMentions : Value := .switch true
  dropNumbers : Value := .switch false
  pairs : Value := .switch false
  stopwords : List String := defaultStopwords

namespace Fields

/-- The names of the fields in a table. -/
def names : List String := [
  "min_token_length", "max_token_length", "remove_urls", "remove_mentions", "remove_numbers",
  "use_bigrams", "stopwords"]

/-- Words without meaning as a value lists them. What is no text is never met. -/
def readStopwords (value : Value) : Except Error (List String) := do
  let words ← (← value.elements).mapM Value.toName
  return words.filterMap fun word => word.toText.toOption

/-- The fields that a table gives. -/
def ofTable? (table : Entries Value) : Except Error Fields := do
  table.restrictTo names
  let base : Fields := {}
  return { minLength := table.getOr "min_token_length" base.minLength
           maxLength := table.getOr "max_token_length" base.maxLength
           dropLinks := table.getOr "remove_urls" base.dropLinks
           dropMentions := table.getOr "remove_mentions" base.dropMentions
           dropNumbers := table.getOr "remove_numbers" base.dropNumbers
           pairs := table.getOr "use_bigrams" base.pairs
           stopwords := ← table.readOr "stopwords" base.stopwords readStopwords }

/-- The fields in a value, which is a table. -/
def ofValue? : Value → Except Error Fields
  | .table entries => ofTable? entries
  | _ => .error .wrongKind

/-- The settings with the given bounds. -/
def within (fields : Fields) (least greatest : Number) : Settings where
  minLength := least
  maxLength := greatest
  dropLinks := fields.dropLinks.isSet
  dropMentions := fields.dropMentions.isSet
  dropNumbers := fields.dropNumbers.isSet
  pairs := fields.pairs.isSet
  stopwords := fields.stopwords

/-- The settings of fields whose bounds are numbers. -/
def settings? (fields : Fields) : Except Error Settings := do
  return fields.within (← fields.minLength.toNumber) (← fields.maxLength.toNumber)

/-- Whether some word of a text has `least` characters or more. -/
def reaches (fields : Fields) (least : Number) (text : String) : Bool :=
  (wordsIn (fields.within least least) text).any fun word => least.le (.whole word.length)

/-- The tokens of a text. -/
def tokenize? (fields : Fields) (text : Value) : Except Error (List String) := do
  let text ← text.toTextIfSet
  if !fields.reaches (.whole 0) text then return []
  let least ← fields.minLength.toNumber
  if !fields.reaches least text then return []
  return tokenize (fields.within least (← fields.maxLength.toNumber)) text

/-- A text without words has none of any length. -/
theorem reaches_eq_false (fields : Fields) (least : Number) (text : String)
    (h : fields.reaches (.whole 0) text = false) : fields.reaches least text = false := by
  rw [reaches, List.any_eq_false] at h ⊢
  intro word member
  exact absurd (by simp [Number.le_whole]) (h word member)

/-- Without a word that is long enough there are no tokens. -/
theorem tokenize_within (fields : Fields) (least greatest : Number) (text : String)
    (h : fields.reaches least text = false) :
    tokenize (fields.within least greatest) text = [] := by
  have kept : keptWords (fields.within least greatest) text = [] := by
    rw [keptWords, List.filter_eq_nil_iff]
    intro word member counts
    rw [reaches, List.any_eq_false] at h
    rw [keeps, Bool.and_eq_true, Bool.and_eq_true] at counts
    exact h word member counts.1.1
  simp [tokenize, kept, neighbours]

/-- Where both bounds are numbers, the tokens are those of the settings. -/
theorem tokenize?_text (fields : Fields) (settings : Settings) (text : String)
    (h : fields.settings? = .ok settings) :
    fields.tokenize? (.text text) = .ok (tokenize settings text) := by
  cases hl : fields.minLength.toNumber with
  | error e => simp [settings?, hl, bind, Except.bind] at h
  | ok least =>
    cases hg : fields.maxLength.toNumber with
    | error e => simp [settings?, hl, hg, bind, Except.bind] at h
    | ok greatest =>
      have same : settings = fields.within least greatest := by
        simpa [settings?, hl, hg, bind, Except.bind, pure, Except.pure, eq_comm] using h
      subst same
      have given : (Value.text text).toTextIfSet = .ok text := by
        by_cases blank : text = ""
        · simp [Value.toTextIfSet, Value.isSet, blank]
        · simp [Value.toTextIfSet, Value.isSet, Value.toText, blank]
      simp only [tokenize?, given, hl, hg, bind, Except.bind]
      -- The bounds are compared with words only, so without words they are never looked at.
      cases any : fields.reaches (.whole 0) text with
      | false =>
        have none := tokenize_within fields least greatest text
          (reaches_eq_false fields least text any)
        simp [none, pure, Except.pure]
      | true =>
        cases long : fields.reaches least text with
        | false => simp [tokenize_within fields least greatest text long, pure, Except.pure]
        | true => simp [pure, Except.pure]
end Fields

end Moderation.Tokenizer
