import Moderation.Tokenizer.Fields

/-!
# `Moderation.Bayes.Settings`: the settings of a Bayes classifier

A Bayes classifier has two or more categories, all different, and a positive smoothing that
keeps a token unseen in a category from ruling the category out. The settings come from a table
of options, and are checked in a fixed order, so of two faults the first one is reported.

* `Fields.ofOptions?` reads options, `Fields.ofTable?` takes fields as they are.
* `Settings.ofFields?` checks fields.
-/

set_option autoImplicit false

namespace Moderation.Bayes

/-- The categories of a classifier that is told of none. -/
def defaultCategories : List Value := [.text "spam", .text "ham"]

/-- The settings of a Bayes classifier. -/
structure Settings (α : Type) where
  /-- What is added to each counter of a token. -/
  smoothing : α
  categories : List Value
  /-- Tokens that occur less often than this are not counted. -/
  minTokenCount : α
  /-- How many tokens of a text are looked at. A number that is not whole never cuts a text, and
  what is no number is not noticed before a text has tokens. -/
  maxTokens : Value
  tokenizer : Tokenizer.Settings

/-- The settings of a classifier that is told of none. -/
def defaultSettings : Settings Number where
  smoothing := .binary 1
  categories := defaultCategories
  minTokenCount := .whole 0
  maxTokens := .int 2000
  tokenizer := {}

/-! ### Checks -/

section Check

variable {α : Type} [Arithmetic α]

/-- The smoothing is above zero. -/
def checkSmoothing (smoothing : α) : Except Error Unit :=
  if Arithmetic.atMost smoothing (Arithmetic.ofInt 0) then .error (.invalid .smoothingNotPositive)
  else .ok ()

/-- Whether some category occurs twice. -/
def hasRepeated : List Value → Bool
  | [] => false
  | category :: rest => category.isAmong rest || hasRepeated rest

/-- There are two or more categories, all different. -/
def checkCategories (categories : List Value) : Except Error Unit :=
  if categories.length < 2 then .error (.invalid .tooFewCategories)
  else if !categories.all Value.isName then .error .wrongKind
  else if hasRepeated categories then do
    Value.requireShowable categories
    throw (.invalid (.repeatedCategories categories))
  else .ok ()

/-- The least count of a token is not below zero. -/
def checkMinTokenCount (count : α) : Except Error Unit :=
  if Arithmetic.less count (Arithmetic.ofInt 0) then .error (.invalid .negativeMinTokenCount)
  else .ok ()

/-- The settings of the tokenizer have no faults. -/
def checkTokenizer (settings : Tokenizer.Settings) : Except Error Unit :=
  match settings.faults with
  | [] => .ok ()
  | faults => .error (.invalid (.tokenizer faults))

end Check

/-! ### Reading -/

/-- Settings as they are given. -/
structure Fields where
  smoothing : Value := .float 1
  categories : Value := .list defaultCategories
  minTokenCount : Value := .int 0
  maxTokens : Value := .int 2000
  tokenizer : Tokenizer.Fields := {}

/-- The fields that a table gives by name. -/
def Fields.ofTable? (table : Entries Value) : Except Error Fields := do
  let base : Fields := {}
  let tokenizer ← table.readOr "tokenizer" base.tokenizer Tokenizer.Fields.ofValue?
  table.restrictTo ["alpha", "categories", "minTokenCount", "maxTokensPerMessage", "tokenizer"]
  return { smoothing := table.getOr "alpha" base.smoothing
           categories := table.getOr "categories" base.categories
           minTokenCount := table.getOr "minTokenCount" base.minTokenCount
           maxTokens := table.getOr "maxTokensPerMessage" base.maxTokens
           tokenizer }

/-- The options that are looked for first. -/
def Fields.leadingOptions : List String := ["min-token-length", "use-bigrams"]

/-- The fields that options give. -/
def Fields.ofOptions? (options : Entries Value) : Except Error Fields := do
  let minLength ← options.readOr "min-token-length" 2 Value.toWhole
  let pairs ← options.readOr "use-bigrams" false fun value => .ok value.isSet
  let smoothing ← options.readOr "alpha" 1 Value.toReal
  let categories ← options.readOr "categories" defaultCategories Value.elements
  let minTokenCount ← options.readOr "min-token-count" 0 Value.toWhole
  let maxTokens ← options.readOr "max-tokens-per-message" 2000 Value.toWhole
  return { smoothing := .float smoothing
           categories := .list categories
           minTokenCount := .int minTokenCount
           maxTokens := .int maxTokens
           tokenizer := { minLength := .int minLength, pairs := .switch pairs } }

/-- The settings that fields give. -/
def Settings.ofFields? (fields : Fields) : Except Error (Settings Number) := do
  let smoothing ← fields.smoothing.toNumber
  checkSmoothing smoothing
  let categories ← fields.categories.elements
  checkCategories categories
  let minTokenCount ← fields.minTokenCount.toNumber
  checkMinTokenCount minTokenCount
  let tokenizer ← fields.tokenizer.settings?
  checkTokenizer tokenizer
  return { smoothing, categories, minTokenCount, maxTokens := fields.maxTokens, tokenizer }

/-- The settings of a table of options. -/
def Settings.ofOptions? (options : Entries Value) : Except Error (Settings Number) := do
  Settings.ofFields? (← Fields.ofOptions? options)

end Moderation.Bayes
