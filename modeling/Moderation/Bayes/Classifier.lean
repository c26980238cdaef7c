import Moderation.Bayes.Training
import Moderation.Store.Basic
import Moderation.Strategy
import Moderation.Tokenizer.Basic

/-!
# `Moderation.Bayes.Classifier`: the Bayes strategy

A Bayes classifier tokenizes a text and learns, forgets or weighs its tokens within its scope of
a store. A classification reads the counters in three round trips and changes none.

* `Classifier.train`, `untrain`, `reset` and `classify` are programs over a store.
* `Classifier.strategy` is the strategy that runs them on a given store.
-/

set_option autoImplicit false

namespace Moderation.Bayes

open Store Tokenizer

/-- A Bayes classifier: the analyzer that it serves, its settings and its scope in the store. -/
structure Classifier (α : Type) where
  name : String
  settings : Settings α
  scope : String

namespace Classifier

variable {α : Type}

/-- The tokens of a text; what counts as not given has none. -/
def tokens (classifier : Classifier α) (text : Value) : Except Error (List String) :=
  tokenize classifier.settings.tokenizer <$> text.toTextIfSet

/-- Whether a category is one of the classifier's. -/
def knows (classifier : Classifier α) (category : Value) : Bool :=
  category.isAmong classifier.settings.categories

/-! ### Learning -/

/-- Carries out `change` on the token counts of a text, unless there are none, in a category
that the classifier knows. -/
def teach (classifier : Classifier α) (category text : Value)
    (change : (scope category : String) → Entries Nat → Program Unit) : Program Unit :=
  if classifier.knows category then do
    let counts := frequencies (← Program.ofExcept (classifier.tokens text))
    if counts.isEmpty then pure () else change classifier.scope category.display counts
  else
    throw (.invalid (.unknownCategory category classifier.name classifier.settings.categories))

/-- Learns a text as an example of a category. -/
def train (classifier : Classifier α) (category text : Value) : Program Unit :=
  classifier.teach category text learn

/-- Forgets a text as an example of a category. -/
def untrain (classifier : Classifier α) (category text : Value) : Program Unit :=
  classifier.teach category text forget

/-- Forgets everything. -/
def reset (classifier : Classifier α) : Program Unit := Bayes.reset classifier.scope

/-! ### Reading the counters -/

/-- The standings of the categories, in their order. -/
def standings (classifier : Classifier α) : Program (List Standing) := do
  let keys (category : Value) : String × String :=
    ((Counter.messages category.display).key classifier.scope,
      (Counter.tokens category.display).key classifier.scope)
  let categories := classifier.settings.categories
  let reply ← Program.getMany (categories.flatMap fun c => [(keys c).1, (keys c).2])
  return categories.map fun c =>
    Standing.clamped (replied reply (keys c).1) (replied reply (keys c).2)

/-- How often each category holds each of some tokens; nothing below zero. -/
def tokenCounts (classifier : Classifier α) (tokens : List String) :
    Program (String → String → Int) := do
  let categories := classifier.settings.categories
  let reply ← Program.getMany (tokens.flatMap fun token =>
    categories.map fun c => (Counter.count c.display token).key classifier.scope)
  return fun category token =>
    max 0 (replied reply ((Counter.count category token).key classifier.scope))

/-- The size of the vocabulary, zero if the store has none. -/
def vocabularySize (classifier : Classifier α) : Program Int := do
  return (← Program.get (Counter.vocabularySize.key classifier.scope)).getD 0

/-- What the classifier has learned. -/
def survey (classifier : Classifier α) : Program ModelStats := do
  let standings ← classifier.standings
  let vocabularySize ← classifier.vocabularySize
  return { analyzer := classifier.name
           categories := classifier.settings.categories.zip (standings.map Standing.stats)
           vocabularySize := .int vocabularySize }

/-- What the classifier has learned of some tokens. -/
def tokenStats (classifier : Classifier α) (tokens : List String) : Program (List TokenStats) := do
  let count ← classifier.tokenCounts tokens
  return tokens.map fun token =>
    { token
      counts := classifier.settings.categories.filterMap fun c =>
        let n := count c.display token
        if 0 < n then some (c, .whole n) else none }

/-! ### Classification -/

/-- The first `limit` tokens of a text; a limit below zero leaves out as many at the end. -/
def cut (limit : Int) (tokens : List String) : List String :=
  if 0 ≤ limit then tokens.take limit.toNat else tokens.take (tokens.length - limit.natAbs)

/-- The tokens of a text that are looked at, if the text has more than `limit` of them. -/
def limited (limit : Value) (tokens : List String) : Except Error (List String) := do
  let limit ← limit.toNumber
  if limit.lt (.whole tokens.length) then
    match limit.int? with
    | some n => return cut n tokens
    | none => throw .wrongKind
  else return tokens

/-- The share of each category in a text; none if the text has no tokens or no text has been
learned. -/
def classify [Arithmetic α] (classifier : Classifier α) (text : Value) :
    Program (Scores α) := do
  let tokens ← Program.ofExcept (classifier.tokens text)
  if tokens.isEmpty then return []
  let frequencies := frequencies
    (← Program.ofExcept (limited classifier.settings.maxTokens tokens))
  let standings ← classifier.standings
  if standings.all (·.messages = 0) then return []
  let count ← classifier.tokenCounts frequencies.keys
  let vocabularySize := max 1 (← classifier.vocabularySize)
  let categories := classifier.settings.categories
  let shares ← Program.ofArithmetic (posterior classifier.settings
    { standings := (categories.map Value.display).zip standings
      frequencies
      count
      vocabularySize })
  return categories.zip shares

/-! ### The strategy -/

/-- The scope that parameters name, or that of the analyzer. -/
def scopeOf (analyzer : String) (params : Entries Value) : String :=
  match params.get? "prefix" with
  | some value => if value.isSet then value.display else defaultScope analyzer
  | none => defaultScope analyzer

/-- The classifier of an analyzer with the given options and parameters. Its categories are shown
when it is made. -/
def ofOptions? (analyzer : String) (options params : Entries Value) :
    Except Error (Classifier Number) := do
  let settings ← Settings.ofOptions? options
  Value.requireShowable settings.categories
  return { name := analyzer, settings, scope := scopeOf analyzer params }

/-- The strategy that keeps what the classifier learns in a store. -/
def strategy {σ : Type} [Arithmetic α] (classifier : Classifier α) (store : Store σ) :
    Strategy σ α where
  name := classifier.name
  categories := classifier.settings.categories
  train category text := (classifier.train category text).run store.answer
  untrain category text := (classifier.untrain category text).run store.answer
  classify text := (classifier.classify text).run store.answer
  survey := classifier.survey.run store.answer
  content := some store.content
  reset := classifier.reset.run store.answer
  close := store.close

end Classifier

end Moderation.Bayes
