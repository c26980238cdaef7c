import Moderation.Bayes.Posterior
import Moderation.Value.Conversion

/-!
# `Moderation.Bayes.Statistics`: what a classifier has learned

The statistics of a model are what its categories have learned and the size of its vocabulary.
The statistics of a token are its counts, category by category. The counters are whole numbers,
but statistics can be drawn up from any numbers.
-/

set_option autoImplicit false

namespace Moderation.Bayes

/-- What a category has learned, in texts and in tokens. -/
structure CategoryStats where
  messages : Number
  tokens : Number

/-- A number that is not below zero. -/
def atLeastZero (n : Number) : Number := if n.lt (.whole 0) then .whole 0 else n

/-- The statistics of a category, no number of which is below zero. -/
def CategoryStats.clamped (messages tokens : Number) : CategoryStats :=
  ⟨atLeastZero messages, atLeastZero tokens⟩

/-- The statistics of a standing. -/
def Standing.stats (standing : Standing) : CategoryStats :=
  ⟨.whole standing.messages, .whole standing.tokens⟩

/-- What a classifier has learned. -/
structure ModelStats where
  analyzer : Option String
  categories : Value.Map CategoryStats
  vocabularySize : Value

namespace ModelStats

/-- The number of texts learned. -/
def totalMessages (stats : ModelStats) : Except ArithmeticFault Number :=
  Arithmetic.sum (stats.categories.map (·.2.messages))

/-- Whether a text has been learned. -/
def hasTrainingData (stats : ModelStats) : Except ArithmeticFault Bool := do
  return (Number.whole 0).lt (← stats.totalMessages)

/-- The share of a category in the texts learned, zero if there are none. -/
def ratio (stats : ModelStats) (category : Value) : Except Error Number := do
  let total ← stats.totalMessages.mapError Error.ofArithmetic
  if total.isZero then return .binary 0
  match stats.categories.get? (← category.toName) with
  | none => return .binary 0
  | some learned => (learned.messages.div total).mapError Error.ofArithmetic

end ModelStats

/-- How often a token has been learned in each category that holds it. -/
structure TokenStats where
  token : String
  counts : Value.Map Number

namespace TokenStats

/-- How often the token has been learned. -/
def total (stats : TokenStats) : Except ArithmeticFault Number :=
  Arithmetic.sum (stats.counts.map (·.2))

/-- How often the token has been learned in a category. -/
def countFor (stats : TokenStats) (category : Value) : Except Error Number := do
  return (stats.counts.get? (← category.toName)).getD (.whole 0)

end TokenStats

end Moderation.Bayes
