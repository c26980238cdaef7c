import Moderation.Act
import Moderation.Bayes.Statistics

/-!
# `Moderation.Strategy`: strategies of classification

A strategy learns texts as examples of a category and scores new texts against the categories
that it knows. What it has learned is kept in a store, so a strategy is given by what it does to
a state `σ` that holds the contents of all stores. Its scores are numbers `α`.
-/

set_option autoImplicit false

namespace Moderation

/-- What a strategy finds in a text: the score of each category. No scores mean no evidence. -/
abbrev Scores (α : Type) := Value.Map α

/-- A strategy over the state `σ` with scores `α`. -/
structure Strategy (σ α : Type) where
  /-- The analyzer that the strategy serves. -/
  name : String
  /-- The categories that can be learned. -/
  categories : List Value
  train : (category text : Value) → Act σ Unit
  untrain : (category text : Value) → Act σ Unit
  classify : (text : Value) → Act σ (Scores α)
  /-- What has been learned; a strategy without counters has no such operation. -/
  survey : Act σ Bayes.ModelStats
  /-- The counters, if there are any. -/
  content : Option (σ → Entries Int)
  reset : Act σ Unit
  close : Act σ Unit

end Moderation
