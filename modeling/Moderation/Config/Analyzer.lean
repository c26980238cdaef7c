import Moderation.Text.Blank
import Moderation.Value.Conversion

/-!
# `Moderation.Config.Analyzer`: the configuration of one analyzer

An analyzer has a name, a strategy of classification and a store. Its weight says how much its
opinion counts beside those of others, and is positive.

* `AnalyzerConfig.ofFields?` checks and normalizes the parts, in a fixed order.
* `AnalyzerConfig.ofEntry?` reads an entry of the list of analyzers.
-/

set_option autoImplicit false

namespace Moderation

/-- The configuration of an analyzer. Strategy and adapter are in lower case. -/
structure AnalyzerConfig where
  name : String
  strategy : String
  adapter : String
  /-- How to reach the store. -/
  params : Value.Map Value
  weight : Number
  /-- The settings of the strategy. -/
  options : Value.Map Value

namespace AnalyzerConfig

/-- The parts of an analyzer as they are given. -/
structure Fields where
  name : Value
  strategy : Value := .text "bayes"
  adapter : Value := .text "memory"
  params : Value := .table []
  weight : Value := .number (.binary 1)
  options : Value := .table []

/-- The parts that a table gives by name. -/
def Fields.ofTable? (table : Entries Value) : Except Error Fields := do
  table.restrictTo ["name", "strategy", "adapter", "params", "weight", "strategyOptions"]
  let some name := table.get? "name" | throw .wrongKind
  let base : Fields := { name }
  return { name
           strategy := table.getOr "strategy" base.strategy
           adapter := table.getOr "adapter" base.adapter
           params := table.getOr "params" base.params
           weight := table.getOr "weight" base.weight
           options := table.getOr "strategyOptions" base.options }

/-- Reads a name, which has a character that is no blank. -/
def readName (name : Value) : Except Error String := do
  if !name.isSet then throw (.configuration .blankAnalyzerName)
  let text ← name.toDisplay
  if Text.isAllBlank text then throw (.configuration .blankAnalyzerName)
  return text

/-- The analyzer with the given parts. -/
def ofFields? (fields : Fields) : Except Error AnalyzerConfig := do
  let name ← readName fields.name
  if !fields.strategy.isSet then throw (.configuration (.missingStrategy fields.name))
  if !fields.adapter.isSet then throw (.configuration (.missingAdapter fields.name))
  let weight ← fields.weight.toNumber
  if weight.le (.whole 0) then throw (.configuration (.weightNotPositive fields.name weight))
  return { name
           strategy := ← fields.strategy.toLowered
           adapter := ← fields.adapter.toLowered
           params := ← fields.params.toMap
           weight
           options := ← fields.options.toMap }

/-- Reads the weight of the analyzer `name`. -/
def readWeight (name weight : Value) : Except Error Float :=
  match weight.toReal with
  | .ok x => .ok x
  | .error e => do
    if !e.isMismatch then throw e
    Value.requireShowable [name]
    throw (.configuration (.malformedWeight name e.message))

/-- The analyzer of an entry of the list of analyzers. -/
def ofEntry? (entry : Value) : Except Error AnalyzerConfig := do
  if !(← entry.finds "name") then
    Value.requireShowable [entry]
    throw (.configuration (.namelessAnalyzer entry))
  let table ← entry.asTable
  let name := (table.get? "name").getD .null
  let weight ← readWeight name ((table.get? "weight").getD (.number (.binary 1)))
  let store ← ((table.get? "options").getD (.table [])).asTable
  ofFields?
    { name
      strategy := (table.get? "strategy").getD (.text "bayes")
      adapter := (store.get? "adapter").getD (.text "memory")
      params := (store.get? "params").getD (.table [])
      weight := .float weight
      options := (table.get? "strategy-options").getD (.table []) }

end AnalyzerConfig

end Moderation
