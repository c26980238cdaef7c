import Moderation.Rehearsal.Stage
import Moderation.Registry.Standard

/-!
# `Moderation.Rehearsal.Stub`: strategies that follow a script

A scripted strategy records what it is taught and always finds the scores of its script. A
broken one is never reached.

* `factories` opens the stores and makes the strategies of a rehearsal.
-/

set_option autoImplicit false

namespace Moderation.Rehearsal

/-- What a scripted strategy does. -/
structure Script where
  categories : List Value
  /-- The scores of every text. -/
  scores : Value.Map Value
  broken : Bool

/-- The script that options describe. -/
def Script.ofOptions? (options : Entries Value) : Except Error Script := do
  let categories ← options.readOr "categories" Bayes.defaultCategories Value.elements
  let scores ← options.readOr "scores" [] Value.toMap
  let broken := (options.get? "broken").any Value.isSet
  return { categories, scores, broken }

/-- The strategy that follows a script for an analyzer. -/
def stub (analyzer : String) (store : Store Stage) (script : Script) : Strategy Stage Number where
  name := analyzer
  categories := script.categories
  train := teach "train"
  untrain := teach "untrain"
  classify _ := do
    reach
    Act.ofExcept (script.scores.mapM fun (category, score) => do
      return (category, ← score.toNumber))
  survey := throw .lacking
  content := none
  reset := modify fun stage =>
    { stage with lessons := stage.lessons.filter (·.1 != store.id) }
  close := pure ()
where
  /-- Fails if the strategy is broken. -/
  reach : Act Stage Unit := do
    if script.broken then throw (outage s!"store of {analyzer} is down")
  /-- Records what is taught. -/
  teach (operation : String) (category text : Value) : Act Stage Unit := do
    reach
    modify fun stage =>
      { stage with lessons := stage.lessons ++ [(store.id, { operation, category, text })] }

/-- The stores and strategies of a rehearsal. -/
def factories : Registry.Factories Stage Number where
  stores := [("memory", Store.Memory.openWith), ("flaky", openFlaky)]
  strategies := [
    ("bayes", Registry.makeBayes),
    ("stub", fun analyzer store options _ => do
      return stub analyzer store (← Script.ofOptions? options))]

end Moderation.Rehearsal
