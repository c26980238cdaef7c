import Moderation.Registry.Deployment

/-!
# `Moderation.Service.Training`: teaching all analyzers

A text is taught to every analyzer. First all strategies are resolved, then it is made sure that
each of them knows the category, and only then the text is taught. An analyzer whose store is
unavailable is reported as failed; if all have failed, so has the training.

* `teach` gives the report of a training: every analyzer has succeeded or failed, and not both.
-/

set_option autoImplicit false

namespace Moderation.Service

variable {σ α : Type}

/-- Whether a text is learned or forgotten. -/
inductive Operation where
  | train
  | untrain
  deriving DecidableEq, Repr

/-- The name of an operation. -/
def Operation.name : Operation → String
  | train => "train"
  | untrain => "untrain"

/-- What a strategy does. -/
def Operation.apply (operation : Operation) (strategy : Strategy σ α) (category text : Value) :
    Act σ Unit :=
  match operation with
  | train => strategy.train category text
  | untrain => strategy.untrain category text

/-- What has come of a training: the analyzers that were taught, and why others were not. -/
structure Report where
  operation : Operation
  category : Value
  succeeded : List String
  failed : Entries String

namespace Report

/-- Whether no analyzer has failed. -/
def isComplete (report : Report) : Bool := report.failed.isEmpty

/-- The analyzers that have failed. -/
def failedAnalyzers (report : Report) : List String := report.failed.keys

end Report

/-- The outcome of an action that may find its store unavailable: its result, or what is said
about the outage. Other errors remain errors. -/
def reachable {β : Type} (act : Act (Deployment σ α) β) :
    Act (Deployment σ α) (Except String β) := do
  match ← act.attempt with
  | .ok x => return .ok x
  | .error (.storeUnavailable outage) => return .error outage.message
  | .error e => throw e

/-- The strategies of some analyzers, and why others cannot be reached. -/
def resolveAll (factories : Registry.Factories σ α) :
    List String → Act (Deployment σ α) (List (String × Instance σ α) × Entries String)
  | [] => pure ([], [])
  | name :: names => do
    let outcome ← reachable (Deployment.resolve factories name)
    let (resolved, failed) ← resolveAll factories names
    match outcome with
    | .ok inst => return ((name, inst) :: resolved, failed)
    | .error reason => return (resolved, (name, reason) :: failed)

/-- Teaches strategies one after the other, and gives those that succeeded and why others
failed. -/
def teachEach (operation : Operation) (category text : Value) :
    List (String × Instance σ α) → Act (Deployment σ α) (List String × Entries String)
  | [] => pure ([], [])
  | (name, inst) :: rest => do
    let outcome ← reachable (Deployment.onStores (operation.apply inst.strategy category text))
    let (succeeded, failed) ← teachEach operation category text rest
    match outcome with
    | .ok _ => return (name :: succeeded, failed)
    | .error reason => return (succeeded, (name, reason) :: failed)

/-- The analyzers whose strategies do not know a category. -/
def rejecting (category : Value) (resolved : List (String × Instance σ α)) : List String :=
  (resolved.filter fun entry => !category.isAmong entry.2.strategy.categories).map (·.1)

/-- Teaches a text in a category to all analyzers. Whatever comes of it, the category is shown. -/
def teach (factories : Registry.Factories σ α) (operation : Operation) (category text : Value) :
    Act (Deployment σ α) Report := do
  let (resolved, unreached) ← resolveAll factories (← get).registry.names
  Act.ofExcept (Value.requireShowable [category])
  let rejecting := rejecting category resolved
  if !rejecting.isEmpty then throw (.invalid (.foreignCategory category rejecting))
  let (succeeded, interrupted) ← teachEach operation category text resolved
  let failed := unreached ++ interrupted
  if !failed.isEmpty && succeeded.isEmpty then
    throw (.allAnalyzersFailed operation.name failed)
  return { operation, category, succeeded, failed }

end Moderation.Service
