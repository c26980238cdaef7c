import Moderation.Dialogue
import Moderation.Registry.Basic

/-!
# `Moderation.Registry.Resolve`: building strategies when they are needed

The strategy of an analyzer is built on first use: first its store is opened, then the strategy
is made from the options. Many may ask for it at once, so whoever builds holds the lock of the
name, and looks again once the lock is held. A construction that fails leaves nothing behind: a
store whose strategy cannot be made is closed again.

* `resolve` and `closeAll` are programs whose steps say where they may have to wait.
* `Step.waits` tells the steps at which others may come in between.
-/

set_option autoImplicit false

namespace Moderation.Registry

variable {σ α : Type}

/-- How stores are opened, by the name of the adapter, and strategies made, by their name. -/
structure Factories (σ α : Type) where
  stores : List (String × ((params : Value.Map Value) → Act σ (Store σ)))
  strategies : List (String × ((analyzer : String) → Store σ → (options params : Entries Value) →
    Except Error (Strategy σ α)))

/-- A step of a program over the registry. -/
inductive Step (σ α : Type) where
  /-- Looks at the registry. -/
  | look
  /-- Takes a strategy into use. -/
  | adopt (config : AnalyzerConfig) (store : Store σ) (strategy : Strategy σ α)
  /-- Takes all strategies out of use. -/
  | reset
  | lock (name : String)
  | unlock (name : String)
  /-- Opens a store. -/
  | openStore (factory : Act σ (Store σ))
  /-- Closes a store or what a strategy has open. -/
  | close (closing : Act σ Unit)

/-- What a step answers. Opening and closing may fail. -/
abbrev Step.Answer : Step σ α → Type
  | look => Registry σ α
  | adopt .. => Instance σ α
  | reset => Unit
  | lock _ => Unit
  | unlock _ => Unit
  | openStore _ => Except Error (Store σ)
  | close _ => Except Error Unit

/-- Whether others may come in between before a step is answered. -/
def Step.waits : Step σ α → Bool
  | lock _ | openStore _ | close _ => true
  | look | adopt .. | reset | unlock _ => false

/-- A computation over the registry, which may fail. -/
abbrev Program (σ α β : Type) := ExceptT Error (Dialogue (Step σ α) Step.Answer) β

namespace Program

variable {β : Type}

/-- Takes one step. -/
def step (s : Step σ α) : Program σ α s.Answer := ExceptT.lift (Dialogue.question s)

/-- Looks at the registry. -/
def look : Program σ α (Registry σ α) := step (Step.look (σ := σ) (α := α))

/-- Gives a result that is known, or fails at once. -/
def ofExcept (result : Except Error β) : Program σ α β := ExceptT.mk (pure result)

/-- Opens a store. -/
def openStore (factory : Act σ (Store σ)) : Program σ α (Store σ) := do
  ofExcept (← step (Step.openStore (α := α) factory))

/-- Holds the lock of a name during a program, whether it succeeds or fails. -/
def exclusively (name : String) (program : Program σ α β) : Program σ α β :=
  ExceptT.mk do
    let _ ← Dialogue.question (Step.lock (σ := σ) (α := α) name)
    let result ← program.run
    let _ ← Dialogue.question (Step.unlock (σ := σ) (α := α) name)
    return result

end Program

/-! ### Resolving -/

/-- Builds a strategy from a configuration and takes it into use. -/
def construct (factories : Factories σ α) (config : AnalyzerConfig) :
    Program σ α (Instance σ α) := do
  let some makeStrategy := factories.strategies.lookup config.strategy
    | throw (.configuration (.unknownStrategy config.strategy config.name))
  let some openStore := factories.stores.lookup config.adapter
    | throw (.configuration (.unknownAdapter config.adapter config.name))
  let store ← Program.openStore (openStore config.params)
  match makeStrategy config.name store config.options.named config.params.named with
  | .ok strategy => Program.step (Step.adopt config store strategy)
  | .error (.invalid fault) =>
    Program.ofExcept (← Program.step (Step.close (α := α) store.close))
    throw (.configuration (.invalidOptions config.name fault))
  | .error e => throw e

/-- The strategy in use for an analyzer, which is built if there is none. -/
def resolve (factories : Factories σ α) (name : String) : Program σ α (Instance σ α) := do
  let registry ← Program.look
  let config ← Program.ofExcept (registry.config? name)
  match registry.instances.get? name with
  | some inst => return inst
  | none =>
    Program.exclusively name do
      match (← Program.look).instances.get? name with
      | some inst => return inst
      | none => construct factories config

/-! ### Closing -/

/-- Closes what strategies have open, one after the other. That a store cannot be reached any
more does not matter. -/
def closeEach : List (Instance σ α) → Program σ α Unit
  | [] => pure ()
  | inst :: rest => do
    match ← Program.step (Step.close (α := α) inst.strategy.close) with
    | .ok _ => closeEach rest
    | .error (.storeUnavailable _) => closeEach rest
    | .error e => throw e

/-- Closes what the strategies in use have open, and takes them out of use. -/
def closeAll : Program σ α Unit := do
  let registry ← Program.look
  closeEach (registry.instances.map (·.2))
  let _ ← Program.step (Step.reset (σ := σ) (α := α))

end Moderation.Registry
