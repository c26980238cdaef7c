import Moderation.Config.Basic
import Moderation.Store.Basic
import Moderation.Strategy

/-!
# `Moderation.Registry.Basic`: analyzers and the strategies in use

The registry knows the configurations of analyzers by name and keeps the strategies that have
been built for them. A strategy in use was built from one configuration and keeps its store, so
the configuration cannot be replaced as long as the strategy is kept.

* `register`, `adopt` and `reset` change the registry at once, without waiting for anything.
-/

set_option autoImplicit false

namespace Moderation

/-- A strategy in use: the configuration and the store that it was built from. -/
structure Instance (σ α : Type) where
  /-- The number of instances that were built before it. -/
  serial : Nat
  config : AnalyzerConfig
  store : Store σ
  strategy : Strategy σ α

/-- The analyzers by name, and their strategies in use. -/
structure Registry (σ α : Type) where
  configs : Entries AnalyzerConfig
  instances : Entries (Instance σ α)
  /-- The number of instances that have been built. -/
  built : Nat

namespace Registry

variable {σ α : Type}

/-- A registry without analyzers. -/
def empty : Registry σ α := ⟨[], [], 0⟩

/-- The names of the analyzers, in the order of their registration. -/
def names (registry : Registry σ α) : List String := registry.configs.keys

/-- The name that a value gives; only texts name analyzers. -/
def nameOf (name : Value) : Except Error String := do
  match ← name.toName with
  | .text name => return name
  | name => throw (.unknownAnalyzer name)

/-- The configuration of an analyzer. -/
def config? (registry : Registry σ α) (name : String) : Except Error AnalyzerConfig :=
  match registry.configs.get? name with
  | some config => .ok config
  | none => .error (.unknownAnalyzer (.text name))

/-- Whether a strategy is in use for an analyzer. -/
def isResolved (registry : Registry σ α) (name : String) : Bool := registry.instances.has name

/-- Registers an analyzer. A configuration whose strategy is in use cannot be replaced. -/
def register (config : AnalyzerConfig) (registry : Registry σ α) :
    Except Error (Registry σ α) :=
  if registry.isResolved config.name then .error (.configuration (.analyzerInUse config.name))
  else .ok { registry with configs := registry.configs.set config.name config }

/-- The registry of some analyzers. -/
def ofConfigs (configs : List AnalyzerConfig) : Except Error (Registry σ α) :=
  configs.foldlM (fun registry config => register config registry) empty

/-- Takes a strategy into use. -/
def adopt (config : AnalyzerConfig) (store : Store σ) (strategy : Strategy σ α)
    (registry : Registry σ α) : Instance σ α × Registry σ α :=
  let inst : Instance σ α := ⟨registry.built, config, store, strategy⟩
  (inst, { registry with
    instances := registry.instances.set config.name inst
    built := registry.built + 1 })

/-- Takes all strategies out of use. The analyzers stay registered. -/
def reset (registry : Registry σ α) : Registry σ α := { registry with instances := [] }

end Registry

end Moderation
