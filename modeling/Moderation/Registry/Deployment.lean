import Moderation.Registry.Resolve

/-!
# `Moderation.Registry.Deployment`: a registry with the stores behind it

A deployment is a registry together with the state of all stores. A program that runs alone on it
finds every lock free.

* `resolve`, `close` and `register` are the actions of the registry on a deployment.
-/

set_option autoImplicit false

namespace Moderation

/-- A registry and the state of the stores. -/
structure Deployment (σ α : Type) where
  registry : Registry σ α
  stores : σ

namespace Deployment

variable {σ α β : Type}

/-- An action on the stores. -/
def onStores (act : Act σ β) : Act (Deployment σ α) β :=
  act.zoom Deployment.stores fun stores deployment => { deployment with stores }

/-- Answers a step of a program that runs alone. -/
def answerAlone : (step : Registry.Step σ α) → StateM (Deployment σ α) step.Answer
  | .look => do return (← get).registry
  | .adopt config store strategy => modifyGet fun deployment =>
    let (inst, registry) := deployment.registry.adopt config store strategy
    (inst, { deployment with registry })
  | .reset => modify fun deployment => { deployment with registry := deployment.registry.reset }
  | .lock _ => pure ()
  | .unlock _ => pure ()
  | .openStore factory => (onStores factory).run
  | .close closing => (onStores closing).run

/-- Runs a program alone. -/
def run (program : Registry.Program σ α β) : Act (Deployment σ α) β :=
  ExceptT.mk (Dialogue.run answerAlone (ExceptT.run program))

/-- The strategy in use for an analyzer, which is built if there is none. -/
def resolve (factories : Registry.Factories σ α) (name : String) :
    Act (Deployment σ α) (Instance σ α) :=
  run (Registry.resolve factories name)

/-- Closes what the strategies in use have open, and takes them out of use. -/
def close : Act (Deployment σ α) Unit := run Registry.closeAll

/-- Registers an analyzer. -/
def register (config : AnalyzerConfig) : Act (Deployment σ α) Unit := do
  let registry ← Act.ofExcept ((← get).registry.register config)
  modify fun deployment => { deployment with registry }

/-- Takes all strategies out of use. -/
def reset : Act (Deployment σ α) Unit :=
  modify fun deployment => { deployment with registry := deployment.registry.reset }

end Deployment

end Moderation
