import Mathlib.Data.List.Basic
import Mathlib.Logic.Function.Basic
import Moderation.Proofs.Dialogue.Interleaving
import Moderation.Registry.Resolve

/-!
# `Moderation.Proofs.Registry.Traffic`: calls of the registry at once

Many calls of the registry are under way at once, and its analyzers are registered and its strategies
taken out of use in between. `Traffic` holds the calls and the `Desk` at which their questions are
answered: the registry, the stores and the locks of the names, and a journal of what has happened.

A call goes on until it has to wait: for the lock of a name, for a store to be opened or for one to be
closed (`Step.waits`). Then others may come in between, in any order. So a run is a list of moves, and a
turn of a call that waits in vain, that is over or that was never made changes nothing.

* `Move` lists what can happen next, and `Traffic.run` lets it happen.
* `Desk.goOn` is what a call does in one go, from one wait to the next.
-/

set_option autoImplicit false

namespace Moderation.Registry

open Dialogue

variable {σ α : Type}

/-! ### Calls and the desk -/

/-- A call of the registry. -/
inductive Call where
  | resolve (name : String)
  | close

/-- How a call ends. The result of a resolution is an instance. -/
abbrev Result (σ α : Type) := Except Error (Option (Instance σ α))

/-- What is left of a call. -/
abbrev Task (σ α : Type) := Dialogue (Step σ α) Step.Answer (Result σ α)

/-- The steps of a call. -/
def Call.task (factories : Factories σ α) :
    Call → Dialogue (Step σ α) Step.Answer (Result σ α)
  | resolve name => ExceptT.run (Registry.resolve factories name) >>= fun result =>
      .done (result.map some)
  | close => ExceptT.run closeAll >>= fun result => .done (result.map fun _ => none)

/-- What happens to the instances of a registry. -/
inductive Event (σ α : Type) where
  /-- A strategy is built and taken into use. -/
  | built (inst : Instance σ α)
  /-- All strategies are taken out of use. -/
  | cleared
  /-- A resolution of a name gives an instance. -/
  | returned (name : String) (inst : Instance σ α)

/-- A registry, the stores and the locks, and what has happened so far. -/
structure Desk (σ α : Type) where
  registry : Registry σ α
  stores : σ
  /-- Who holds the lock of a name. -/
  holder : String → Option Nat
  journal : List (Event σ α)

namespace Desk

/-- Notes an event. -/
def note (event : Event σ α) (desk : Desk σ α) : Desk σ α :=
  { desk with journal := desk.journal ++ [event] }

/-- Gives the lock of a name to a place, or to nobody. -/
def hand (name : String) (place : Option Nat) (desk : Desk σ α) : Desk σ α :=
  { desk with holder := Function.update desk.holder name place }

/-- Takes all strategies out of use. -/
def reset (desk : Desk σ α) : Desk σ α :=
  { desk with registry := desk.registry.reset }.note .cleared

/-- Answers a step. Only who wants a lock may have to wait. -/
def serve : Host (Step σ α) Step.Answer (Desk σ α)
  | _, .look, desk => some (desk.registry, desk)
  | _, .adopt config store strategy, desk =>
    let (inst, registry) := desk.registry.adopt config store strategy
    some (inst, { desk with registry }.note (.built inst))
  | _, .reset, desk => some ((), desk.reset)
  | place, .lock name, desk =>
    match desk.holder name with
    | none => some ((), desk.hand name (some place))
    | some _ => none
  | _, .unlock name, desk => some ((), desk.hand name none)
  | _, .openStore factory, desk =>
    let (reply, stores) := factory.outcome desk.stores
    some (reply, { desk with stores })
  | _, .close closing, desk =>
    let (reply, stores) := closing.outcome desk.stores
    some (reply, { desk with stores })

/-- Goes on with a call until it has to wait. -/
def goOn (place : Nat) :
    Dialogue (Step σ α) Step.Answer (Result σ α) → Desk σ α → Task σ α × Desk σ α
  | .done result, desk => (.done result, desk)
  | .ask step next, desk =>
    if step.waits then (.ask step next, desk)
    else match desk.serve place step with
      | some (reply, desk) => goOn place (next reply) desk
      | none => (.ask step next, desk)

/-- Nothing is gone on with before the wait is over. -/
theorem goOn_of_waits {place : Nat} {step : Step σ α} {next : step.Answer → Task σ α}
    {desk : Desk σ α} (h : step.waits = true) :
    goOn place (.ask step next) desk = (.ask step next, desk) := by
  unfold goOn
  exact if_pos h

/-- Notes what a call gives, if it is over. -/
def noteResult : Call → Task σ α → Desk σ α → Desk σ α
  | .resolve name, .done (.ok (some inst)), desk => desk.note (.returned name inst)
  | _, _, desk => desk

end Desk

/-! ### Runs -/

/-- Calls that have been made, and the desk at which they are answered. -/
structure Traffic (σ α : Type) where
  desk : Desk σ α
  /-- The calls, and what is left of each. -/
  calls : List (Call × Task σ α)

/-- What can happen next. -/
inductive Move where
  | register (config : AnalyzerConfig)
  | reset
  /-- A call is made, and goes on until it has to wait. -/
  | call (call : Call)
  /-- The call at a place goes on, if it has not to wait any longer. -/
  | turn (place : Nat)

namespace Traffic

/-- Makes a call. -/
def call (factories : Factories σ α) (call : Call) (all : Traffic σ α) : Traffic σ α :=
  let (task, desk) := Desk.goOn all.calls.length (call.task factories) all.desk
  { desk := desk.noteResult call task, calls := all.calls ++ [(call, task)] }

/-- The turn of the call at a place. -/
def turn (place : Nat) (all : Traffic σ α) : Traffic σ α :=
  match all.calls[place]? with
  | some (call, .ask step next) =>
    match all.desk.serve place step with
    | some (reply, desk) =>
      let (task, desk) := Desk.goOn place (next reply) desk
      { desk := desk.noteResult call task, calls := all.calls.set place (call, task) }
    | none => all
  | _ => all

/-- Registers an analyzer, unless its strategy is in use. -/
def register (config : AnalyzerConfig) (all : Traffic σ α) : Traffic σ α :=
  match all.desk.registry.register config with
  | .ok registry => { all with desk := { all.desk with registry } }
  | .error _ => all

/-- Makes a move. -/
def move (factories : Factories σ α) (all : Traffic σ α) : Move → Traffic σ α
  | .register config => all.register config
  | .reset => { all with desk := all.desk.reset }
  | .call call => all.call factories call
  | .turn place => all.turn place

/-- Makes moves one after the other. -/
def run (factories : Factories σ α) (moves : List Move) (all : Traffic σ α) : Traffic σ α :=
  moves.foldl (move factories) all

/-- Whether a resolution of a name is under way. -/
def Resolves (all : Traffic σ α) (name : String) : Prop :=
  ∃ (place : Nat) (step : Step σ α) (next : step.Answer → Task σ α),
    all.calls[place]? = some (.resolve name, .ask step next)

/-- Whether the call at a place is building a strategy for a name: it has opened a store, or waits for
one to be opened or closed. -/
def Builds (all : Traffic σ α) (place : Nat) (name : String) : Prop :=
  ∃ (step : Step σ α) (next : step.Answer → Task σ α),
    all.calls[place]? = some (.resolve name, .ask step next) ∧ ∀ other, step ≠ .lock other

/-- A registry that knows no analyzer, and no calls. -/
def start (stores : σ) : Traffic σ α :=
  { desk := { registry := .empty, stores, holder := fun _ => none, journal := [] }, calls := [] }

end Traffic

end Moderation.Registry
