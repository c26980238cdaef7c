import Moderation.Store.Basic

/-!
# `Moderation.Store.Adapter`: the kinds of stores

A store is kept in memory or on a Redis server. Which of them is said by the name of an adapter,
in any case of its letters. A store in memory needs no parameters.
-/

set_option autoImplicit false

namespace Moderation.Store

/-- A kind of store. -/
inductive Adapter where
  | memory
  | redis
  deriving DecidableEq, Repr

namespace Adapter

/-- The adapter with a lower-case name. -/
def ofName? : String → Option Adapter
  | "memory" => some memory
  | "redis" => some redis
  | _ => none

/-- The adapter that a value names. -/
def ofValue? (name : Value) : Except Error Adapter := do
  match ofName? (← name.toLowered) with
  | some adapter => return adapter
  | none => throw (.configuration (.unsupportedAdapter name.display))

end Adapter

namespace Memory

/-- What a store in memory does with its parameters: it makes no use of them, but lists their
names in order. -/
def listParams (params : Value.Map Value) : Except Error Unit := do
  if !params.isSortable then throw .wrongKind
  Value.requireShowable (params.map (·.1))

/-- The parameters in a value, which is a table unless it counts as not given. -/
def paramsOf (params : Value) : Except Error (Value.Map Value) :=
  if params.isSet then Value.Map.ofEntries <$> params.asTable else .ok []

/-- Opens an empty store in memory. -/
def openWith {σ : Type} [HasShelf σ] (params : Value.Map Value) : Act σ (Store σ) := do
  Act.ofExcept (listParams params)
  fresh

end Memory

end Moderation.Store
