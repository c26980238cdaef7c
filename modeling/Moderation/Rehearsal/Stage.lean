import Moderation.Store.Basic

/-!
# `Moderation.Rehearsal.Stage`: stores that fail on purpose

To rehearse outages, stores are opened on a stage. A store of the stage goes by an identifier,
which several may share. It refuses to open, or fails at a request, while its identifier is down;
it also refuses the first few times, and fails at chosen requests, as its parameters say. What
happens on the stage is recorded.
-/

set_option autoImplicit false

namespace Moderation.Rehearsal

/-- What a strategy that follows a script was taught. -/
structure Lesson where
  operation : String
  category : Value
  text : Value

/-- The state of a stage. -/
structure Stage where
  /-- The contents of the stores in memory. -/
  shelf : Store.Shelf
  /-- The identifiers that are down. -/
  down : List Value
  /-- How often an identifier will still refuse to open. -/
  refusals : Value.Map Number
  /-- How many requests each store has had, by the number of the store. -/
  requests : List (Nat × Nat)
  /-- What has happened. -/
  events : List String
  /-- What scripted strategies were taught, by the number of their store. -/
  lessons : List (Nat × Lesson)

namespace Stage

/-- An empty stage. -/
def empty : Stage := ⟨[], [], [], [], [], []⟩

instance : Store.HasShelf Stage where
  shelf := Stage.shelf
  setShelf shelf stage := { stage with shelf }

/-- Whether an identifier is down. -/
def isDown (stage : Stage) (id : Value) : Bool := id.isAmong stage.down

/-- Takes an identifier down. -/
def takeDown (id : Value) (stage : Stage) : Stage := { stage with down := id :: stage.down }

/-- Brings an identifier up again. -/
def bringUp (id : Value) (stage : Stage) : Stage :=
  { stage with down := stage.down.filter (!·.same id) }

/-- Records what has happened. -/
def record (event : String) (stage : Stage) : Stage :=
  { stage with events := stage.events ++ [event] }

/-- Counts a request of the store with the number `number`, and gives the count. -/
def countRequest (number : Nat) (stage : Stage) : Nat × Stage :=
  let count := (stage.requests.lookup number).getD 0 + 1
  (count, { stage with requests := (number, count) :: stage.requests })

/-- What the strategy at the store with the number `number` was taught. -/
def lessonsAt (number : Nat) (stage : Stage) : List Lesson :=
  (stage.lessons.filter (·.1 == number)).map (·.2)

end Stage

/-! ### Stores -/

/-- The parameters of a store of the stage. -/
structure Part where
  id : Value
  /-- How often opening is refused at first. -/
  refusals : Number
  /-- The requests that fail, counted from one. -/
  failing : List Value
  /-- Whether closing fails. -/
  failsOnClose : Bool

/-- The part that parameters describe. -/
def Part.ofParams? (params : Entries Value) : Except Error Part := do
  return { id := ← (params.getOr "id" (.text "flaky")).toName
           refusals := ← params.readOr "connect_failures" (.whole 0) Value.toNumber
           failing := ← params.readOr "fail_on" [] Value.elements
           failsOnClose := (params.get? "close_fails").any Value.isSet }

/-- Whether a request fails that is the `count`th one. -/
def Part.failsOn (part : Part) (count : Nat) : Bool := (Value.int count).isAmong part.failing

/-- An outage. -/
def outage (reason : String) : Error := .storeUnavailable (.stated reason)

/-- The name of a request in the reason of an outage. -/
def requestName : Store.Request → String
  | .get _ => "get"
  | .getMany _ => "getMany"
  | .set .. => "set"
  | .increment .. => "increment"
  | .clear _ => "deleteByPrefix"

/-- A store of the stage over the store in memory `inner`. -/
def flakyStore (part : Part) (inner : Store Stage) : Store Stage where
  id := inner.id
  answer request := do
    let count ← modifyGet (Stage.countRequest inner.id)
    if (← get).isDown part.id || part.failsOn count then
      throw (outage s!"store {part.id.display} failed on {requestName request}")
    inner.answer request
  close := do
    modify (Stage.record s!"close {part.id.display}")
    if part.failsOnClose then throw (outage s!"store {part.id.display} failed on close")
  content := inner.content

/-- The refusals that are left after one of `n`. -/
def oneLess (n : Number) : Except ArithmeticFault Number := do
  let left ← Arithmetic.sub n (.whole 1)
  return if (Number.whole 0).lt left then left else .whole 0

/-- Opens a store of the stage, or refuses to. -/
def openFlaky (params : Value.Map Value) : Act Stage (Store Stage) := do
  let part ← Act.ofExcept (Part.ofParams? params.named)
  let left := ((← get).refusals.get? part.id).getD part.refusals
  let refuses := (← get).isDown part.id || (Number.whole 0).lt left
  let left ← if refuses then Act.ofArithmetic (oneLess left) else pure left
  modify fun stage => { stage with refusals := stage.refusals.set part.id left }
  if refuses then
    modify (Stage.record s!"refuse {part.id.display}")
    throw (outage s!"store {part.id.display} refused the connection")
  modify (Stage.record s!"connect {part.id.display}")
  return flakyStore part (← Store.Memory.fresh)

end Moderation.Rehearsal
