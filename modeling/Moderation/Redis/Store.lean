import Moderation.Redis.Client
import Moderation.Store.Basic

/-!
# `Moderation.Redis.Store`: a store on a Redis server

Each request of a store becomes one command, but for the removal of a scope, which scans for its
names and deletes them in batches. A server that cannot be reached is an unavailable store.

* `Session.find`, `findMany`, `put`, `add` and `clear` are the sessions of single requests, and
  take names and amounts as they are given.
* `serve` is the session of a request; `openStore` and `closeStore` begin and end the connection.
* `store` is the store over a client that answers from a state.
-/

set_option autoImplicit false

namespace Moderation.Redis

open Store

/-- The number in a reply; none if the server holds none. -/
def numberIn : Value → Except Error (Option Int)
  | .null => .ok none
  | reply => some <$> reply.toWhole

/-- The keys with the numbers that the server holds under them. -/
def numbersIn (keys replies : List Value) : Except Error (Value.Map Int) := do
  let found ← (keys.zip replies).mapM fun entry => do
    match ← numberIn entry.2 with
    | some n => return some (← entry.1.toName, n)
    | none => return none
  return Value.Map.ofPairs (found.filterMap fun pair => pair)

/-! ### Removing a scope -/

/-- Deletes a batch, and adds the count of its names to `removed`. -/
def deleteBatch (removed : Number) (batch : List Value) : Session Number := do
  let count ← Session.ofExcept (← Session.send "DEL" (.delete batch)).toNumber
  Session.ofExcept ((Arithmetic.add removed count).mapError Error.ofArithmetic)

/-- Whether a batch of `count` names is complete. -/
def isComplete (size : Value) (count : Nat) : Except Error Bool := do
  return (← size.toNumber).le (.whole count)

/-- Deletes scanned names in batches of `size`, the last of which may be smaller, and gives the
count of the removed names. `batch` holds the names since the last deletion. -/
def sweep (size : Value) (batch : List Value) (removed : Number) :
    List (Except Failure Value) → Session Number
  | [] => if batch.isEmpty then return removed else deleteBatch removed batch
  | .error failure :: _ => throw (Session.errorOf "DEL" failure)
  | .ok key :: rest => do
    let batch := batch ++ [key]
    if ← Session.ofExcept (isComplete size batch.length) then
      sweep size [] (← deleteBatch removed batch) rest
    else sweep size batch removed rest

/-! ### Sessions -/

namespace Session

/-- The number under a key. -/
def find (key : Value) : Session (Option Int) := do
  ofExcept (numberIn (← send "GET" (.get key)))

/-- The numbers under the keys that `keys` lists and that have one. -/
def findMany (keys : Value) : Session (Value.Map Int) := do
  match ← ofExcept keys.elements with
  | [] => return []
  | keys =>
    let reply ← send "MGET" (.getMany keys)
    ofExcept (numbersIn keys (← ofExcept reply.elements))

/-- Sets the number under a key to a value, which is read as a whole number. -/
def put (key value : Value) : Session Unit := do
  let _ ← send "SET" (.set key (← ofExcept value.toWhole))

/-- Adds to the number under a key, and gives the sum. -/
def add (key delta : Value) : Session Int := do
  ofExcept (← send "INCRBY" (.add key delta)).toWhole

/-- Removes the names that begin with `scope`, about `batch` at a time, and gives their count. -/
def clear (batch scope : Value) : Session Number := do
  sweep batch [] (.whole 0) (← scan (scope.display ++ "*") batch)

end Session

/-- The batch size of a store that is given none. -/
def defaultBatch : Value := .int 500

/-- The session of a request. -/
def serve (batch : Value) : (request : Request) → Session request.Reply
  | .get key => Session.find (.text key)
  | .getMany keys => Value.Map.named <$> Session.findMany (.list (keys.map .text))
  | .set key value => Session.put (.text key) (.int value)
  | .increment key delta => Session.add (.text key) (.int delta)
  | .clear scope => Session.clear batch (.text scope)

/-- Makes sure that the server answers. If it does not, the client is disconnected first. -/
def openStore : Session Unit := do
  match ← Session.attempt .ping with
  | .ok _ => return
  | .error failure =>
    if failure.kind.isOutage then
      match ← Session.attempt .disconnect with
      | .ok _ => throw (.storeUnavailable (.unreachable failure))
      | .error second => throw (.client second)
    else throw (.client failure)

/-- Disconnects. That the server is gone already does not matter. -/
def closeStore : Session Unit := do
  match ← Session.attempt .disconnect with
  | .ok _ => return
  | .error failure => if failure.kind.isOutage then return else throw (.client failure)

/-! ### The store -/

/-- A client over a state `σ`: how it answers, and what its server holds. -/
structure Client (σ : Type) where
  answer : (question : Question) → StateM σ question.Answer
  content : σ → Entries Int

/-- Runs a session with a client. -/
def Client.run {σ β : Type} (client : Client σ) (session : Session β) : Act σ β :=
  ExceptT.mk (Dialogue.run client.answer (ExceptT.run session))

/-- The store over a client. -/
def store {σ : Type} (id : Nat) (client : Client σ) (batch : Value) : Store σ where
  id := id
  answer request := client.run (serve batch request)
  close := client.run closeStore
  content := client.content

end Moderation.Redis
