import Moderation.Dialogue
import Moderation.Error

/-!
# `Moderation.Redis.Client`: the commands that a store sends to a Redis server

A client sends commands as they are given and gives the server's replies. A scan is answered key
by key, and it may fail between two keys.
-/

set_option autoImplicit false

namespace Moderation.Redis

/-- A command with one reply. -/
inductive Command where
  | ping
  | disconnect
  | get (key : Value)
  | getMany (keys : List Value)
  | set (key : Value) (value : Int)
  | add (key delta : Value)
  | delete (keys : List Value)

/-- What is asked of a client. -/
inductive Question where
  | command (command : Command)
  /-- The names that match `pattern`, fetched about `batch` at a time. -/
  | scan (pattern : String) (batch : Value)

/-- What a scan finds: names up to its first failure, or nothing that has names. -/
abbrev Finding := Option (List (Except Failure Value))

/-- What a client answers: a reply, or what a scan finds. -/
abbrev Question.Answer : Question → Type
  | command _ => Except Failure Value
  | scan .. => Finding

/-- A computation over a client, which may fail. -/
abbrev Session (β : Type) := ExceptT Error (Dialogue Question Question.Answer) β

namespace Session

/-- Sends a command and gives its reply or its failure. -/
def attempt (command : Command) : Session (Except Failure Value) :=
  ExceptT.lift (Dialogue.question (Question.command command))

/-- The error that a failed command means: an outage of the server, or a failure of its own. -/
def errorOf (operation : String) (failure : Failure) : Error :=
  if failure.kind.isOutage then .storeUnavailable (.command operation failure)
  else .client failure

/-- Sends a command that belongs to `operation` and gives its reply. -/
def send (operation : String) (command : Command) : Session Value := do
  match ← attempt command with
  | .ok reply => return reply
  | .error failure => throw (errorOf operation failure)

/-- Gives a result that is known, or fails at once. -/
def ofExcept {β : Type} (result : Except Error β) : Session β := ExceptT.mk (pure result)

/-- The names that match a pattern, up to the first failure. -/
def scan (pattern : String) (batch : Value) : Session (List (Except Failure Value)) := do
  let some names ← ExceptT.lift (Dialogue.question (Question.scan pattern batch))
    | throw .wrongKind
  return names

end Session

end Moderation.Redis
