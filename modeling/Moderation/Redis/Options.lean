import Moderation.Value.Conversion

/-!
# `Moderation.Redis.Options`: how to reach a Redis server

A server is named by one address that says everything, or by host, socket and database with the
credentials. An address takes precedence. One timeout bounds both connecting and each command.
-/

set_option autoImplicit false

namespace Moderation.Redis

/-- Where the server is, and who asks. -/
inductive Server where
  | url (address : Value)
  | host (host : Value) (socket database : Int) (password username : Option Value)
    (encrypted : Bool)

/-- How to reach a server. -/
structure Options where
  timeout : Float
  server : Server

/-- The value under a name, unless it counts as not given. -/
def given? (params : Entries Value) (key : String) : Option Value :=
  (params.get? key).filter Value.isSet

/-- The server that parameters name. -/
def Server.ofParams? (params : Entries Value) : Except Error Server :=
  match given? params "url" with
  | some address => .ok (.url address)
  | none => do
    let socket ← params.readOr "port" 6379 Value.toWhole
    let database ← params.readOr "db" 0 Value.toWhole
    return .host ((params.get? "host").getD (.text "127.0.0.1")) socket database
      (given? params "password") (given? params "username") (given? params "ssl").isSome

/-- The options that parameters give. -/
def Options.ofParams? (params : Entries Value) : Except Error Options := do
  let timeout ← params.readOr "timeout" 5 Value.toReal
  return { timeout, server := ← Server.ofParams? params }

end Moderation.Redis
