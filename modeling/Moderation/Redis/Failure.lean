/-!
# `Moderation.Redis.Failure`: how a command to a Redis server fails

A command fails because the server cannot be reached, does not answer in time or answers with an
error, or because of the operating system or the client itself. The first two kinds and
the failures of the operating system mean that the server is unavailable.
-/

set_option autoImplicit false

namespace Moderation.Redis

/-- What made a command fail. -/
inductive FailureKind where
  | connection
  | timeout
  | response
  | system
  | runtime
  deriving DecidableEq, Repr

/-- A failed command and what is said about it. -/
structure Failure where
  kind : FailureKind
  message : String
  deriving DecidableEq, Repr

/-- Whether a failure means that the server is unavailable. -/
def FailureKind.isOutage : FailureKind → Bool
  | connection | timeout | system => true
  | response | runtime => false

/-- The name of a kind of failure. -/
def FailureKind.name : FailureKind → String
  | connection => "ConnectionError"
  | timeout => "TimeoutError"
  | response => "ResponseError"
  | system => "OSError"
  | runtime => "RuntimeError"

end Moderation.Redis
