import Moderation.Entries
import Moderation.Logging.Level

/-!
# `Moderation.Logging.Basic`: loggers and where they send records

Loggers have dotted names, and a logger below another passes its records on. The level of a
logger without a level of its own is that of the nearest logger above it that has one; above all
is the root. Which logger is above another is settled when the later of the two is made.

* `Loggers.create` puts a logger into the tree.
* `Loggers.effectiveLevel` is the level that counts.
-/

set_option autoImplicit false

namespace Moderation.Logging

/-- Where records go. -/
inductive Sink where
  | console
  /-- A file. -/
  | file (way : List String)
  /-- A file that is put aside every midnight; so many of the older ones are kept. -/
  | daily (way : List String) (kept : Int)
  deriving DecidableEq, Repr

/-- Sends the records from a level on somewhere. -/
structure Handler where
  sink : Sink
  level : Level
  format : String
  deriving DecidableEq, Repr

/-- The state of a logger. -/
structure Logger where
  level : Level
  /-- Whether the loggers above get its records too. -/
  propagates : Bool
  handlers : List Handler
  /-- The logger above; none if that is the root. -/
  parent : Option String
  deriving DecidableEq, Repr

/-- A logger below `parent` that nobody has configured. -/
def Logger.fresh (parent : Option String) : Logger := ⟨.unset, true, [], parent⟩

/-! ### Names -/

/-- The name of the root. -/
def rootName : String := "root"

/-- Whether a name is one of the names of the root. -/
def isRoot (name : String) : Bool := name == "" || name == rootName

/-- The reversed names above a reversed name. A point ends such a name, but the character before
a point does not count as one. -/
def aboveReversed : List Char → List (List Char)
  | '.' :: c :: rest => (c :: rest) :: aboveReversed rest
  | _ :: rest => aboveReversed rest
  | [] => []

/-- The names that a logger above may have, the longest first. -/
def namesAbove (name : String) : List String :=
  (aboveReversed name.toList.reverse).map fun above => String.ofList above.reverse

/-! ### The tree of loggers -/

/-- The root and the loggers below it. -/
structure Loggers where
  root : Logger
  named : Entries Logger

namespace Loggers

/-- Whether a new logger takes the place of the parent of `logger`, which goes by `below`: it lies
above, and the name of the parent does not begin with its own. The root counts by its name. -/
def adopts (name below : String) (logger : Logger) : Bool :=
  (namesAbove below).contains name &&
    !name.toList.isPrefixOf ((logger.parent.getD rootName).toList)

/-- Makes a logger. Its parent is the nearest logger above, and it becomes a parent itself. -/
def create (name : String) (loggers : Loggers) : Loggers :=
  let parent := (namesAbove name).find? loggers.named.has
  let settled := loggers.named.map fun (below, logger) =>
    (below, if adopts name below logger then { logger with parent := some name } else logger)
  { loggers with named := settled ++ [(name, .fresh parent)] }

/-- Makes a logger unless there is one of this name. -/
def ensure (name : String) (loggers : Loggers) : Loggers :=
  if isRoot name || loggers.named.has name then loggers else create name loggers

/-- Loggers that nobody has configured. The root lets warnings through. -/
def ofNames (names : List String) : Loggers :=
  names.foldl (fun loggers name => loggers.ensure name)
    { root := { Logger.fresh none with level := .warning }, named := [] }

/-- The logger with a name. -/
def logger (loggers : Loggers) (name : String) : Logger :=
  if isRoot name then loggers.root else (loggers.named.get? name).getD (.fresh none)

/-- Changes the logger with a name, which is made if there is none. -/
def update (name : String) (change : Logger → Logger) (loggers : Loggers) : Loggers :=
  if isRoot name then { loggers with root := change loggers.root }
  else
    let loggers := loggers.ensure name
    { loggers with named := loggers.named.set name (change (loggers.logger name)) }

/-- The level of a logger or of the nearest above that has one, `steps` of them at most. -/
def levelWithin (loggers : Loggers) : (steps : Nat) → Logger → Level
  | 0, logger => logger.level
  | steps + 1, logger =>
    if logger.level = .unset then
      levelWithin loggers steps ((logger.parent.map loggers.logger).getD loggers.root)
    else logger.level

/-- The level that counts for a logger. -/
def effectiveLevel (loggers : Loggers) (name : String) : Level :=
  loggers.levelWithin (loggers.named.length + 1) (loggers.logger name)

end Loggers

end Moderation.Logging
