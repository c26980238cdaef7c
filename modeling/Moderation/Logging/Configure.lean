import Moderation.Act
import Moderation.Files
import Moderation.Logging.Basic
import Moderation.Logging.RecordFormat
import Moderation.Value.Conversion

/-!
# `Moderation.Logging.Configure`: configuring loggers from tables

A table configures a logger: its level, whether it passes its records on, and its handlers, which
replace those that it had. A file that cannot be opened is left out. The table of the root has
further tables for other loggers, which are configured in their order, and it names the loggers
that are kept quiet when the root is not.

* `configure` configures one logger, `setUp` all that a table speaks of.
-/

set_option autoImplicit false

namespace Moderation.Logging

/-- The loggers, and the files that they write to. -/
structure State where
  loggers : Loggers
  files : Files

/-- Changes the logger with a name. -/
def update (name : String) (change : Logger → Logger) : Act State Unit :=
  modify fun state => { state with loggers := state.loggers.update name change }

/-- The settings of a logger that are looked for first. -/
def leadingSettings : List String := ["propagate", "level"]

/-- The level under a name, or another if there is none or if it has no such level. -/
def levelOr (table : Entries Value) (key : String) (otherwise : Level) : Except Error Level := do
  return (← table.readOr key none Level.ofValue?).getD otherwise

/-! ### Files -/

/-- How many older files are kept, unless the table says so. -/
def defaultKept : Int := 7

/-- Fails if a name has a null character. -/
def refuseNull (names : List String) : Act State Unit :=
  if names.any (·.contains '\x00') then throw (.invalid .embeddedNull) else pure ()

/-- The way to the directory of a file, which is made if it is not there; none if that cannot be
done. -/
def makeDirectoryOf (place : Location) : Act State (Option (List String)) := do
  refuseNull place.parts.dropLast
  if !place.parent.fits then return none
  modifyGet fun state =>
    let (way, files) := state.files.makeWayFrom (state.files.start place) place.parts.dropLast
    (way, { state with files })

/-- Opens the file at the end of a way, and says whether that could be done. -/
def openFile (way : List String) : Act State Bool := do
  refuseNull way
  match (← get).files.withFileAt? way with
  | none => return false
  | some files =>
    modify fun state => { state with files }
    return true

/-- The way to a file from its directory; none if that is not the way to a file. -/
def wayIn? (directory : List String) (place : Location) : Option (List String) :=
  match place.parts.getLast? with
  | none | some ".." => none
  | some name => some (directory ++ [name])

/-- Opens the file at a path. -/
def openSink (table : Entries Value) (path : Value) : Act State (Option Sink) := do
  let .text path := path | throw .wrongKind
  let place := Location.ofText path
  let some directory ← makeDirectoryOf place | return none
  let rotates := (table.get? "rotate").any Value.isSet
  let kept ← Act.ofExcept (if rotates then table.readOr "rotate-backups" defaultKept Value.toWhole
    else .ok 0)
  let some way := wayIn? directory place | return none
  if !(place.resolved way).fits then return none
  if ← openFile way then return some (if rotates then .daily way kept else .file way)
  else return none

/-! ### One logger -/

/-- The handlers that a table asks for. -/
def openHandlers (table : Entries Value) (format : String) (effective : Level) :
    Act State (List Handler) := do
  let handler (key : String) (sink : Sink) : Except Error Handler := do
    return { sink, level := ← levelOr table key effective, format }
  let console ← if (table.get? "console").any Value.isSet then
      some <$> Act.ofExcept (handler "console-level" .console)
    else pure none
  let sink ← match table.get? "file" with
    | none => pure none
    | some path => openSink table path
  let file ← sink.mapM fun sink => Act.ofExcept (handler "file-level" sink)
  return console.toList ++ file.toList

/-- Configures a logger, and gives the count of its handlers. -/
def configure (name : String) (config : Value) : Act State Nat := do
  update name id
  let table ← Act.ofExcept (config.asTableOf leadingSettings)
  if let some on := table.get? "propagate" then
    update name fun logger => { logger with propagates := on.isSet }
  if let some level ← Act.ofExcept (table.readOr "level" none Level.ofValue?) then
    update name fun logger => { logger with level }
  let effective := (← get).loggers.effectiveLevel name
  let format ← Act.ofExcept
    (RecordFormat.ofValue? ((table.get? "format").getD (.text RecordFormat.default)))
  update name fun logger => { logger with handlers := [] }
  let handlers ← openHandlers table format effective
  update name fun logger => { logger with handlers }
  return handlers.length

/-! ### All loggers -/

/-- The loggers that are kept quiet, unless the table says so. -/
def defaultQuiet : List Value := [.text "redis", .text "langdetect"]

/-- The name that a value gives to a logger; what counts as not given names the root. -/
def nameOf (name : Value) : Except Error String :=
  if name.isSet then
    match name with
    | .text s => .ok s
    | _ => .error .wrongKind
  else .ok rootName

/-- Keeps some loggers quiet, one after the other. -/
def quieten : List Value → Act State Unit
  | [] => pure ()
  | name :: rest => do
    update (← Act.ofExcept (nameOf name)) fun logger => { logger with level := .warning }
    quieten rest

/-- Configures some loggers, one after the other. The table of each is shown first. -/
def configureEach : List (String × Value) → Act State Unit
  | [] => pure ()
  | (name, config) :: rest => do
    Act.ofExcept (Value.requireShowable [config])
    let _ ← configure name config
    configureEach rest

/-- Configures the root and the loggers that a table speaks of. -/
def setUp (config : Value) : Act State Unit := do
  update rootName fun logger => { logger with level := .info }
  let _ ← configure rootName config
  let table ← Act.ofExcept config.asTable
  if ((← get).loggers.effectiveLevel rootName).number < Level.warning.number then
    quieten (← Act.ofExcept (table.readOr "quiet-loggers" defaultQuiet Value.elements))
  configureEach (← Act.ofExcept (table.readOr "logger" [] Value.asTable))

end Moderation.Logging
