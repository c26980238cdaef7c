import Moderation.Config.Environment
import Moderation.Config.Merge
import Moderation.Config.Placeholder
import Moderation.Config.Room
import Moderation.Toml.Reader
import Moderation.Value.Conversion

/-!
# `Moderation.Config.Load`: reading a configuration from files

A configuration is one main file and all files with the suffix `.toml` in some directories, each
on top of those before. Before that, a file of settings may add variables to the environment, and
afterwards the placeholders of the whole configuration give way to the values of variables.

What reads a document and how deep the engine can go is left to the caller.

* `load` carries out all steps; `readTables` is the part that does not look at variables.
-/

set_option autoImplicit false

namespace Moderation.Config

/-- The text of a file. -/
def decode (content : ByteArray) : Except Error String :=
  match String.fromUTF8? content with
  | some text => .ok text
  | none => .error .undecodable

/-- The variables that the file of settings at a place sets, none if there is no such file. -/
def readSettings (tree : Files) (place : Location) : Except Error Environment :=
  match tree.content? place with
  | none => .ok []
  | some content => Environment.ofText <$> decode content

/-- What it means for a configuration that a file of it is not read as a document. -/
def errorOf (place : Location) : Toml.Fault → Error
  | .malformed => .configuration (.malformedFile place.text)
  | .undecodable => .undecodable
  | .tooManyDigits digits => .invalid (.tooManyDigits digits)
  | .tooDeep => .tooDeep

section

variable (reader : Toml.Reader) (room : Room) (tree : Files)

/-- The table in a file. -/
def readTable (place : Location) : Except Error (Entries Value) :=
  match tree.content? place with
  | none => .error (.configuration (.fileIsDirectory place.text))
  | some content => (reader content).mapError (errorOf place)

/-- Some tables and then the table in a file, which is put on top of them. -/
def addTable (tables : List (Entries Value)) (place : Location) :
    Except Error (List (Entries Value)) := do
  let table ← readTable reader tree place
  if !room.forMerging (mergeAll tables) table then throw .tooDeep
  return tables ++ [table]

end

/-- The path that a value names. -/
def readPath : Value → Except Error String
  | .text path => .ok path
  | _ => .error .wrongKind

/-- Whether there is anything at a path. No path has a null character. -/
def isThere (tree : Files) (path : String) : Except Error Bool :=
  if path.toList.contains '\x00' then .ok false
  else (tree.isThere (Location.ofText path)).mapError fun _ => .refused

section

variable (reader : Toml.Reader) (room : Room) (tree : Files)

/-- The table of the main file, if there is one. -/
def readMain (path : String) : Except Error (List (Entries Value)) := do
  if ← isThere tree path then return [← readTable reader tree (Location.ofText path)] else return []

/-- Some tables and then those of the files in a directory, in order. There need be no such
directory. -/
def addDirectory (tables : List (Entries Value)) (directory : Value) :
    Except Error (List (Entries Value)) := do
  let path ← readPath directory
  if ← isThere tree path then
    let place := Location.ofText path
    if !room.forDirectories tree place then throw .tooDeep
    (tree.filesBelow place ".toml").foldlM (addTable reader room tree) tables
  else return tables

/-- The tables of the main file and of the files in some directories, in order. There has to be
a main file unless directories are given. -/
def readTables (path directories : Value) : Except Error (List (Entries Value)) := do
  let path ← readPath path
  let main ← readMain reader tree path
  if main.isEmpty && !directories.isSet then throw (.configuration (.fileMissing path))
  let listed ← if directories.isSet then directories.elements else .ok []
  listed.foldlM (addDirectory reader room tree) main

/-- The file of settings that is read first. -/
def settingsPath : Location := Location.ofText ".env"

/-- The table with the values of variables in the place of placeholders. -/
def fillIn (table : Entries Value) : Act Environment (Entries Value) := do
  let env ← get
  if !room.forPlaceholders env table then throw .tooDeep
  return substituteEntries env table

/-- The configuration in some files, in an environment to which the file of settings is added. -/
def load (path directories : Value) : Act Environment (Entries Value) := do
  Environment.populate (← Act.ofExcept (readSettings tree settingsPath))
  let tables ← Act.ofExcept (readTables reader room tree path directories)
  fillIn room (mergeAll tables)

end

/-- The path of the main file, unless another is given. -/
def defaultPath : Value := .text "config.toml"

/-- The value under a key of a configuration, or another if there is none. -/
def lookUp (table : Entries Value) (key otherwise : Value) : Except Error Value := do
  match ← key.toName with
  | .text key => return table.getOr key otherwise
  | _ => return otherwise

end Moderation.Config
