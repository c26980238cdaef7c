import Moderation.Act
import Moderation.Text.Blank

/-!
# `Moderation.Config.Environment`: variables and the files that set them

An environment gives values to variables. A file of settings adds to it: each line names a
variable and its value, between double quotes if blanks at the ends matter. A variable that has
a value keeps it.

* `Environment.ofText` reads a file; `Environment.populate` adds its variables.
-/

set_option autoImplicit false

namespace Moderation

open Text

/-- The values of variables. -/
abbrev Environment := Entries String

namespace Environment

/-! ### Files of settings -/

/-- The lines of a text. A line ends at a line feed, a carriage return or both in this order;
`line` holds the characters of the line so far, the last one first. -/
def linesAfter (line : List Char) : List Char → List (List Char)
  | [] => if line.isEmpty then [] else [line.reverse]
  | '\r' :: '\n' :: rest => line.reverse :: linesAfter [] rest
  | c :: rest =>
    if c = '\n' || c = '\r' then line.reverse :: linesAfter [] rest
    else linesAfter (c :: line) rest

/-- The lines of a text, without their ends. -/
def lines (text : List Char) : List (List Char) := linesAfter [] text

/-- The variable and the value of a line; none if the line is empty or a comment, or has no sign
of equality. -/
def setting? (line : List Char) : Option (String × String) :=
  let line := trim line
  if line.isEmpty || line.head? == some '#' || !line.contains '=' then none
  else
    let name := trim (line.takeWhile (· != '='))
    let value := trimBoth (· == '"') (trim ((line.dropWhile (· != '=')).drop 1))
    some (String.ofList name, String.ofList value)

/-- The variables that a file of settings sets. -/
def ofText (text : String) : Environment := Entries.ofPairs ((lines text.toList).filterMap setting?)

/-! ### Adding variables -/

/-- Gives a value to a variable that has none. No variable has an empty name, and neither names
nor values hold a null character. -/
def setDefault (name value : String) : Act Environment Unit := do
  if (← get).has name then return
  if name.contains '\x00' || value.contains '\x00' then throw (.invalid .embeddedNull)
  if name.isEmpty then throw .refused
  modify (·.set name value)

/-- Gives values to those variables that have none, one after the other. -/
def populate : List (String × String) → Act Environment Unit
  | [] => pure ()
  | (name, value) :: rest => do
    setDefault name value
    populate rest

end Environment

end Moderation
