import Moderation.Config.Environment
import Moderation.Text.Passage

/-!
# `Moderation.Config.Placeholder`: variables in a configuration

A text of a configuration may hold placeholders such as `$` and a name between braces. Each
gives way to the value of its variable, and stays as it is if there is none. Values are not
searched for further placeholders, and names of tables are left alone.

* `substitute` acts on texts, `substituteValue` on all texts of a value.
-/

set_option autoImplicit false

namespace Moderation.Config

open Text

/-- A character that a name can begin with. -/
def beginsName (c : Char) : Bool := c.isAlpha || c = '_'

/-- A character of a name. -/
def isNamePart (c : Char) : Bool := c.isAlphanum || c = '_' || c = '-'

/-- The length of the placeholder that begins a text: a dollar sign, a brace, a name and a
brace. -/
def placeholderLength : List Char → Nat
  | '$' :: '\x7b' :: c :: rest =>
    if beginsName c then
      match rest.dropWhile isNamePart with
      | '\x7d' :: _ => runLength isNamePart rest + 4
      | _ => 0
    else 0
  | _ => 0

/-- The name in a placeholder. -/
def placeholderName (placeholder : List Char) : String :=
  String.ofList ((placeholder.drop 2).dropLast)

/-- What a placeholder gives way to. -/
def placeholderImage (env : Environment) (placeholder : List Char) : List Char :=
  match env.get? (placeholderName placeholder) with
  | some value => value.toList
  | none => placeholder

/-- The text with the values of variables in the place of placeholders. -/
def substitute (env : Environment) (text : String) : String :=
  String.ofList (replaceEach placeholderLength (placeholderImage env) text.toList)

mutual

/-- The value with the values of variables in the place of placeholders. -/
def substituteValue (env : Environment) : Value → Value
  | .text s => .text (substitute env s)
  | .list items => .list (substituteItems env items)
  | .table entries => .table (substituteEntries env entries)
  | .null => .null
  | .number n => .number n
  | .moment m => .moment m

/-- The items of a list, likewise. -/
def substituteItems (env : Environment) : List Value → List Value
  | [] => []
  | item :: items => substituteValue env item :: substituteItems env items

/-- The entries of a table, likewise; their names stay. -/
def substituteEntries (env : Environment) : List (String × Value) → List (String × Value)
  | [] => []
  | (name, value) :: entries => (name, substituteValue env value) :: substituteEntries env entries

end

end Moderation.Config
