import Moderation.Entries
import Moderation.Number
import Moderation.Text.Quoted
import Moderation.Value.Moment

/-!
# `Moderation.Value.Basic`: the values of a configuration

A configuration is a tree of values. Some of its settings are used without regard to their kind:
a category is whatever the table says, and is compared and shown as it stands.

* `Value.same` compares by content: numbers by value, tables without regard to order.
* `Value.display` is the form of a message, `Value.shown` the form that keeps kinds apart.
-/

set_option autoImplicit false

namespace Moderation

open Text

/-- A value of a configuration. The names of a table are distinct. -/
inductive Value where
  | null
  | number (n : Number)
  | text (s : String)
  | moment (m : Moment)
  | list (items : List Value)
  | table (entries : List (String × Value))

instance : Inhabited Value := ⟨.null⟩

namespace Value

/-- The whole number `n`. -/
def int (n : Int) : Value := .number (.whole n)

/-- The float `x`. -/
def float (x : Float) : Value := .number (.binary x)

/-- The switch `on`. -/
def switch (on : Bool) : Value := .number (.switch on)

/-- Whether a value counts as given: it is no null, no zero and not empty. -/
def isSet : Value → Bool
  | null => false
  | number n => !n.isZero
  | text s => s != ""
  | moment _ => true
  | list items => !items.isEmpty
  | table entries => !entries.isEmpty

/-- The name that messages give to the kind of a value. -/
def kind : Value → String
  | null => "NoneType"
  | number (.whole _) => "int"
  | number (.binary _) => "float"
  | number (.switch _) => "bool"
  | text _ => "str"
  | moment m => m.kind
  | list _ => "list"
  | table _ => "dict"

/-! ### Comparison -/

mutual

/-- Whether two values are equal. -/
def same : Value → Value → Bool
  | null, null => true
  | number a, number b => a.same b
  | text a, text b => a == b
  | moment a, moment b => a.same b
  | list xs, list ys => sameItems xs ys
  | table xs, table ys => xs.length == ys.length && sameEntries xs ys
  | _, _ => false

/-- Whether two lists are equal item by item. -/
def sameItems : List Value → List Value → Bool
  | [], [] => true
  | x :: xs, y :: ys => x.same y && sameItems xs ys
  | _, _ => false

/-- Whether each entry has an equal one of its name in `ys`. -/
def sameEntries : List (String × Value) → List (String × Value) → Bool
  | [], _ => true
  | (name, x) :: xs, ys =>
    (match Entries.get? ys name with
      | some y => x.same y
      | none => false) && sameEntries xs ys

end

/-- Whether some item of a list equals `value`. -/
def isAmong (value : Value) (items : List Value) : Bool := items.any (·.same value)

/-- Whether two values that name something have an order: two numbers, two texts, and two moments
that have one. -/
def isComparable : Value → Value → Bool
  | number _, number _ => true
  | text _, text _ => true
  | moment a, moment b => a.isComparable b
  | _, _ => false

/-! ### Text -/

mutual

/-- The value with texts between quotes, as a list or a table shows its parts. -/
def shown : Value → String
  | null => "None"
  | number n => n.text
  | text s => quoted s
  | moment m => m.shown
  | list items => "[" ++ ", ".intercalate (shownItems items) ++ "]"
  | table entries => "\x7b" ++ ", ".intercalate (shownEntries entries) ++ "\x7d"

/-- The items of a list, shown. -/
def shownItems : List Value → List String
  | [] => []
  | item :: items => item.shown :: shownItems items

/-- The entries of a table, shown as name and value. -/
def shownEntries : List (String × Value) → List String
  | [] => []
  | (name, value) :: entries => (quoted name ++ ": " ++ value.shown) :: shownEntries entries

end

mutual

/-- Whether messages can show the value: it has no whole number with too many digits. -/
def isShowable : Value → Bool
  | number n => n.isShowable
  | list items => areShowable items
  | table entries => entriesAreShowable entries
  | _ => true

/-- Whether messages can show some values. -/
def areShowable : List Value → Bool
  | [] => true
  | item :: items => item.isShowable && areShowable items

/-- Whether messages can show the entries of a table. -/
def entriesAreShowable : List (String × Value) → Bool
  | [] => true
  | (_, value) :: entries => value.isShowable && entriesAreShowable entries

end

/-- The value as messages show it. -/
def display : Value → String
  | text s => s
  | moment m => m.text
  | value => value.shown

/-- A fixed choice of values, between parentheses. -/
def shownChoice : List Value → String
  | [only] => "(" ++ only.shown ++ ",)"
  | items => "(" ++ ", ".intercalate (shownItems items) ++ ")"

/-- Some names, as a list shows them. -/
def shownNames (names : List String) : String := (list (names.map text)).shown

end Value

end Moderation
