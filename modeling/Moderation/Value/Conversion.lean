import Moderation.Error
import Moderation.Numeral
import Moderation.Text.Case
import Moderation.Value.Map

/-!
# `Moderation.Value.Conversion`: reading a value as one of another kind

Settings are read leniently: a number may be given as text, a list as a text or a table, a
map as a table or a list of pairs. What cannot be read is an error of its own for each kind of
value.
-/

set_option autoImplicit false

namespace Moderation.Value

open Text

/-! ### Numbers -/

/-- The whole number of a whole numeral. -/
def wholeOfText (text : String) : Except Error Int :=
  match Numeral.readWhole text with
  | .ok n => .ok n
  | .error (.malformed text) => .error (.invalid (.malformedWhole text))
  | .error (.tooLong digits) => .error (.invalid (.tooManyDigits digits))

/-- The whole part of a float. -/
def wholeOfFloat (x : Float) : Except Error Int :=
  match Binary64.ofFloat x with
  | .nan => .error (.invalid .wholeOfNaN)
  | .infinite _ => .error .overflow
  | .finite negative significand exponent =>
    let ratio := Binary64.ratio significand exponent
    let whole : Int := ratio.1 / ratio.2
    .ok (if negative then -whole else whole)

/-- A value read as a whole number: floats lose their fraction, texts are numerals. -/
def toWhole : Value → Except Error Int
  | number (.whole n) => .ok n
  | number (.switch on) => .ok (if on then 1 else 0)
  | number (.binary x) => wholeOfFloat x
  | text s => wholeOfText s
  | _ => .error .wrongKind

/-- A value read as a float. -/
def toReal : Value → Except Error Float
  | number n => n.toFloat.mapError Error.ofArithmetic
  | text s => ((Numeral.readReal s).map .ok).getD (.error (.invalid (.malformedReal s)))
  | value => .error (.notNumeric value.kind)

/-- A value that is a number. -/
def toNumber : Value → Except Error Number
  | number n => .ok n
  | _ => .error .wrongKind

/-! ### Texts -/

/-- A value that is a text. -/
def toText : Value → Except Error String
  | text s => .ok s
  | _ => .error .lacking

/-- A value that is a text, or the empty text for what counts as not given. -/
def toTextIfSet (value : Value) : Except Error String :=
  if value.isSet then value.toText else .ok ""

/-- A value that is a text, in lower case. -/
def toLowered (value : Value) : Except Error String := lowered <$> value.toText

/-- Fails unless messages can show some values. -/
def requireShowable (values : List Value) : Except Error Unit :=
  if values.all isShowable then .ok () else .error (.invalid .tooLongToShow)

/-- The value as messages show it. -/
def toDisplay (value : Value) : Except Error String := do
  requireShowable [value]
  return value.display

/-! ### Lists and tables -/

/-- The items of a value: of a list, the characters of a text, the names of a table. -/
def elements : Value → Except Error (List Value)
  | list items => .ok items
  | text s => .ok (s.toList.map fun c => text (String.singleton c))
  | table entries => .ok (entries.map fun entry => text entry.1)
  | _ => .error .wrongKind

/-- Whether a text is found in a value: among the names of a table, among the items of a list, or
as a passage of a text. -/
def finds (word : String) : Value → Except Error Bool
  | table entries => .ok (Entries.has entries word)
  | list items => .ok ((text word).isAmong items)
  | text s => .ok (word == "" || (s.splitOn word).length != 1)
  | _ => .error .wrongKind

/-- Whether the value can name an entry of a table. -/
def isName : Value → Bool
  | list _ | table _ => false
  | _ => true

/-- A value that can name an entry. -/
def toName (value : Value) : Except Error Value :=
  if value.isName then .ok value else .error .wrongKind

/-- The pairs of a list of pairs, `index` being the place of the first. -/
def pairsFrom (index : Nat) : List Value → Except Error (List (Value × Value))
  | [] => .ok []
  | item :: items => do
    match ← item.elements with
    | [name, value] => return (← name.toName, value) :: (← pairsFrom (index + 1) items)
    | parts => throw (.invalid (.raggedPair index parts.length))

/-- A value read as a map: a table, a list of pairs, or nothing that counts as given. -/
def toMap (value : Value) : Except Error (Map Value) :=
  if value.isSet then
    match value with
    | table entries => .ok (Map.ofEntries entries)
    | _ => do return Map.ofPairs (← pairsFrom 0 (← value.elements))
  else .ok []

/-- The entries of a value that is a table. -/
def asTable : Value → Except Error (Entries Value)
  | table entries => .ok entries
  | _ => .error .lacking

/-- The entries of a table in which `settings` are looked for. What else might hold one of them
is of the wrong kind; anything else has no settings. -/
def asTableOf (settings : List String) : Value → Except Error (Entries Value)
  | table entries => .ok entries
  | other => do
    if ← settings.anyM other.finds then throw .wrongKind
    throw .lacking

end Moderation.Value

namespace Moderation

/-- Fails if there is an entry that is not one of `names`. -/
def Entries.restrictTo (entries : Entries Value) (names : List String) : Except Error Unit :=
  if entries.all fun entry => names.contains entry.1 then .ok () else .error .wrongKind

/-- The value under a name, or what stands for an absent one. -/
def Entries.getOr (entries : Entries Value) (key : String) (absent : Value) : Value :=
  (entries.get? key).getD absent

/-- Reads the value under a name, or takes what stands for an absent one. -/
def Entries.readOr {β : Type} (entries : Entries Value) (key : String) (absent : β)
    (read : Value → Except Error β) : Except Error β :=
  match entries.get? key with
  | none => .ok absent
  | some value => read value

end Moderation
