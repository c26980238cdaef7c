import Moderation.Text.Blank
import Moderation.Text.Digit
import Moderation.Decimal.Basic

/-!
# `Moderation.Numeral`: numbers written in text

Settings may give a number as text. A numeral has decimal digits of any script, a low line
between two digits is skipped, and blanks around it do not count. A whole numeral is a sign and
digits. A real numeral may have a point and an exponent, or be one of the words `inf`,
`infinity` and `nan` in any case; its float is the nearest one.
-/

set_option autoImplicit false

namespace Moderation

open Text

/-- Why a text is no whole numeral. -/
inductive WholeFault where
  | malformed (text : String)
  | tooLong (digits : Nat)
  deriving DecidableEq, Repr

namespace Numeral

/-- A blank that may stand around a numeral: any but the four separator controls. -/
def isMargin (c : Char) : Bool := isBlank c && !(0x1c ≤ c.toNat && c.toNat ≤ 0x1f)

/-- Reads on in a group of digits: a digit, or a low line and a digit. `value?` is the value of
a digit. -/
def moreDigits (value? : Char → Option Nat) : List Char → List Nat × List Char
  | [] => ([], [])
  | [c] =>
    match value? c with
    | some d => ([d], [])
    | none => ([], [c])
  | c :: next :: rest =>
    match value? c with
    | some d => let (ds, after) := moreDigits value? (next :: rest); (d :: ds, after)
    | none =>
      if c = '_' then
        match value? next with
        | some d => let (ds, after) := moreDigits value? rest; (d :: ds, after)
        | none => ([], c :: next :: rest)
      else ([], c :: next :: rest)

/-- Reads a group of digits, which starts with a digit. -/
def digitsOf (value? : Char → Option Nat) (text : List Char) : List Nat × List Char :=
  match text with
  | '_' :: _ => ([], text)
  | _ => moreDigits value? text

/-- Reads a group of decimal digits of any script. -/
def digits : List Char → List Nat × List Char := digitsOf decimalValue?

/-- The value of a hexadecimal digit. -/
def hexValue? (c : Char) : Option Nat :=
  if '0' ≤ c && c ≤ '9' then some (c.toNat - 0x30)
  else if 'a' ≤ c && c ≤ 'f' then some (c.toNat - 0x61 + 10)
  else if 'A' ≤ c && c ≤ 'F' then some (c.toNat - 0x41 + 10)
  else none

/-- The number with the digits `ds` in base `base`. -/
def ofDigitsIn (base : Nat) (ds : List Nat) : Nat := ds.foldl (fun n d => base * n + d) 0

/-- The number with the digits `ds`. -/
def ofDigits (ds : List Nat) : Nat := ofDigitsIn 10 ds

/-- Reads a sign; `true` is minus. -/
def sign : List Char → Bool × List Char
  | '-' :: rest => (true, rest)
  | '+' :: rest => (false, rest)
  | text => (false, text)

/-- Reads a whole numeral. Of a text that is none, a misplaced low line is noticed first, then
too many digits, then what else follows on the digits. -/
def readWhole (text : String) : Except WholeFault Int :=
  let (negative, body) := sign (trimBoth isMargin text.toList)
  let (ds, rest) := digits body
  if ds.isEmpty || rest.head? == some '_' then .error (.malformed text)
  else if Decimal.digitLimit < ds.length then .error (.tooLong ds.length)
  else if !rest.isEmpty then .error (.malformed text)
  else .ok (if negative then -(ofDigits ds : Int) else ofDigits ds)

/-- The float nearest to `mantissa * 10 ^ place`, infinite beyond the largest float. Outside
the range of floats the power of ten is not computed. -/
def nearestDecimal (negative : Bool) (mantissa : Nat) (place : Int) : Float :=
  let lead := place + (toString mantissa).length
  if mantissa = 0 || lead < -400 then Binary64.ofFields negative 0 Binary64.lowestExponent
  else if 400 < lead then Binary64.infinity negative
  else
    let rounded :=
      if 0 ≤ place then Binary64.nearest? negative (mantissa * Nat.pow 10 place.toNat) 1
      else Binary64.nearest? negative mantissa (Nat.pow 10 (-place).toNat)
    rounded.getD (Binary64.infinity negative)

/-- Reads an exponent that ends the text; none means that what stands there is no exponent. -/
def readExponent : List Char → Option Int
  | [] => some 0
  | c :: rest =>
    if c = 'e' || c = 'E' then
      let (negative, body) := sign rest
      match digits body with
      | ([], _) => none
      | (ds, []) => some (if negative then -(ofDigits ds : Int) else ofDigits ds)
      | (_, _ :: _) => none
    else none

/-- Reads digits, a point, digits and an exponent, with at least one digit before it. -/
def readDecimal (negative : Bool) (text : List Char) : Option Float :=
  let (whole, afterWhole) := digits text
  let (places, rest) := match afterWhole with
    | '.' :: afterPoint => digits afterPoint
    | _ => ([], afterWhole)
  if whole.isEmpty && places.isEmpty then none
  else (readExponent rest).map fun exponent =>
    nearestDecimal negative (ofDigits (whole ++ places)) (exponent - places.length)

/-- Reads a real numeral. -/
def readReal (text : String) : Option Float :=
  let (negative, body) := sign (trimBoth isMargin text.toList)
  let word := String.ofList (body.map Char.toLower)
  if word = "inf" || word = "infinity" then some (Binary64.infinity negative)
  else if word = "nan" then some Binary64.notANumber
  else readDecimal negative body

end Numeral

end Moderation
