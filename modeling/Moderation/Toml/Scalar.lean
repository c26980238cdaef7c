import Moderation.Numeral
import Moderation.Toml.Text
import Moderation.Value.Basic

/-!
# `Moderation.Toml.Scalar`: numbers, dates and times

A number is whole in base ten, two, eight or sixteen, or it has a fraction, an exponent or both.
A date has the form `1979-05-27`, a time of day the form `07:32:00` with a fraction if need be,
and both together may have an offset from universal time.

The readers take the longest text of their form that begins here, and none if no text does.
-/

set_option autoImplicit false

namespace Moderation.Toml

/-- The value of an ASCII digit of base `base`. -/
def digitIn? (base : Nat) (c : Char) : Option Nat := (Numeral.hexValue? c).filter (· < base)

/-- Digits of base `base`, with single low lines between them; at least one. -/
def digits? (base : Nat) (text : List Char) : Option (List Nat × List Char) :=
  match Numeral.digitsOf (digitIn? base) text with
  | ([], _) => none
  | (digits, rest) => some (digits, rest)

/-! ### Numbers -/

/-- A whole number in base two, eight or sixteen. -/
def based? : List Char → Option (Nat × List Char)
  | '0' :: mark :: rest =>
    let base := match mark with
      | 'x' => 16
      | 'o' => 8
      | 'b' => 2
      | _ => 0
    (digits? base rest).map fun (digits, after) => (Numeral.ofDigitsIn base digits, after)
  | _ => none

/-- The digits before the point: a zero alone, or digits of which the first is none. -/
def wholeDigits? : List Char → Option (List Nat × List Char)
  | '0' :: rest => some ([0], rest)
  | text => digits? 10 text

/-- A point and digits. -/
def fraction? : List Char → Option (List Nat × List Char)
  | '.' :: rest => digits? 10 rest
  | _ => none

/-- An exponent. -/
def exponent? : List Char → Option (Int × List Char)
  | mark :: rest =>
    if mark = 'e' || mark = 'E' then
      let (negative, body) := Numeral.sign rest
      (digits? 10 body).map fun (digits, after) =>
        let n : Int := Numeral.ofDigits digits
        (if negative then -n else n, after)
    else none
  | [] => none

/-- A number in base ten. -/
def decimal? (text : List Char) : Option (Except Fault Number × List Char) := do
  let (negative, body) := Numeral.sign text
  let (whole, rest) ← wholeDigits? body
  let fraction := fraction? rest
  let (places, rest) := fraction.getD ([], rest)
  let exponent := exponent? rest
  let (power, rest) := exponent.getD (0, rest)
  if fraction.isSome || exponent.isSome then
    let mantissa := Numeral.ofDigits (whole ++ places)
    some (.ok (.binary (Numeral.nearestDecimal negative mantissa (power - places.length))), rest)
  else if Decimal.digitLimit < whole.length then some (.error (.tooManyDigits whole.length), rest)
  else
    let n : Int := Numeral.ofDigits whole
    some (.ok (.whole (if negative then -n else n)), rest)

/-- An infinity or the float that is no number. -/
def unusual? (text : List Char) : Option (Float × List Char) :=
  let (negative, body) := Numeral.sign text
  if "inf".toList.isPrefixOf body then some (Binary64.infinity negative, body.drop 3)
  else if "nan".toList.isPrefixOf body then some (Binary64.notANumber, body.drop 3)
  else none

/-! ### Dates and times -/

/-- Exactly `width` digits. -/
def fixedDigits? (width : Nat) (text : List Char) : Option (Nat × List Char) :=
  let digits := (text.take width).filterMap (digitIn? 10)
  if digits.length = width then some (Numeral.ofDigits digits, text.drop width) else none

/-- Two digits with a value from `lo` to `hi`. -/
def twoDigits? (lo hi : Nat) (text : List Char) : Option (Nat × List Char) :=
  (fixedDigits? 2 text).filter fun (n, _) => lo ≤ n && n ≤ hi

/-- Passes the character `c` over. -/
def mark? (c : Char) : List Char → Option (List Char)
  | d :: rest => if d = c then some rest else none
  | [] => none

/-- A day, which need not be one of the calendar. -/
def day? (text : List Char) : Option (Date × List Char) := do
  let (year, rest) ← fixedDigits? 4 text
  let (month, rest) ← twoDigits? 1 12 (← mark? '-' rest)
  let (day, rest) ← twoDigits? 1 31 (← mark? '-' rest)
  return (⟨year, month, day⟩, rest)

/-- The microseconds of a fraction of a second, and what follows the fraction. Digits beyond the
sixth do not count. -/
def micros (text : List Char) : Nat × List Char :=
  match text with
  | '.' :: rest =>
    let digits := rest.takeWhile Char.isDigit
    if digits.isEmpty then (0, text)
    else
      let counted := (digits ++ List.replicate 6 '0').take 6
      (Numeral.ofDigits (counted.filterMap (digitIn? 10)), rest.drop digits.length)
  | _ => (0, text)

/-- A time of day. -/
def clock? (text : List Char) : Option (TimeOfDay × List Char) := do
  let (hour, rest) ← twoDigits? 0 23 text
  let (minute, rest) ← twoDigits? 0 59 (← mark? ':' rest)
  let (second, rest) ← twoDigits? 0 59 (← mark? ':' rest)
  let (micro, rest) := micros rest
  return (⟨hour, minute, second, micro⟩, rest)

/-- An offset from universal time in minutes. -/
def offset? : List Char → Option (Int × List Char)
  | 'Z' :: rest => some (0, rest)
  | 'z' :: rest => some (0, rest)
  | c :: text =>
    if c = '+' || c = '-' then do
      let (hours, rest) ← twoDigits? 0 23 text
      let (minutes, rest) ← twoDigits? 0 59 (← mark? ':' rest)
      let total : Int := hours * 60 + minutes
      return (if c = '-' then -total else total, rest)
    else none
  | [] => none

/-- Whether a year has a leap day. -/
def isLeap (year : Nat) : Bool := year % 4 = 0 && (year % 100 ≠ 0 || year % 400 = 0)

/-- The number of days of a month. -/
def daysIn (year month : Nat) : Nat :=
  if month = 2 then (if isLeap year then 29 else 28)
  else if month = 4 || month = 6 || month = 9 || month = 11 then 30
  else 31

/-- Whether a day is one of the calendar, which has no year 0. -/
def isCalendarDay (d : Date) : Bool := 1 ≤ d.year && d.day ≤ daysIn d.year d.month

/-- A date, with a time of day and an offset if they follow. -/
def moment? (text : List Char) : Option (Except Fault Moment × List Char) := do
  let (day, rest) ← day? text
  let (moment, rest) := match rest with
    | c :: afterMark =>
      if c = 'T' || c = 't' || c = ' ' then
        match clock? afterMark with
        | some (clock, rest) =>
          match offset? rest with
          | some (minutes, rest) => (Moment.both day clock (some minutes), rest)
          | none => (Moment.both day clock none, rest)
        | none => (Moment.date day, rest)
      else (Moment.date day, rest)
    | [] => (Moment.date day, rest)
  return (if isCalendarDay day then .ok moment else .error .malformed, rest)

/-! ### Scalars -/

/-- A number, a date or a time of day. -/
def scanScalar : Scan Value := do
  let text ← get
  if let some (moment, rest) := moment? text then
    set rest
    return .moment (← moment)
  if let some (clock, rest) := clock? text then
    set rest
    return .moment (.time clock)
  if let some (n, rest) := based? text then
    set rest
    return .int n
  if let some (number, rest) := decimal? text then
    set rest
    return .number (← number)
  if let some (x, rest) := unusual? text then
    set rest
    return .float x
  Scan.reject

end Moderation.Toml
