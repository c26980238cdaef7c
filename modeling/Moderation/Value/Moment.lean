import Moderation.Decimal.Basic

/-!
# `Moderation.Value.Moment`: dates and times of day

A configuration may hold a date, a time of day or both, the last with or without an offset from
universal time. No setting asks for one, so all that is done with them is to show them and to
tell them apart.

* `Moment.text` is the form of a message, `Moment.shown` the form inside a shown list or table.
-/

set_option autoImplicit false

namespace Moderation

/-- A day of the calendar. -/
structure Date where
  year : Nat
  month : Nat
  day : Nat
  deriving DecidableEq, Repr

/-- A time of day, to the microsecond. -/
structure TimeOfDay where
  hour : Nat
  minute : Nat
  second : Nat
  micro : Nat
  deriving DecidableEq, Repr

/-- A date, a time of day or both; `offset` counts the minutes ahead of universal time. -/
inductive Moment where
  | date (day : Date)
  | time (clock : TimeOfDay)
  | both (day : Date) (clock : TimeOfDay) (offset : Option Int)
  deriving DecidableEq, Repr

/-- The days from the first day of year 0 to a date. -/
def Date.number (d : Date) : Int :=
  -- The year is taken to begin in March, so that a leap day is its last day.
  let shifted : Int := (d.month + 9 : Nat) % 12
  let year : Int := d.year - shifted / 10
  365 * year + year / 4 - year / 100 + year / 400 + (306 * shifted + 5) / 10 + (d.day - 1)

/-- The microseconds from midnight to a time of day. -/
def TimeOfDay.number (t : TimeOfDay) : Int :=
  ((t.hour * 60 + t.minute) * 60 + t.second) * 1000000 + t.micro

namespace Moment

/-- The microseconds of universal time from the first day of year 0, for a clock at `offset`. -/
def instant (day : Date) (clock : TimeOfDay) (offset : Int) : Int :=
  (day.number * 1440 - offset) * 60000000 + clock.number

/-- Whether two moments are one: with offsets, whether they are the same instant. -/
def same : Moment → Moment → Bool
  | both d t (some offset), both d' t' (some offset') => instant d t offset == instant d' t' offset'
  | a, b => a == b

/-- Whether one of two moments comes before the other or they are one: they are of one sort, and
both or neither have an offset. -/
def isComparable : Moment → Moment → Bool
  | date _, date _ => true
  | time _, time _ => true
  | both _ _ offset, both _ _ offset' => offset.isSome == offset'.isSome
  | _, _ => false

/-! ### Text -/

/-- A number in at least `width` digits. -/
def digits (width n : Nat) : String := String.ofList (Decimal.padded width n)

/-- Year, month and day, joined by hyphens. -/
def dateText (d : Date) : String :=
  digits 4 d.year ++ "-" ++ digits 2 d.month ++ "-" ++ digits 2 d.day

/-- Hour, minute and second, joined by colons, with the microseconds if there are any. -/
def timeText (t : TimeOfDay) : String :=
  digits 2 t.hour ++ ":" ++ digits 2 t.minute ++ ":" ++ digits 2 t.second ++
    if t.micro = 0 then "" else "." ++ digits 6 t.micro

/-- An offset as a sign, hours and minutes. -/
def offsetText (offset : Int) : String :=
  (if offset < 0 then "-" else "+") ++ digits 2 (offset.natAbs / 60) ++ ":" ++
    digits 2 (offset.natAbs % 60)

/-- The moment as messages show it. -/
def text : Moment → String
  | date d => dateText d
  | time t => timeText t
  | both d t offset => dateText d ++ " " ++ timeText t ++ offset.elim "" offsetText

/-- The name of a sort of moment. -/
def sort : Moment → String
  | date _ => "date"
  | time _ => "time"
  | both .. => "datetime"

/-- The name that messages give to the kind of a moment. -/
def kind (m : Moment) : String := "datetime." ++ m.sort

/-- The fields of a time of day, without the seconds and microseconds that are zero. -/
def timeFields (t : TimeOfDay) : List Nat :=
  if t.micro ≠ 0 then [t.hour, t.minute, t.second, t.micro]
  else if t.second ≠ 0 then [t.hour, t.minute, t.second]
  else [t.hour, t.minute]

/-- A duration of whole minutes: its days, rounded down, and the seconds that remain. -/
def durationFields (minutes : Int) : String :=
  let days := minutes / 1440
  let seconds := minutes % 1440 * 60
  ", ".intercalate
    ((if days = 0 then [] else [s!"days={days}"]) ++
      if seconds = 0 then [] else [s!"seconds={seconds}"])

/-- The zone of an offset. -/
def zone (offset : Int) : String :=
  if offset = 0 then "datetime.timezone.utc"
  else s!"datetime.timezone(datetime.timedelta({durationFields offset}))"

/-- The moment inside a shown list or table. -/
def shown (m : Moment) : String :=
  let fields : List String := match m with
    | date d => [d.year, d.month, d.day].map toString
    | time t => (timeFields t).map toString
    | both d t offset =>
      ([d.year, d.month, d.day] ++ timeFields t).map toString ++
        offset.elim [] fun minutes => ["tzinfo=" ++ zone minutes]
  m.kind ++ "(" ++ ", ".intercalate fields ++ ")"

end Moment

end Moderation
