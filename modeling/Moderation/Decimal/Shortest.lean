import Moderation.Decimal.Scientific

/-!
# `Moderation.Decimal.Shortest`: the fewest digits that read back

A float is shown by the shortest decimal that rounds to it, and of several by the nearest. The
reals that round to a float form an interval around it, whose ends belong to it iff the
significand is even. On a decimal grid the interval has a point iff it holds one of the two
grid points next to the float, so only those are tested, on coarser grids first. Seventeen
digits always suffice.

Between `10 ^ -4` and `10 ^ 16` the decimal is positional and has a point; elsewhere it has an
exponent.
-/

set_option autoImplicit false

namespace Moderation.Decimal

/-- A float and the ends of the interval that rounds to it, over one denominator. -/
structure Neighbourhood where
  low : Nat
  mid : Nat
  high : Nat
  den : Nat
  closed : Bool

namespace Neighbourhood

/-- The neighbourhood of `significand * 2 ^ exponent`. Below a power of two the floats are twice
as dense. -/
def of (significand : Nat) (exponent : Int) : Neighbourhood :=
  let below :=
    if significand = Binary64.normal && Binary64.lowestExponent < exponent then 1 else 2
  let at_ (quarters : Nat) := Binary64.ratio quarters (exponent - 2)
  { low := (at_ (4 * significand - below)).1
    mid := (at_ (4 * significand)).1
    high := (at_ (4 * significand + 2)).1
    den := (at_ (4 * significand)).2
    closed := significand % 2 == 0 }

/-- Whether `units * 10 ^ place` rounds to the float. -/
def has (n : Neighbourhood) (units : Nat) (place : Int) : Bool :=
  let tens := scale 1 1 place
  -- `tens.2 / tens.1` is the unit, and both sides are multiplied by `tens.1 * n.den`.
  let point := units * tens.2 * n.den
  let low := n.low * tens.1
  let high := n.high * tens.1
  if n.closed then low ≤ point && point ≤ high else low < point && point < high

/-- The grid point of `10 ^ place` that rounds to the float and is nearest to it; of two equally
near ones the even one. -/
def pointAt? (n : Neighbourhood) (place : Int) : Option Nat :=
  let scaled := scale n.mid n.den place
  let floor := scaled.1 / scaled.2
  let rest := scaled.1 % scaled.2
  match n.has floor place, n.has (floor + 1) place with
  | true, true =>
    some (if 2 * rest < scaled.2 then floor
      else if scaled.2 < 2 * rest then floor + 1
      else floor + floor % 2)
  | true, false => some floor
  | false, true => some (floor + 1)
  | false, false => none

/-- Tries grids from `place` downwards, `steps` of them. -/
def search (n : Neighbourhood) : (steps : Nat) → (place : Int) → Nat × Int
  | 0, place => (roundHalfEven (scale n.mid n.den place).1 (scale n.mid n.den place).2, place)
  | steps + 1, place =>
    match n.pointAt? place with
    | some units => (units, place)
    | none => search n steps (place - 1)

end Neighbourhood

/-- The shortest decimal `units * 10 ^ place` that rounds to `significand * 2 ^ exponent`. -/
def shortestUnits (significand : Nat) (exponent : Int) : Nat × Int :=
  let n := Neighbourhood.of significand exponent
  n.search 16 (leadingPlace n.mid n.den)

/-- Drops the zeros at the end of a list of digits, the first digit excepted. -/
def dropZeros (digits : List Char) : List Char :=
  match digits with
  | [] => []
  | first :: rest => first :: (rest.reverse.dropWhile (· == '0')).reverse

/-- The digits `d₀ d₁ …` of `d₀.d₁… * 10 ^ lead`, positional where that is short. -/
def layOut (digits : List Char) (lead : Int) : String :=
  if 16 ≤ lead || lead < -4 then
    let mantissa := match digits with
      | [] => []
      | [first] => [first]
      | first :: rest => first :: '.' :: rest
    String.ofList mantissa ++ "e" ++ exponentText lead
  else if lead < 0 then
    "0." ++ String.ofList (List.replicate (lead.natAbs - 1) '0' ++ digits)
  else
    let whole := lead.toNat + 1
    let filled := digits ++ List.replicate (whole - digits.length) '0'
    let places := filled.drop whole
    String.ofList (filled.take whole) ++ "." ++
      String.ofList (if places.isEmpty then ['0'] else places)

/-- The shortest decimal of a float. -/
def shortest (x : Float) : String :=
  match Binary64.ofFloat x with
  | .nan => "nan"
  | .infinite negative => sign negative ++ "inf"
  | .finite negative significand exponent =>
    if significand = 0 then sign negative ++ "0.0"
    else
      let (units, place) := shortestUnits significand exponent
      let digits := (toString units).toList
      sign negative ++ layOut (dropZeros digits) (place + (digits.length - 1 : Nat))

end Moderation.Decimal
