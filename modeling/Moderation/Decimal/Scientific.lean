import Moderation.Decimal.Basic

/-!
# `Moderation.Decimal.Scientific`: a fixed number of significant digits

`scientific places x` writes one digit, a point, `places` digits and the exponent of ten with
its sign and at least two digits. The exact value is rounded once, half to even. `fixed places
x` writes `places` digits after the point instead.
-/

set_option autoImplicit false

namespace Moderation.Decimal

/-- The sign in front of a number. -/
def sign (negative : Bool) : String := if negative then "-" else ""

/-- An exponent of ten: a sign and at least two digits. -/
def exponentText (exponent : Int) : String :=
  (if exponent < 0 then "-" else "+") ++ String.ofList (padded 2 exponent.natAbs)

/-- The units and the leading place of a positive fraction with `places + 1` digits. -/
def significant (places num den : Nat) : Nat × Int :=
  let lead := leadingPlace num den
  let units := unitsAt num den (lead - places)
  if units = Nat.pow 10 (places + 1) then (Nat.pow 10 places, lead + 1) else (units, lead)

/-- One digit, a point, `places` digits, `e` and the exponent. -/
def scientific (places : Nat) (x : Float) : String :=
  match Binary64.ofFloat x with
  | .nan => "nan"
  | .infinite negative => sign negative ++ "inf"
  | .finite negative significand exponent =>
    let ratio := Binary64.ratio significand exponent
    let (units, lead) := if significand = 0 then (0, 0) else significant places ratio.1 ratio.2
    let digits := padded (places + 1) units
    sign negative ++ String.ofList (digits.take 1) ++ "." ++ String.ofList (digits.drop 1) ++
      "e" ++ exponentText lead

/-- Digits, a point and `places` digits. -/
def fixed (places : Nat) (x : Float) : String :=
  match Binary64.ofFloat x with
  | .nan => "nan"
  | .infinite negative => sign negative ++ "inf"
  | .finite negative significand exponent =>
    let ratio := Binary64.ratio significand exponent
    let digits := padded (places + 1) (unitsAt ratio.1 ratio.2 (-places))
    let whole := digits.length - places
    sign negative ++ String.ofList (digits.take whole) ++ "." ++
      String.ofList (digits.drop whole)

end Moderation.Decimal
