/-!
# `Moderation.Binary64.Basic`: the number behind a float

`Float` computes but does not say which number it holds. `Binary64.ofFloat` reads the 64 bits of
a float as sign, significand and exponent, so that rounding, comparison and printing can be
stated on `Nat` and `Int`.

* `Binary64.ratio` is the value of a finite float as a fraction of naturals.
* `Binary64.ofFields` is the way back from significand and exponent.
-/

set_option autoImplicit false

namespace Moderation

/-- What a float stands for. A finite one is `significand * 2 ^ exponent`, with a sign that zero
has too. -/
inductive Binary64 where
  | nan
  | infinite (negative : Bool)
  | finite (negative : Bool) (significand : Nat) (exponent : Int)
  deriving DecidableEq, Repr

namespace Binary64

/-- The exponent of the subnormal numbers, the lowest there is. -/
def lowestExponent : Int := -1074

/-- The exponent of the largest numbers. -/
def highestExponent : Int := 971

/-- The significand from which on a number is normal. -/
def normal : Nat := 1 <<< 52

/-- The fields of the 64 bits `bits`. -/
def ofBits (bits : Nat) : Binary64 :=
  let negative := bits >>> 63 % 2 == 1
  let exponent : Nat := bits >>> 52 % 2048
  let fraction := bits % normal
  if exponent = 2047 then
    if fraction = 0 then .infinite negative else .nan
  else if exponent = 0 then .finite negative fraction lowestExponent
  else .finite negative (normal + fraction) ((exponent : Int) - 1075)

/-- The number that a float holds. -/
def ofFloat (x : Float) : Binary64 := ofBits x.toBits.toNat

/-- The float of a sign, a significand and an exponent. The significand is below `2 ^ 53`, and
at least `normal` unless the exponent is the lowest. -/
def ofFields (negative : Bool) (significand : Nat) (exponent : Int) : Float :=
  let magnitude :=
    if significand < normal then significand
    else (exponent + 1075).toNat * normal + (significand - normal)
  Float.ofBits (UInt64.ofNat (magnitude + if negative then 1 <<< 63 else 0))

/-- The fraction `significand * 2 ^ exponent`, as numerator and denominator. -/
def ratio (significand : Nat) (exponent : Int) : Nat × Nat :=
  if 0 ≤ exponent then (significand <<< exponent.toNat, 1)
  else (significand, 1 <<< (-exponent).toNat)

end Binary64

end Moderation
