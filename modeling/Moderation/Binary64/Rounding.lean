import Moderation.Binary64.Basic

/-!
# `Moderation.Binary64.Rounding`: the float nearest to a fraction

Numerals, whole numbers and quotients of whole numbers become floats by one rule: the float
nearest to the exact value, and of two equally near ones the even one. The rule is stated on
fractions of naturals, so nothing is lost before the one rounding.

* `roundHalfEven_mul` says that an exact quotient is not changed.
-/

set_option autoImplicit false

namespace Moderation

/-- The whole number nearest to `num / den`; of two equally near ones the even one. -/
def roundHalfEven (num den : Nat) : Nat :=
  let quotient := num / den
  let rest := num % den
  if 2 * rest < den then quotient
  else if den < 2 * rest then quotient + 1
  else quotient + quotient % 2

/-- A quotient without remainder needs no rounding. -/
theorem roundHalfEven_mul (n : Nat) {den : Nat} (h : 0 < den) :
    roundHalfEven (n * den) den = n := by
  simp [roundHalfEven, Nat.mul_div_cancel n h, h]

namespace Binary64

/-- `num / den` divided by `2 ^ exponent`, as numerator and denominator. -/
def scale (num den : Nat) (exponent : Int) : Nat × Nat :=
  if 0 ≤ exponent then (num, den <<< exponent.toNat)
  else (num <<< (-exponent).toNat, den)

/-- The exponent at which the significand of `num / den` has 53 bits. -/
def fittingExponent (num den : Nat) : Int :=
  let guess : Int := (num.log2 : Int) - den.log2 - 52
  let scaled := scale num den guess
  if scaled.1 < normal * scaled.2 then guess - 1 else guess

/-- The float nearest to `num / den`; none if that lies beyond the largest float. -/
def nearest? (negative : Bool) (num den : Nat) : Option Float :=
  let exponent := max lowestExponent (fittingExponent num den)
  let scaled := scale num den exponent
  let significand := roundHalfEven scaled.1 scaled.2
  let fields : Nat × Int :=
    if significand = 2 * normal then (normal, exponent + 1) else (significand, exponent)
  if highestExponent < fields.2 then none else some (ofFields negative fields.1 fields.2)

/-- The infinity of a sign. -/
def infinity (negative : Bool) : Float :=
  Float.ofBits (if negative then 0xfff0000000000000 else 0x7ff0000000000000)

/-- The float that is no number. -/
def notANumber : Float := Float.ofBits 0x7ff8000000000000

/-- The float nearest to a whole number; none if it lies beyond the largest float. -/
def ofInt? (n : Int) : Option Float := nearest? (n < 0) n.natAbs 1

end Binary64

end Moderation
