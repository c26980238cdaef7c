import Moderation.Binary64.Rounding

/-!
# `Moderation.Decimal.Basic`: fractions on the decimal grid

A decimal text of a number is a whole number of units `10 ^ place`. `leadingPlace` finds the
place of the first digit, `unitsAt` rounds to a grid.

* `atLeastTen_iff` is the comparison that `leadingPlace` searches with.
-/

set_option autoImplicit false

namespace Moderation.Decimal

/-- `num / den` in units of `10 ^ place`, as numerator and denominator. -/
def scale (num den : Nat) (place : Int) : Nat × Nat :=
  if 0 ≤ place then (num, den * Nat.pow 10 place.toNat)
  else (num * Nat.pow 10 (-place).toNat, den)

/-- Whether `10 ^ place ≤ num / den`. -/
def atLeastTen (num den : Nat) (place : Int) : Bool :=
  let scaled := scale num den place
  scaled.2 ≤ scaled.1

/-- The highest place at or above `place`, and at most `steps` above it, that `num / den`
reaches. -/
def climb (num den : Nat) : (steps : Nat) → (place : Int) → Int
  | 0, place => place
  | steps + 1, place =>
    if atLeastTen num den (place + 1) then climb num den steps (place + 1) else place

/-- The place of the first digit of `num / den`: the greatest `k` with `10 ^ k ≤ num / den`. The
binary logarithms give it up to a few units. -/
def leadingPlace (num den : Nat) : Int :=
  let binary : Int := (num.log2 : Int) - den.log2 - 1
  climb num den 5 (binary * 30103 / 100000 - 2)

/-- `num / den` rounded to whole units of `10 ^ place`, half to even. -/
def unitsAt (num den : Nat) (place : Int) : Nat :=
  let scaled := scale num den place
  roundHalfEven scaled.1 scaled.2

/-- A quotient reaches a power of ten, be the exponent positive or negative. -/
theorem atLeastTen_iff (num den : Nat) (place : Int) :
    atLeastTen num den place = true ↔
      den * Nat.pow 10 place.toNat ≤ num * Nat.pow 10 (-place).toNat := by
  unfold atLeastTen scale
  split
  · next h => simp [Int.toNat_of_nonpos (show -place ≤ 0 by omega)]
  · next h => simp [Int.toNat_of_nonpos (show place ≤ 0 by omega)]

/-- The number of digits that a whole number may have where it is read or written in base ten. -/
def digitLimit : Nat := 4300

/-- The decimal digits of `n`, at least `width` of them. -/
def padded (width n : Nat) : List Char :=
  let digits := (toString n).toList
  List.replicate (width - digits.length) '0' ++ digits

end Moderation.Decimal
