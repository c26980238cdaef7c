/-!
# `Moderation.Arithmetic`: the arithmetic of scores

Scores are computed with a handful of operations, some of which have no result for some
arguments: a whole number may be too large for a float, a divisor may be zero, a logarithm is
taken of a positive number. `Arithmetic` names the operations and lets each report its fault.
The scoring functions are written once over it, and can be read over any numbers that have
these operations, the reals among them.
-/

set_option autoImplicit false

namespace Moderation

/-- Why an arithmetic operation has no result. -/
inductive ArithmeticFault where
  /-- A whole number, or a quotient of two, lies beyond the largest float. -/
  | overflow
  | divisionByZero
  /-- A logarithm of a number that is not positive. -/
  | logarithmDomain
  /-- The largest of no numbers. -/
  | emptyMaximum
  deriving DecidableEq, Repr

/-- The operations that scores are computed with. -/
class Arithmetic (α : Type) where
  zero : α
  ofInt : Int → α
  add : α → α → Except ArithmeticFault α
  sub : α → α → Except ArithmeticFault α
  mul : α → α → Except ArithmeticFault α
  div : α → α → Except ArithmeticFault α
  log : α → Except ArithmeticFault α
  exp : α → Except ArithmeticFault α
  /-- `x < y`; false also where the two cannot be compared. -/
  less : α → α → Bool
  /-- `x ≤ y`; false also where the two cannot be compared. -/
  atMost : α → α → Bool

namespace Arithmetic

variable {α : Type} [Arithmetic α]

/-- The sum of a list, from the left. -/
def sum (xs : List α) : Except ArithmeticFault α :=
  xs.foldlM (fun total x => add total x) (ofInt 0)

/-- The first of the largest numbers of a list. -/
def maximum : List α → Except ArithmeticFault α
  | [] => .error .emptyMaximum
  | x :: xs => .ok (xs.foldl (fun best y => if less best y then y else best) x)

end Arithmetic

end Moderation
