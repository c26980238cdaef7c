import Moderation.Arithmetic
import Moderation.Binary64.Rounding
import Moderation.Decimal.Shortest

/-!
# `Moderation.Number`: the numbers of a configuration

A setting holds a whole number of any size or a float, and a switch counts as 0 or 1 where a
number is expected. Whole numbers stay exact until an operation mixes them with a float or
divides them; comparisons are exact throughout, whatever the two kinds.

* `Number.order` compares by value; `lt_whole` and `le_whole` say so for whole numbers.
* The instance of `Arithmetic` is the arithmetic that scores are computed with, and `Scoring` the
  class of the numbers that the numbers of a configuration can be read as.
-/

set_option autoImplicit false

namespace Moderation

/-- A whole number, a float, or a switch that counts as 0 or 1. -/
inductive Number where
  | whole (n : Int)
  | binary (x : Float)
  | switch (on : Bool)

namespace Number

/-- The whole number that a number is by its kind. -/
def int? : Number → Option Int
  | whole n => some n
  | binary _ => none
  | switch on => some (if on then 1 else 0)

/-- The float nearest to a number. -/
def toFloat : Number → Except ArithmeticFault Float
  | binary x => .ok x
  | whole n => (Binary64.ofInt? n).elim (.error .overflow) .ok
  | switch on => .ok (if on then 1 else 0)

/-! ### Order -/

/-- A point of the line with two ends: a fraction or an infinity. -/
inductive Point where
  | lowest
  | fraction (num : Int) (den : Nat)
  | highest

/-- The place of a number on the line; none for a float that is no number. -/
def point? : Number → Option Point
  | whole n => some (.fraction n 1)
  | switch on => some (.fraction (if on then 1 else 0) 1)
  | binary x =>
    match Binary64.ofFloat x with
    | .nan => none
    | .infinite negative => some (if negative then .lowest else .highest)
    | .finite negative significand exponent =>
      let ratio := Binary64.ratio significand exponent
      some (.fraction (if negative then -(ratio.1 : Int) else ratio.1) ratio.2)

/-- The order of two points. -/
def Point.order : Point → Point → Ordering
  | lowest, lowest => .eq
  | lowest, _ => .lt
  | _, lowest => .gt
  | highest, highest => .eq
  | highest, _ => .gt
  | _, highest => .lt
  | fraction num den, fraction num' den' => compare (num * den') (num' * den)

/-- The order of two numbers by value; none if one of them is no number. -/
def order (a b : Number) : Option Ordering :=
  match a.point?, b.point? with
  | some p, some q => some (p.order q)
  | _, _ => none

/-- `a < b`. -/
def lt (a b : Number) : Bool := a.order b == some .lt

/-- `a ≤ b`. -/
def le (a b : Number) : Bool := a.order b == some .lt || a.order b == some .eq

/-- `a` and `b` have one value. -/
def same (a b : Number) : Bool := a.order b == some .eq

/-- Whether the number has the value zero. -/
def isZero (a : Number) : Bool := a.same (whole 0)

/-- Integers are ordered as integers. -/
theorem order_whole (m n : Int) : (whole m).order (whole n) = some (compare m n) := by
  simp [order, point?, Point.order]

/-- An integer is less than another as an integer is. -/
theorem lt_whole (m n : Int) : (whole m).lt (whole n) = decide (m < n) := by
  simp only [lt, order_whole, compare, compareOfLessAndEq]
  split
  · next h => simp [h]
  · next h => split <;> simp [h]

/-- An integer is at most another as an integer is. -/
theorem le_whole (m n : Int) : (whole m).le (whole n) = decide (m ≤ n) := by
  simp only [le, order_whole, compare, compareOfLessAndEq]
  split
  · next h => simp [Int.le_of_lt h]
  · next h =>
    split
    · next same => simp [same]
    · next other => simp [show ¬ m ≤ n by omega]

/-- Of the integers, zero alone is zero. -/
theorem isZero_whole (n : Int) : (whole n).isZero = decide (n = 0) := by
  rw [isZero, same, order_whole, Bool.eq_iff_iff]
  simp [Std.LawfulEqCmp.compare_eq_iff_eq]

/-! ### Text -/

/-- Whether the number can be written: a whole number has a limited number of digits. -/
def isShowable : Number → Bool
  | whole n => n.natAbs < Nat.pow 10 Decimal.digitLimit
  | _ => true

/-- The number as messages show it. -/
def text : Number → String
  | whole n => toString n
  | binary x => Decimal.shortest x
  | switch on => if on then "True" else "False"

/-! ### Arithmetic -/

/-- Exact on two whole numbers, otherwise on floats. -/
def combine (exact : Int → Int → Int) (rounded : Float → Float → Float) (a b : Number) :
    Except ArithmeticFault Number :=
  match a.int?, b.int? with
  | some m, some n => .ok (whole (exact m n))
  | _, _ => do return binary (rounded (← a.toFloat) (← b.toFloat))

/-- The float nearest to the quotient of two whole numbers. -/
def quotient (m n : Int) : Except ArithmeticFault Float :=
  if n = 0 then .error .divisionByZero
  else
    (Binary64.nearest? (decide (m < 0) != decide (n < 0)) m.natAbs n.natAbs).elim
      (.error .overflow) .ok

/-- The quotient, which is a float. -/
def div (a b : Number) : Except ArithmeticFault Number :=
  match a.int?, b.int? with
  | some m, some n => binary <$> quotient m n
  | _, _ => do
    let x ← a.toFloat
    let y ← b.toFloat
    if y == 0 then .error .divisionByZero else .ok (binary (x / y))

/-- The natural logarithm. A whole number beyond the floats is halved until it is one. -/
def log : Number → Except ArithmeticFault Number
  | binary x => if x ≤ 0 then .error .logarithmDomain else .ok (binary x.log)
  | a =>
    let n := a.int?.getD 0
    if n ≤ 0 then .error .logarithmDomain
    else
      match Binary64.ofInt? n with
      | some x => .ok (binary x.log)
      | none =>
        let halvings := n.toNat.log2 - 1000
        let scaled := (Binary64.nearest? false n.toNat (1 <<< halvings)).getD 1
        .ok (binary (scaled.log + halvings.toFloat * (2 : Float).log))

/-- The exponential. -/
def exp (a : Number) : Except ArithmeticFault Number := do
  let x ← a.toFloat
  if x.exp.isInf && !x.isInf then .error .overflow else .ok (binary x.exp)

instance : Arithmetic Number where
  zero := binary 0
  ofInt := whole
  add := combine (· + ·) (· + ·)
  sub := combine (· - ·) (· - ·)
  mul := combine (· * ·) (· * ·)
  div := div
  log := log
  exp := exp
  less := lt
  atMost := le

end Number

/-- Numbers that scores can be computed with: those of a configuration can be read as such. -/
class Scoring (α : Type) extends Arithmetic α where
  ofNumber : Number → α

instance : Scoring Number := ⟨fun n => n⟩

end Moderation
