import Mathlib.Analysis.SpecialFunctions.Log.Basic
import Moderation.Number

/-!
# `Moderation.Proofs.Exact`: scores as real numbers

Scores are computed over any numbers with an `Arithmetic`. Over the reals its operations are exact,
and only a divisor of zero and the logarithm of a number that is not positive are at fault.

The numbers of a configuration are points of the line (`Number.point?`), and `Number.value` is the
point that a number is.
-/

set_option autoImplicit false

namespace Moderation

/-- The arithmetic of scores on real numbers. Nothing overflows. -/
noncomputable instance : Arithmetic ℝ where
  zero := 0
  ofInt n := n
  add x y := .ok (x + y)
  sub x y := .ok (x - y)
  mul x y := .ok (x * y)
  div x y := if y = 0 then .error .divisionByZero else .ok (x / y)
  log x := if x ≤ 0 then .error .logarithmDomain else .ok (Real.log x)
  exp x := .ok (Real.exp x)
  less x y := decide (x < y)
  atMost x y := decide (x ≤ y)

namespace Arithmetic

/-- A whole number is itself among the real numbers. -/
theorem ofInt_real (n : Int) : (ofInt n : ℝ) = n := rfl

/-- Nothing overflows in a sum. -/
theorem add_real (x y : ℝ) : add x y = .ok (x + y) := rfl

/-- Nothing overflows in a product. -/
theorem mul_real (x y : ℝ) : mul x y = .ok (x * y) := rfl

/-- Comparing is decided by the order of the line. -/
theorem less_real (x y : ℝ) : less x y = true ↔ x < y := decide_eq_true_iff

/-- The other comparison, likewise. -/
theorem atMost_real (x y : ℝ) : atMost x y = decide (x ≤ y) := rfl

/-- A divisor other than zero gives the quotient. -/
theorem div_real {x y : ℝ} (h : y ≠ 0) : div x y = .ok (x / y) := if_neg h

/-- A positive number has a logarithm. -/
theorem log_real {x : ℝ} (h : 0 < x) : log x = .ok (Real.log x) := if_neg (not_le.mpr h)

/-- There is a greatest of some numbers unless there are none. Which one it is does not matter to
the scores. -/
theorem maximum_real {xs : List ℝ} (h : xs ≠ []) : ∃ greatest, maximum xs = .ok greatest := by
  cases xs with
  | nil => exact absurd rfl h
  | cons x rest => exact ⟨_, rfl⟩

/-- The sum of scores is the sum of the numbers. -/
theorem sum_real (xs : List ℝ) : sum xs = .ok xs.sum := by
  -- The sum starts from zero, but the induction on the list needs any start.
  have fold : ∀ total : ℝ, xs.foldlM (fun total x => add total x) total
      = (.ok (total + xs.sum) : Except ArithmeticFault ℝ) := by
    induction xs with
    | nil => intro total; simp [pure, Except.pure]
    | cons x rest ih =>
      intro total
      rw [List.foldlM_cons, List.sum_cons, ← add_assoc]
      exact ih (total + x)
  have := fold 0
  rw [zero_add] at this
  simpa [sum, ofInt] using this

end Arithmetic

/-! ### The numbers of a configuration -/

/-- The value of a number, or zero if it is infinite or no number. -/
noncomputable def Number.value (n : Number) : ℝ :=
  match n.point? with
  | some (.fraction num den) => num / den
  | _ => 0

/-- A whole number of a configuration is the same number on the line. -/
theorem Number.value_whole (n : Int) : (whole n).value = n := by
  simp [value, point?]

noncomputable instance : Scoring ℝ where
  ofNumber := Number.value

end Moderation
