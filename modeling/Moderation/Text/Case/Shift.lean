/-!
# `Moderation.Text.Case.Shift`: case tables as runs

The cased letters of a script stand in order, and so do their images under a change of case.
A case table is therefore a short list of runs. A run has a step: `1` where the letters of one
case stand together, `2` where capital and small letters alternate.
-/

set_option autoImplicit false

namespace Moderation.Text

/-- The code points `first`, `first + step`, … up to `last` have the images `image`,
`image + step`, … in the same order. -/
structure Shift where
  first : Nat
  last : Nat
  step : Nat
  image : Nat

namespace Shift

/-- Whether the run holds `n`. -/
def has (shift : Shift) (n : Nat) : Bool :=
  shift.first ≤ n && n ≤ shift.last && (n - shift.first) % shift.step == 0

/-- The images of `c`: its entry in `expansions`, else its place in a run, else itself. -/
def apply (shifts : List Shift) (expansions : List (Nat × List Nat)) (c : Char) : List Char :=
  match expansions.lookup c.toNat with
  | some images => images.map Char.ofNat
  | none =>
    match shifts.find? (·.has c.toNat) with
    | some shift => [Char.ofNat (shift.image + (c.toNat - shift.first))]
    | none => [c]

end Shift

end Moderation.Text
