import Moderation.Strategy

/-!
# `Moderation.Service.Verdict`: one verdict from many scores

Each analyzer contributes the share of spam in its scores, and the score of a text is the mean of
the shares, weighted by the weights of the analyzers. An analyzer without evidence contributes
nothing, and a text is spam if its score reaches the threshold. Without any share the evidence is
insufficient and the text is no spam.

* `spamShare` is the share of one analyzer, `Tally.add` takes it into account, and
  `Tally.verdict` closes the tally.
-/

set_option autoImplicit false

namespace Moderation.Service

open Arithmetic

variable {α : Type} [Arithmetic α]

/-- Whether two numbers have one value. -/
def isEqual (x y : α) : Bool := atMost x y && atMost y x

/-- The share of spam in some scores; none if they are no evidence. Only what names something can
be a category. -/
def spamShare (spamCategory : Value) (scores : Scores α) : Except Error (Option α) := do
  let total ← (sum (scores.map (·.2))).mapError Error.ofArithmetic
  if scores.isEmpty || atMost total (ofInt 0) then return none
  if !spamCategory.isName then throw .wrongKind
  let spam := (scores.get? spamCategory).getD zero
  return some (← (div spam total).mapError Error.ofArithmetic)

/-- The shares that have been taken into account. -/
structure Tally (α : Type) where
  /-- The shares of analyzers with evidence. -/
  shares : List (String × α)
  /-- Why analyzers could not be asked. -/
  failed : Entries String
  /-- The sum of the shares, each times its weight. -/
  weighted : α
  /-- The sum of the weights. -/
  weight : α

namespace Tally

/-- No shares. -/
def start : Tally α := ⟨[], [], zero, zero⟩

/-- Takes a share into account. -/
def add (tally : Tally α) (analyzer : String) (weight share : α) :
    Except ArithmeticFault (Tally α) := do
  let weighted ← Arithmetic.add tally.weighted (← mul weight share)
  return { tally with
    shares := tally.shares ++ [(analyzer, share)]
    weighted
    weight := ← Arithmetic.add tally.weight weight }

/-- Takes note of an analyzer that could not be asked. -/
def fail (tally : Tally α) (analyzer reason : String) : Tally α :=
  { tally with failed := tally.failed ++ [(analyzer, reason)] }

end Tally

/-- The decision about a text. -/
structure Verdict (α : Type) where
  spam : Bool
  score : α
  /-- The shares of spam of the analyzers with evidence. -/
  shares : List (String × α)
  threshold : α
  failedAnalyzers : List String
  /-- Whether no analyzer had evidence. -/
  insufficient : Bool

/-- The verdict of a tally. -/
def Tally.verdict (tally : Tally α) (threshold : α) : Except ArithmeticFault (Verdict α) := do
  let insufficient := isEqual tally.weight (ofInt 0)
  let score ← if insufficient then .ok zero else div tally.weighted tally.weight
  return { spam := !insufficient && atMost threshold score
           score
           shares := tally.shares
           threshold
           failedAnalyzers := tally.failed.keys
           insufficient }

end Moderation.Service
