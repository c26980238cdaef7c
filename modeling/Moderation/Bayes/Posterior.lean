import Moderation.Bayes.Settings

/-!
# `Moderation.Bayes.Posterior`: how likely each category is

The categories are weighed by the rule of Bayes: how often a category occurs, times how often
each token of the text occurs in it, smoothed. The products are computed as sums of logarithms,
and before the sums are turned back the greatest is taken off all of them, so that not all of
them vanish.

* `posterior` gives the shares of the categories. A category without a text has none.
-/

set_option autoImplicit false

namespace Moderation.Bayes

/-- What a category has learned. -/
structure Standing where
  messages : Int
  tokens : Int
  deriving DecidableEq, Repr

/-- A standing whose counters are not below zero. -/
def Standing.clamped (messages tokens : Int) : Standing := ⟨max 0 messages, max 0 tokens⟩

/-- What a store says about the tokens of a text. -/
structure Evidence where
  /-- The categories, by their labels, and what they have learned. -/
  standings : List (String × Standing)
  /-- The tokens of the text and how often each occurs in it. -/
  frequencies : List (String × Nat)
  /-- How often a category has learned a token; not below zero. -/
  count : (category token : String) → Int
  /-- The number of different tokens learned; not below one. -/
  vocabularySize : Int

namespace Evidence

/-- The number of texts learned. -/
def messages (evidence : Evidence) : Int :=
  evidence.standings.foldr (fun entry total => entry.2.messages + total) 0

/-- How often a token has been learned. -/
def total (evidence : Evidence) (token : String) : Int :=
  evidence.standings.foldr (fun entry total => evidence.count entry.1 token + total) 0

end Evidence

section Scores

variable {α : Type} [Arithmetic α]

open Arithmetic

/-- Adds what a token contributes to the logarithm of a category. -/
def addToken (settings : Settings α) (evidence : Evidence) (category : String) (denominator : α)
    (score : α) (token : String × Nat) : Except ArithmeticFault α :=
  if less (ofInt (evidence.total token.1)) settings.minTokenCount then .ok score
  else do
    let smoothed ← add (ofInt (evidence.count category token.1)) settings.smoothing
    add score (← mul (ofInt token.2) (← log (← div smoothed denominator)))

/-- The logarithm of the weight of a category; none without a text learned. -/
def logScore (settings : Settings α) (evidence : Evidence) (category : String × Standing) :
    Except ArithmeticFault (Option α) :=
  if category.2.messages ≤ 0 then .ok none
  else do
    let share ← log (← div (ofInt category.2.messages) (ofInt evidence.messages))
    let smoothing ← mul settings.smoothing (ofInt evidence.vocabularySize)
    let denominator ← add (ofInt category.2.tokens) smoothing
    return some (← evidence.frequencies.foldlM
      (addToken settings evidence category.1 denominator) share)

/-- Turns logarithms of weights into shares of one. -/
def normalize (scores : List (Option α)) : Except ArithmeticFault (List α) := do
  let greatest ← maximum (scores.filterMap fun score => score)
  let weights ← scores.mapM fun score =>
    match score with
    | none => .ok none
    | some x => do return some (← exp (← sub x greatest))
  let normalizer ← sum (weights.filterMap fun weight => weight)
  weights.mapM fun weight => div (weight.getD zero) normalizer

/-- The share of each category, in the order of the categories. -/
def posterior (settings : Settings α) (evidence : Evidence) : Except ArithmeticFault (List α) := do
  normalize (← evidence.standings.mapM (logScore settings evidence))

end Scores

end Moderation.Bayes
