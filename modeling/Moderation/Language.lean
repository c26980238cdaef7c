import Moderation.Error
import Moderation.Text.Letter
import Moderation.Value.Conversion

/-!
# `Moderation.Language`: the language of a text

A guesser names the languages that a text may be written in, the most probable one first. A
detector does not ask it about texts with too few letters, and believes it only if the first
candidate is probable enough.

* `Detector.detect` says why the language is not known; `detectOrUnknown` gives a mark instead.
-/

set_option autoImplicit false

namespace Moderation.Language

/-- A language and how probable it is. -/
structure Candidate where
  language : Value
  probability : Value

/-- Names the languages that a text may be written in, or says why it cannot. -/
abbrev Guesser := Value → Except String (List Candidate)

/-- When a guess is asked for and believed. -/
structure Detector where
  /-- The letters that a text needs. -/
  minLetters : Number
  /-- The probability that the first candidate needs. -/
  minProbability : Number

namespace Detector

/-- A detector with limits in their ranges. -/
def check (minLetters minProbability : Value) : Except Error Detector := do
  let minLetters ← minLetters.toNumber
  if minLetters.lt (.whole 1) then throw (.invalid .minLettersBelowOne)
  let minProbability ← minProbability.toNumber
  if !((Number.whole 0).le minProbability && minProbability.le (.whole 1)) then
    throw (.invalid .minProbabilityOutOfRange)
  return { minLetters, minProbability }

/-- The detector that is used unless another is given. -/
def default : Detector := { minLetters := .whole 10, minProbability := .binary 0.5 }

/-- The detector with the limits that a table gives by name. -/
def ofTable? (table : Entries Value) : Except Error Detector := do
  table.restrictTo ["minLength", "minProbability"]
  check (table.getOr "minLength" (.number default.minLetters))
    (table.getOr "minProbability" (.number default.minProbability))

/-! ### Detection -/

/-- Whether a part of a text is made of letters. -/
def isLettered (part : String) : Bool := part != "" && part.toList.all Text.isLetter

/-- The number of letters in a text. In a list of texts, one that is made of letters counts as
one. -/
def letters (text : Value) : Except Error Nat := do
  let parts ← if text.isSet then text.elements else .ok []
  return (← parts.mapM Value.toText).countP isLettered

/-- The language of a text. -/
def detect (detector : Detector) (guess : Guesser) (text : Value) : Except Error Value := do
  let letters ← letters text
  if (Number.whole letters).lt detector.minLetters then
    throw (.detectionFailed (.tooShort letters detector.minLetters))
  match guess text with
  | .error reason => throw (.detectionFailed (.detector reason))
  | .ok [] => throw (.detectionFailed .noCandidates)
  | .ok (best :: _) =>
    let probability ← best.probability.toNumber
    if probability.lt detector.minProbability then
      let shown ← probability.toFloat.mapError Error.ofArithmetic
      throw (.detectionFailed (.ambiguous best.language shown))
    return best.language

/-- The mark of an unknown language. -/
def unknown : Value := .text "unknown"

/-- The language of a text, or the mark of an unknown one. -/
def detectOrUnknown (detector : Detector) (guess : Guesser) (text : Value) :
    Except Error Value :=
  match detector.detect guess text with
  | .error (.detectionFailed _) => .ok unknown
  | result => result

end Detector

end Moderation.Language
