import Moderation.Bayes.Classifier
import Moderation.Proofs.Store.Zeros

/-!
# `Moderation.Proofs.Bayes.Steps`: the requests of a classifier

All that a classifier takes from a reply is how much a counter counts. So its programs do not tell a
zero from an absent counter. Those that write make all their requests inside the lock
(`InsideLock`), the others make theirs without it.
-/

set_option autoImplicit false

namespace Moderation.Bayes

open Store Program

variable {α : Type}

/-- A program whose requests are made inside the lock, by a program that ignores zeros. -/
def InsideLock (program : Program Unit) : Prop :=
  ∃ body : Program Unit, body.IgnoresZeros ∧ program = exclusively body

/-! ### Writing -/

section

variable (scope category : String)

/-- A counter that is absent counts from zero. -/
theorem ignoresZeros_addTo (counter : Counter) (delta : Int) :
    (addTo scope counter delta).IgnoresZeros := ignoresZeros_increment _ _

/-- Whether the vocabulary grows is decided by the new total, and not by whether there was a
counter. -/
theorem ignoresZeros_learnToken (token : String) (count : Nat) :
    (learnToken scope category token count).IgnoresZeros := by
  refine (ignoresZeros_addTo ..).bind fun _ => (ignoresZeros_addTo ..).bind fun total => ?_
  split
  · exact (ignoresZeros_addTo ..).bind fun _ => ignoresZeros_pure ()
  · exact ignoresZeros_pure ()

/-- By induction on the tokens, which are learned one after the other. -/
theorem ignoresZeros_learnTokens (counts : Entries Nat) :
    (learnTokens scope category counts).IgnoresZeros := by
  induction counts with
  | nil => exact ignoresZeros_pure ()
  | cons entry counts ih => exact (ignoresZeros_learnToken ..).bind fun _ => ih

/-- The two totals of the category and the tokens are learned inside one lock. -/
theorem insideLock_learn (counts : Entries Nat) : InsideLock (learn scope category counts) :=
  ⟨_, (ignoresZeros_addTo ..).bind fun _ => (ignoresZeros_addTo ..).bind fun _ =>
    ignoresZeros_learnTokens .., rfl⟩

/-- How much of a token is removed depends on what the counter held, where absent is nothing. -/
theorem ignoresZeros_forgetToken (token : String) (count : Nat) (held : Int) :
    (forgetToken scope category token count held).IgnoresZeros := by
  rw [forgetToken]
  split
  · exact ignoresZeros_pure _
  · refine (ignoresZeros_addTo ..).bind fun _ => (ignoresZeros_addTo ..).bind fun total => ?_
    split
    · -- The token leaves the vocabulary; a total below zero is put back first.
      split
      · exact (ignoresZeros_set ..).bind fun _ => (ignoresZeros_addTo ..).bind fun _ =>
          ignoresZeros_pure _
      · exact (ignoresZeros_addTo ..).bind fun _ => ignoresZeros_pure _
    · exact ignoresZeros_pure _

/-- By induction on the tokens, each of which is looked up in the same reply. -/
theorem ignoresZeros_forgetTokens (reply : Entries Int) (counts : Entries Nat) :
    (forgetTokens scope category reply counts).IgnoresZeros := by
  induction counts with
  | nil => exact ignoresZeros_pure _
  | cons entry counts ih =>
    exact (ignoresZeros_forgetToken ..).bind fun _ => ih.bind fun _ => ignoresZeros_pure _

/-- Forgetting tokens looks at what a reply counts. -/
theorem forgetTokens_congr {reply reply' : Entries Int} (same : replied reply = replied reply')
    (counts : Entries Nat) :
    forgetTokens scope category reply counts = forgetTokens scope category reply' counts := by
  induction counts with
  | nil => rfl
  | cons entry counts ih => rw [forgetTokens, forgetTokens, same, ih]

/-- Forgetting asks for all counters at once, removes what they hold of the tokens and lowers the
totals, all inside one lock. -/
theorem insideLock_forget (counts : Entries Nat) : InsideLock (forget scope category counts) := by
  refine ⟨_, ignoresZeros_getMany (fun reply reply' same => ?_) fun reply => ?_, rfl⟩
  · rw [forgetTokens_congr scope category same, same]
  · refine (ignoresZeros_forgetTokens ..).bind fun removed => ?_
    split
    · exact ignoresZeros_pure ()
    · refine (ignoresZeros_addTo ..).bind fun _ => ?_
      split
      · exact (ignoresZeros_addTo ..).bind fun _ => ignoresZeros_pure ()
      · exact ignoresZeros_pure ()

end

/-! ### Reading -/

namespace Classifier

variable (classifier : Classifier α)

/-- The learned texts and tokens of each category, read at once. -/
theorem ignoresZeros_standings : classifier.standings.IgnoresZeros := by
  refine ignoresZeros_getMany (fun reply reply' same => ?_) fun _ => ignoresZeros_pure _
  rw [same]

/-- The counters of some tokens in all categories, read at once. -/
theorem ignoresZeros_tokenCounts (tokens : List String) :
    (classifier.tokenCounts tokens).IgnoresZeros := by
  refine ignoresZeros_getMany (fun reply reply' same => ?_) fun _ => ignoresZeros_pure _
  rw [same]

/-- The size of the vocabulary, read alone. -/
theorem ignoresZeros_vocabularySize : classifier.vocabularySize.IgnoresZeros := by
  refine ignoresZeros_get (fun reply reply' same => ?_) fun _ => ignoresZeros_pure _
  rw [same]

/-- A survey is made of the standings and the size of the vocabulary. -/
theorem ignoresZeros_survey : classifier.survey.IgnoresZeros :=
  classifier.ignoresZeros_standings.bind fun _ =>
    classifier.ignoresZeros_vocabularySize.bind fun _ => ignoresZeros_pure _

/-- The counts of tokens are told as they were read. -/
theorem ignoresZeros_tokenStats (tokens : List String) :
    (classifier.tokenStats tokens).IgnoresZeros :=
  (classifier.ignoresZeros_tokenCounts tokens).bind fun _ => ignoresZeros_pure _

/-- Classifying reads up to three times, and stops early for a text without tokens or a classifier
that has learned nothing. -/
theorem ignoresZeros_classify [Arithmetic α] (text : Value) :
    (classifier.classify text).IgnoresZeros := by
  refine (ignoresZeros_ofExcept _).bind fun tokens => ?_
  split
  · exact ignoresZeros_pure _
  refine (ignoresZeros_ofExcept _).bind fun _ => classifier.ignoresZeros_standings.bind fun _ => ?_
  split
  · exact ignoresZeros_pure _
  exact (classifier.ignoresZeros_tokenCounts _).bind fun _ =>
    classifier.ignoresZeros_vocabularySize.bind fun _ =>
      (ignoresZeros_ofExcept _).bind fun _ => ignoresZeros_pure _

end Classifier

end Moderation.Bayes
