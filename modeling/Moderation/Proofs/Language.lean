import Moderation.Language
import Moderation.Proofs.Result

/-!
# `Moderation.Proofs.Language`: a text always has a language or the mark

What a detector does with a text depends on a guesser, which is not part of this library. All that is
asked of it is that the probabilities it gives are floats (`Guesser.IsSound`). Then too short a text,
a guess that fails, and a guess that is not believed all end in the mark of an unknown language, and
nothing else can happen (`Detector.detectOrUnknown_text`).
-/

set_option autoImplicit false

namespace Moderation.Language

/-- A guesser that gives probabilities as floats. -/
def Guesser.IsSound (guess : Guesser) : Prop :=
  ∀ text candidates, guess text = .ok candidates →
    ∀ candidate ∈ candidates, ∃ x, candidate.probability = .float x

namespace Detector

/-- The letters of a text can be counted. -/
theorem letters_text (text : String) : ∃ count, letters (.text text) = .ok count := by
  have characters (chars : List Char) :
      (chars.map fun c => Value.text (String.singleton c)).mapM Value.toText
        = .ok (chars.map String.singleton) := by
    induction chars with
    | nil => rfl
    | cons c chars ih =>
      rw [List.map_cons, List.mapM_cons, ih]
      rfl
  rw [letters]
  split
  · rw [Value.elements, ok_bind]
    dsimp only
    rw [characters, ok_bind]
    exact ⟨_, rfl⟩
  · exact ⟨_, rfl⟩

variable {guess : Guesser} (detector : Detector)

/-- If a language cannot be named, it is because detection has failed. -/
theorem detect_text (sound : guess.IsSound) (text : String) :
    (∃ language, detector.detect guess (.text text) = .ok language)
      ∨ ∃ reason, detector.detect guess (.text text) = .error (.detectionFailed reason) := by
  obtain ⟨count, counted⟩ := letters_text text
  rw [detect, counted, ok_bind]
  -- Detection fails if the text is too short, if there is no guess, or if the best one is too
  -- doubtful.
  by_cases short : (Number.whole count).lt detector.minLetters = true
  · rw [if_pos short]
    exact Or.inr ⟨_, rfl⟩
  · rw [if_neg short]
    cases guessed : guess (.text text) with
    | error reason => exact Or.inr ⟨_, rfl⟩
    | ok candidates =>
      cases candidates with
      | nil => exact Or.inr ⟨_, rfl⟩
      | cons best others =>
        obtain ⟨x, probability⟩ := sound _ _ guessed best List.mem_cons_self
        have asNumber : best.probability.toNumber = .ok (.binary x) := congrArg _ probability
        dsimp only
        rw [asNumber]
        by_cases doubtful : (Number.binary x).lt detector.minProbability = true
        · refine Or.inr ⟨.ambiguous best.language x, ?_⟩
          rw [ok_bind, if_pos doubtful]
          rfl
        · refine Or.inl ⟨best.language, ?_⟩
          rw [ok_bind, if_neg doubtful]
          rfl

/-- A text has a language, or the mark of an unknown one. -/
theorem detectOrUnknown_text (sound : guess.IsSound) (text : String) :
    ∃ language, detector.detectOrUnknown guess (.text text) = .ok language := by
  rw [detectOrUnknown]
  rcases detector.detect_text sound text with ⟨language, known⟩ | ⟨reason, failed⟩
  · rw [known]
    exact ⟨language, rfl⟩
  · rw [failed]
    exact ⟨unknown, rfl⟩

end Detector

end Moderation.Language
