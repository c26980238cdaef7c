import Moderation.Proofs.Bayes.HalfLearned

/-!
# `Moderation.Proofs.Bayes.Outages`: the outages that bring a counter below zero

Forgetting is meant to leave no counter below zero. Here is what becomes of this on a store that may
fail at any request, for every run and every plan of outages.

* `nonneg_runAll_iff`: the counters of a category are never below zero, and all counters are not if
  and only if the store spares the requests by which a token enters the vocabulary.
* `vocabularySize_spamFilter_of_outage`: a store that does not, and is left with a vocabulary of
  size minus one by two calls.

That sparing is enough is the invariant of `Moderation.Proofs.Bayes.Solvency`. That it is needed is
the run of `Moderation.Proofs.Bayes.HalfLearned`, on a store that fails at one such request.
-/

set_option autoImplicit false

namespace Moderation.Bayes

open Store

variable {α : Type} {scope token : String}

/-! ### A store that fails where a token enters the vocabulary -/

/-- The plan of a store that fails at one request, whenever it is made. -/
def outageAt (r : Request) : List Request → Request → Option Outage :=
  fun _ q => if q = r then some (.stated "connection lost") else none

/-- The requests by which a token enters the vocabulary lower no number. -/
theorem increment_ne_entry_of_nonpos {key : String} {n : ℕ} {delta : Int} {r : Request} (hn : 0 < n)
    (hr : r ∈ entryRequests scope token n) (hdelta : delta ≤ 0) : .increment key delta ≠ r := by
  rintro rfl
  rcases mem_entryRequests.mp hr with heq | heq
  · obtain ⟨-, rfl⟩ := Request.increment.inj heq
    omega
  · obtain ⟨-, rfl⟩ := Request.increment.inj heq
    omega

/-- A store that fails at one request by which a token of a lesson enters the vocabulary, and at no
other, is brought below zero by learning the lesson and forgetting it. -/
theorem amount_outageAt [Arithmetic α] {classifier : Classifier α} {id : Nat} {shelf : Shelf}
    (hid : id < shelf.length)
    (fresh : ∀ key, Memory.inScope (scopeStart classifier.scope) key = true →
      (Memory.contentOf id shelf).get? key = none)
    {category text : Value} {lesson : Lesson} {entry : String × ℕ} {r : Request}
    (hlesson : classifier.lesson? category text = some lesson) (hentry : entry ∈ lesson.counts)
    (hr : r ∈ entryRequests classifier.scope entry.1 entry.2) :
    amount classifier.scope (Call.contentAfter classifier (outageAt r) id shelf
      [.train category text, .untrain category text]) .vocabularySize = -1 := by
  have honours : Honours (.failingAt r) (watched (outageAt r) (Memory.store id)).answer
      fun state content => state.2 = shelf.set id content ∧ ∀ q ∈ state.1, True := by
    refine honours_watched hid (fun record q h => ?_) fun record q outage h => ?_
    · rintro rfl
      simp [outageAt] at h
    · by_contra hne
      simp [outageAt, show q ≠ r from hne] at h
  have learned : ((Call.train category text).program classifier).Ensures (.failingAt r)
      (fun _ after => HalfLearned classifier.scope (Memory.contentOf id shelf) lesson after)
      (Memory.contentOf id shelf) :=
    Classifier.ensures_teach_lesson hlesson
      (learn_halfLearned lesson hentry hr (Keeps.of_nothing fresh))
  obtain ⟨content, shown, half⟩ :=
    learned.run honours ([], shelf) ⟨(Memory.set_contentOf hid).symm, by simp⟩
  have forgotten : ((Call.untrain category text).program classifier).Ensures (.failingAt r)
      (fun _ after => amount classifier.scope after .vocabularySize = -1) content := by
    -- Forgetting looks numbers up, lowers and sets them, and the store fails at none of these.
    have sets (key : String) (value : Int) : .set key value ≠ r := by
      rintro rfl
      simp [entryRequests] at hr
    have reads (keys : List String) : .getMany keys ≠ r := by
      rintro rfl
      simp [entryRequests] at hr
    exact Classifier.ensures_teach_lesson hlesson (forget_halfLearned lesson (fun _ => trivial)
      (fun _ _ hle => Terms.failingAt_grants
        (increment_ne_entry_of_nonpos (lesson.pos entry hentry) hr hle))
      (fun _ _ => Terms.failingAt_grants (sets _ _)) (fun _ => Terms.failingAt_grants (reads _))
      half)
  obtain ⟨after, ⟨shown, -⟩, owed⟩ := forgotten.run honours _ shown
  rw [← Call.act_strategy, ← Call.act_strategy] at shown
  have final : (Call.runAll (classifier.strategy (watched (outageAt r) (Memory.store id)))
      [.train category text, .untrain category text] ([], shelf)).2 = shelf.set id after := shown
  rw [Call.contentAfter, final, Memory.contentOf_set hid]
  exact owed

/-! ### Every run, on every store -/

/-- A store that does not spare a lesson fails at a request by which a token of it enters the
vocabulary. -/
theorem exists_entry_of_not_spared {classifier : Classifier α} {fails : Request → Prop}
    (h : ¬ classifier.Spared fails) :
    ∃ category text lesson, classifier.lesson? category text = some lesson
      ∧ ∃ entry ∈ lesson.counts, ∃ r ∈ entryRequests classifier.scope entry.1 entry.2, fails r := by
  by_contra none
  refine h fun category text lesson hlesson entry hentry => ⟨fun failed => none ?_, fun failed =>
    none ?_⟩
  · exact ⟨category, text, lesson, hlesson, entry, hentry, _, List.mem_cons_self, failed⟩
  · exact ⟨category, text, lesson, hlesson, entry, hentry, _,
      List.mem_cons_of_mem _ List.mem_cons_self, failed⟩

/-- What a failing store brings below zero, in every run and for every plan of outages. No counter
of a category is, whatever the store fails at. No number of the scope is, if and only if the store
spares the requests by which the tokens of a lesson enter the vocabulary. -/
theorem nonneg_runAll_iff [Arithmetic α] (classifier : Classifier α) {id : Nat} {shelf : Shelf}
    (hid : id < shelf.length)
    (fresh : ∀ key, Memory.inScope (scopeStart classifier.scope) key = true →
      (Memory.contentOf id shelf).get? key = none)
    (fails : Request → Prop) :
    (∀ plan calls (a : Counter), a.OfCategory → a.IsProper →
      0 ≤ amount classifier.scope (Call.contentAfter classifier plan id shelf calls) a)
    ∧ ((∀ plan, (∀ record r, plan record r ≠ none → fails r) → ∀ calls key n,
        Memory.inScope (scopeStart classifier.scope) key = true →
        (Call.contentAfter classifier plan id shelf calls).get? key = some n → 0 ≤ n)
      ↔ classifier.Spared fails) := by
  refine ⟨fun plan calls a own proper => ?_, fun nonneg => ?_,
    fun spared plan within calls key n hkey hn => ?_⟩
  · have within : ∀ record r, plan record r ≠ none → True := fun _ _ _ => trivial
    exact (sound_runAll hid fresh within calls).amount_nonneg own proper
  · -- One run is enough, on the store that fails at the one request that is not spared.
    by_contra unspared
    obtain ⟨category, text, lesson, hlesson, entry, hentry, r, hr, failed⟩ :=
      exists_entry_of_not_spared unspared
    have owed := amount_outageAt hid fresh hlesson hentry hr
    have within : ∀ record q, outageAt r record q ≠ none → fails q := by
      intro record q h
      by_cases same : q = r
      · rw [same]
        exact failed
      · exact absurd (if_neg same) h
    have stored : (Call.contentAfter classifier (outageAt r) id shelf
        [.train category text, .untrain category text]).get?
          (Counter.vocabularySize.key classifier.scope) = some (-1) := by
      rw [amount, replied] at owed
      cases found : Entries.get? _ _ with
      | none =>
        rw [found] at owed
        cases owed
      | some n =>
        rw [found] at owed
        exact congrArg some owed
    have := nonneg (outageAt r) within _ _ _ (Counter.inScope_key _ _) stored
    omega
  · exact (sound_runAll hid fresh within calls).nonneg_of_get? spared fresh hkey hn

/-- A store that fails at any request but those that raise a number leaves nothing below zero. -/
theorem nonneg_spamFilter :
    let fails : Request → Prop := fun r => ∀ key delta, r = .increment key delta → delta ≤ 0
    spamFilter.Spared fails
      ∧ ∀ plan, (∀ record r, plan record r ≠ none → fails r) → ∀ calls key n,
        Memory.inScope (scopeStart spamFilter.scope) key = true →
        (Call.contentAfter spamFilter plan 0 [[]] calls).get? key = some n → 0 ≤ n := by
  intro fails
  -- The requests of a lesson that have to be spared raise numbers, and the store does not fail at
  -- these.
  have spared : spamFilter.Spared fails := by
    intro category text lesson _ entry hentry
    have := lesson.pos entry hentry
    exact ⟨fun h => absurd (h _ _ rfl) (by omega), fun h => absurd (h _ _ rfl) (by omega)⟩
  refine ⟨spared, ((nonneg_runAll_iff spamFilter ?_ ?_ fails).2).mpr spared⟩
  · decide
  · intro key _
    rfl

/-- A store that fails once, at the fifth request, is left with a vocabulary of size minus one. -/
theorem vocabularySize_spamFilter_of_outage :
    Call.contentAfter spamFilter
        (fun record _ => if record.length = 4 then some (.stated "connection lost") else none)
        0 [[]] [.train (.text "spam") (.text "cheap"), .untrain (.text "spam") (.text "cheap")]
      = [("mail:vocsize", -1)] := by
  decide +kernel

end Moderation.Bayes
