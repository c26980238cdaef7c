import Mathlib.Algebra.BigOperators.Group.Finset.Piecewise
import Mathlib.Algebra.Order.BigOperators.Group.Finset
import Moderation.Proofs.Bayes.Call

/-!
# `Moderation.Proofs.Bayes.Solvency`: which counters a failing store can bring below zero

A store that fails between two round trips leaves the five families of counters out of step, and
the calls that come later go on from there. The counters of a category (its texts, its tokens and
its counts) are read before they are lowered, and so stay at zero or above whatever fails
(`NonNeg`). The vocabulary is not read. It stays above zero as long as it covers the counts: the
total of a token is at least the sum of its counts, and the size is at least the number of tokens
whose total is positive (`Covers`).

`Sound spared` puts the two together, `spared` being the assumption that the store does not fail
where a token enters the vocabulary. Every request of every call takes a sound balance to a sound
balance, wherever the call is cut: `sound_call` is the step lemma and `sound_runAll` the induction
over runs.
-/

set_option autoImplicit false

namespace Moderation.Bayes

open Store Tokenizer

/-! ### Balances that a failing store leaves -/

/-- The counters that belong to one category. -/
def Counter.OfCategory : Counter → Prop
  | .messages _ | .tokens _ | .count _ _ => True
  | .vocabulary _ | .vocabularySize => False

/-- No counter of a category is below zero. -/
def NonNeg (balance : Balance) : Prop := ∀ a : Counter, a.OfCategory → 0 ≤ balance a

/-- The vocabulary covers the counts: the total of a token is at least the sum of its counts, and
the size is at least the number of tokens with a positive total. -/
structure Covers (balance : Balance) : Prop where
  total : ∀ (token : String) (categories : Finset String),
    ∑ category ∈ categories, balance (.count category token) ≤ balance (.vocabulary token)
  size : ∀ tokens : Finset String, (∀ token ∈ tokens, 0 < balance (.vocabulary token)) →
    (tokens.card : ℤ) ≤ balance .vocabularySize

/-- A balance that calls leave on a store that may fail. The vocabulary covers the counts if the
store spares the requests by which tokens enter the vocabulary. -/
structure Sound (spared : Prop) (balance : Balance) : Prop where
  nonNeg : NonNeg balance
  covers : spared → Covers balance

variable {balance : Balance} {category token : String} {spared : Prop}

/-- An addition to one counter leaves the others. If it is a counter of a category, it has to have
enough. -/
theorem NonNeg.add (h : NonNeg balance) {a : Counter} {delta : Int}
    (enough : a.OfCategory → 0 ≤ balance a + delta) : NonNeg (balance + Pi.single a delta) := by
  intro b hb
  by_cases same : b = a
  · subst same
    simpa using enough hb
  · simpa [same] using h b hb

/-- Mending the total of a token leaves the counters of the categories alone. -/
theorem NonNeg.mend (h : NonNeg balance) (token : String) :
    NonNeg (Function.update balance (.vocabulary token) 0) := by
  intro a ha
  have other : a ≠ .vocabulary token := fun heq => by rw [heq] at ha; exact ha
  rw [Function.update_of_ne other]
  exact h a ha

namespace Covers

/-- A total that covers the counts is not below the sum of none. -/
theorem vocabulary_nonneg (h : Covers balance) (token : String) :
    0 ≤ balance (.vocabulary token) := by
  simpa using h.total token ∅

/-- A size that covers the totals is not below the number of no tokens. -/
theorem vocabularySize_nonneg (h : Covers balance) : 0 ≤ balance .vocabularySize := by
  simpa using h.size ∅ (by simp)

/-- The texts and the tokens of a category have nothing to do with the vocabulary. -/
theorem add_of_category (h : Covers balance) {a : Counter} (delta : Int)
    (ha : a = .messages category ∨ a = .tokens category) :
    Covers (balance + Pi.single a delta) where
  total token categories := by
    rcases ha with rfl | rfl <;> simpa using h.total token categories
  size tokens htokens := by
    rcases ha with rfl | rfl <;> simpa using h.size tokens (by simpa using htokens)

/-- The sum of the counts of a token changes with one of them. -/
theorem sum_count_add (balance : Balance) (category token other : String) (delta : Int)
    (categories : Finset String) :
    ∑ c ∈ categories, (balance + Pi.single (.count category token) delta : Balance) (.count c other)
      = ∑ c ∈ categories, balance (.count c other)
        + if other = token ∧ category ∈ categories then delta else 0 := by
  simp only [Pi.add_apply, Finset.sum_add_distrib]
  congr 1
  by_cases h : other = token
  · subst h
    simp [Pi.single_apply]
  · simp [h]

/-- A token that is learned enters the vocabulary, and the vocabulary covers it. -/
theorem learnToken (h : Covers balance) (category token : String) {n : ℕ} (hn : 0 < n) :
    Covers (balance + Pi.single (.count category token) (n : ℤ)
      + Pi.single (.vocabulary token) (n : ℤ)
      + Pi.single .vocabularySize (if balance (.vocabulary token) = 0 then 1 else 0)) where
  total other categories := by
    have sum := sum_count_add balance category token other n categories
    have before := h.total other categories
    have after : (balance + Pi.single (.count category token) (n : ℤ)
          + Pi.single (.vocabulary token) (n : ℤ)
          + Pi.single .vocabularySize (if balance (.vocabulary token) = 0 then 1 else 0) : Balance)
          (.vocabulary other)
        = balance (.vocabulary other) + if other = token then (n : ℤ) else 0 := by
      simp [Pi.single_apply]
    rw [after]
    simp only [Pi.add_apply, Pi.single_apply, reduceCtorEq, if_false, add_zero] at sum ⊢
    rw [sum]
    by_cases same : other = token
    · by_cases member : category ∈ categories <;> simp [same, member] at before ⊢ <;> omega
    · simpa [same] using before
  size tokens htokens := by
    -- The token apart, all were in the vocabulary before.
    have others : ∀ other ∈ tokens.erase token, 0 < balance (.vocabulary other) := by
      intro other hother
      have hne := Finset.ne_of_mem_erase hother
      simpa [Pi.single_apply, hne] using htokens other (Finset.mem_of_mem_erase hother)
    have card : tokens.card - 1 ≤ (tokens.erase token).card := Finset.pred_card_le_card_erase
    by_cases new : balance (.vocabulary token) = 0
    · have before := h.size _ others
      simp [new]
      omega
    · have old : 0 < balance (.vocabulary token) :=
        lt_of_le_of_ne (h.vocabulary_nonneg token) (Ne.symm new)
      have before := h.size tokens fun other hother => by
        by_cases same : other = token
        · rw [same]; exact old
        · exact others other (Finset.mem_erase.mpr ⟨same, hother⟩)
      simpa [new] using before

/-- A count that falls stays covered. -/
theorem dropCount (h : Covers balance) (category token : String) {n : Int} (hn : 0 ≤ n) :
    Covers (balance + Pi.single (.count category token) (-n)) where
  total other categories := by
    have sum := sum_count_add balance category token other (-n) categories
    have before := h.total other categories
    rw [sum]
    simp only [Pi.add_apply, Pi.single_apply, reduceCtorEq, if_false, add_zero]
    split <;> omega
  size tokens htokens := by
    simpa using h.size tokens (by simpa using htokens)

/-- The total of a token may fall with a count of the token, by what the count holds at most. -/
theorem dropTotal (h : Covers balance) (category token : String) {n : Int} (hn : 0 ≤ n)
    (held : n ≤ balance (.count category token)) :
    Covers (balance + Pi.single (.count category token) (-n)
      + Pi.single (.vocabulary token) (-n)) where
  total other categories := by
    have sum := sum_count_add balance category token other (-n) categories
    simp only [Pi.add_apply, Pi.single_apply, reduceCtorEq, if_false, add_zero,
      Counter.vocabulary.injEq] at sum ⊢
    rw [sum]
    -- The total falls by as much as one count, so any sum with this count stays covered.
    by_cases same : other = token
    · subst same
      by_cases member : category ∈ categories
      · have := h.total other categories
        simp [member]
        omega
      · -- The count that falls is not in the sum, and the total covers it all the same.
        have := h.total other (insert category categories)
        rw [Finset.sum_insert member] at this
        simp [member]
        omega
    · simpa [same] using h.total other categories
  size tokens htokens := by
    have before := h.size tokens fun other hother => by
      have := htokens other hother
      simp only [Pi.add_apply, Pi.single_apply, reduceCtorEq, if_false, add_zero] at this
      split at this <;> omega
    simpa using before

/-- The size of the vocabulary may fall when the total of a token has fallen to zero. -/
theorem dropSize (h : Covers balance) (category token : String) {n : Int} (hn : 0 < n)
    (held : n ≤ balance (.count category token)) (gone : balance (.vocabulary token) = n) :
    Covers (balance + Pi.single (.count category token) (-n) + Pi.single (.vocabulary token) (-n)
      + Pi.single .vocabularySize (-1)) where
  total other categories := by
    simpa using (h.dropTotal category token hn.le held).total other categories
  size tokens htokens := by
    have positive : ∀ other ∈ tokens, other ≠ token ∧ 0 < balance (.vocabulary other) := by
      intro other hother
      have := htokens other hother
      simp only [Pi.add_apply, Pi.single_apply, reduceCtorEq, if_false, add_zero,
        Counter.vocabulary.injEq] at this
      by_cases same : other = token
      · subst same
        simp [gone] at this
      · simp [same] at this
        exact ⟨same, this⟩
    -- The token was in the vocabulary and is not among `tokens`, so the size counted it apart.
    have absent : token ∉ tokens := fun member => (positive token member).1 rfl
    have before := h.size (insert token tokens) fun other hother => by
      rcases Finset.mem_insert.mp hother with rfl | hother
      · omega
      · exact (positive other hother).2
    rw [Finset.card_insert_of_notMem absent] at before
    simp
    omega

end Covers

/-- Nothing learned is sound. -/
theorem sound_zero (spared : Prop) : Sound spared 0 where
  nonNeg _ _ := le_rfl
  covers _ :=
    { total := fun _ _ => by simp
      size := fun tokens htokens => by
        have empty : tokens = ∅ := Finset.eq_empty_of_forall_notMem fun token member =>
          absurd (htokens token member) (lt_irrefl 0)
        simp [empty] }

/-! ### Requests and calls on a store that may fail -/

/-- The texts or the tokens of a category change, and stay at zero or above. -/
theorem Sound.add_of_category (h : Sound spared balance) (a : Counter) (delta : Int)
    (ha : a = .messages category ∨ a = .tokens category) (enough : 0 ≤ balance a + delta) :
    Sound spared (balance + Pi.single a delta) where
  nonNeg := h.nonNeg.add fun _ => enough
  covers hspared := (h.covers hspared).add_of_category delta ha

/-- A content holds some sound balance. -/
def HoldsSound (spared : Prop) (scope : String) (rest content : Entries Int) : Prop :=
  ∃ balance, Holds scope rest balance content ∧ Sound spared balance

variable {terms : Terms} {fails : Request → Prop} {scope : String} {rest content : Entries Int}

/-- An addition that may fail: served, it adds to the balance, and failing, it changes nothing. -/
theorem Holds.ensures_addTo {counter : Counter} {delta : Int}
    {post : Except Error Int → Entries Int → Prop} (holds : Holds scope rest balance content)
    (proper : counter.IsProper)
    (served : ∀ after, Holds scope rest (balance + Pi.single counter delta) after →
      post (.ok (balance counter + delta)) after)
    (failed : fails (.increment (counter.key scope) delta) → ∀ e, post (.error e) content) :
    (addTo scope counter delta).Ensures (.failing fails) post content := by
  refine (Program.ensures_ask _ _).mpr ⟨trivial, fun _ => ?_, fun e he => failed he e⟩
  show post (.ok (Memory.increment content (counter.key scope) delta).1) _
  rw [holds.total_eq proper delta]
  exact served _ (holds.increment proper delta)

/-- The store spares the requests by which a token enters the vocabulary. -/
def Spares (fails : Request → Prop) (scope token : String) (n : ℕ) : Prop :=
  ¬ fails (.increment ((Counter.vocabulary token).key scope) n)
    ∧ ¬ fails (.increment (Counter.vocabularySize.key scope) 1)

/-- Learning a token keeps a balance sound, wherever it is cut. -/
theorem sound_learnToken {n : ℕ} (htoken : IsToken token) (hn : 0 < n)
    (spares : spared → Spares fails scope token n)
    (sound : HoldsSound spared scope rest content) :
    (learnToken scope category token n).Ensures (.failing fails)
      (fun _ after => HoldsSound spared scope rest after) content := by
  obtain ⟨balance, holds, sound⟩ := sound
  have count : 0 ≤ balance (.count category token) := sound.nonNeg _ trivial
  have counted : NonNeg (balance + Pi.single (.count category token) (n : ℤ)) :=
    sound.nonNeg.add fun _ => by omega
  have totalled : NonNeg (balance + Pi.single (.count category token) (n : ℤ)
      + Pi.single (.vocabulary token) (n : ℤ)) := counted.add False.elim
  rw [learnToken, Program.ensures_bind]
  refine holds.ensures_addTo htoken (fun _ holds => ?_) fun _ _ => ⟨balance, holds, sound⟩
  -- From here on the vocabulary lags behind the count. A store that spares the token does not fail
  -- before it has caught up.
  rw [Program.andThen_ok, Program.ensures_bind]
  refine holds.ensures_addTo htoken (fun _ holds => ?_) fun failed _ =>
    ⟨_, holds, counted, fun hspared => absurd failed (spares hspared).1⟩
  have total : (balance + Pi.single (.count category token) (n : ℤ) : Balance) (.vocabulary token)
      = balance (.vocabulary token) := by simp
  rw [Program.andThen_ok, total]
  by_cases new : balance (.vocabulary token) = 0
  · rw [if_pos (by omega), Program.ensures_bind]
    refine holds.ensures_addTo trivial (fun _ holds => ?_) fun failed _ =>
      ⟨_, holds, totalled, fun hspared => absurd failed (spares hspared).2⟩
    refine ⟨_, holds, totalled.add False.elim, fun hspared => ?_⟩
    have covers := (sound.covers hspared).learnToken category token hn
    rwa [if_pos new] at covers
  · rw [if_neg (by omega)]
    refine ⟨_, holds, totalled, fun hspared => ?_⟩
    have covers := (sound.covers hspared).learnToken category token hn
    rwa [if_neg new, Pi.single_zero, add_zero] at covers

/-- By induction on the tokens: learning ends at the first failure, and goes on from a sound balance
otherwise. -/
theorem sound_learnTokens {counts : Entries Nat} (htokens : ∀ entry ∈ counts, IsToken entry.1)
    (hpos : ∀ entry ∈ counts, 0 < entry.2)
    (spares : spared → ∀ entry ∈ counts, Spares fails scope entry.1 entry.2)
    (sound : HoldsSound spared scope rest content) :
    (learnTokens scope category counts).Ensures (.failing fails)
      (fun _ after => HoldsSound spared scope rest after) content := by
  induction counts generalizing content with
  | nil => exact sound
  | cons entry counts ih =>
    obtain ⟨token, n⟩ := entry
    rw [learnTokens, Program.ensures_bind]
    refine (sound_learnToken (htokens (token, n) (by simp)) (hpos (token, n) (by simp))
      (fun hspared => spares hspared (token, n) (by simp)) sound).mono fun result after sound => ?_
    -- A failure leaves the balance as sound as the tokens before it have.
    cases result with
    | error e => exact sound
    | ok _ =>
      exact ih (fun e he => htokens e (by simp [he])) (fun e he => hpos e (by simp [he]))
        (fun hspared e he => spares hspared e (by simp [he])) sound

/-- Learning a lesson keeps a balance sound, wherever it is cut. -/
theorem sound_learn (lesson : Lesson)
    (spares : spared → ∀ entry ∈ lesson.counts, Spares fails scope entry.1 entry.2)
    (sound : HoldsSound spared scope rest content) :
    (learn scope lesson.category lesson.counts).Ensures (.failing fails)
      (fun _ after => HoldsSound spared scope rest after) content := by
  obtain ⟨balance, holds, sound⟩ := sound
  have messages : 0 ≤ balance (.messages lesson.category) := sound.nonNeg _ trivial
  have tokens : 0 ≤ balance (.tokens lesson.category) := sound.nonNeg _ trivial
  rw [learn, Program.ensures_exclusively, Program.ensures_bind]
  -- First the text, then the number of its tokens: a failure leaves what was sound before the
  -- request.
  refine holds.ensures_addTo trivial (fun _ holds => ?_) fun _ _ => ⟨balance, holds, sound⟩
  have sound := sound.add_of_category (.messages lesson.category) 1 (Or.inl rfl) (by omega)
  rw [Program.andThen_ok, Program.ensures_bind]
  refine holds.ensures_addTo trivial (fun _ holds => ?_) fun _ _ => ⟨_, holds, sound⟩
  have sound := sound.add_of_category (.tokens lesson.category) (size lesson.counts) (Or.inr rfl)
    (by simp; omega)
  rw [Program.andThen_ok]
  exact sound_learnTokens lesson.isToken lesson.pos spares ⟨_, holds, sound⟩

/-- What forgetting tokens leaves, and where: the counters `kept` are as before. -/
def LeavesSound (spared : Prop) (scope : String) (rest : Entries Int) (kept : Counter → Prop)
    (before : Balance) (after : Entries Int) : Prop :=
  ∃ balance, Holds scope rest balance after ∧ Sound spared balance
    ∧ ∀ a, kept a → balance a = before a

/-- The counters that forgetting a token of a category may change. -/
def Counter.Involves (category token : String) (a : Counter) : Prop :=
  match a with
  | .count c t => c = category ∧ t = token
  | .vocabulary _ | .vocabularySize => True
  | .messages _ | .tokens _ => False

/-- What forgetting a token does not involve stays when something is added to a counter that it
involves. -/
theorem Counter.Involves.add_single {a b : Counter} (ha : a.Involves category token)
    (hb : ¬ b.Involves category token) (balance : Balance) (delta : Int) :
    (balance + Pi.single a delta : Balance) b = balance b := by
  have hne : b ≠ a := fun heq => hb (heq ▸ ha)
  simp [hne]

/-- What forgetting a token does not involve stays when the total of the token is mended. -/
theorem Counter.Involves.mend {a : Counter} (ha : ¬ a.Involves category token)
    (balance : Balance) : Function.update balance (.vocabulary token) 0 a = balance a := by
  have other : a ≠ .vocabulary token := fun heq => ha (by rw [heq]; trivial)
  exact Function.update_of_ne other _ _

/-- A token whose total has fallen to zero leaves the vocabulary. A total below zero is mended, but
it only falls so low where a token was not spared. -/
theorem sound_leave {before : Balance} {removed : Int} (htoken : IsToken token)
    (holds : Holds scope rest balance content) (nonNeg : NonNeg balance)
    (covers : spared → Covers balance)
    (leaves : spared → balance (.vocabulary token) = 0 →
      Covers (balance + Pi.single .vocabularySize (-1)))
    (same : ∀ a : Counter, ¬ a.Involves category token → balance a = before a) :
    (do
      if balance (.vocabulary token) ≤ 0 then
        if balance (.vocabulary token) < 0 then
          Program.set ((Counter.vocabulary token).key scope) 0
        let _ ← addTo scope .vocabularySize (-1)
      return removed : Program Int).Ensures (.failing fails)
      (fun _ after => LeavesSound spared scope rest (¬ ·.Involves category token) before after)
      content := by
  have stays : LeavesSound spared scope rest (¬ ·.Involves category token) before content :=
    ⟨balance, holds, ⟨nonNeg, covers⟩, same⟩
  by_cases gone : balance (.vocabulary token) ≤ 0
  · rw [if_pos gone]
    by_cases below : balance (.vocabulary token) < 0
    · -- A covered total is not below zero, so nothing has to be said of what covers it now.
      have unspared : ¬ spared := fun hspared => by
        have := (covers hspared).vocabulary_nonneg token
        omega
      rw [if_pos below, Program.ensures_bind]
      refine (Program.ensures_ask _ _).mpr ⟨trivial, fun _ => ?_, fun _ _ => stays⟩
      rw [Program.andThen_ok, Program.ensures_bind]
      have mended := holds.set (a := .vocabulary token) htoken 0
      have mendedSame (a : Counter) (ha : ¬ a.Involves category token) :
          Function.update balance (.vocabulary token) 0 a = before a := by
        rw [Counter.Involves.mend ha, same a ha]
      refine mended.ensures_addTo trivial (fun _ holds => ?_) fun _ _ =>
        ⟨_, mended, ⟨nonNeg.mend token, fun hspared => absurd hspared unspared⟩, mendedSame⟩
      refine ⟨_, holds, ⟨(nonNeg.mend token).add False.elim, fun hspared => absurd hspared unspared⟩,
        fun a ha => ?_⟩
      rw [Counter.Involves.add_single (a := .vocabularySize) trivial ha, mendedSame a ha]
    · rw [if_neg below, Program.ensures_bind]
      refine holds.ensures_addTo trivial (fun _ holds => ?_) fun _ _ => stays
      refine ⟨_, holds, ⟨nonNeg.add False.elim, fun hspared => leaves hspared (by omega)⟩,
        fun a ha => ?_⟩
      rw [Counter.Involves.add_single (a := .vocabularySize) trivial ha, same a ha]
  · rw [if_neg gone]
    exact stays

/-- Forgetting a token keeps a balance sound, wherever it is cut, if the category holds what is
said. -/
theorem sound_forgetToken {n : ℕ} {held : Int} (htoken : IsToken token)
    (holds : Holds scope rest balance content) (sound : Sound spared balance)
    (hheld : held = balance (.count category token)) :
    (forgetToken scope category token n held).Ensures (.failing fails)
      (fun _ after => LeavesSound spared scope rest (¬ ·.Involves category token) balance after)
      content := by
  have idle : LeavesSound spared scope rest (¬ ·.Involves category token) balance content :=
    ⟨balance, holds, sound, fun _ _ => rfl⟩
  rw [forgetToken]
  simp only
  by_cases none : removable n held ≤ 0
  · rw [if_pos none]
    exact idle
  have positive : 0 < removable n held := not_le.mp none
  have enough : removable n held ≤ balance (.count category token) := by
    rw [removable, hheld]
    exact min_le_right _ _
  generalize removable n held = removed at none positive enough ⊢
  -- The count falls first, and the vocabulary covers what is left of it at every cut.
  have counted : NonNeg (balance + Pi.single (.count category token) (-removed)) :=
    sound.nonNeg.add fun _ => by omega
  have involved : (Counter.count category token).Involves category token := ⟨rfl, rfl⟩
  have afterCount (a : Counter) (ha : ¬ a.Involves category token) :=
    involved.add_single ha balance (-removed)
  rw [if_neg none, Program.ensures_bind]
  refine holds.ensures_addTo htoken (fun _ holds => ?_) fun _ _ => idle
  rw [Program.andThen_ok, Program.ensures_bind]
  refine holds.ensures_addTo htoken (fun _ holds => ?_) fun _ _ =>
    ⟨_, holds, ⟨counted, fun hspared => (sound.covers hspared).dropCount category token positive.le⟩,
      afterCount⟩
  have total : (balance + Pi.single (.count category token) (-removed) : Balance)
        (.vocabulary token) + -removed
      = (balance + Pi.single (.count category token) (-removed)
          + Pi.single (.vocabulary token) (-removed) : Balance) (.vocabulary token) := by
    simp
  rw [Program.andThen_ok, total]
  refine sound_leave htoken holds (counted.add False.elim)
    (fun hspared => (sound.covers hspared).dropTotal category token positive.le enough)
    (fun hspared gone => ?_) fun a ha => ?_
  · refine (sound.covers hspared).dropSize category token positive enough ?_
    simp at gone
    omega
  · rw [Counter.Involves.add_single (a := .vocabulary token) trivial ha, afterCount a ha]

/-- Forgetting tokens keeps a balance sound, and leaves the other counters of the category alone. -/
theorem sound_forgetTokens {counts : Entries Nat} {reply : Entries Int}
    (htokens : ∀ entry ∈ counts, IsToken entry.1) (hnodup : counts.keys.Nodup)
    (holds : Holds scope rest balance content) (sound : Sound spared balance)
    (hreply : ∀ entry ∈ counts, replied reply ((Counter.count category entry.1).key scope)
      = balance (.count category entry.1)) :
    (forgetTokens scope category reply counts).Ensures (.failing fails)
      (fun _ after => LeavesSound spared scope rest
        (fun a => a = .messages category ∨ a = .tokens category) balance after) content := by
  induction counts generalizing balance content with
  | nil => exact ⟨balance, holds, sound, fun _ _ => rfl⟩
  | cons entry counts ih =>
    obtain ⟨token, n⟩ := entry
    obtain ⟨hfresh, hnodup⟩ := List.nodup_cons.mp hnodup
    rw [forgetTokens, Program.ensures_bind]
    refine (sound_forgetToken (htokens (token, n) (by simp)) holds sound
      (hreply (token, n) (by simp))).mono ?_
    rintro result after ⟨left, holds, sound, same⟩
    have own (a : Counter) (ha : a = .messages category ∨ a = .tokens category) :
        left a = balance a := same a (by rcases ha with rfl | rfl <;> exact not_false)
    cases result with
    | error e => exact ⟨left, holds, sound, own⟩
    | ok removed =>
      -- The counts of the other tokens are as the reply says.
      have others : ∀ entry ∈ counts, replied reply ((Counter.count category entry.1).key scope)
          = left (.count category entry.1) := by
        intro entry hentry
        have hne : entry.1 ≠ token := fun heq => hfresh (List.mem_map.mpr ⟨entry, hentry, heq⟩)
        rw [hreply entry (by simp [hentry]),
          same (.count category entry.1) fun involved => hne involved.2]
      rw [Program.andThen_ok, Program.ensures_bind]
      refine (ih (fun e he => htokens e (by simp [he])) hnodup holds sound others).mono ?_
      rintro result after ⟨last, holds, sound, same⟩
      have left : LeavesSound spared scope rest
          (fun a => a = .messages category ∨ a = .tokens category) balance after :=
        ⟨last, holds, sound, fun a ha => (same a ha).trans (own a ha)⟩
      cases result with
      | error e => exact left
      | ok _ => exact left

/-- Forgetting a lesson keeps a balance sound, wherever it is cut. -/
theorem sound_forget (lesson : Lesson) (sound : HoldsSound spared scope rest content) :
    (forget scope lesson.category lesson.counts).Ensures (.failing fails)
      (fun _ after => HoldsSound spared scope rest after) content := by
  obtain ⟨balance, holds, sound⟩ := sound
  rw [forget, Program.ensures_exclusively, Program.ensures_bind]
  refine (Program.ensures_getMany_iff _ _).mpr
    ⟨trivial, fun _ => ?_, fun _ _ => ⟨balance, holds, sound⟩⟩
  rw [Program.andThen_ok]
  obtain ⟨tokensHeld, messagesHeld, countsHeld⟩ := holds.reply_eq lesson
  generalize Memory.getMany content (forgetKeys scope lesson.category lesson.counts) = reply at *
  rw [Program.ensures_bind]
  refine (sound_forgetTokens lesson.isToken lesson.nodup holds sound countsHeld).mono ?_
  rintro result after ⟨left, holds, sound, same⟩
  cases result with
  | error e => exact ⟨left, holds, sound⟩
  | ok removed =>
    -- The totals of the category have not changed since the reply, so the tests on the reply are
    -- tests on what is held now.
    have tokens := (same _ (Or.inr rfl)).trans tokensHeld.symm
    have messages := (same _ (Or.inl rfl)).trans messagesHeld.symm
    rw [Program.andThen_ok]
    by_cases none : removed = 0
    · rw [if_pos none]
      exact ⟨left, holds, sound⟩
    rw [if_neg none, ← tokens, ← messages]
    dsimp only
    rw [Program.ensures_bind]
    refine holds.ensures_addTo trivial (fun after holds => ?_) fun _ _ => ⟨left, holds, sound⟩
    -- No more is taken off than there is.
    have sound := sound.add_of_category (.tokens lesson.category)
      (-min removed (left (.tokens lesson.category))) (Or.inr rfl) (by omega)
    rw [Program.andThen_ok]
    by_cases some : 0 < left (.messages lesson.category)
    · rw [if_pos some, Program.ensures_bind]
      refine holds.ensures_addTo trivial (fun _ holds => ?_) fun _ _ => ⟨_, holds, sound⟩
      exact ⟨_, holds, sound.add_of_category (.messages lesson.category) (-1) (Or.inl rfl)
        (by simp; omega)⟩
    · rw [if_neg some]
      exact ⟨_, holds, sound⟩

/-- Starting over keeps a balance sound. -/
theorem sound_reset
    (outside : ∀ key, Memory.inScope (scopeStart scope) key = true → rest.get? key = none)
    (sound : HoldsSound spared scope rest content) :
    (reset scope).Ensures (.failing fails)
      (fun _ after => HoldsSound spared scope rest after) content := by
  obtain ⟨balance, holds, sound⟩ := sound
  rw [reset, Program.ensures_exclusively, Program.ensures_bind]
  exact (Program.ensures_ask _ _).mpr ⟨trivial, fun _ => ⟨0, holds.clear outside, sound_zero spared⟩,
    fun _ _ => ⟨balance, holds, sound⟩⟩

/-! ### Runs on a store that may fail -/

variable {α : Type}

/-- The store spares the requests by which the tokens of any lesson enter the vocabulary. -/
def Classifier.Spared (classifier : Classifier α) (fails : Request → Prop) : Prop :=
  ∀ category text lesson, classifier.lesson? category text = some lesson →
    ∀ entry ∈ lesson.counts, Spares fails classifier.scope entry.1 entry.2

/-- Every call keeps a balance sound, wherever it is cut. -/
theorem sound_call {classifier : Classifier α}
    (outside : ∀ key, Memory.inScope (scopeStart classifier.scope) key = true →
      rest.get? key = none)
    (call : Call) (sound : HoldsSound (classifier.Spared fails) classifier.scope rest content) :
    (call.program classifier).Ensures (.failing fails)
      (fun _ after => HoldsSound (classifier.Spared fails) classifier.scope rest after) content := by
  -- Only learning can do harm to the vocabulary, so only there it has to be spared.
  cases call with
  | train category text =>
    exact Classifier.ensures_teach (fun _ _ => sound) fun lesson some =>
      sound_learn lesson (fun spared => spared category text lesson some) sound
  | untrain category text =>
    exact Classifier.ensures_teach (fun _ _ => sound) fun lesson _ => sound_forget lesson sound
  | reset => exact sound_reset outside sound

/-- What a run leaves in a store on the shelf that fails by a plan. -/
def Call.contentAfter [Arithmetic α] (classifier : Classifier α)
    (plan : List Request → Request → Option Outage) (id : Nat) (shelf : Shelf) (calls : List Call) :
    Entries Int :=
  Memory.contentOf id
    (runAll (classifier.strategy (watched plan (Memory.store id))) calls ([], shelf)).2

/-- Every run keeps a balance sound, whatever the plan of the outages, if the plan fails at some
given requests only. -/
theorem sound_runAll [Arithmetic α] {classifier : Classifier α} {id : Nat} {shelf : Shelf}
    (hid : id < shelf.length)
    (fresh : ∀ key, Memory.inScope (scopeStart classifier.scope) key = true →
      (Memory.contentOf id shelf).get? key = none)
    {plan : List Request → Request → Option Outage}
    (within : ∀ record r, plan record r ≠ none → fails r) (calls : List Call) :
    HoldsSound (classifier.Spared fails) classifier.scope (Memory.contentOf id shelf)
      (Call.contentAfter classifier plan id shelf calls) := by
  have honours : Honours (.failing fails) (watched plan (Memory.store id)).answer
      fun state content =>
        state.2 = shelf.set id content ∧ ∀ r ∈ state.1, (Terms.failing fails).admits r :=
    honours_watched hid (fun _ _ _ => trivial) fun record r outage h =>
      within record r (by simp [h])
  have start : HoldsSound (classifier.Spared fails) classifier.scope (Memory.contentOf id shelf)
      (Memory.contentOf id shelf) := ⟨0, (Keeps.of_outside fresh).toHolds, sound_zero _⟩
  -- Soundness is kept by each call, and so by all of them.
  obtain ⟨after, ⟨shown, -⟩, sound⟩ := Call.shows_runAll honours
    (fun (_ : Unit) content => HoldsSound (classifier.Spared fails) classifier.scope
      (Memory.contentOf id shelf) content)
    (fun _ _ => ()) (fun _ call _ sound => sound_call fresh call sound) calls () ([], shelf)
    ⟨(Memory.set_contentOf hid).symm, by simp⟩ start
  rw [Call.contentAfter, shown, Memory.contentOf_set hid]
  exact sound

/-- A sound content has no counter of a category below zero. -/
theorem HoldsSound.amount_nonneg (sound : HoldsSound spared scope rest content) {a : Counter}
    (own : a.OfCategory) (proper : a.IsProper) : 0 ≤ amount scope content a := by
  obtain ⟨balance, holds, sound⟩ := sound
  rw [holds.amount_eq a proper]
  exact sound.nonNeg a own

/-- A sound content stores nothing below zero if the vocabulary was spared. -/
theorem HoldsSound.nonneg_of_get? (sound : HoldsSound spared scope rest content) (hspared : spared)
    (outside : ∀ key, Memory.inScope (scopeStart scope) key = true → rest.get? key = none)
    {key : String} {n : Int} (hkey : Memory.inScope (scopeStart scope) key = true)
    (hn : content.get? key = some n) : 0 ≤ n := by
  obtain ⟨balance, holds, sound⟩ := sound
  obtain ⟨a, ha, rfl⟩ := holds.exists_counter outside hkey hn
  have held : n = balance a := by
    rw [← holds.amount_eq a ha, amount, replied, hn, Option.getD_some]
  have covers := sound.covers hspared
  rw [held]
  -- The counters of a category are never below zero. Those of the vocabulary cover the counts, if
  -- spared.
  cases a with
  | messages category => exact sound.nonNeg _ trivial
  | tokens category => exact sound.nonNeg _ trivial
  | count category token => exact sound.nonNeg _ trivial
  | vocabulary token => exact covers.vocabulary_nonneg token
  | vocabularySize => exact covers.vocabularySize_nonneg

end Moderation.Bayes
