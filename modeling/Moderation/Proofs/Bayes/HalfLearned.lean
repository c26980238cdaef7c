import Moderation.Proofs.Bayes.Solvency

/-!
# `Moderation.Proofs.Bayes.HalfLearned`: a token that has not entered the vocabulary

A token is learned in up to three requests. A store that fails after the first leaves a count
without a place in the vocabulary, and forgetting takes the token out of the vocabulary all the
same: its size ends below zero. Here this is followed for every lesson, the store failing at one
request by which a token of the lesson enters the vocabulary (`entryRequests`), and at no other.

* `learn_halfLearned`: learning ends at such a token, which is counted and no more;
* `forget_halfLearned`: forgetting the lesson then leaves the size of the vocabulary at minus one.
-/

set_option autoImplicit false

namespace Moderation.Bayes

open Store Tokenizer

/-! ### Loops in two parts -/

/-- Learning tokens in two parts is learning the first and then the second. -/
theorem learnTokens_append (scope category : String) (counts behind : Entries Nat) :
    learnTokens scope category (counts ++ behind)
      = learnTokens scope category counts >>= fun _ => learnTokens scope category behind := by
  induction counts with
  | nil => exact (pure_bind _ _).symm
  | cons entry counts ih =>
    rw [List.cons_append, learnTokens, learnTokens, ih, bind_assoc]

/-- Forgetting tokens in two parts is forgetting the first and then the second; what is removed adds
up. -/
theorem forgetTokens_append (scope category : String) (reply : Entries Int)
    (counts behind : Entries Nat) :
    forgetTokens scope category reply (counts ++ behind)
      = forgetTokens scope category reply counts >>= fun removed => do
          return removed + (← forgetTokens scope category reply behind) := by
  induction counts with
  | nil => simp only [List.nil_append, forgetTokens, pure_bind, Int.zero_add, bind_pure]
  | cons entry counts ih =>
    simp only [List.cons_append, forgetTokens, ih, bind_assoc, pure_bind, Int.add_assoc]

/-- What a category does not hold is not asked for. -/
theorem forgetTokens_of_none {scope category : String} {reply : Entries Int} {counts : Entries Nat}
    (none : ∀ entry ∈ counts,
      replied reply ((Counter.count category entry.1).key scope) = 0) :
    forgetTokens scope category reply counts = pure 0 := by
  induction counts with
  | nil => rfl
  | cons entry counts ih =>
    rw [forgetTokens, ih fun e he => none e (by simp [he]), none entry (by simp), forgetToken]
    simp [removable]

/-! ### A store that fails at one request -/

variable {scope category token : String} {rest content : Entries Int} {balance : Balance}

/-- The requests by which a token enters the vocabulary. -/
def entryRequests (scope token : String) (n : ℕ) : List Request :=
  [.increment ((Counter.vocabulary token).key scope) n,
    .increment (Counter.vocabularySize.key scope) 1]

/-- There are two such requests: one adds to the total of the token and one to the size of the
vocabulary. -/
theorem mem_entryRequests {n : ℕ} {r : Request} :
    r ∈ entryRequests scope token n
      ↔ r = .increment ((Counter.vocabulary token).key scope) n
        ∨ r = .increment (Counter.vocabularySize.key scope) 1 := by
  simp [entryRequests]

/-- Additions to different counters are different requests. -/
theorem increment_ne (a b : Counter) (ha : a.IsProper) (hb : b.IsProper) (h : a ≠ b)
    (delta delta' : Int) :
    Request.increment (a.key scope) delta ≠ .increment (b.key scope) delta' :=
  fun heq => h (Counter.key_inj ha hb (Request.increment.inj heq).1)

/-- No counter of a category is changed by the requests by which a token enters the vocabulary. -/
theorem increment_ne_entry {a : Counter} {n : ℕ} {r : Request} (proper : a.IsProper)
    (own : a.OfCategory) (htoken : IsToken token) (hr : r ∈ entryRequests scope token n)
    (delta : Int) : .increment (a.key scope) delta ≠ r := by
  rcases mem_entryRequests.mp hr with rfl | rfl
  · exact increment_ne a (.vocabulary token) proper htoken (fun heq => by rw [heq] at own; exact own)
      _ _
  · exact increment_ne a .vocabularySize proper trivial (fun heq => by rw [heq] at own; exact own)
      _ _

/-- An addition at which the store fails changes nothing. -/
theorem ensures_addTo_failing {counter : Counter} {delta : Int}
    {post : Except Error Int → Entries Int → Prop} (h : ∀ e, post (.error e) content) :
    (addTo scope counter delta).Ensures (.failingAt (.increment (counter.key scope) delta)) post
      content :=
  (Program.ensures_ask _ _).mpr ⟨trivial, fun served => absurd rfl served, fun e _ => h e⟩

/-- A token fails to enter the vocabulary: it is counted, and some part of its total is there. -/
theorem learnToken_halfLearned {n : ℕ} {r : Request} (htoken : IsToken token)
    (hr : r ∈ entryRequests scope token n) (new : balance (.vocabulary token) = 0)
    (keeps : Keeps scope rest balance content) :
    (learnToken scope category token n).Ensures (.failingAt r)
      (fun result after => (∃ e, result = .error e) ∧ ∃ total : ℕ, total ≤ n
        ∧ Keeps scope rest (balance + Pi.single (.count category token) (n : ℤ)
          + Pi.single (.vocabulary token) (total : ℤ)) after) content := by
  rw [learnToken, Program.ensures_bind]
  have counted := increment_ne_entry (a := .count category token) htoken trivial htoken hr n
  refine ensures_addTo (Terms.failingAt_grants counted) htoken keeps fun _ keeps => ?_
  rw [Program.andThen_ok, Program.ensures_bind]
  rcases mem_entryRequests.mp hr with rfl | rfl
  · -- The total cannot be raised.
    refine ensures_addTo_failing fun e => ⟨⟨e, rfl⟩, 0, Nat.zero_le _, ?_⟩
    simpa using keeps
  · -- The total is raised, and it was zero, so the size would be next.
    have granted : (Terms.failingAt (.increment (Counter.vocabularySize.key scope) 1)).Grants
        (.increment ((Counter.vocabulary token).key scope) n) :=
      Terms.failingAt_grants
        (increment_ne (.vocabulary token) .vocabularySize htoken trivial (by simp) _ _)
    refine ensures_addTo granted htoken keeps fun _ keeps => ?_
    have total : (balance + Pi.single (.count category token) (n : ℤ) : Balance)
        (.vocabulary token) = 0 := by simpa using new
    rw [Program.andThen_ok, total, if_pos (by omega), Program.ensures_bind]
    exact ensures_addTo_failing fun e => ⟨⟨e, rfl⟩, n, le_rfl, keeps⟩

/-- A lesson is half learned: some tokens have been learned, the next is counted but not part of the
vocabulary, and nothing is known of those behind it. -/
def HalfLearned (scope : String) (rest : Entries Int) (lesson : Lesson) (content : Entries Int) :
    Prop :=
  ∃ (before behind : Entries Nat) (token : String) (n total : ℕ) (ahead : Int),
    lesson.counts = before ++ (token, n) :: behind ∧ total ≤ n
      ∧ Keeps scope rest
        ((Stock.ofMessage lesson.category + Stock.ofCounts lesson.category before).balance
          + (Pi.single (.tokens lesson.category) ahead
            + Pi.single (.count lesson.category token) (n : ℤ)
            + Pi.single (.vocabulary token) (total : ℤ))) content

/-- Each token stands in a lesson once. -/
theorem Lesson.notMem_of_split (lesson : Lesson) {before behind : Entries Nat} {n : ℕ}
    (split : lesson.counts = before ++ (token, n) :: behind) :
    before.keys.Nodup ∧ token ∉ before.keys
      ∧ ∀ other ∈ behind.keys, other ≠ token ∧ other ∉ before.keys := by
  have nodup := lesson.nodup
  rw [Entries.keys, split, List.map_append, List.map_cons, List.nodup_append] at nodup
  obtain ⟨head, tail, disjoint⟩ := nodup
  refine ⟨head, fun member => disjoint _ member _ List.mem_cons_self rfl, fun other hother => ?_⟩
  exact ⟨fun heq => (List.nodup_cons.mp tail).1 (heq ▸ hother),
    fun member => disjoint _ member _ (List.mem_cons_of_mem _ hother) rfl⟩

/-- A request by which a token of a lesson enters the vocabulary is such a request for some token,
and is not made for the tokens before it. -/
theorem exists_split {lesson : Lesson} {entry : String × ℕ} {r : Request}
    (hentry : entry ∈ lesson.counts) (hr : r ∈ entryRequests scope entry.1 entry.2) :
    ∃ (before behind : Entries Nat) (token : String) (n : ℕ),
      lesson.counts = before ++ (token, n) :: behind ∧ r ∈ entryRequests scope token n
        ∧ ∀ e ∈ before, ∀ q ∈ learnRequests scope lesson.category e.1 e.2, q ≠ r := by
  rcases mem_entryRequests.mp hr with rfl | rfl
  · obtain ⟨before, behind, split⟩ := List.append_of_mem hentry
    refine ⟨before, behind, entry.1, entry.2, split, mem_entryRequests.mpr (Or.inl rfl),
      fun e he q hq => ?_⟩
    have inLesson : e ∈ lesson.counts := by rw [split]; exact List.mem_append_left _ he
    have htoken := lesson.isToken e inLesson
    have hentered := lesson.isToken entry hentry
    have hne : e.1 ≠ entry.1 := fun heq =>
      (lesson.notMem_of_split split).2.1 (heq ▸ List.mem_map_of_mem he)
    rcases mem_learnRequests.mp hq with rfl | rfl | rfl
    · exact increment_ne (.count _ e.1) (.vocabulary entry.1) htoken hentered (by simp) _ _
    · exact increment_ne (.vocabulary e.1) (.vocabulary entry.1) htoken hentered
        (fun heq => hne (Counter.vocabulary.inj heq)) _ _
    · exact increment_ne .vocabularySize (.vocabulary entry.1) trivial hentered (by simp) _ _
  · -- The first token of a lesson is new, so its learning is the first to reach the size.
    obtain ⟨first, behind, split⟩ := List.exists_cons_of_ne_nil lesson.nonempty
    exact ⟨[], behind, first.1, first.2, split, mem_entryRequests.mpr (Or.inr rfl), by simp⟩

/-- A token that is not listed is not in the vocabulary. -/
theorem Stock.held_vocabulary_of_notMem {category token : String} {counts : Entries Nat}
    (h : token ∉ counts.keys) :
    (ofMessage category + ofCounts category counts).held (.vocabulary token) = 0 := by
  rw [held_vocabulary_eq_zero_iff]
  intro member
  obtain ⟨entry, hentry, rfl⟩ := Finset.mem_image.mp member
  refine Finsupp.mem_support_iff.mp hentry ?_
  rw [Prod.snd_add, ofMessage, zero_add]
  exact ofCounts_eq_zero fun _ => h

/-- A store that fails where a token of a lesson enters the vocabulary leaves the lesson half
learned. -/
theorem learn_halfLearned (lesson : Lesson) {entry : String × ℕ} {r : Request}
    (hentry : entry ∈ lesson.counts) (hr : r ∈ entryRequests scope entry.1 entry.2)
    (keeps : Keeps scope rest (0 : Stock).balance content) :
    (learn scope lesson.category lesson.counts).Ensures (.failingAt r)
      (fun _ after => HalfLearned scope rest lesson after) content := by
  obtain ⟨before, behind, token, n, split, hr, hbefore⟩ := exists_split hentry hr
  have inLesson (e : String × ℕ) (he : e ∈ before) : e ∈ lesson.counts := by
    rw [split]
    exact List.mem_append_left _ he
  have htoken : IsToken token := lesson.isToken (token, n) (by simp [split])
  have fresh := (lesson.notMem_of_split split).2.1
  rw [learn, Program.ensures_exclusively, Program.ensures_bind]
  have message := increment_ne_entry (a := .messages lesson.category) trivial trivial htoken hr 1
  refine ensures_addTo (Terms.failingAt_grants message) trivial keeps fun _ keeps => ?_
  rw [← Stock.balance_add_message, zero_add] at keeps
  rw [Program.andThen_ok, Program.ensures_bind]
  have tokens := increment_ne_entry (a := .tokens lesson.category) trivial trivial htoken hr
    (size lesson.counts)
  refine ensures_addTo (Terms.failingAt_grants tokens) trivial keeps fun _ keeps => ?_
  rw [Program.andThen_ok]
  nth_rewrite 1 [split]
  rw [learnTokens_append, Program.ensures_bind]
  refine (ensures_learnTokens (fun e he => lesson.isToken e (inLesson e he))
    (fun e he => lesson.pos e (inLesson e he)) (fun _ _ => by simp)
    (fun e he q hq => Terms.failingAt_grants (hbefore e he q hq)) keeps).mono ?_
  rintro result after ⟨hresult, keeps⟩
  subst hresult
  rw [Program.andThen_ok, learnTokens, Program.ensures_bind]
  have new : ((Stock.ofMessage lesson.category + Stock.ofCounts lesson.category before).balance
      + (Pi.single (.tokens lesson.category) (size lesson.counts : ℤ)
        - Pi.single (.tokens lesson.category) (size before : ℤ)) : Balance) (.vocabulary token)
      = 0 := by
    simp [Stock.balance, Stock.held_vocabulary_of_notMem fresh]
  -- Here the store fails. The tokens behind are not learned, but all were counted ahead.
  refine (learnToken_halfLearned htoken hr new keeps).mono ?_
  rintro result after ⟨⟨e, hresult⟩, total, le, keeps⟩
  subst hresult
  refine ⟨before, behind, token, n, total, size lesson.counts - size before, split, le, ?_⟩
  rw [Pi.single_sub]
  simpa only [add_assoc] using keeps

/-! ### Forgetting what is half learned -/

variable {terms : Terms}

/-- An addition to one counter leaves the amount of another, served or not. -/
theorem ensures_addTo_amount {a b : Counter} (ha : a.IsProper) (hb : b.IsProper) (h : a ≠ b)
    {delta x : Int} (admitted : terms.admits (.increment (a.key scope) delta))
    (held : amount scope content b = x) :
    (addTo scope a delta).Ensures terms (fun _ after => amount scope after b = x) content := by
  refine (Program.ensures_ask _ _).mpr ⟨admitted, fun _ => ?_, fun _ _ => held⟩
  show amount scope (Memory.increment content (a.key scope) delta).2 b = x
  rw [amount_increment ha hb, if_neg h, add_zero, held]

/-- The tokens and the text of a category are counted down, served or not: the vocabulary is left. -/
theorem ensures_countDown {delta messages x : Int} (admits : ∀ r, terms.admits r)
    (held : amount scope content .vocabularySize = x) :
    (do
      let _ ← addTo scope (.tokens category) delta
      if 0 < messages then
        let _ ← addTo scope (.messages category) (-1) : Program Unit).Ensures terms
      (fun _ after => amount scope after .vocabularySize = x) content := by
  rw [Program.ensures_bind]
  refine (ensures_addTo_amount (a := .tokens category) (b := .vocabularySize) trivial trivial
    (by simp) (admits _) held).mono fun result after held => ?_
  -- Neither of the two numbers is the size of the vocabulary, whether the store fails or not.
  cases result with
  | error e => exact held
  | ok _ =>
    rw [Program.andThen_ok]
    by_cases some : 0 < messages
    · rw [if_pos some, Program.ensures_bind]
      refine (ensures_addTo_amount (a := .messages category) (b := .vocabularySize) trivial trivial
        (by simp) (admits _) held).mono fun result after held => ?_
      cases result with
      | error e => exact held
      | ok _ => exact held
    · rw [if_neg some]
      exact held

/-- Taking one from an empty vocabulary leaves its size below zero. -/
theorem Holds.amount_takeOne (holds : Holds scope rest balance content)
    (size : balance .vocabularySize = 0) :
    amount scope (Memory.increment content (Counter.vocabularySize.key scope) (-1)).2
      .vocabularySize = -1 := by
  have held := holds.amount_eq .vocabularySize trivial
  rw [amount_increment (a := .vocabularySize) (b := .vocabularySize) trivial trivial, if_pos rfl,
    held, size, zero_add]

/-- Forgetting a token that is counted but not part of the vocabulary takes it out of the vocabulary
all the same. -/
theorem forgetToken_halfLearned {n total : ℕ} {held : Int} (htoken : IsToken token) (hn : 0 < n)
    (hheld : held = n) (le : total ≤ n)
    (lowers : ∀ key delta, delta ≤ 0 → terms.Grants (.increment key delta))
    (sets : ∀ key value, terms.Grants (.set key value))
    (there : balance (.vocabulary token) = total) (size : balance .vocabularySize = 0)
    (keeps : Keeps scope rest balance content) :
    (forgetToken scope category token n held).Ensures terms
      (fun result after => result = .ok (n : ℤ) ∧ amount scope after .vocabularySize = -1)
      content := by
  have removed : removable n held = n := by rw [removable, hheld, min_self]
  rw [forgetToken]
  simp only [removed]
  rw [if_neg (by omega), Program.ensures_bind]
  refine ensures_addTo (lowers _ _ (by omega)) htoken keeps fun _ keeps => ?_
  rw [Program.andThen_ok, Program.ensures_bind]
  refine ensures_addTo (lowers _ _ (by omega)) htoken keeps fun _ keeps => ?_
  have left : (balance + Pi.single (.count category token) (-(n : ℤ)) : Balance)
      (.vocabulary token) + -(n : ℤ) = total - n := by
    simp [there]
    rfl
  rw [Program.andThen_ok, left, if_pos (by omega)]
  -- Mending the total leaves the size alone, so both cases take one from an empty vocabulary.
  by_cases below : (total : ℤ) - n < 0
  · rw [if_pos below, Program.ensures_bind]
    refine Program.Ensures.of_grants (sets _ _) ?_
    rw [Program.andThen_ok, Program.ensures_bind]
    have mended := keeps.toHolds.set (a := .vocabulary token) htoken 0
    exact Program.Ensures.of_grants (lowers _ _ (by omega))
      ⟨rfl, mended.amount_takeOne (by simp [size])⟩
  · rw [if_neg below, Program.ensures_bind]
    exact Program.Ensures.of_grants (lowers _ _ (by omega))
      ⟨rfl, keeps.toHolds.amount_takeOne (by simp [size])⟩

/-- Taking off what was listed leaves the text alone. -/
theorem Stock.without_ofCounts (category : String) (counts : Entries Nat) :
    (ofMessage category + ofCounts category counts).without category counts = ofMessage category := by
  refine Prod.ext ?_ ?_ <;> simp [without, ofMessage]

/-- Forgetting a lesson that is half learned leaves the vocabulary below zero. -/
theorem forget_halfLearned (lesson : Lesson)
    (admits : ∀ r, terms.admits r)
    (lowers : ∀ key delta, delta ≤ 0 → terms.Grants (.increment key delta))
    (sets : ∀ key value, terms.Grants (.set key value))
    (reads : ∀ keys, terms.Grants (.getMany keys))
    (half : HalfLearned scope rest lesson content) :
    (forget scope lesson.category lesson.counts).Ensures terms
      (fun _ after => amount scope after .vocabularySize = -1) content := by
  obtain ⟨before, behind, token, n, total, ahead, split, le, keeps⟩ := half
  have htoken : IsToken token := lesson.isToken (token, n) (by simp [split])
  have hn : 0 < n := lesson.pos (token, n) (by simp [split])
  obtain ⟨nodup, notBefore, notBehind⟩ := lesson.notMem_of_split split
  have inLesson (e : String × ℕ) (he : e ∈ before) : e ∈ lesson.counts := by
    rw [split]
    exact List.mem_append_left _ he
  obtain ⟨-, -, countsHeld⟩ := keeps.reply_eq lesson
  rw [forget, Program.ensures_exclusively, Program.ensures_bind]
  refine Program.ensures_getMany (reads _) ?_
  rw [Program.andThen_ok]
  generalize Memory.getMany content (forgetKeys scope lesson.category lesson.counts) = reply at *
  nth_rewrite 1 [split]
  rw [forgetTokens_append, Program.ensures_bind, Program.ensures_bind]
  have hne (e : String × ℕ) (he : e ∈ before) : e.1 ≠ token := fun heq =>
    notBefore (heq ▸ List.mem_map_of_mem he)
  -- The tokens before were learned in full, and are forgotten in full.
  refine (ensures_forgetTokens (fun e he => lesson.isToken e (inLesson e he)) nodup
    (fun e he => ?_) (fun e he => ?_) (fun e he removed r hr => ?_) keeps).mono
    fun result after forgotten => ?_
  · rw [countsHeld e (inLesson e he)]
    simp [hne e he, Stock.balance, Stock.held]
  · simp [hne e he]
  · rcases mem_forgetRequests.mp hr with rfl | rfl | rfl <;> exact lowers _ _ (by omega)
  obtain ⟨removed, rfl, -, -, keeps⟩ := forgotten
  rw [Stock.without_ofCounts] at keeps
  -- The category holds what has been counted of the token, and nothing of the tokens behind it.
  have held : replied reply ((Counter.count lesson.category token).key scope) = n := by
    have := countsHeld (token, n) (by simp [split])
    simpa [Stock.balance, Stock.held, Stock.ofMessage,
      Stock.ofCounts_eq_zero fun _ => notBefore] using this
  have none (e : String × ℕ) (he : e ∈ behind) :
      replied reply ((Counter.count lesson.category e.1).key scope) = 0 := by
    obtain ⟨hne, notBefore⟩ := notBehind e.1 (List.mem_map_of_mem he)
    rw [countsHeld e (by simp [split, he])]
    simp [hne, Stock.balance, Stock.held, Stock.ofMessage,
      Stock.ofCounts_eq_zero fun _ => notBefore]
  rw [Program.andThen_ok, Program.ensures_bind, forgetTokens, Program.ensures_bind]
  refine (forgetToken_halfLearned htoken hn held le lowers sets ?_ ?_ keeps).mono ?_
  · simp [Stock.balance, Stock.held, Stock.ofMessage]
  · simp [Stock.balance, Stock.held, Stock.ofMessage]
  rintro result after ⟨hresult, owed⟩
  subst hresult
  rw [Program.andThen_ok, forgetTokens_of_none none, pure_bind]
  show Program.Ensures terms (if (removed : ℤ) + ((n : ℤ) + 0) = 0 then pure () else _) _ after
  rw [if_neg (by omega)]
  exact ensures_countDown admits owed

end Moderation.Bayes
