import Mathlib.Tactic.Abel
import Moderation.Proofs.Bayes.Stock

/-!
# `Moderation.Proofs.Bayes.Learning`: learning and forgetting follow the stock

The programs of a classifier work token by token, and between two requests the five families of
counters are out of step. What is out of step is known at every point: it is an offset to the
balance of a stock. `ensures_learnTokens` and `ensures_forgetTokens` follow the loops with such an
offset, by induction over the tokens, and the offset is gone when the last counter has been
adjusted:

* `ensures_learn`: learning a lesson takes the balance of a stock to that of `Stock.learn`, and
  only raises numbers (`ensures_learn_raising`);
* `ensures_forget`: forgetting takes it to that of `Stock.forget`, never mends a total, and only
  lowers numbers (`ensures_forget_lowering`);
* `ensures_reset`: starting over takes it to that of nothing.

The loops ask only that their own requests are granted, so the same lemmas describe a run up to
the point where the store fails.
-/

set_option autoImplicit false

namespace Moderation.Bayes

open Store Tokenizer

variable {terms : Terms} {scope category token : String} {rest content : Entries Int}
  {balance : Balance}

/-- A granted addition adds to the balance, and replies the sum. -/
theorem ensures_addTo {counter : Counter} {delta : Int} {post : Except Error Int → Entries Int → Prop}
    (granted : terms.Grants (.increment (counter.key scope) delta))
    (proper : counter.IsProper) (keeps : Keeps scope rest balance content)
    (h : ∀ after, Keeps scope rest (balance + Pi.single counter delta) after →
      post (.ok (balance counter + delta)) after) :
    (addTo scope counter delta).Ensures terms post content := by
  refine Program.Ensures.of_grants granted ?_
  have total := keeps.total_eq proper delta
  show post (.ok (Memory.increment content (counter.key scope) delta).1) _
  rw [total]
  exact h _ (keeps.increment proper delta)

/-! ### Learning -/

/-- The requests by which a token is learned. -/
def learnRequests (scope category token : String) (n : ℕ) : List Request :=
  [.increment ((Counter.count category token).key scope) n,
    .increment ((Counter.vocabulary token).key scope) n,
    .increment (Counter.vocabularySize.key scope) 1]

/-- There are three such requests: for the count in the category, for the total, and for the size of
the vocabulary. -/
theorem mem_learnRequests {n : ℕ} {r : Request} :
    r ∈ learnRequests scope category token n
      ↔ r = .increment ((Counter.count category token).key scope) n
        ∨ r = .increment ((Counter.vocabulary token).key scope) n
        ∨ r = .increment (Counter.vocabularySize.key scope) 1 := by
  simp [learnRequests]

/-- Learning a token adds to its count and to its total, and one to the size of the vocabulary if
the total was zero. -/
theorem ensures_learnToken {n : ℕ} (htoken : IsToken token)
    (granted : ∀ r ∈ learnRequests scope category token n, terms.Grants r)
    (keeps : Keeps scope rest balance content) :
    (learnToken scope category token n).Ensures terms
      (fun result after => result = .ok ()
        ∧ Keeps scope rest (balance + Pi.single (.count category token) (n : ℤ)
            + Pi.single (.vocabulary token) (n : ℤ)
            + Pi.single .vocabularySize (if balance (.vocabulary token) = 0 then 1 else 0)) after)
      content := by
  rw [learnToken, Program.ensures_bind]
  refine ensures_addTo (granted _ (by simp [learnRequests])) htoken keeps fun _ keeps => ?_
  rw [Program.andThen_ok, Program.ensures_bind]
  refine ensures_addTo (granted _ (by simp [learnRequests])) htoken keeps fun _ keeps => ?_
  -- The reply is the total before plus `n`, so it is `n` exactly if the total was zero.
  have total : (balance + Pi.single (.count category token) (n : ℤ) : Balance)
      (.vocabulary token) = balance (.vocabulary token) := by simp
  rw [Program.andThen_ok, total]
  by_cases hnew : balance (.vocabulary token) = 0
  · rw [if_pos (by omega), Program.ensures_bind]
    refine ensures_addTo (granted _ (by simp [learnRequests])) trivial keeps fun _ keeps => ?_
    rw [if_pos hnew]
    exact ⟨rfl, keeps⟩
  · rw [if_neg (by omega), if_neg hnew, Pi.single_zero, add_zero]
    exact ⟨rfl, keeps⟩

/-- Learning tokens one after the other adds their counts to the stock. The tokens of the category
were counted before, so the offset loses their number. -/
theorem ensures_learnTokens {counts : Entries Nat} {stock : Stock} {offset : Balance}
    (htokens : ∀ entry ∈ counts, IsToken entry.1) (hpos : ∀ entry ∈ counts, 0 < entry.2)
    (huntouched : ∀ entry ∈ counts, offset (.vocabulary entry.1) = 0)
    (granted : ∀ entry ∈ counts, ∀ r ∈ learnRequests scope category entry.1 entry.2,
      terms.Grants r)
    (keeps : Keeps scope rest (stock.balance + offset) content) :
    (learnTokens scope category counts).Ensures terms
      (fun result after => result = .ok ()
        ∧ Keeps scope rest ((stock + Stock.ofCounts category counts).balance
            + (offset - Pi.single (.tokens category) (size counts : ℤ))) after)
      content := by
  induction counts generalizing stock offset content with
  | nil => simpa [learnTokens, size] using keeps
  | cons entry counts ih =>
    obtain ⟨token, n⟩ := entry
    have hn : 0 < n := hpos (token, n) (by simp)
    have hoffset : offset (.vocabulary token) = 0 := huntouched (token, n) (by simp)
    rw [learnTokens, Program.ensures_bind]
    refine (ensures_learnToken (htokens (token, n) (by simp)) (granted (token, n) (by simp))
      keeps).mono ?_
    rintro result after ⟨hresult, keeps⟩
    subst hresult
    -- The step lemma of stocks: all that is missing are the tokens of the category.
    have step : stock.balance + offset + Pi.single (.count category token) (n : ℤ)
          + Pi.single (.vocabulary token) (n : ℤ)
          + Pi.single .vocabularySize
            (if (stock.balance + offset) (.vocabulary token) = 0 then 1 else 0)
        = (stock + Stock.ofCount category token n).balance
          + (offset - Pi.single (.tokens category) (n : ℤ)) := by
      have hnew : (stock.balance + offset) (.vocabulary token) = 0
          ↔ stock.held (.vocabulary token) = 0 := by
        simp [hoffset, Stock.balance]
      simp only [hnew, Stock.balance_add_count stock category token hn]
      abel
    rw [step] at keeps
    have hsize : (size ((token, n) :: counts) : ℤ) = n + size counts := by
      simp [size]
    have tail := ih (fun e he => htokens e (by simp [he])) (fun e he => hpos e (by simp [he]))
      (fun e he => by simp [huntouched e (by simp [he])]) (fun e he => granted e (by simp [he]))
      keeps
    refine tail.mono ?_
    rintro result after ⟨hresult, keeps⟩
    refine ⟨hresult, ?_⟩
    rw [Stock.ofCounts_cons, ← add_assoc, hsize, Pi.single_add, ← sub_sub]
    exact keeps

/-- Learning a lesson adds its stock. It adds to numbers, and takes nothing off. -/
theorem ensures_learn_raising {stock : Stock} (lesson : Lesson)
    (granted : ∀ key delta, 0 ≤ delta → terms.Grants (.increment key delta))
    (keeps : Keeps scope rest stock.balance content) :
    (learn scope lesson.category lesson.counts).Ensures terms
      (fun result after => result = .ok () ∧ Keeps scope rest (stock.learn lesson).balance after)
      content := by
  obtain ⟨category, counts, htokens, hpos, -, -⟩ := lesson
  -- The text, its length, and then token after token: each addition is one term of the new balance.
  rw [learn, Program.ensures_exclusively, Program.ensures_bind]
  refine ensures_addTo (granted _ _ (by omega)) trivial keeps fun _ keeps => ?_
  rw [← Stock.balance_add_message] at keeps
  rw [Program.andThen_ok, Program.ensures_bind]
  refine ensures_addTo (granted _ _ (by omega)) trivial keeps fun _ keeps => ?_
  rw [Program.andThen_ok]
  refine (ensures_learnTokens htokens hpos (fun _ _ => by simp)
    (fun entry _ r hr => ?_) keeps).mono ?_
  · rcases mem_learnRequests.mp hr with rfl | rfl | rfl <;> exact granted _ _ (by omega)
  · rintro result after ⟨hresult, keeps⟩
    rw [sub_self, add_zero, add_assoc] at keeps
    exact ⟨hresult, keeps⟩

/-- Learning a lesson adds its stock. -/
theorem ensures_learn {stock : Stock} (lesson : Lesson)
    (granted : ∀ key delta, terms.Grants (.increment key delta))
    (keeps : Keeps scope rest stock.balance content) :
    (learn scope lesson.category lesson.counts).Ensures terms
      (fun result after => result = .ok () ∧ Keeps scope rest (stock.learn lesson).balance after)
      content :=
  ensures_learn_raising lesson (fun key delta _ => granted key delta) keeps

/-! ### Forgetting -/

/-- The requests by which `removed` occurrences of a token are forgotten, the total of the token
not being mended. -/
def forgetRequests (scope category token : String) (removed : ℕ) : List Request :=
  [.increment ((Counter.count category token).key scope) (-removed),
    .increment ((Counter.vocabulary token).key scope) (-removed),
    .increment (Counter.vocabularySize.key scope) (-1)]

/-- There are three such requests, each the opposite of one by which the token was learned. -/
theorem mem_forgetRequests {removed : ℕ} {r : Request} :
    r ∈ forgetRequests scope category token removed
      ↔ r = .increment ((Counter.count category token).key scope) (-removed)
        ∨ r = .increment ((Counter.vocabulary token).key scope) (-removed)
        ∨ r = .increment (Counter.vocabularySize.key scope) (-1) := by
  simp [forgetRequests]

/-- Forgetting a token takes off the occurrences that were learned on top of the stock `left`. The
tokens of the category are not yet counted down, so the offset gains their number. -/
theorem ensures_forgetToken {n removed : ℕ} {held : Int} {left : Stock} {offset : Balance}
    (htoken : IsToken token) (hremoved : removable n held = removed)
    (huntouched : offset (.vocabulary token) = 0)
    (granted : ∀ r ∈ forgetRequests scope category token removed, terms.Grants r)
    (keeps : Keeps scope rest
      ((left + Stock.ofCount category token removed).balance + offset) content) :
    (forgetToken scope category token n held).Ensures terms
      (fun result after => result = .ok (removed : ℤ)
        ∧ Keeps scope rest
            (left.balance + (offset + Pi.single (.tokens category) (removed : ℤ))) after)
      content := by
  rw [forgetToken]
  simp only [hremoved]
  by_cases hzero : removed = 0
  · subst hzero
    simpa using keeps
  have hpos : 0 < removed := Nat.pos_of_ne_zero hzero
  rw [if_neg (by omega), Program.ensures_bind]
  refine ensures_addTo (granted _ (by simp [forgetRequests])) htoken keeps fun _ keeps => ?_
  rw [Program.andThen_ok, Program.ensures_bind]
  refine ensures_addTo (granted _ (by simp [forgetRequests])) htoken keeps fun _ keeps => ?_
  -- What is left of the total is what `left` holds, so it is never below zero.
  have total : (((left + Stock.ofCount category token removed).balance + offset
        + Pi.single (.count category token) (-(removed : ℤ)) : Balance) (.vocabulary token)
          + -(removed : ℤ))
      = left.held (.vocabulary token) := by
    simp [huntouched, Stock.balance, Stock.held_vocabulary_add_count]
  have step := Stock.balance_add_count left category token hpos
  rw [Program.andThen_ok, total]
  by_cases hgone : left.held (.vocabulary token) = 0
  · rw [if_pos (by omega), if_neg (by omega), Program.ensures_bind]
    refine ensures_addTo (granted _ (by simp [forgetRequests])) trivial keeps fun _ keeps => ?_
    refine ⟨rfl, ?_⟩
    have balance : (left + Stock.ofCount category token removed).balance + offset
          + Pi.single (.count category token) (-(removed : ℤ))
          + Pi.single (.vocabulary token) (-(removed : ℤ)) + Pi.single .vocabularySize (-1)
        = left.balance + (offset + Pi.single (.tokens category) (removed : ℤ)) := by
      rw [step, if_pos hgone]
      simp only [Pi.single_neg]
      abel
    rwa [balance] at keeps
  · rw [if_neg (by omega)]
    refine ⟨rfl, ?_⟩
    have balance : (left + Stock.ofCount category token removed).balance + offset
          + Pi.single (.count category token) (-(removed : ℤ))
          + Pi.single (.vocabulary token) (-(removed : ℤ))
        = left.balance + (offset + Pi.single (.tokens category) (removed : ℤ)) := by
      rw [step, if_neg hgone, Pi.single_zero]
      simp only [Pi.single_neg]
      abel
    rwa [balance] at keeps

/-- What is left after tokens are forgotten, and what is not yet counted down: `removed` is the
number of forgotten occurrences, and is zero only if nothing was taken off. -/
def Forgotten (scope category : String) (rest : Entries Int) (counts : Entries Nat) (stock : Stock)
    (offset : Balance) (result : Except Error Int) (after : Entries Int) : Prop :=
  ∃ removed : ℕ, result = .ok (removed : ℤ)
    ∧ stock.held (.tokens category) = (stock.without category counts).held (.tokens category) + removed
    ∧ (removed = 0 → stock.without category counts = stock)
    ∧ Keeps scope rest ((stock.without category counts).balance
        + (offset + Pi.single (.tokens category) (removed : ℤ))) after

/-- The first token is forgotten, then the others: the numbers add up. -/
theorem Forgotten.cons {n : ℕ} {counts : Entries Nat} {stock : Stock} {offset : Balance}
    {result : Except Error Int} {after : Entries Int}
    (h : Forgotten scope category rest counts (stock.without category [(token, n)])
      (offset + Pi.single (.tokens category) ((min n (stock.2 (category, token)) : ℕ) : ℤ))
      result after) :
    Forgotten scope category rest ((token, n) :: counts) stock offset
      (result.map (((min n (stock.2 (category, token)) : ℕ) : ℤ) + ·)) after := by
  obtain ⟨removed, rfl, htokens, hzero, keeps⟩ := h
  have added := Stock.without_add_count stock category token n
  generalize min n (stock.2 (category, token)) = first at added keeps
  refine ⟨first + removed, by simp [Except.map], ?_, ?_, ?_⟩
  · rw [Stock.without_cons, Nat.add_left_comm, ← htokens]
    nth_rewrite 1 [← added]
    rw [Stock.held_tokens_add_count, if_pos rfl, Nat.add_comm]
  · -- If nothing was removed in all, nothing was removed of the first token nor of the others.
    intro hsum
    obtain ⟨rfl, rfl⟩ : first = 0 ∧ removed = 0 := by omega
    rw [Stock.ofCount_zero, add_zero] at added
    rw [Stock.without_cons, hzero rfl, added]
  · rw [add_assoc, ← Pi.single_add, ← Nat.cast_add, ← Stock.without_cons] at keeps
    exact keeps

/-- Forgetting tokens one after the other takes from the stock what the category holds of them, if
the reply says what that is. -/
theorem ensures_forgetTokens {counts : Entries Nat} {stock : Stock} {offset : Balance}
    {reply : Entries Int}
    (htokens : ∀ entry ∈ counts, IsToken entry.1) (hnodup : counts.keys.Nodup)
    (hreply : ∀ entry ∈ counts,
      replied reply ((Counter.count category entry.1).key scope) = stock.2 (category, entry.1))
    (huntouched : ∀ entry ∈ counts, offset (.vocabulary entry.1) = 0)
    (granted : ∀ entry ∈ counts, ∀ removed, ∀ r ∈ forgetRequests scope category entry.1 removed,
      terms.Grants r)
    (keeps : Keeps scope rest (stock.balance + offset) content) :
    (forgetTokens scope category reply counts).Ensures terms
      (Forgotten scope category rest counts stock offset) content := by
  induction counts generalizing stock offset content with
  | nil => exact ⟨0, rfl, by simp, fun _ => by simp, by simpa using keeps⟩
  | cons entry counts ih =>
    obtain ⟨token, n⟩ := entry
    obtain ⟨hfresh, hnodup⟩ := List.nodup_cons.mp hnodup
    have hremoved : removable n (replied reply ((Counter.count category token).key scope))
        = ((min n (stock.2 (category, token)) : ℕ) : ℤ) := by
      have held : replied reply ((Counter.count category token).key scope)
          = stock.2 (category, token) := hreply (token, n) (by simp)
      rw [held, removable]
      omega
    rw [← Stock.without_add_count stock category token n] at keeps
    rw [forgetTokens, Program.ensures_bind]
    refine (ensures_forgetToken (htokens (token, n) (by simp)) hremoved
      (huntouched (token, n) (by simp))
      (granted (token, n) (by simp) _) keeps).mono ?_
    rintro result after ⟨hresult, keeps⟩
    subst hresult
    rw [Program.andThen_ok, Program.ensures_bind]
    -- The category holds as much of the other tokens as before.
    have others : ∀ entry ∈ counts,
        replied reply ((Counter.count category entry.1).key scope)
          = (stock.without category [(token, n)]).2 (category, entry.1) := by
      intro entry hentry
      have hne : entry.1 ≠ token := fun heq => hfresh (List.mem_map.mpr ⟨entry, hentry, heq⟩)
      rw [hreply entry (by simp [hentry]), Stock.without_singleton_of_ne stock category n hne]
    refine (ih (fun e he => htokens e (by simp [he])) hnodup others
      (fun e he => by simp [huntouched e (by simp [he])]) (fun e he => granted e (by simp [he]))
      keeps).mono fun result after forgotten => ?_
    cases result with
    | error e => exact absurd forgotten.choose_spec.1 (by simp)
    | ok sum => exact forgotten.cons

/-- The text of a forgotten lesson is taken off if there is one. -/
theorem ensures_forgetMessage {left : Stock} {held : Int} (hheld : held = left.1 category)
    (granted : terms.Grants (.increment ((Counter.messages category).key scope) (-1)))
    (keeps : Keeps scope rest left.balance content) :
    (if 0 < held then do let _ ← addTo scope (.messages category) (-1)
      else pure () : Program Unit).Ensures terms
      (fun result after => result = .ok ()
        ∧ Keeps scope rest (Stock.balance (left.1 - Finsupp.single category 1, left.2)) after)
      content := by
  -- The reply was read before, but it still says whether there is a text to take off.
  by_cases h : 0 < left.1 category
  · rw [if_pos (by omega), Program.ensures_bind]
    refine ensures_addTo granted trivial keeps fun _ keeps => ⟨rfl, ?_⟩
    nth_rewrite 1 [← Stock.without_message h] at keeps
    rw [Stock.balance_add_message, add_assoc, ← Pi.single_add, add_neg_cancel, Pi.single_zero,
      add_zero] at keeps
    exact keeps
  · rw [if_neg (by omega), Stock.without_message_of_eq_zero (by omega)]
    exact ⟨rfl, keeps⟩

/-- The reply to the look-up of a lesson says what the balance is. -/
theorem Holds.reply_eq (holds : Holds scope rest balance content) (lesson : Lesson) :
    let reply := Memory.getMany content (forgetKeys scope lesson.category lesson.counts)
    replied reply ((Counter.tokens lesson.category).key scope) = balance (.tokens lesson.category)
      ∧ replied reply ((Counter.messages lesson.category).key scope)
        = balance (.messages lesson.category)
      ∧ ∀ entry ∈ lesson.counts, replied reply ((Counter.count lesson.category entry.1).key scope)
        = balance (.count lesson.category entry.1) := by
  -- Each counter that is looked up is replied as the balance has it.
  have lookedUp : ∀ a : Counter, a.IsProper →
      a.key scope ∈ forgetKeys scope lesson.category lesson.counts →
      replied (Memory.getMany content (forgetKeys scope lesson.category lesson.counts))
        (a.key scope) = balance a := fun a ha hmem => by
    rw [replied_getMany hmem, holds.amount_eq a ha]
  refine ⟨lookedUp (.tokens lesson.category) trivial (by simp [forgetKeys]),
    lookedUp (.messages lesson.category) trivial (by simp [forgetKeys]), fun entry hentry => ?_⟩
  exact lookedUp (.count lesson.category entry.1) (lesson.isToken entry hentry)
    (List.mem_append_left _ (List.mem_map_of_mem hentry))

/-- Forgetting a lesson takes its tokens from the stock, and one text if a token was there. It takes
off numbers, and adds nothing. -/
theorem ensures_forget_lowering {stock : Stock} (lesson : Lesson)
    (granted : ∀ key delta, delta ≤ 0 → terms.Grants (.increment key delta))
    (grantedLookUp : ∀ keys, terms.Grants (.getMany keys))
    (keeps : Keeps scope rest stock.balance content) :
    (forget scope lesson.category lesson.counts).Ensures terms
      (fun result after => result = .ok () ∧ Keeps scope rest (stock.forget lesson).balance after)
      content := by
  rw [forget, Program.ensures_exclusively, Program.ensures_bind]
  refine Program.ensures_getMany (grantedLookUp _) ?_
  rw [Program.andThen_ok]
  obtain ⟨tokensHeld, messagesHeld, countsHeld⟩ := keeps.reply_eq lesson
  generalize Memory.getMany content (forgetKeys scope lesson.category lesson.counts) = reply at *
  rw [Program.ensures_bind]
  rw [← add_zero stock.balance] at keeps
  refine (ensures_forgetTokens lesson.isToken lesson.nodup countsHeld (fun _ _ => rfl)
    (fun entry _ removed r hr => ?_) keeps).mono fun result after forgotten => ?_
  · rcases mem_forgetRequests.mp hr with rfl | rfl | rfl <;> exact granted _ _ (by omega)
  obtain ⟨removed, rfl, htotal, hzero, keeps⟩ := forgotten
  rw [zero_add] at keeps
  rw [Program.andThen_ok]
  by_cases hremoved : removed = 0
  · have unchanged := hzero hremoved
    rw [if_pos (by omega)]
    refine ⟨rfl, ?_⟩
    simpa [Stock.forget, unchanged, hremoved] using keeps
  have hfell : stock.without lesson.category lesson.counts ≠ stock := by
    intro heq
    rw [heq] at htotal
    omega
  have allTaken : min (removed : ℤ) (stock.balance (.tokens lesson.category)) = removed := by
    rw [Stock.balance]
    omega
  -- No more tokens are taken off than the category holds, so the limit does not bind.
  rw [if_neg (by omega), tokensHeld]
  dsimp only
  rw [allTaken, Program.ensures_bind]
  refine ensures_addTo (granted _ _ (by omega)) trivial keeps fun _ keeps => ?_
  rw [add_assoc, ← Pi.single_add, add_neg_cancel, Pi.single_zero, add_zero] at keeps
  rw [Stock.forget, if_neg hfell]
  exact ensures_forgetMessage messagesHeld (granted _ _ (by omega)) keeps

/-- Forgetting a lesson takes its tokens from the stock, and one text if a token was there. -/
theorem ensures_forget {stock : Stock} (lesson : Lesson)
    (granted : ∀ key delta, terms.Grants (.increment key delta))
    (grantedLookUp : ∀ keys, terms.Grants (.getMany keys))
    (keeps : Keeps scope rest stock.balance content) :
    (forget scope lesson.category lesson.counts).Ensures terms
      (fun result after => result = .ok () ∧ Keeps scope rest (stock.forget lesson).balance after)
      content :=
  ensures_forget_lowering lesson (fun key delta _ => granted key delta) grantedLookUp keeps

/-! ### Starting over -/

/-- Starting over leaves the balance of nothing. -/
theorem ensures_reset (granted : terms.Grants (.clear (scopeStart scope)))
    (outside : ∀ key, Memory.inScope (scopeStart scope) key = true → rest.get? key = none)
    (keeps : Keeps scope rest balance content) :
    (reset scope).Ensures terms
      (fun result after => result = .ok () ∧ Keeps scope rest (0 : Stock).balance after) content := by
  rw [reset, Program.ensures_exclusively, Program.ensures_bind, Stock.balance_zero]
  exact Program.Ensures.of_grants granted ⟨rfl, keeps.clear outside⟩

end Moderation.Bayes
