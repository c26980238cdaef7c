import Moderation.Proofs.Bayes.Consistency

/-!
# `Moderation.Proofs.Bayes.Lessons`: what a text does to each counter

A lesson is learned by adding its stock and forgotten by taking off what is there. Here is what that
means for the five families of counters, if the lesson is made of the tokens of a text.

All families but the size of the vocabulary are additive (`Stock.held_add`). So learning adds what the
lesson holds, and for forgetting it is enough to know what is taken off (`Stock.taken`):

    held (forget lesson) + held (taken lesson) = held

for the tokens of a category and the total of a token. What is taken off of a token is the smaller one
of its occurrences in the text and its count (`Stock.taken_apply`).
-/

set_option autoImplicit false

namespace Moderation.Bayes

open Tokenizer

namespace Stock

/-! ### Sums -/

/-- What a counter says of two stocks together, the size of the vocabulary apart. -/
theorem held_add (stock stock' : Stock) {counter : Counter} (h : counter ≠ .vocabularySize) :
    (stock + stock').held counter = stock.held counter + stock'.held counter := by
  -- A counter is a sum over the entries of one kind, and such sums add up. The size of the
  -- vocabulary is a number of tokens and does not.
  have sum (kind : String × String → Prop) [DecidablePred kind] :
      ((stock.2 + stock'.2).sum fun entry n => if kind entry then n else 0)
        = (stock.2.sum fun entry n => if kind entry then n else 0)
          + stock'.2.sum fun entry n => if kind entry then n else 0 :=
    Finsupp.sum_add_index' (by simp) fun entry m n => by split <;> rfl
  cases counter with
  | messages category => rfl
  | tokens category => exact sum fun entry => entry.1 = category
  | count category token => rfl
  | vocabulary token => exact sum fun entry => entry.2 = token
  | vocabularySize => exact absurd rfl h

/-- The tokens of a category, as a sum over any tokens that include those that it counts. -/
theorem held_tokens_of_counted (stock : Stock) {category : String} {tokens : Finset String}
    (counted : ∀ token, stock.2 (category, token) ≠ 0 → token ∈ tokens) :
    stock.held (.tokens category) = ∑ token ∈ tokens, stock.2 (category, token) := by
  rw [held_tokens_eq_sum]
  -- Both sums have the tokens that are counted, and nothing else that is not zero.
  refine Finset.sum_congr_of_eq_on_inter (fun token _ h => ?_) (fun token _ h => ?_) fun _ _ _ => rfl
  · by_contra nonzero
    exact h (counted token nonzero)
  · exact count_eq_zero_of_token h category

/-- The tokens of a stock are those that some category counts. -/
theorem mem_vocabulary_iff (stock : Stock) (token : String) :
    token ∈ stock.vocabulary ↔ ∃ category, stock.2 (category, token) ≠ 0 := by
  constructor
  · intro h
    obtain ⟨⟨category, _⟩, hentry, rfl⟩ := Finset.mem_image.mp h
    exact ⟨category, Finsupp.mem_support_iff.mp hentry⟩
  · rintro ⟨category, h⟩
    by_contra none
    exact h (count_eq_zero_of_token none category)

/-! ### The tokens of a text -/

/-- An entry of some counts says how often its token is counted. -/
theorem ofCounts_of_mem {counts : Entries Nat} (nodup : counts.keys.Nodup) {category token : String}
    {n : ℕ} (h : (token, n) ∈ counts) : (ofCounts category counts).2 (category, token) = n := by
  induction counts with
  | nil => cases h
  | cons entry rest ih =>
    obtain ⟨fresh, nodup⟩ := List.nodup_cons.mp nodup
    rw [ofCounts_cons, Prod.snd_add, Finsupp.add_apply]
    -- Each token is counted once, so one of the two summands is zero.
    rcases List.mem_cons.mp h with rfl | h
    · rw [ofCounts_eq_zero fun _ => fresh]
      simp [ofCount]
    · have other : token ≠ entry.1 := by
        rintro rfl
        exact fresh (List.mem_map.mpr ⟨_, h, rfl⟩)
      rw [ih nodup h]
      simp [ofCount, other]

/-- The counts of a text are the occurrences of its tokens. -/
theorem ofCounts_frequencies (category : String) (tokens : List String) (c token : String) :
    (ofCounts category (frequencies tokens)).2 (c, token)
      = if c = category then tokens.count token else 0 := by
  by_cases occurs : token ∈ tokens
  · split
    · next own =>
      subst own
      exact ofCounts_of_mem (nodup_keys_frequencies tokens)
        ((mem_frequencies_iff tokens token _).mpr ⟨occurs, rfl⟩)
    · next other => exact ofCounts_eq_zero fun own => absurd own other
  · rw [ofCounts_eq_zero fun _ listed => occurs ((mem_keys_frequencies tokens token).mp listed),
      List.count_eq_zero_of_not_mem occurs, ite_self]

variable (stock : Stock) {lesson : Lesson} {tokens : List String}

/-! ### Learning -/

/-- Learning adds one text to its category. -/
theorem held_learn_messages (c : String) :
    (stock.learn lesson).held (.messages c)
      = stock.held (.messages c) + if c = lesson.category then 1 else 0 := by
  rw [learn, held_add _ _ (by simp), ofLesson, held_add _ _ (by simp)]
  show _ + (Finsupp.single lesson.category 1 c + (ofCounts lesson.category lesson.counts).1 c) = _
  rw [ofCounts_fst, Finsupp.single_apply]
  simp [eq_comm]

/-- It adds to the count of a token in its category the occurrences of the token in the text. -/
theorem learn_apply (made : lesson.counts = frequencies tokens) (c token : String) :
    (stock.learn lesson).2 (c, token)
      = stock.2 (c, token) + if c = lesson.category then tokens.count token else 0 := by
  rw [← ofCounts_frequencies, ← made, learn, ofLesson]
  simp [ofMessage]

/-- It adds all of these to the tokens of the category. -/
theorem held_learn_tokens (made : lesson.counts = frequencies tokens) (c : String) :
    (stock.learn lesson).held (.tokens c)
      = stock.held (.tokens c)
        + if c = lesson.category then ∑ token ∈ tokens.toFinset, tokens.count token else 0 := by
  have counts (token : String) : (ofLesson lesson).2 (c, token)
      = if c = lesson.category then tokens.count token else 0 := by
    rw [← ofCounts_frequencies, ← made, ofLesson]
    simp [ofMessage]
  -- A token that is not in the text has no count there, so the sum over the text leaves nothing
  -- out.
  have counted (token : String) (h : (ofLesson lesson).2 (c, token) ≠ 0) :
      token ∈ tokens.toFinset := by
    by_contra absent
    rw [counts, List.count_eq_zero_of_not_mem (mt List.mem_toFinset.mpr absent), ite_self] at h
    exact h rfl
  rw [learn, held_add _ _ (by simp), held_tokens_of_counted _ counted,
    Finset.sum_congr rfl fun token _ => counts token, Finset.sum_ite_irrel, Finset.sum_const_zero]

/-- A text whose tokens are known leaves the vocabulary as it is. -/
theorem vocabulary_learn (made : lesson.counts = frequencies tokens)
    (known : ∀ token ∈ tokens, token ∈ stock.vocabulary) :
    (stock.learn lesson).vocabulary = stock.vocabulary := by
  ext token
  rw [mem_vocabulary_iff, mem_vocabulary_iff]
  constructor
  · -- A token that is held after the lesson was held before, or is one of the lesson and known.
    rintro ⟨category, h⟩
    by_cases occurs : token ∈ tokens
    · exact (stock.mem_vocabulary_iff token).mp (known token occurs)
    · rw [learn_apply _ made, List.count_eq_zero_of_not_mem occurs, ite_self, add_zero] at h
      exact ⟨category, h⟩
  · rintro ⟨category, h⟩
    rw [← Nat.pos_iff_ne_zero] at h
    exact ⟨category, by rw [learn_apply _ made]; omega⟩

/-! ### Forgetting -/

/-- Forgetting takes the occurrences of a token in the text off its count, as far as there are so
many. -/
theorem forget_apply (made : lesson.counts = frequencies tokens) (c token : String) :
    (stock.forget lesson).2 (c, token)
      = stock.2 (c, token) - if c = lesson.category then tokens.count token else 0 := by
  rw [forget_snd, Finsupp.tsub_apply, made, ofCounts_frequencies]

/-- What forgetting takes off the counts. -/
noncomputable def taken (lesson : Lesson) : Stock := (0, stock.2 - (stock.forget lesson).2)

/-- Of a token is taken what the text has of it, and no more than the category holds. -/
theorem taken_apply (made : lesson.counts = frequencies tokens) (c token : String) :
    (stock.taken lesson).2 (c, token)
      = if c = lesson.category then min (tokens.count token) (stock.2 (c, token)) else 0 := by
  rw [taken, Finsupp.tsub_apply, forget_apply _ made]
  split <;> omega

/-- What is left and what is taken add up to what was there. -/
theorem forget_add_taken (lesson : Lesson) :
    (stock.forget lesson + stock.taken lesson).2 = stock.2 :=
  add_tsub_cancel_of_le fun entry => forget_le stock lesson entry

/-- What is taken off the counts is taken off the tokens of the category. -/
theorem held_forget_tokens (made : lesson.counts = frequencies tokens) (c : String) :
    (stock.forget lesson).held (.tokens c)
        + (if c = lesson.category then
            ∑ token ∈ tokens.toFinset, min (tokens.count token) (stock.2 (c, token)) else 0)
      = stock.held (.tokens c) := by
  -- As for learning, the sum over the text leaves nothing out.
  have counted (token : String) (h : (stock.taken lesson).2 (c, token) ≠ 0) :
      token ∈ tokens.toFinset := by
    by_contra absent
    rw [taken_apply _ made, List.count_eq_zero_of_not_mem (mt List.mem_toFinset.mpr absent),
      Nat.zero_min, ite_self] at h
    exact h rfl
  have sum : stock.held (.tokens c) = (stock.forget lesson + stock.taken lesson).held (.tokens c) := by
    rw [held, held, forget_add_taken]
  rw [sum, held_add _ _ (by simp), held_tokens_of_counted (stock.taken lesson) counted,
    Finset.sum_congr rfl fun token _ => stock.taken_apply made c token, Finset.sum_ite_irrel,
    Finset.sum_const_zero]

/-- It is taken off the total of the token, too. Nothing is taken in other categories. -/
theorem held_forget_vocabulary (made : lesson.counts = frequencies tokens) (token : String) :
    (stock.forget lesson).held (.vocabulary token)
        + min (tokens.count token) (stock.2 (lesson.category, token))
      = stock.held (.vocabulary token) := by
  -- What is taken is all in the category of the lesson, so its total is its count there.
  have categories : (stock.taken lesson).categories ⊆ {lesson.category} := by
    intro c hc
    obtain ⟨entry, hentry, rfl⟩ := Finset.mem_image.mp hc
    by_contra other
    refine Finsupp.mem_support_iff.mp hentry ?_
    rw [← Prod.mk.eta (p := entry), taken_apply _ made, if_neg (mt Finset.mem_singleton.mpr other)]
  have sum : stock.held (.vocabulary token)
      = (stock.forget lesson + stock.taken lesson).held (.vocabulary token) := by
    rw [held, held, forget_add_taken]
  rw [sum, held_add _ _ (by simp), held_vocabulary_eq_sum _ categories, Finset.sum_singleton]
  show _ = _ + (stock.taken lesson).2 (lesson.category, token)
  rw [taken_apply _ made, if_pos rfl]

/-- The tokens that leave the vocabulary are tokens of the text. -/
theorem held_forget_vocabularySize (made : lesson.counts = frequencies tokens) :
    (stock.forget lesson).held .vocabularySize
        + {token ∈ tokens.toFinset | stock.held (.vocabulary token) ≠ 0
            ∧ (stock.forget lesson).held (.vocabulary token) = 0}.card
      = stock.held .vocabularySize := by
  have smaller : (stock.forget lesson).vocabulary ⊆ stock.vocabulary := by
    intro token h
    rw [mem_vocabulary_iff] at h ⊢
    obtain ⟨category, h⟩ := h
    have := forget_le stock lesson (category, token)
    exact ⟨category, by omega⟩
  have gone : stock.vocabulary \ (stock.forget lesson).vocabulary
      = {token ∈ tokens.toFinset | stock.held (.vocabulary token) ≠ 0
          ∧ (stock.forget lesson).held (.vocabulary token) = 0} := by
    ext token
    have was := stock.held_vocabulary_eq_zero_iff token
    have left := (stock.forget lesson).held_vocabulary_eq_zero_iff token
    have taken := stock.held_forget_vocabulary made token
    rw [Finset.mem_sdiff, Finset.mem_filter, List.mem_toFinset, Ne, was, left, not_not]
    refine ⟨fun h => ⟨?_, h⟩, And.right⟩
    -- Of a token that does not occur in the text, nothing is taken.
    by_contra absent
    rw [List.count_eq_zero_of_not_mem absent, Nat.zero_min, add_zero] at taken
    exact was.mp (taken ▸ left.mpr h.2) h.1
  show (stock.forget lesson).vocabulary.card + _ = stock.vocabulary.card
  rw [← gone, add_comm]
  exact Finset.card_sdiff_add_card_eq_card smaller

/-- Nothing is taken of any token iff the category holds none of them. -/
theorem sum_min_eq_zero_iff (tokens : List String) (c : String) :
    ∑ token ∈ tokens.toFinset, min (tokens.count token) (stock.2 (c, token)) = 0
      ↔ ∀ token ∈ tokens, stock.2 (c, token) = 0 := by
  rw [Finset.sum_eq_zero_iff]
  refine forall_congr' fun token => ?_
  rw [List.mem_toFinset]
  refine imp_congr_right fun occurs => ?_
  have := List.count_pos_iff.mpr occurs
  omega

/-- A text is taken off iff a token is, and only if there is a text. -/
theorem held_forget_messages (made : lesson.counts = frequencies tokens) (c : String) :
    (stock.forget lesson).held (.messages c)
      = stock.held (.messages c)
        - if c = lesson.category
            ∧ ∑ token ∈ tokens.toFinset, min (tokens.count token) (stock.2 (c, token)) ≠ 0
          then 1 else 0 := by
  by_cases unheld : ∀ token ∈ tokens, stock.2 (lesson.category, token) = 0
  · -- Nothing is held of the text, so it is not there to be forgotten.
    rw [if_neg, forget_of_unheld, Nat.sub_zero]
    · rw [made]
      exact fun token listed => unheld token ((mem_keys_frequencies tokens token).mp listed)
    · rintro ⟨rfl, some⟩
      exact some ((stock.sum_min_eq_zero_iff tokens lesson.category).mpr unheld)
  · -- Some token is held, so what is left is another stock, and the text goes with its tokens.
    have fell : stock.without lesson.category lesson.counts ≠ stock := by
      intro same
      refine unheld fun token occurs => ?_
      have left : (stock.forget lesson).2 (lesson.category, token)
          = stock.2 (lesson.category, token) := by rw [forget, if_pos same]
      have := List.count_pos_iff.mpr occurs
      rw [forget_apply _ made, if_pos rfl] at left
      omega
    rw [forget, if_neg fell]
    show stock.1 c - Finsupp.single lesson.category 1 c = stock.1 c - _
    by_cases own : c = lesson.category
    · subst own
      rw [Finsupp.single_eq_same, if_pos ⟨rfl, mt (stock.sum_min_eq_zero_iff tokens _).mp unheld⟩]
    · rw [Finsupp.single_eq_of_ne own, if_neg fun h => own h.1]

end Stock

end Moderation.Bayes
