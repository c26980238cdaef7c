import Mathlib.Data.Finsupp.Order
import Mathlib.Algebra.BigOperators.Finsupp.Basic
import Moderation.Proofs.Bayes.Balance

/-!
# `Moderation.Proofs.Bayes.Stock`: what a classifier has learned

A stock is what the five families of counters say together: how many texts each category has
learned, and how often each category has learned each token. The counters `messages` and `count`
are the stock itself. The other three follow from it, and `Stock.held` says how: the tokens of a
category and the occurrences of a token are sums, the size of the vocabulary is the number of tokens
that some category holds.

A lesson is the tokens of a text with the numbers of their occurrences. Stocks can be added, and a
lesson has a stock of its own, so learning is addition (`Stock.learn`). Forgetting takes off what
can be taken off (`Stock.forget`), and takes back a lesson that was learned (`forget_learn`).

`balance_add_count` is the step lemma. It says how the five families change when one category gains
occurrences of one token, which is what the programs do token by token.
-/

set_option autoImplicit false

namespace Moderation.Bayes

open Tokenizer

/-- The texts that each category has learned, and the occurrences that it holds of each token. -/
abbrev Stock := (String →₀ ℕ) × (String × String →₀ ℕ)

namespace Stock

/-- What a counter says of a stock. -/
def held (stock : Stock) : Counter → ℕ
  | .messages category => stock.1 category
  | .tokens category => stock.2.sum fun entry n => if entry.1 = category then n else 0
  | .count category token => stock.2 (category, token)
  | .vocabulary token => stock.2.sum fun entry n => if entry.2 = token then n else 0
  | .vocabularySize => (stock.2.support.image Prod.snd).card

/-- The balance of a stock. -/
def balance (stock : Stock) : Balance := fun counter => stock.held counter

/-- The stock of `n` occurrences of a token in a category. -/
noncomputable def ofCount (category token : String) (n : ℕ) : Stock :=
  (0, Finsupp.single (category, token) n)

/-- The stock of one text in a category, its tokens apart. -/
noncomputable def ofMessage (category : String) : Stock := (Finsupp.single category 1, 0)

/-- Nothing learned leaves every counter at zero. -/
@[simp]
theorem balance_zero : balance 0 = 0 := by
  funext counter
  cases counter <;> simp [balance, held]

/-- No occurrences of a token are nothing. -/
@[simp]
theorem ofCount_zero (category token : String) : ofCount category token 0 = 0 := by
  simp [ofCount]

/-- The sum over the entries of a kind gains what is added to one entry of the kind. -/
theorem sum_add_single (counts : String × String →₀ ℕ) (entry : String × String) (n : ℕ)
    (kind : String × String → Prop) [DecidablePred kind] :
    ((counts + Finsupp.single entry n).sum fun e m => if kind e then m else 0)
      = (counts.sum fun e m => if kind e then m else 0) + if kind entry then n else 0 := by
  rw [Finsupp.sum_add_index', Finsupp.sum_single_index]
  · simp
  · simp
  · intro e m m'
    split <;> rfl

/-- Occurrences of a token count for the tokens of their category. -/
theorem held_tokens_add_count (stock : Stock) (category token : String) (n : ℕ) (c : String) :
    (stock + ofCount category token n).held (.tokens c)
      = stock.held (.tokens c) + if category = c then n else 0 :=
  sum_add_single stock.2 (category, token) n fun entry => entry.1 = c

/-- Occurrences of a token count for the total of the token. -/
theorem held_vocabulary_add_count (stock : Stock) (category token : String) (n : ℕ) (t : String) :
    (stock + ofCount category token n).held (.vocabulary t)
      = stock.held (.vocabulary t) + if token = t then n else 0 :=
  sum_add_single stock.2 (category, token) n fun entry => entry.2 = t

/-- A token is in the vocabulary iff it occurs in some category. -/
theorem held_vocabulary_eq_zero_iff (stock : Stock) (token : String) :
    stock.held (.vocabulary token) = 0 ↔ token ∉ stock.2.support.image Prod.snd := by
  simp only [held, Finsupp.sum, Finset.sum_eq_zero_iff, Finset.mem_image, not_exists, not_and]
  constructor
  · rintro h entry hentry rfl
    have := h entry hentry
    simp only [if_true] at this
    exact Finsupp.mem_support_iff.mp hentry this
  · intro h entry hentry
    exact if_neg (h entry hentry)

/-- The size of the vocabulary grows by one when a category gains occurrences of a token that no
category holds. -/
theorem held_vocabularySize_add_count (stock : Stock) (category token : String) {n : ℕ}
    (hn : 0 < n) :
    (stock + ofCount category token n).held .vocabularySize
      = stock.held .vocabularySize + if stock.held (.vocabulary token) = 0 then 1 else 0 := by
  -- Nothing is taken away, so the entries that are not zero gain this one and lose none.
  have support : (stock.2 + Finsupp.single (category, token) n).support
      = insert (category, token) stock.2.support := by
    ext entry
    by_cases h : entry = (category, token)
    · subst h; simp; omega
    · simp [h]
  show ((stock.2 + Finsupp.single (category, token) n).support.image Prod.snd).card = _
  rw [support, Finset.image_insert]
  split
  · next h =>
    exact Finset.card_insert_of_notMem ((held_vocabulary_eq_zero_iff stock token).mp h)
  · next h =>
    have member := not_not.mp (mt (held_vocabulary_eq_zero_iff stock token).mpr h)
    rw [Finset.insert_eq_of_mem member]
    rfl

/-- What changes when a category gains occurrences of a token: its tokens, its count, the total of
the token, and the size of the vocabulary if the token is new. -/
theorem balance_add_count (stock : Stock) (category token : String) {n : ℕ} (hn : 0 < n) :
    (stock + ofCount category token n).balance
      = stock.balance + Pi.single (.tokens category) (n : ℤ)
        + Pi.single (.count category token) (n : ℤ) + Pi.single (.vocabulary token) (n : ℤ)
        + Pi.single .vocabularySize (if stock.held (.vocabulary token) = 0 then 1 else 0) := by
  funext counter
  -- Each kind of counter has one term that may touch it.
  cases counter with
  | messages c => simp [balance, held, ofCount]
  | tokens c =>
    by_cases h : category = c
    · simp [balance, held_tokens_add_count, h]
    · simp [balance, held_tokens_add_count, h, Ne.symm h]
  | count c t =>
    by_cases h : (category, token) = (c, t)
    · simp only [Prod.mk.injEq] at h
      simp [balance, held, ofCount, h]
    · have : ¬ (Counter.count c t = Counter.count category token) := by
        simpa [eq_comm] using h
      simp [balance, held, ofCount, this, Finsupp.single_eq_of_ne (Ne.symm h)]
  | vocabulary t =>
    by_cases h : token = t
    · simp [balance, held_vocabulary_add_count, h]
    · simp [balance, held_vocabulary_add_count, h, Ne.symm h]
  | vocabularySize =>
    simp [balance, held_vocabularySize_add_count stock category token hn]

/-- What changes when a category gains a text. -/
theorem balance_add_message (stock : Stock) (category : String) :
    (stock + ofMessage category).balance
      = stock.balance + Pi.single (.messages category) 1 := by
  funext counter
  cases counter with
  | messages c =>
    by_cases h : c = category
    · simp [balance, held, ofMessage, h]
    · simp [balance, held, ofMessage, h, Finsupp.single_eq_of_ne h]
  | tokens c => simp [balance, held, ofMessage]
  | count c t => simp [balance, held, ofMessage]
  | vocabulary t => simp [balance, held, ofMessage]
  | vocabularySize => simp [balance, held, ofMessage]

end Stock

/-- A content without a name of the scope keeps the balance of an empty stock. -/
theorem Keeps.of_nothing {scope : String} {rest : Entries Int}
    (outside : ∀ key, Store.Memory.inScope (scopeStart scope) key = true → rest.get? key = none) :
    Keeps scope rest (0 : Stock).balance rest := by
  rw [Stock.balance_zero]
  exact Keeps.of_outside outside

/-! ### Lessons -/

/-- The tokens of a text that a category learns or forgets, with the numbers of their
occurrences. -/
structure Lesson where
  category : String
  counts : Entries Nat
  isToken : ∀ entry ∈ counts, IsToken entry.1
  pos : ∀ entry ∈ counts, 0 < entry.2
  nodup : counts.keys.Nodup
  nonempty : counts ≠ []

namespace Stock

/-- The stock of some occurrences of tokens in a category. -/
noncomputable def ofCounts (category : String) (counts : Entries Nat) : Stock :=
  (counts.map fun entry => ofCount category entry.1 entry.2).sum

/-- No tokens have the empty stock. -/
@[simp]
theorem ofCounts_nil (category : String) : ofCounts category [] = 0 := rfl

/-- The stock of the first token is added to that of the others. -/
@[simp]
theorem ofCounts_cons (category token : String) (n : ℕ) (rest : Entries Nat) :
    ofCounts category ((token, n) :: rest) = ofCount category token n + ofCounts category rest :=
  List.sum_cons

/-- Tokens alone are no text. -/
@[simp]
theorem ofCounts_fst (category : String) (counts : Entries Nat) :
    (ofCounts category counts).1 = 0 := by
  induction counts with
  | nil => rfl
  | cons entry rest ih => rw [ofCounts_cons, Prod.fst_add, ih, ofCount, add_zero]

/-- The stock of a lesson. -/
noncomputable def ofLesson (lesson : Lesson) : Stock :=
  ofMessage lesson.category + ofCounts lesson.category lesson.counts

/-- The stock after a lesson is learned. -/
noncomputable def learn (stock : Stock) (lesson : Lesson) : Stock := stock + ofLesson lesson

/-- The stock that is left when occurrences of tokens are taken from a category. No count goes below
zero. -/
noncomputable def without (stock : Stock) (category : String) (counts : Entries Nat) : Stock :=
  (stock.1, stock.2 - (ofCounts category counts).2)

open Classical in
/-- The stock after a lesson is forgotten. If no count falls, no text is forgotten. -/
noncomputable def forget (stock : Stock) (lesson : Lesson) : Stock :=
  let left := stock.without lesson.category lesson.counts
  if left = stock then stock else (left.1 - Finsupp.single lesson.category 1, left.2)

/-- Taking nothing leaves the stock. -/
@[simp]
theorem without_nil (stock : Stock) (category : String) : stock.without category [] = stock := by
  simp [without]

/-- Taking tokens from a category one after the other. -/
theorem without_cons (stock : Stock) (category token : String) (n : ℕ) (rest : Entries Nat) :
    stock.without category ((token, n) :: rest)
      = (stock.without category [(token, n)]).without category rest := by
  simp [without, tsub_add_eq_tsub_tsub]

/-- What is taken from the count of a token is at most what the category holds. -/
theorem without_add_count (stock : Stock) (category token : String) (n : ℕ) :
    stock.without category [(token, n)]
        + ofCount category token (min n (stock.2 (category, token))) = stock := by
  refine Prod.ext (by simp [without, ofCount]) (Finsupp.ext fun entry => ?_)
  by_cases h : entry = (category, token)
  · subst h
    simp [without, ofCount]
    omega
  · simp [without, ofCount, Finsupp.single_eq_of_ne h]

/-- Taking occurrences of one token leaves the counts of the others. -/
theorem without_singleton_of_ne (stock : Stock) (category : String) {token other : String} (n : ℕ)
    (h : other ≠ token) :
    (stock.without category [(token, n)]).2 (category, other) = stock.2 (category, other) := by
  simp [without, ofCount, h]

/-- The counts of a lesson are not all zero. -/
theorem ofLesson_snd_ne_zero (lesson : Lesson) : (ofLesson lesson).2 ≠ 0 := by
  obtain ⟨category, counts, -, pos, -, nonempty⟩ := lesson
  cases counts with
  | nil => exact absurd rfl nonempty
  | cons entry rest =>
    obtain ⟨token, n⟩ := entry
    -- Its first token is counted, whatever the others are.
    have hn : 0 < n := pos (token, n) (by simp)
    intro hzero
    have := DFunLike.congr_fun hzero (category, token)
    simp [ofLesson, ofMessage, ofCount] at this
    omega

/-- A text is taken from a category that holds one. -/
theorem without_message {stock : Stock} {category : String} (h : 0 < stock.1 category) :
    (stock.1 - Finsupp.single category 1, stock.2) + ofMessage category = stock := by
  refine Prod.ext ?_ (add_zero _)
  show stock.1 - Finsupp.single category 1 + Finsupp.single category 1 = stock.1
  exact tsub_add_cancel_of_le (Finsupp.single_le_iff.mpr h)

/-- No text is taken from a category that holds none. -/
theorem without_message_of_eq_zero {stock : Stock} {category : String} (h : stock.1 category = 0) :
    (stock.1 - Finsupp.single category 1, stock.2) = stock := by
  refine Prod.ext (Finsupp.ext fun c => ?_) rfl
  by_cases same : c = category
  · subst same
    simp [h]
  · simp [Finsupp.single_eq_of_ne same]

/-- Forgetting takes back a lesson that was learned. -/
theorem forget_learn (stock : Stock) (lesson : Lesson) :
    (stock.learn lesson).forget lesson = stock := by
  have hcounts : (ofLesson lesson).2 = (ofCounts lesson.category lesson.counts).2 := by
    simp [ofLesson, ofMessage]
  have hmessages : (ofLesson lesson).1 = Finsupp.single lesson.category 1 := by
    simp [ofLesson, ofMessage]
  have left : (stock.learn lesson).without lesson.category lesson.counts
      = (stock.1 + Finsupp.single lesson.category 1, stock.2) := by
    rw [without, learn, Prod.fst_add, Prod.snd_add, hmessages, hcounts, add_tsub_cancel_right]
  -- A lesson has a token, so something is taken off and the text is forgotten too.
  have fell : (stock.learn lesson).without lesson.category lesson.counts ≠ stock.learn lesson := by
    intro heq
    rw [left, learn, Prod.ext_iff, Prod.snd_add] at heq
    exact ofLesson_snd_ne_zero lesson (left_eq_add.mp heq.2)
  rw [forget, if_neg fell, left, add_tsub_cancel_right]

/-- Forgetting a lesson takes its counts from those of the stock. -/
theorem forget_snd (stock : Stock) (lesson : Lesson) :
    (stock.forget lesson).2 = stock.2 - (ofCounts lesson.category lesson.counts).2 := by
  by_cases same : stock.without lesson.category lesson.counts = stock
  · rw [forget, if_pos same]
    exact (congrArg Prod.snd same).symm
  · rw [forget, if_neg same]
    rfl

/-- A lesson counts its tokens. -/
theorem ofCounts_pos {category token : String} {counts : Entries Nat}
    (pos : ∀ entry ∈ counts, 0 < entry.2) (h : token ∈ counts.keys) :
    0 < (ofCounts category counts).2 (category, token) := by
  induction counts with
  | nil => cases h
  | cons entry rest ih =>
    obtain ⟨first, n⟩ := entry
    rw [ofCounts_cons, Prod.snd_add, Finsupp.add_apply]
    rcases List.mem_cons.mp h with same | h
    · have hn : 0 < n := pos (first, n) List.mem_cons_self
      obtain rfl : token = first := same
      simp [ofCount]
      omega
    · have := ih (fun entry hentry => pos entry (List.mem_cons_of_mem _ hentry)) h
      omega

/-- Only the tokens of a lesson are counted by it. -/
theorem ofCounts_eq_zero {category token : String} {counts : Entries Nat} {c : String}
    (h : c = category → token ∉ counts.keys) : (ofCounts category counts).2 (c, token) = 0 := by
  induction counts with
  | nil => rfl
  | cons entry rest ih =>
    obtain ⟨first, n⟩ := entry
    have other : (c, token) ≠ (category, first) := by
      rintro same
      cases same
      exact h rfl List.mem_cons_self
    rw [ofCounts_cons, Prod.snd_add, Finsupp.add_apply,
      ih fun same hmem => h same (List.mem_cons_of_mem _ hmem)]
    simp [ofCount, Finsupp.single_eq_of_ne other]

/-- Nothing can be taken of tokens that the category does not hold. -/
theorem without_of_unheld {stock : Stock} {lesson : Lesson}
    (unheld : ∀ token ∈ lesson.counts.keys, stock.2 (lesson.category, token) = 0) :
    stock.without lesson.category lesson.counts = stock := by
  refine Prod.ext rfl (Finsupp.ext fun entry => ?_)
  obtain ⟨c, token⟩ := entry
  show stock.2 (c, token) - (ofCounts lesson.category lesson.counts).2 (c, token)
    = stock.2 (c, token)
  by_cases h : c = lesson.category ∧ token ∈ lesson.counts.keys
  · rw [h.1, unheld token h.2, Nat.zero_sub]
  · rw [ofCounts_eq_zero fun same hmem => h ⟨same, hmem⟩, Nat.sub_zero]

/-- Forgetting leaves a stock as it is if the category holds no token of the lesson. -/
theorem forget_of_unheld {stock : Stock} {lesson : Lesson}
    (unheld : ∀ token ∈ lesson.counts.keys, stock.2 (lesson.category, token) = 0) :
    stock.forget lesson = stock := by
  rw [forget, if_pos (without_of_unheld unheld)]

/-- Forgetting takes off something of every token of the lesson that the category holds. -/
theorem forget_lt {stock : Stock} {lesson : Lesson} {token : String}
    (htoken : token ∈ lesson.counts.keys) (held : stock.2 (lesson.category, token) ≠ 0) :
    (stock.forget lesson).2 (lesson.category, token) < stock.2 (lesson.category, token) := by
  have counted : 0 < (ofCounts lesson.category lesson.counts).2 (lesson.category, token) :=
    ofCounts_pos lesson.pos htoken
  rw [forget_snd, Finsupp.tsub_apply]
  omega

end Stock

end Moderation.Bayes
