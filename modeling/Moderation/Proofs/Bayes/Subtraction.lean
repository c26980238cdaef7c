import Moderation.Proofs.Bayes.Lessons

/-!
# `Moderation.Proofs.Bayes.Subtraction`: forgetting is a subtraction that stops at zero

To forget a text, a classifier looks up the counts of its tokens and then takes something off many
counters. `TakenOff` says what is taken off which counter, in numbers that the content shows before.
The main statement is `untrain_takes_off`: whatever was learned and forgotten before, forgetting a
text in a known category succeeds and takes off just that.

A content that a run leaves keeps the balance of a stock (`exists_runAll_eq_set`), and the numbers of
the stock are those of `Moderation.Proofs.Bayes.Lessons`. It remains to read them off the content
(`Keeps.takenOff`). For a text with tokens, the content stays as it is iff the category holds none of
them (`Keeps.get?_forget_iff`).
-/

set_option autoImplicit false

namespace Moderation.Bayes

open Store Tokenizer

/-- The category that a counter is about, if it is about one. -/
def Counter.category? : Counter → Option String
  | messages category => some category
  | tokens category => some category
  | count category _ => some category
  | vocabulary _ => none
  | vocabularySize => none

/-- How many tokens of a text a category can forget. -/
def removableTokens (scope category : String) (tokens : List String) (content : Entries Int) : Int :=
  ∑ token ∈ tokens.toFinset,
    removable (tokens.count token) (amount scope content (.count category token))

/-- From one content to another, the tokens of a text are taken off a category. Tokens that other
categories hold too stay in the vocabulary. -/
structure TakenOff (scope category : String) (tokens : List String) (before after : Entries Int) :
    Prop where
  count_eq : ∀ token, IsToken token → amount scope after (.count category token)
    = max 0 (amount scope before (.count category token) - tokens.count token)
  vocabulary_eq : ∀ token, IsToken token → amount scope after (.vocabulary token)
    = amount scope before (.vocabulary token)
      - removable (tokens.count token) (amount scope before (.count category token))
  tokens_eq : amount scope after (.tokens category)
    = amount scope before (.tokens category) - removableTokens scope category tokens before
  messages_eq : amount scope after (.messages category)
    = amount scope before (.messages category)
      - if 0 < removableTokens scope category tokens before
          ∧ 0 < amount scope before (.messages category) then 1 else 0
  vocabularySize_eq : amount scope after .vocabularySize
    = amount scope before .vocabularySize
      - {token ∈ tokens.toFinset | 0 < amount scope before (.vocabulary token)
          ∧ amount scope after (.vocabulary token) = 0}.card
  /-- The counters of the other categories. -/
  other : ∀ (counter : Counter) (c : String), counter.IsProper → counter.category? = some c →
    c ≠ category → after.get? (counter.key scope) = before.get? (counter.key scope)
  outside : ∀ key, Memory.inScope (scopeStart scope) key = false → after.get? key = before.get? key

variable {scope : String} {rest before after : Entries Int} {stock : Stock} {lesson : Lesson}
  {tokens : List String}

/-! ### Contents that hold the same -/

/-- Contents that hold the same under the name of a counter keep the same of it. -/
theorem balance_eq_of_get?_eq {rest' : Entries Int} {balance balance' : Balance}
    (keeps : Keeps scope rest balance before) (keeps' : Keeps scope rest' balance' after)
    (counter : Counter) (proper : counter.IsProper)
    (same : after.get? (counter.key scope) = before.get? (counter.key scope)) :
    balance' counter = balance counter := by
  rw [← keeps.amount_eq counter proper, ← keeps'.amount_eq counter proper, amount, amount, replied,
    replied, same]

/-- Contents hold the same under the name of a counter that keeps its balance. -/
theorem Keeps.get?_key_eq {balance balance' : Balance} (keeps : Keeps scope rest balance before)
    (keeps' : Keeps scope rest balance' after) {counter : Counter} (proper : counter.IsProper)
    (same : balance' counter = balance counter) :
    after.get? (counter.key scope) = before.get? (counter.key scope) := by
  rw [keeps.counter proper, keeps'.counter proper, same]

/-- Names outside the scope are not touched. -/
theorem Keeps.get?_outside {balance balance' : Balance} (keeps : Keeps scope rest balance before)
    (keeps' : Keeps scope rest balance' after) {key : String}
    (outside : Memory.inScope (scopeStart scope) key = false) : after.get? key = before.get? key := by
  have other (counter : Counter) (_ : counter.IsProper) : counter.key scope ≠ key := by
    rintro rfl
    rw [counter.inScope_key] at outside
    cases outside
  rw [keeps.other key other, keeps'.other key other]

/-- Forgetting leaves a content as it is iff the category holds no token of the lesson. -/
theorem Keeps.get?_forget_iff (keeps : Keeps scope rest stock.balance before)
    (keeps' : Keeps scope rest (stock.forget lesson).balance after) :
    (∀ key, after.get? key = before.get? key)
      ↔ ∀ token ∈ lesson.counts.keys,
        amount scope before (.count lesson.category token) ≤ 0 := by
  have proper (token : String) (h : token ∈ lesson.counts.keys) :
      (Counter.count lesson.category token).IsProper := by
    obtain ⟨entry, hentry, rfl⟩ := List.mem_map.mp h
    exact lesson.isToken entry hentry
  have held (token : String) (h : token ∈ lesson.counts.keys) :
      amount scope before (.count lesson.category token) = stock.2 (lesson.category, token) :=
    keeps.amount_held _ (proper token h)
  constructor
  · intro same token htoken
    rw [held token htoken]
    -- If the category held the token, its count would have fallen.
    by_contra some
    have kept : ((stock.forget lesson).2 (lesson.category, token) : ℤ)
        = stock.2 (lesson.category, token) :=
      balance_eq_of_get?_eq keeps keeps' _ (proper token htoken) (same _)
    have fell : (stock.forget lesson).2 (lesson.category, token) < stock.2 (lesson.category, token) :=
      Stock.forget_lt htoken (by omega)
    omega
  · intro unheld key
    have nothing : ∀ token ∈ lesson.counts.keys, stock.2 (lesson.category, token) = 0 := by
      intro token htoken
      have := held token htoken ▸ unheld token htoken
      omega
    rw [Stock.forget_of_unheld nothing] at keeps'
    exact keeps'.get?_eq keeps key

/-! ### What is taken off a content -/

/-- What can be taken of a token, in terms of the stock. -/
theorem Keeps.removable_eq (keeps : Keeps scope rest stock.balance before) (category : String)
    {token : String} (htoken : IsToken token) (n : ℕ) :
    removable n (amount scope before (.count category token))
      = (min n (stock.2 (category, token)) : ℕ) := by
  rw [removable, keeps.amount_held (.count category token) htoken, Nat.cast_min]
  rfl

/-- So the tokens that a category can forget are as many as are taken off its counts. -/
theorem Keeps.removableTokens_eq (keeps : Keeps scope rest stock.balance before) (category : String)
    (isToken : ∀ token ∈ tokens, IsToken token) :
    removableTokens scope category tokens before
      = (∑ token ∈ tokens.toFinset, min (tokens.count token) (stock.2 (category, token)) : ℕ) := by
  rw [removableTokens, Nat.cast_sum]
  exact Finset.sum_congr rfl fun token h =>
    keeps.removable_eq category (isToken token (List.mem_toFinset.mp h)) _

/-- Forgetting the lesson of a text takes its tokens off the category. -/
theorem Keeps.takenOff (keeps : Keeps scope rest stock.balance before)
    (keeps' : Keeps scope rest (stock.forget lesson).balance after)
    (made : lesson.counts = frequencies tokens) (isToken : ∀ token ∈ tokens, IsToken token) :
    TakenOff scope lesson.category tokens before after where
  count_eq token htoken := by
    have left := stock.forget_apply made lesson.category token
    rw [if_pos rfl] at left
    rw [keeps.amount_held (.count _ token) htoken, keeps'.amount_held (.count _ token) htoken]
    simp only [Stock.held]
    omega
  vocabulary_eq token htoken := by
    have left := stock.held_forget_vocabulary made token
    rw [keeps.removable_eq _ htoken, keeps.amount_held (.vocabulary token) htoken,
      keeps'.amount_held (.vocabulary token) htoken]
    omega
  tokens_eq := by
    have left := stock.held_forget_tokens made lesson.category
    rw [if_pos rfl] at left
    rw [keeps.removableTokens_eq _ isToken, keeps.amount_held (.tokens _) trivial,
      keeps'.amount_held (.tokens _) trivial]
    omega
  messages_eq := by
    have left := stock.held_forget_messages made lesson.category
    simp only [true_and] at left
    rw [keeps.removableTokens_eq _ isToken, keeps.amount_held (.messages _) trivial,
      keeps'.amount_held (.messages _) trivial, left]
    split <;> split <;> omega
  vocabularySize_eq := by
    have left := stock.held_forget_vocabularySize made
    -- A counter is positive iff the stock holds something, so the tokens that leave are counted
    -- alike.
    have gone : {token ∈ tokens.toFinset | 0 < amount scope before (.vocabulary token)
          ∧ amount scope after (.vocabulary token) = 0}
        = {token ∈ tokens.toFinset | stock.held (.vocabulary token) ≠ 0
          ∧ (stock.forget lesson).held (.vocabulary token) = 0} := by
      refine Finset.filter_congr fun token h => ?_
      have htoken := isToken token (List.mem_toFinset.mp h)
      rw [keeps.amount_held (.vocabulary token) htoken,
        keeps'.amount_held (.vocabulary token) htoken]
      omega
    rw [gone, keeps.amount_held .vocabularySize trivial, keeps'.amount_held .vocabularySize trivial]
    omega
  other counter c proper about different := by
    refine keeps.get?_key_eq keeps' proper ?_
    show ((stock.forget lesson).held counter : ℤ) = stock.held counter
    congr 1
    -- A counter of another category is left by each of the equations for the stock.
    cases counter with
    | messages category =>
      obtain rfl : category = c := Option.some.inj about
      rw [stock.held_forget_messages made, if_neg fun h => different h.1, Nat.sub_zero]
    | tokens category =>
      obtain rfl : category = c := Option.some.inj about
      rw [← stock.held_forget_tokens made, if_neg different, add_zero]
    | count category token =>
      obtain rfl : category = c := Option.some.inj about
      exact (stock.forget_apply made category token).trans (by rw [if_neg different]; rfl)
    | vocabulary token => cases about
    | vocabularySize => cases about
  outside _ houtside := keeps.get?_outside keeps' houtside

/-- Of no tokens, nothing is taken off. -/
theorem Keeps.takenOff_nil (keeps : Keeps scope rest stock.balance before) (category : String) :
    TakenOff scope category [] before before where
  count_eq token htoken := by
    rw [keeps.amount_held (.count category token) htoken, List.count_nil]
    omega
  vocabulary_eq token htoken := by
    rw [keeps.removable_eq _ htoken, List.count_nil, Nat.zero_min, Nat.cast_zero, sub_zero]
  tokens_eq := (sub_zero _).symm
  messages_eq := by
    rw [if_neg fun h => absurd h.1 (lt_irrefl 0), sub_zero]
  vocabularySize_eq := (sub_zero _).symm
  other _ _ _ _ _ := rfl
  outside _ _ := rfl

/-- Whatever a classifier has learned and forgotten, forgetting a text in a known category succeeds and
takes the tokens of the text off the category. The content stays as it is iff the category holds none
of them. -/
theorem untrain_takes_off {α : Type} [Arithmetic α] (classifier : Classifier α) {id : Nat}
    {shelf : Shelf} (hid : id < shelf.length)
    (fresh : ∀ key, Memory.inScope (scopeStart classifier.scope) key = true →
      (Memory.contentOf id shelf).get? key = none)
    (calls : List Call) {category : Value} (known : classifier.knows category = true)
    (text : String) :
    let strategy := classifier.strategy (Memory.store id)
    let start := Call.runAll strategy calls shelf
    let outcome := (strategy.untrain category (.text text)).outcome start
    let before := Memory.contentOf id start
    let after := Memory.contentOf id outcome.2
    let tokens := tokenize classifier.settings.tokenizer text
    outcome.1 = .ok ()
      ∧ TakenOff classifier.scope category.display tokens before after
      ∧ ((∀ key, after.get? key = before.get? key)
        ↔ ∀ token ∈ tokens,
          amount classifier.scope before (.count category.display token) ≤ 0) := by
  intro strategy start outcome before after tokens
  obtain ⟨content, hstart, keeps⟩ := exists_runAll_eq_set hid fresh calls
  have hbefore : before = content := by
    show Memory.contentOf id (Call.runAll _ calls shelf) = _
    rw [hstart, Memory.contentOf_set hid]
  have isToken (token : String) (h : token ∈ tokens) : IsToken token := isToken_of_mem h
  -- All of it can be said of whatever content the call ends with, as a postcondition.
  have ensures : (classifier.untrain category (.text text)).Ensures .orderly (fun result after =>
      result = .ok () ∧ TakenOff classifier.scope category.display tokens content after
        ∧ ((∀ key, after.get? key = content.get? key)
          ↔ ∀ token ∈ tokens,
            amount classifier.scope content (.count category.display token) ≤ 0)) content := by
    rcases Classifier.lesson?_text text known with ⟨empty, none⟩ | ⟨-, lesson, some, label, made⟩
    · rw [Classifier.untrain, Classifier.teach_of_idle known none, show tokens = [] from empty]
      exact ⟨rfl, keeps.takenOff_nil _, fun _ _ h => absurd h List.not_mem_nil, fun _ _ => rfl⟩
    · rw [← label]
      refine Classifier.ensures_teach_lesson some
        ((ensures_forget lesson (fun _ _ => Terms.orderly_grants (by simp))
          (fun _ => Terms.orderly_grants (by simp)) keeps).mono fun result after h => ?_)
      refine ⟨h.1, keeps.takenOff h.2 made isToken, (keeps.get?_forget_iff h.2).trans ?_⟩
      rw [made]
      exact forall_congr' fun token => imp_congr (mem_keys_frequencies tokens token) Iff.rfl
  obtain ⟨last, shown, result, takenOff, iff⟩ :=
    ensures.run (honours_memory hid fun _ => trivial) start hstart
  have hafter : after = last := by
    show Memory.contentOf id ((strategy.untrain category (.text text)).outcome start).2 = _
    have : ((strategy.untrain category (.text text)).outcome start).2 = shelf.set id last := shown
    rw [this, Memory.contentOf_set hid]
  rw [hbefore, hafter]
  exact ⟨result, takenOff, iff⟩

/-- A text is forgotten that has other tokens than what was learned, and more of one of them. The token
that is held by the other category too stays in the vocabulary. -/
theorem untrain_spamFilter :
    let calls : List Call :=
      [.train (.text "spam") (.text "cheap pills cheap"), .train (.text "ham") (.text "pills")]
    let strategy := spamFilter.strategy (Memory.store 0)
    let start : Shelf := Call.runAll strategy calls ([[]] : Shelf)
    let outcome := (strategy.untrain (.text "spam") (.text "cheap pills offer pills")).outcome start
    let tokens := ["cheap", "pills", "offer", "pills"]
    start = [[("mail:msg:spam", 1), ("mail:tok:spam", 3), ("mail:cnt:spam:cheap", 2),
        ("mail:voc:cheap", 2), ("mail:vocsize", 2), ("mail:cnt:spam:pills", 1),
        ("mail:voc:pills", 2), ("mail:msg:ham", 1), ("mail:tok:ham", 1), ("mail:cnt:ham:pills", 1)]]
      ∧ outcome.2 = [[("mail:tok:spam", 1), ("mail:cnt:spam:cheap", 1), ("mail:voc:cheap", 1),
        ("mail:vocsize", 2), ("mail:voc:pills", 1), ("mail:msg:ham", 1), ("mail:tok:ham", 1),
        ("mail:cnt:ham:pills", 1)]]
      ∧ outcome.1 = .ok ()
      ∧ TakenOff "mail" "spam" tokens (Memory.contentOf 0 start) (Memory.contentOf 0 outcome.2) := by
  intro calls strategy start outcome tokens
  have text : tokenize spamFilter.settings.tokenizer "cheap pills offer pills" = tokens := by
    decide +kernel
  have fresh (key : String) (_ : Memory.inScope (scopeStart spamFilter.scope) key = true) :
      (Memory.contentOf 0 ([[]] : Shelf)).get? key = none := rfl
  have known : spamFilter.knows (.text "spam") = true := by decide
  obtain ⟨done, taken, -⟩ :=
    untrain_takes_off spamFilter (by decide) fresh calls known "cheap pills offer pills"
  rw [text] at taken
  have learned : start = [[("mail:msg:spam", 1), ("mail:tok:spam", 3), ("mail:cnt:spam:cheap", 2),
        ("mail:voc:cheap", 2), ("mail:vocsize", 2), ("mail:cnt:spam:pills", 1),
        ("mail:voc:pills", 2), ("mail:msg:ham", 1), ("mail:tok:ham", 1), ("mail:cnt:ham:pills", 1)]] := by
    decide +kernel
  refine ⟨learned, ?_, done, taken⟩
  -- What is left is evaluated from the content that was learned, so that the calls are not run
  -- again.
  simp only [outcome]
  rw [learned]
  decide +kernel

end Moderation.Bayes
