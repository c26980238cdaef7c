import Mathlib.Algebra.Order.Chebyshev
import Moderation.Proofs.Bayes.Lessons
import Moderation.Proofs.Bayes.Probability

/-!
# `Moderation.Proofs.Bayes.Reinforcement`: learning a text does not speak against it

A classifier learns a text in a category and is then asked about the same text. Learning raises the
counts of its tokens, but also the total that all of them are divided by, so the factor of a single
token may fall. The product does not. Without smoothing this is the inequality of Gibbs: for the
tokens of a text, no frequencies make a greater product than their own. Here the frequencies are
moved towards those of the text, from `a i / total` to `(a i + n i) / (total + ∑ n i)`, and
`prod_pow_le_prod_pow` says that this raises the product.

It needs that the smoothed counts of the tokens are no more than what they are divided by. That is
what the sums among the counters give, if the text has no new tokens (`Stock.sum_smoothed_le`). New
tokens would also make the vocabulary larger, which changes the other categories.

The main statement is `probability_le_of_train`.
-/

set_option autoImplicit false

namespace Moderation.Bayes

open Store Tokenizer

/-! ### Frequencies that are moved towards those of a text -/

section Gibbs

variable {ι : Type} {s : Finset ι} (n : ι → ℕ) {a : ι → ℝ} {total : ℝ}

/-- What the factors were, in terms of what they are now: on average, no more. -/
theorem sum_mul_ratio_le (pos : ∀ i ∈ s, 0 < a i) (total_pos : 0 < total)
    (le : ∑ i ∈ s, a i ≤ total) :
    ∑ i ∈ s, n i * (a i / total / ((a i + n i) / (total + ∑ j ∈ s, (n j : ℝ))))
      ≤ ∑ i ∈ s, (n i : ℝ) := by
  set size : ℝ := ∑ j ∈ s, (n j : ℝ) with hsize
  have size_nonneg : 0 ≤ size := Finset.sum_nonneg fun _ _ => Nat.cast_nonneg _
  have sum_pos (i : ι) (hi : i ∈ s) : 0 < a i + n i :=
    add_pos_of_pos_of_nonneg (pos i hi) (Nat.cast_nonneg _)
  have squares : size ^ 2 ≤ (total + size) * ∑ i ∈ s, (n i : ℝ) ^ 2 / (a i + n i) := by
    rcases s.eq_empty_or_nonempty with rfl | nonempty
    · simp [hsize]
    -- The inequality of Cauchy and Schwarz, for the `n i` with the weights `a i + n i`.
    have whole : 0 < ∑ i ∈ s, (a i + n i) := Finset.sum_pos sum_pos nonempty
    have cauchy := Finset.sq_sum_div_le_sum_sq_div s (fun i => (n i : ℝ)) sum_pos
    rw [div_le_iff₀ whole, mul_comm] at cauchy
    refine cauchy.trans (mul_le_mul_of_nonneg_right ?_ ?_)
    · rw [Finset.sum_add_distrib]
      linarith
    · exact Finset.sum_nonneg fun i hi => div_nonneg (sq_nonneg _) (sum_pos i hi).le
  have term (i : ι) (hi : i ∈ s) : n i * (a i / total / ((a i + n i) / (total + size)))
      = (total + size) / total * (n i - (n i : ℝ) ^ 2 / (a i + n i)) := by
    have := (sum_pos i hi).ne'
    have := add_pos_of_pos_of_nonneg total_pos size_nonneg
    field_simp
    ring
  rw [Finset.sum_congr rfl term, ← Finset.mul_sum, Finset.sum_sub_distrib, ← hsize,
    div_mul_eq_mul_div, div_le_iff₀ total_pos]
  linarith

/-- Adding `n i` to each of some counts raises the product of their frequencies to the powers `n i`. -/
theorem prod_pow_le_prod_pow (pos : ∀ i ∈ s, 0 < a i) (total_pos : 0 < total)
    (le : ∑ i ∈ s, a i ≤ total) :
    ∏ i ∈ s, (a i / total) ^ n i
      ≤ ∏ i ∈ s, ((a i + n i) / (total + ∑ j ∈ s, (n j : ℝ))) ^ n i := by
  set now : ι → ℝ := fun i => (a i + n i) / (total + ∑ j ∈ s, (n j : ℝ)) with hnow
  set ratio : ι → ℝ := fun i => a i / total / now i with hratio
  have average : ∑ i ∈ s, n i * ratio i ≤ ∑ i ∈ s, (n i : ℝ) := sum_mul_ratio_le n pos total_pos le
  have now_pos (i : ι) (hi : i ∈ s) : 0 < now i :=
    div_pos (add_pos_of_pos_of_nonneg (pos i hi) (Nat.cast_nonneg _))
      (add_pos_of_pos_of_nonneg total_pos (Finset.sum_nonneg fun _ _ => Nat.cast_nonneg _))
  have ratio_pos (i : ι) (hi : i ∈ s) : 0 < ratio i :=
    div_pos (div_pos (pos i hi) total_pos) (now_pos i hi)
  -- A number is at most the exponential of what it has above one.
  have ratios : ∏ i ∈ s, ratio i ^ n i ≤ 1 :=
    calc ∏ i ∈ s, ratio i ^ n i
        ≤ ∏ i ∈ s, Real.exp (n i * (ratio i - 1)) := by
          refine Finset.prod_le_prod (fun i hi => (pow_pos (ratio_pos i hi) _).le) fun i hi => ?_
          rw [Real.exp_nat_mul]
          have := Real.add_one_le_exp (ratio i - 1)
          exact pow_le_pow_left₀ (ratio_pos i hi).le (by linarith) _
      _ = Real.exp (∑ i ∈ s, n i * ratio i - ∑ i ∈ s, (n i : ℝ)) := by
          rw [← Real.exp_sum, ← Finset.sum_sub_distrib]
          simp only [mul_sub, mul_one]
      _ ≤ 1 := Real.exp_le_one_iff.mpr (by linarith)
  calc ∏ i ∈ s, (a i / total) ^ n i
      = ∏ i ∈ s, ratio i ^ n i * now i ^ n i :=
        Finset.prod_congr rfl fun i hi => by
          rw [← mul_pow, hratio, div_mul_cancel₀ _ (now_pos i hi).ne']
    _ = (∏ i ∈ s, ratio i ^ n i) * ∏ i ∈ s, now i ^ n i := Finset.prod_mul_distrib
    _ ≤ ∏ i ∈ s, now i ^ n i :=
        mul_le_of_le_one_left (Finset.prod_nonneg fun i hi => (pow_pos (now_pos i hi) _).le) ratios

end Gibbs

/-! ### Weights over a stock -/

namespace Stock

/-- What the smoothed counts of a category are divided by. -/
noncomputable def denominator (stock : Stock) (smoothing : ℝ) (category : String) : ℝ :=
  stock.held (.tokens category) + smoothing * max 1 (stock.held .vocabularySize)

/-- The weight of a category if no token is left out. -/
noncomputable def weight (stock : Stock) (smoothing : ℝ) (tokens : List String) (category : String) :
    ℝ :=
  stock.held (.messages category) * ∏ token ∈ tokens.toFinset,
    ((stock.2 (category, token) + smoothing) / stock.denominator smoothing category)
      ^ tokens.count token

variable {stock : Stock} {smoothing : ℝ} {lesson : Lesson} {tokens : List String}

/-- With a smoothing the denominator is positive, since the vocabulary counts at least one. -/
theorem denominator_pos (smooth : 0 < smoothing) (category : String) :
    0 < stock.denominator smoothing category := by
  rw [denominator]
  positivity

/-- The smoothed counts of known tokens are no more than what they are divided by. -/
theorem sum_smoothed_le (smooth : 0 < smoothing) (known : ∀ token ∈ tokens, token ∈ stock.vocabulary)
    (category : String) :
    ∑ token ∈ tokens.toFinset, ((stock.2 (category, token) : ℝ) + smoothing)
      ≤ stock.denominator smoothing category := by
  have part : tokens.toFinset ⊆ stock.vocabulary :=
    fun token h => known token (List.mem_toFinset.mp h)
  -- The counts are some of all counts of the category, and the tokens are some of the vocabulary.
  have counts : ∑ token ∈ tokens.toFinset, stock.2 (category, token)
      ≤ stock.held (.tokens category) := by
    rw [held_tokens_eq_sum]
    exact Finset.sum_le_sum_of_subset part
  have size : tokens.toFinset.card ≤ max 1 (stock.held .vocabularySize) :=
    (Finset.card_le_card part).trans (le_max_right _ _)
  rw [Finset.sum_add_distrib, Finset.sum_const, nsmul_eq_mul, denominator, mul_comm]
  exact add_le_add (by exact_mod_cast counts)
    (mul_le_mul_of_nonneg_left (by exact_mod_cast size) smooth.le)

/-- A text of known tokens does not make the vocabulary larger. -/
theorem vocabularySize_learn (made : lesson.counts = frequencies tokens)
    (known : ∀ token ∈ tokens, token ∈ stock.vocabulary) :
    (stock.learn lesson).held .vocabularySize = stock.held .vocabularySize :=
  congrArg Finset.card (stock.vocabulary_learn made known)

/-- Learning known tokens leaves the weights of the other categories. -/
theorem weight_learn_of_ne (made : lesson.counts = frequencies tokens)
    (known : ∀ token ∈ tokens, token ∈ stock.vocabulary) {category : String}
    (other : category ≠ lesson.category) :
    (stock.learn lesson).weight smoothing tokens category = stock.weight smoothing tokens category := by
  simp only [weight, denominator, vocabularySize_learn made known, held_learn_messages,
    held_learn_tokens _ made, learn_apply _ made, if_neg other, add_zero]

/-- Learning known tokens does not lower the weight that their category has for them. -/
theorem weight_le_weight_learn (smooth : 0 < smoothing) (made : lesson.counts = frequencies tokens)
    (known : ∀ token ∈ tokens, token ∈ stock.vocabulary) :
    stock.weight smoothing tokens lesson.category
      ≤ (stock.learn lesson).weight smoothing tokens lesson.category := by
  set category := lesson.category
  have total_pos : 0 < stock.denominator smoothing category := denominator_pos smooth category
  -- The denominator grows by the length of the text, as the vocabulary stays as it is.
  have now : (stock.learn lesson).denominator smoothing category
      = stock.denominator smoothing category
        + ∑ token ∈ tokens.toFinset, (tokens.count token : ℝ) := by
    rw [denominator, denominator, vocabularySize_learn made known, held_learn_tokens _ made,
      if_pos rfl]
    push_cast
    ring
  -- So the numerators grow by as much as the denominator does, and the product cannot fall.
  have factors := prod_pow_le_prod_pow (fun token => tokens.count token)
    (fun token _ => add_pos_of_nonneg_of_pos (Nat.cast_nonneg (stock.2 (category, token))) smooth)
    total_pos (sum_smoothed_le smooth known category)
  have texts : stock.held (.messages category) ≤ (stock.learn lesson).held (.messages category) := by
    rw [held_learn_messages]
    omega
  rw [weight, weight, now]
  refine mul_le_mul (by exact_mod_cast texts) (factors.trans_eq ?_) (by positivity) (by positivity)
  refine Finset.prod_congr rfl fun token _ => ?_
  rw [learn_apply _ made, if_pos rfl, Nat.cast_add, add_right_comm]

end Stock

/-! ### Probabilities before and after -/

/-- If one weight grows and the others stay, its part in the sum of all does not fall. -/
theorem div_sum_le_div_sum {categories : List Value} {weight weight' : Value → ℝ} {category : Value}
    (nonneg : ∀ c ∈ categories, 0 ≤ weight c) (sum_pos : 0 < (categories.map weight).sum)
    (own : weight category ≤ weight' category)
    (others : ∀ c ∈ categories, weight' c = weight c
      ∨ weight c = weight category ∧ weight' c = weight' category) :
    weight category / (categories.map weight).sum
      ≤ weight' category / (categories.map weight').sum := by
  have sum_le : (categories.map weight).sum ≤ (categories.map weight').sum := by
    refine List.sum_le_sum fun c hc => ?_
    rcases others c hc with same | ⟨was, is⟩
    · exact same.ge
    · rw [was, is]
      exact own
  -- Both sums have a term for each category, so it is enough to compare the products one by one.
  rw [div_le_div_iff₀ sum_pos (sum_pos.trans_le sum_le), ← List.sum_map_mul_left,
    ← List.sum_map_mul_left]
  refine List.sum_le_sum fun c hc => ?_
  rcases others c hc with same | ⟨was, is⟩
  · rw [same]
    exact mul_le_mul_of_nonneg_right own (nonneg c hc)
  · rw [was, is, mul_comm]

section

variable {classifier : Classifier ℝ} {rest content content' : Entries Int} {stock : Stock}
  {lesson : Lesson} {tokens : List String}

/-- On a content that keeps a stock, the weights are those over the stock. -/
theorem Keeps.weight_eq (keeps : Keeps classifier.scope rest stock.balance content)
    (all : classifier.settings.minTokenCount = 0) (isToken : ∀ token ∈ tokens, IsToken token)
    (category : Value) :
    classifier.weight content tokens category
      = stock.weight classifier.settings.smoothing tokens category.display := by
  -- Over a stock nothing is below zero, so nothing is clamped.
  have clamped (counter : Counter) (proper : counter.IsProper) :
      classifier.clamped content counter = stock.held counter := by
    rw [keeps.clamped_eq counter proper, keeps.amount_held counter proper]
  have total_nonneg (token : String) : (0 : ℝ) ≤ classifier.total content token := by
    have : 0 ≤ classifier.total content token := by
      refine List.sum_nonneg fun n hn => ?_
      obtain ⟨c, -, rfl⟩ := List.mem_map.mp hn
      exact le_max_left _ _
    exact_mod_cast this
  rw [Classifier.weight, all, Finset.filter_true_of_mem fun token _ => total_nonneg token,
    Stock.weight, clamped (.messages _) trivial, clamped (.tokens _) trivial,
    keeps.amount_held .vocabularySize trivial, Stock.denominator]
  push_cast
  congr 1
  refine Finset.prod_congr rfl fun token h => ?_
  rw [clamped (.count _ token) (isToken token (List.mem_toFinset.mp h)), Int.cast_natCast]
  rfl

/-- Learning a text of known tokens in a category does not lower the share of the category in it. -/
theorem Keeps.share_le_share_learn (smooth : 0 < classifier.settings.smoothing)
    (all : classifier.settings.minTokenCount = 0)
    (keeps : Keeps classifier.scope rest stock.balance content)
    (keeps' : Keeps classifier.scope rest (stock.learn lesson).balance content')
    (made : lesson.counts = frequencies tokens) (isToken : ∀ token ∈ tokens, IsToken token)
    (known : ∀ token ∈ tokens, token ∈ stock.vocabulary)
    (learned : ∃ c ∈ classifier.settings.categories,
      0 < amount classifier.scope content (.messages c.display))
    {category : Value} (label : lesson.category = category.display) :
    classifier.share content tokens category ≤ classifier.share content' tokens category := by
  refine div_sum_le_div_sum (fun c hc => Classifier.weight_nonneg smooth tokens hc)
    (Classifier.sum_weights_pos smooth tokens learned) ?_ fun c _ => ?_
  · rw [keeps.weight_eq all isToken, keeps'.weight_eq all isToken, ← label]
    exact Stock.weight_le_weight_learn smooth made known
  · -- The other categories keep their weights, and one that is displayed alike is the same.
    simp only [keeps.weight_eq all isToken, keeps'.weight_eq all isToken]
    by_cases own : c.display = lesson.category
    · exact Or.inr ⟨by rw [own, label], by rw [own, label]⟩
    · exact Or.inl (Stock.weight_learn_of_ne made known own)

/-- After a text was learned in a category, a classification of it has something to say. -/
theorem Keeps.not_idle_learn (keeps : Keeps classifier.scope rest (stock.learn lesson).balance content)
    {text : String} (nonempty : tokenize classifier.settings.tokenizer text ≠ []) {category : Value}
    (hcategory : category ∈ classifier.settings.categories)
    (label : lesson.category = category.display) : ¬ classifier.Idle content text := by
  rintro (empty | none)
  · exact nonempty empty
  · have texts := none category hcategory
    rw [← label, keeps.amount_held (.messages _) trivial, Stock.held_learn_messages,
      if_pos rfl] at texts
    omega

end

/-- A category that is one of the classifier's by name is known. -/
theorem Classifier.knows_text {α : Type} {classifier : Classifier α} {category : String}
    (h : .text category ∈ classifier.settings.categories) :
    classifier.knows (.text category) = true :=
  List.any_eq_true.mpr ⟨_, h, by simp [Value.same]⟩

/-- Learning a text in a category never lowers the probability of the category for the text, if no
token is left out, the text is not cut and has no new tokens. -/
theorem probability_le_of_train (classifier : Classifier ℝ)
    (smooth : 0 < classifier.settings.smoothing) (all : classifier.settings.minTokenCount = 0)
    {limit : ℤ} (hlimit : classifier.settings.maxTokens = .int limit) {id : Nat} {shelf : Shelf}
    (hid : id < shelf.length)
    (fresh : ∀ key, Memory.inScope (scopeStart classifier.scope) key = true →
      (Memory.contentOf id shelf).get? key = none)
    (calls : List Call) {category : String}
    (hcategory : .text category ∈ classifier.settings.categories) (text : String) :
    let strategy := classifier.strategy (Memory.store id)
    let start := Call.runAll strategy calls shelf
    let taught := ((strategy.train (.text category) (.text text)).outcome start).2
    let tokens := tokenize classifier.settings.tokenizer text
    tokens.length ≤ limit →
    (∀ token ∈ tokens,
      0 < amount classifier.scope (Memory.contentOf id start) (.vocabulary token)) →
    ∃ scores scores', ((strategy.classify (.text text)).outcome start).1 = .ok scores
      ∧ ((strategy.classify (.text text)).outcome taught).1 = .ok scores'
      ∧ probability scores category ≤ probability scores' category := by
  intro strategy start taught tokens short seen
  have next : Call.runAll strategy (calls ++ [.train (.text category) (.text text)]) shelf = taught :=
    Call.runAll_append strategy calls _ shelf
  have keeps := (keeps_runAll hid fresh calls).1
  have keeps' := (keeps_runAll hid fresh (calls ++ [.train (.text category) (.text text)])).1
  have hid' := lt_length_runAll hid fresh (calls ++ [.train (.text category) (.text text)])
  rw [next] at keeps' hid'
  rw [List.foldl_append] at keeps'
  obtain ⟨scores, hscores, -, before⟩ := Classifier.classify_probability smooth hlimit
    (lt_length_runAll hid fresh calls) text
  obtain ⟨scores', hscores', -, after⟩ := Classifier.classify_probability smooth hlimit hid' text
  refine ⟨scores, scores', hscores, hscores', ?_⟩
  have uncut : Classifier.cut limit tokens = tokens := by
    rw [Classifier.cut, if_pos (by omega), List.take_of_length_le (by omega)]
  rw [before category hcategory, after category hcategory, uncut]
  by_cases idle : classifier.Idle (Memory.contentOf id start) text
  · -- A probability of zero does not fall.
    rw [if_pos idle]
    split
    · exact le_rfl
    · exact Classifier.share_nonneg smooth tokens hcategory
  · rcases Classifier.lesson?_text text (Classifier.knows_text hcategory) with
      ⟨empty, -⟩ | ⟨nonempty, lesson, some, label, made⟩
    · exact absurd (Or.inl empty) idle
    have learned : Stock.follow classifier (calls.foldl (Stock.follow classifier) 0)
        (.train (.text category) (.text text))
          = (calls.foldl (Stock.follow classifier) 0).learn lesson := by
      rw [Stock.follow, some]
      rfl
    rw [List.foldl_cons, List.foldl_nil, learned] at keeps'
    have isToken (token : String) (h : token ∈ tokens) : IsToken token := isToken_of_mem h
    rw [if_neg idle, if_neg (keeps'.not_idle_learn nonempty hcategory label)]
    exact keeps.share_le_share_learn smooth all keeps' made isToken
      (fun token h => (keeps.vocabulary_pos_iff (isToken token h)).mp (seen token h))
      (Classifier.exists_learned_of_busy idle) label

/-- A text is learned as no spam. The factor of `talk` falls from 2/3 to 3/5 by that, but the one of
`cheap` rises from 1/3 to 2/5. -/
theorem probability_le_exactFilter :
    let calls : List Call :=
      [.train (.text "spam") (.text "cheap cheap cheap"), .train (.text "ham") (.text "talk")]
    let strategy := exactFilter.strategy (Memory.store 0)
    let start : Shelf := Call.runAll strategy calls ([[]] : Shelf)
    let taught := ((strategy.train (.text "ham") (.text "cheap talk")).outcome start).2
    start = [[("mail:msg:spam", 1), ("mail:tok:spam", 3), ("mail:cnt:spam:cheap", 3),
        ("mail:voc:cheap", 3), ("mail:vocsize", 2), ("mail:msg:ham", 1), ("mail:tok:ham", 1),
        ("mail:cnt:ham:talk", 1), ("mail:voc:talk", 1)]]
      ∧ ∃ scores scores', ((strategy.classify (.text "cheap talk")).outcome start).1 = .ok scores
        ∧ ((strategy.classify (.text "cheap talk")).outcome taught).1 = .ok scores'
        ∧ probability scores "ham" ≤ probability scores' "ham" := by
  intro calls strategy start taught
  have tokens : tokenize exactFilter.settings.tokenizer "cheap talk" = ["cheap", "talk"] := by
    show tokenize {} "cheap talk" = _
    decide +kernel
  have fresh (key : String) (_ : Memory.inScope (scopeStart exactFilter.scope) key = true) :
      (Memory.contentOf 0 ([[]] : Shelf)).get? key = none := rfl
  have hcategory : .text "ham" ∈ exactFilter.settings.categories :=
    List.mem_cons_of_mem _ List.mem_cons_self
  have limit : exactFilter.settings.maxTokens = .int 2000 := rfl
  -- Both tokens are known: each is in the vocabulary from the text of one category.
  refine ⟨by decide +kernel, probability_le_of_train exactFilter one_pos rfl limit (by decide) fresh
    calls hcategory "cheap talk" ?_ ?_⟩
  · rw [tokens]
    decide
  · rw [tokens]
    decide +kernel

end Moderation.Bayes
