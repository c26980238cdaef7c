import Mathlib.Algebra.BigOperators.Group.Finset.Basic
import Moderation.Proofs.Bayes.Call
import Moderation.Proofs.Bayes.Weight

/-!
# `Moderation.Proofs.Bayes.Classification`: what a classification computes from a content

A classification reads counters in three round trips and changes none, so on a store in memory it
is a function of the content (`Classifier.scores`, `outcome_classify`). What it reads is its
evidence, with every counter clamped at zero.

Over the reals the posterior of the evidence is a quotient of weights, and a weight is a product
over the different tokens of the text (`Classifier.weight`, `weight_evidence`). Hence the main
statement `classify_shares`: whatever integers the counters hold, a classification gives each
category its share in the sum of all weights. Shares lie between zero and one and have the sum
one, and a category without texts has the share zero.
-/

set_option autoImplicit false

namespace Moderation.Bayes

open Store Tokenizer

namespace Classifier

variable {α : Type}

/-! ### Reading the counters -/

/-- The standing of a category in a content. -/
def standing (classifier : Classifier α) (content : Entries Int) (category : Value) : Standing :=
  .clamped (amount classifier.scope content (.messages category.display))
    (amount classifier.scope content (.tokens category.display))

/-- The names of the counts that a classification of some tokens looks up. -/
def countKeys (classifier : Classifier α) (tokens : List String) : List String :=
  tokens.flatMap fun token => classifier.settings.categories.map fun category =>
    (Counter.count category.display token).key classifier.scope

/-- What a classification reads of a content. -/
def evidence (classifier : Classifier α) (content : Entries Int) (tokens : List String) :
    Evidence where
  standings := classifier.settings.categories.map fun category =>
    (category.display, classifier.standing content category)
  frequencies := frequencies tokens
  count category token :=
    max 0 (replied (Memory.getMany content (classifier.countKeys (frequencies tokens).keys))
      ((Counter.count category token).key classifier.scope))
  vocabularySize := max 1 (amount classifier.scope content .vocabularySize)

/-- The scores of a text, as a function of the content. -/
def scores [Arithmetic α] (classifier : Classifier α) (content : Entries Int) (text : Value) :
    Except Error (Scores α) := do
  let tokens ← classifier.tokens text
  if tokens.isEmpty then return []
  let kept ← limited classifier.settings.maxTokens tokens
  if (classifier.settings.categories.map (classifier.standing content)).all (·.messages = 0) then
    return []
  let shares ← (posterior classifier.settings (classifier.evidence content kept)).mapError
    Error.ofArithmetic
  return classifier.settings.categories.zip shares

variable {terms : Terms} {classifier : Classifier α} {content : Entries Int}

/-- The standings are those of the content. -/
theorem ensures_standings {post : Except Error (List Standing) → Entries Int → Prop}
    (granted : ∀ keys, terms.Grants (.getMany keys))
    (h : post (.ok (classifier.settings.categories.map (classifier.standing content))) content) :
    classifier.standings.Ensures terms post content := by
  rw [standings, Program.ensures_bind]
  refine Program.ensures_getMany (granted _) ?_
  rw [Program.andThen_ok, Program.ensures_pure]
  convert h using 2
  refine List.map_congr_left fun c hc => ?_
  rw [replied_getMany (List.mem_flatMap.mpr ⟨c, hc, by simp⟩),
    replied_getMany (List.mem_flatMap.mpr ⟨c, hc, by simp⟩), standing]

/-- The counts are those that the content holds under the names that are looked up. -/
theorem ensures_tokenCounts {tokens : List String}
    {post : Except Error (String → String → Int) → Entries Int → Prop}
    (granted : ∀ keys, terms.Grants (.getMany keys))
    (h : post (.ok fun category token =>
      max 0 (replied (Memory.getMany content (classifier.countKeys tokens))
        ((Counter.count category token).key classifier.scope))) content) :
    (classifier.tokenCounts tokens).Ensures terms post content := by
  rw [tokenCounts, Program.ensures_bind]
  exact Program.ensures_getMany (granted _) h

/-- The size of the vocabulary is that of the content. -/
theorem ensures_vocabularySize {post : Except Error Int → Entries Int → Prop}
    (granted : ∀ key, terms.Grants (.get key))
    (h : post (.ok (amount classifier.scope content .vocabularySize)) content) :
    classifier.vocabularySize.Ensures terms post content := by
  rw [vocabularySize, Program.ensures_bind]
  exact Program.Ensures.of_grants (granted _) h

/-- A classification gives the scores that belong to the content, and changes nothing. -/
theorem ensures_classify [Arithmetic α] (text : Value)
    (granted : ∀ keys, terms.Grants (.getMany keys)) (grantedOne : ∀ key, terms.Grants (.get key)) :
    (classifier.classify text).Ensures terms
      (fun result after => result = classifier.scores content text ∧ after = content) content := by
  -- Program and function are opened side by side: each early end of the one is an early end of the
  -- other, and each reply is what the function reads of the content.
  rw [classify, scores, Program.ensures_bind, Program.ensures_ofExcept]
  cases classifier.tokens text with
  | error e => exact ⟨rfl, rfl⟩
  | ok tokens =>
    rw [Program.andThen_ok, ok_bind]
    by_cases empty : tokens.isEmpty
    · rw [if_pos empty, if_pos empty]
      exact ⟨rfl, rfl⟩
    rw [if_neg empty, if_neg empty, Program.ensures_bind, Program.ensures_ofExcept]
    cases limited classifier.settings.maxTokens tokens with
    | error e => exact ⟨rfl, rfl⟩
    | ok kept =>
      rw [Program.andThen_ok, ok_bind, Program.ensures_bind]
      refine ensures_standings granted ?_
      rw [Program.andThen_ok]
      by_cases idle :
          (classifier.settings.categories.map (classifier.standing content)).all (·.messages = 0)
      · rw [if_pos idle, if_pos idle]
        exact ⟨rfl, rfl⟩
      rw [if_neg idle, if_neg idle, Program.ensures_bind]
      refine ensures_tokenCounts granted ?_
      rw [Program.andThen_ok, Program.ensures_bind]
      refine ensures_vocabularySize grantedOne ?_
      rw [Program.andThen_ok]
      dsimp only
      rw [Program.ensures_bind, Program.ofArithmetic, Program.ensures_ofExcept, List.zip_map']
      show Program.andThen _ _ ((posterior classifier.settings
        (classifier.evidence content kept)).mapError Error.ofArithmetic) content
      cases posterior classifier.settings (classifier.evidence content kept) with
      | error fault => exact ⟨rfl, rfl⟩
      | ok shares => exact ⟨rfl, rfl⟩

/-- On a store in memory, a classification is a function of the content, and leaves the shelf as it
is. -/
theorem outcome_classify [Arithmetic α] (classifier : Classifier α) {id : Nat} {shelf : Shelf}
    (hid : id < shelf.length) (text : Value) :
    ((classifier.strategy (Memory.store id)).classify text).outcome shelf
      = (classifier.scores (Memory.contentOf id shelf) text, shelf) := by
  have reads : (classifier.classify text).Ensures .orderly (fun result after =>
      result = classifier.scores (Memory.contentOf id shelf) text
        ∧ after = Memory.contentOf id shelf) (Memory.contentOf id shelf) := ensures_classify text
    (fun _ => Terms.orderly_grants (by simp)) (fun _ => Terms.orderly_grants (by simp))
  obtain ⟨after, shown, hresult, rfl⟩ :=
    reads.run (honours_memory hid fun _ => trivial) shelf (Memory.set_contentOf hid).symm
  rw [Memory.set_contentOf hid] at shown
  exact Prod.ext hresult shown

/-! ### Weights over a content -/

variable (classifier : Classifier ℝ) (content : Entries Int)

/-- A counter as a classification reads it: nothing is below zero. -/
def clamped (counter : Counter) : Int := max 0 (amount classifier.scope content counter)

/-- How often the categories have learned a token. -/
def total (token : String) : Int :=
  (classifier.settings.categories.map fun category =>
    classifier.clamped content (.count category.display token)).sum

/-- The weight of a category by the rule of Bayes: the number of its texts, times the smoothed
frequency of each different token to the power of its occurrences in the text. Tokens that have
been learned too seldom are left out. -/
noncomputable def weight (tokens : List String) (category : Value) : ℝ :=
  classifier.clamped content (.messages category.display)
    * ∏ token ∈ tokens.toFinset with classifier.settings.minTokenCount ≤ classifier.total content token,
      ((classifier.clamped content (.count category.display token) + classifier.settings.smoothing)
        / (classifier.clamped content (.tokens category.display) + classifier.settings.smoothing
          * (max 1 (amount classifier.scope content .vocabularySize) : Int))) ^ tokens.count token

/-- The share of a category in the weights of all. -/
noncomputable def share (tokens : List String) (category : Value) : ℝ :=
  classifier.weight content tokens category
    / (classifier.settings.categories.map (classifier.weight content tokens)).sum

variable {classifier content}

/-- The counts of the evidence are the clamped counters of the content, for the tokens that were
looked up. -/
theorem count_evidence {tokens : List String} {category : Value} {token : String}
    (hcategory : category ∈ classifier.settings.categories) (htoken : token ∈ tokens) :
    (classifier.evidence content tokens).count category.display token
      = classifier.clamped content (.count category.display token) := by
  have looked : (Counter.count category.display token).key classifier.scope
      ∈ classifier.countKeys (frequencies tokens).keys :=
    List.mem_flatMap.mpr ⟨token, (mem_keys_frequencies tokens token).mpr htoken,
      List.mem_map.mpr ⟨category, hcategory, rfl⟩⟩
  rw [evidence, clamped, ← replied_getMany looked]

/-- So are their totals over the categories. -/
theorem total_evidence {tokens : List String} {token : String} (htoken : token ∈ tokens) :
    (classifier.evidence content tokens).total token = classifier.total content token := by
  have sum : (classifier.evidence content tokens).total token
      = ((classifier.evidence content tokens).standings.map fun entry =>
          (classifier.evidence content tokens).count entry.1 token).sum := by
    rw [List.sum_eq_foldr, List.foldr_map]
    rfl
  rw [sum, total]
  show ((classifier.settings.categories.map _).map _).sum = _
  rw [List.map_map]
  exact congrArg List.sum (List.map_congr_left fun category hcategory =>
    count_evidence hcategory htoken)

/-- The product over the entries of the frequencies is a product over the different tokens. -/
theorem prod_frequencies (tokens : List String) (f : String × ℕ → ℝ) :
    ((frequencies tokens).map f).prod = ∏ token ∈ tokens.toFinset, f (token, tokens.count token) := by
  have entries : (frequencies tokens).map f
      = (frequencies tokens).keys.map fun token => f (token, tokens.count token) := by
    rw [Entries.keys, List.map_map]
    refine List.map_congr_left fun entry hentry => ?_
    rw [Function.comp_apply, ← ((mem_frequencies_iff tokens entry.1 entry.2).mp hentry).2]
  have keys : (frequencies tokens).keys.toFinset = tokens.toFinset := by
    ext token
    rw [List.mem_toFinset, List.mem_toFinset, mem_keys_frequencies]
  rw [entries, ← keys, List.prod_toFinset _ (nodup_keys_frequencies tokens)]

/-- The weight of a category in the evidence is its weight over the content. -/
theorem weight_evidence {tokens : List String} {category : Value}
    (hcategory : category ∈ classifier.settings.categories) :
    (classifier.evidence content tokens).weight classifier.settings
        (category.display, classifier.standing content category)
      = classifier.weight content tokens category := by
  rw [Evidence.weight, weight, Finset.prod_filter]
  show _ * ((frequencies tokens).map _).prod = _
  rw [prod_frequencies]
  congr 1
  refine Finset.prod_congr rfl fun token htoken => ?_
  have member := List.mem_toFinset.mp htoken
  rw [Evidence.factor, total_evidence member, count_evidence hcategory member]
  -- A rare token has the factor one in the evidence, and is filtered out of the product here.
  by_cases rare : (classifier.total content token : ℝ) < classifier.settings.minTokenCount
  · rw [if_pos rare, if_neg (not_le.mpr rare)]
  · rw [if_neg rare, if_pos (not_lt.mp rare)]
    rfl

/-- Standings and counts that are not below zero make clamped evidence, whatever the size of the
vocabulary is. -/
theorem clamped_of_nonneg {standing : Value → Standing}
    (nonneg : ∀ category, 0 ≤ (standing category).messages ∧ 0 ≤ (standing category).tokens)
    {count : String → String → Int} (counts : ∀ category token, 0 ≤ count category token)
    (categories : List Value) (frequencies : Entries Nat) (size : Int) :
    Evidence.Clamped
      { standings := categories.map fun category => (category.display, standing category)
        frequencies
        count
        vocabularySize := max 1 size } where
  messages entry hentry := by
    obtain ⟨category, -, rfl⟩ := List.mem_map.mp hentry
    exact (nonneg category).1
  tokens entry hentry := by
    obtain ⟨category, -, rfl⟩ := List.mem_map.mp hentry
    exact (nonneg category).2
  count := counts
  vocabularySize := le_max_left _ _

/-- No counter of the evidence is below zero. -/
theorem clamped_evidence (tokens : List String) : (classifier.evidence content tokens).Clamped :=
  clamped_of_nonneg (fun _ => ⟨le_max_left _ _, le_max_left _ _⟩) (fun _ _ => le_max_left _ _) _ _ _

/-- Each category has its standing in the evidence. -/
theorem mem_standings {tokens : List String} {category : Value}
    (hcategory : category ∈ classifier.settings.categories) :
    (category.display, classifier.standing content category)
      ∈ (classifier.evidence content tokens).standings :=
  List.mem_map.mpr ⟨category, hcategory, rfl⟩

/-- The weights of the evidence are those over the content. -/
theorem weights_evidence (tokens : List String) :
    (classifier.evidence content tokens).standings.map
        ((classifier.evidence content tokens).weight classifier.settings)
      = classifier.settings.categories.map (classifier.weight content tokens) := by
  show (classifier.settings.categories.map _).map _ = _
  rw [List.map_map]
  exact List.map_congr_left fun category hcategory => weight_evidence hcategory

/-- A category that has learned a text shows in the evidence. -/
theorem messages_evidence_pos (tokens : List String)
    (learned : ∃ category ∈ classifier.settings.categories,
      0 < amount classifier.scope content (.messages category.display)) :
    0 < (classifier.evidence content tokens).messages := by
  obtain ⟨category, hcategory, learned⟩ := learned
  exact (Evidence.messages_pos_iff (clamped_evidence tokens)).mpr
    ⟨_, mem_standings hcategory, lt_max_of_lt_right learned⟩

/-! ### Shares -/

/-- A whole limit leaves a part of the tokens, from the first on. -/
theorem limited_whole (limit : ℤ) (tokens : List String) :
    limited (.int limit) tokens = .ok (cut limit tokens) := by
  show (if Number.lt (.whole limit) (.whole tokens.length) then Except.ok (cut limit tokens)
    else Except.ok tokens) = _
  rw [Number.lt_whole]
  by_cases long : limit < tokens.length
  · rw [if_pos (decide_eq_true long)]
  · rw [if_neg (by simpa using long), cut, if_pos (by omega), List.take_of_length_le (by omega)]

/-- A limit that is not below zero leaves the first tokens. -/
theorem cut_natCast (limit : ℕ) (tokens : List String) : cut limit tokens = tokens.take limit := by
  rw [cut, if_pos (by omega), Int.toNat_natCast]

/-- Whether a classification of a text has nothing to say: the text has no tokens, or no category
has learned a text. -/
def Idle (classifier : Classifier ℝ) (content : Entries Int) (text : String) : Prop :=
  tokenize classifier.settings.tokenizer text = []
    ∨ ∀ category ∈ classifier.settings.categories,
      amount classifier.scope content (.messages category.display) ≤ 0

/-- There is nothing to say about a text without tokens, nor before a category has learned a text.
-/
theorem scores_of_idle {limit : ℤ} (hlimit : classifier.settings.maxTokens = .int limit)
    {text : String} (idle : classifier.Idle content text) :
    classifier.scores content (.text text) = .ok [] := by
  rw [scores, tokens_text, ok_bind, hlimit]
  by_cases empty : (tokenize classifier.settings.tokenizer text).isEmpty
  · rw [if_pos empty]
    rfl
  · rw [if_neg empty, limited_whole, ok_bind, if_pos]
    · rfl
    · -- All standings are without texts, since the numbers of texts are clamped at zero.
      have none := idle.resolve_left (by rwa [List.isEmpty_iff] at empty)
      rw [List.all_map, List.all_eq_true]
      intro category hcategory
      exact decide_eq_true (max_eq_left (none category hcategory))

/-- If some category has learned a text, the classification gives the shares. -/
theorem scores_of_busy (smooth : 0 < classifier.settings.smoothing) {limit : ℤ}
    (hlimit : classifier.settings.maxTokens = .int limit)
    {text : String} (busy : ¬ classifier.Idle content text) :
    classifier.scores content (.text text)
      = .ok (classifier.settings.categories.map fun category => (category,
          classifier.share content
            (cut limit (tokenize classifier.settings.tokenizer text)) category)) := by
  obtain ⟨nonempty, learned⟩ := not_or.mp busy
  push Not at learned
  rw [scores, tokens_text, ok_bind, hlimit, if_neg (by rwa [List.isEmpty_iff]), limited_whole,
    ok_bind, if_neg]
  · generalize cut limit (tokenize classifier.settings.tokenizer text) = tokens
    rw [posterior_eq (clamped_evidence tokens) smooth (messages_evidence_pos tokens learned),
      weights_evidence, List.map_map]
    -- The shares come in the order of the categories, so pairing them up names each share.
    show Except.ok (classifier.settings.categories.zip (classifier.settings.categories.map
      (classifier.share content tokens))) = _
    nth_rewrite 1 [← List.map_id' classifier.settings.categories]
    rw [List.zip_map']
  · obtain ⟨category, hcategory, learned⟩ := learned
    rw [List.all_map, List.all_eq_true]
    intro all
    have := of_decide_eq_true (all category hcategory)
    exact absurd this (lt_max_of_lt_right learned).ne'

/-- With a limit that is not below zero, these are the shares for the first tokens. -/
theorem scores_of_not_idle (smooth : 0 < classifier.settings.smoothing) {limit : ℕ}
    (hlimit : classifier.settings.maxTokens = .int limit)
    {text : String} (busy : ¬ classifier.Idle content text) :
    classifier.scores content (.text text)
      = .ok (classifier.settings.categories.map fun category => (category,
          classifier.share content
            ((tokenize classifier.settings.tokenizer text).take limit) category)) := by
  rw [scores_of_busy smooth hlimit busy, cut_natCast]

/-! ### Properties of shares -/

/-- No weight is below zero. -/
theorem weight_nonneg (smooth : 0 < classifier.settings.smoothing) (tokens : List String)
    {category : Value} (hcategory : category ∈ classifier.settings.categories) :
    0 ≤ classifier.weight content tokens category := by
  rw [← weight_evidence hcategory]
  exact Evidence.weight_nonneg (clamped_evidence tokens) smooth (mem_standings hcategory)

/-- A category has a weight iff it has learned a text. -/
theorem weight_eq_zero_iff (smooth : 0 < classifier.settings.smoothing) (tokens : List String)
    {category : Value} (hcategory : category ∈ classifier.settings.categories) :
    classifier.weight content tokens category = 0
      ↔ amount classifier.scope content (.messages category.display) ≤ 0 := by
  rw [← weight_evidence hcategory,
    Evidence.weight_eq_zero_iff (clamped_evidence tokens) smooth (mem_standings hcategory)]
  exact max_le_iff.trans (and_iff_right le_rfl)

/-- The weights have a positive sum once a category has learned a text. -/
theorem sum_weights_pos (smooth : 0 < classifier.settings.smoothing) (tokens : List String)
    (learned : ∃ category ∈ classifier.settings.categories,
      0 < amount classifier.scope content (.messages category.display)) :
    0 < (classifier.settings.categories.map (classifier.weight content tokens)).sum := by
  rw [← weights_evidence]
  exact Evidence.sum_weight_pos (clamped_evidence tokens) smooth
    (messages_evidence_pos tokens learned)

/-- No share is below zero. -/
theorem share_nonneg (smooth : 0 < classifier.settings.smoothing) (tokens : List String)
    {category : Value} (hcategory : category ∈ classifier.settings.categories) :
    0 ≤ classifier.share content tokens category := by
  refine div_nonneg (weight_nonneg smooth tokens hcategory) (List.sum_nonneg fun w hw => ?_)
  obtain ⟨other, hother, rfl⟩ := List.mem_map.mp hw
  exact weight_nonneg smooth tokens hother

/-- The shares have the sum one. -/
theorem sum_shares (smooth : 0 < classifier.settings.smoothing) (tokens : List String)
    (learned : ∃ category ∈ classifier.settings.categories,
      0 < amount classifier.scope content (.messages category.display)) :
    (classifier.settings.categories.map (classifier.share content tokens)).sum = 1 := by
  have pos := sum_weights_pos smooth tokens learned
  show (classifier.settings.categories.map fun category =>
    classifier.weight content tokens category / _).sum = 1
  simp only [div_eq_mul_inv]
  rw [List.sum_map_mul_right, mul_inv_cancel₀ pos.ne']

/-- No share is above one. -/
theorem share_le_one (smooth : 0 < classifier.settings.smoothing) (tokens : List String)
    (learned : ∃ category ∈ classifier.settings.categories,
      0 < amount classifier.scope content (.messages category.display))
    {category : Value} (hcategory : category ∈ classifier.settings.categories) :
    classifier.share content tokens category ≤ 1 := by
  rw [← sum_shares smooth tokens learned]
  refine List.single_le_sum (fun x hx => ?_) _ (List.mem_map_of_mem hcategory)
  obtain ⟨other, hother, rfl⟩ := List.mem_map.mp hx
  exact share_nonneg smooth tokens hother

/-- A classification gives each category its share in the weights, if the text has tokens and some
category has learned a text, and nothing otherwise. -/
theorem classify_shares (classifier : Classifier ℝ) (smooth : 0 < classifier.settings.smoothing)
    {limit : ℕ} (hlimit : classifier.settings.maxTokens = .int limit) {id : Nat} {shelf : Shelf}
    (hid : id < shelf.length) (text : String) :
    let categories := classifier.settings.categories
    let content := Memory.contentOf id shelf
    let tokens := tokenize classifier.settings.tokenizer text
    let share := classifier.share content (tokens.take limit)
    let outcome := ((classifier.strategy (Memory.store id)).classify (.text text)).outcome shelf
    (classifier.Idle content text → outcome = (.ok [], shelf))
      ∧ (¬ classifier.Idle content text →
        outcome = (.ok (categories.map fun category => (category, share category)), shelf)
          ∧ (∀ category ∈ categories, 0 ≤ share category ∧ share category ≤ 1)
          ∧ (categories.map share).sum = 1
          ∧ ∀ category ∈ categories,
            amount classifier.scope content (.messages category.display) ≤ 0 → share category = 0) := by
  intro categories content tokens share outcome
  have houtcome : outcome = (classifier.scores content (.text text), shelf) :=
    outcome_classify classifier hid (.text text)
  constructor
  · intro idle
    rw [houtcome, scores_of_idle hlimit idle]
  · intro busy
    -- A text that is not idle has tokens, and some category has learned a text.
    have learned : ∃ category ∈ categories,
        0 < amount classifier.scope content (.messages category.display) := by
      have := (not_or.mp busy).2
      push Not at this
      exact this
    refine ⟨by rw [houtcome, scores_of_not_idle smooth hlimit busy], fun category hcategory => ?_,
      sum_shares smooth _ learned, fun category hcategory none => ?_⟩
    · exact ⟨share_nonneg smooth _ hcategory, share_le_one smooth _ learned hcategory⟩
    · show classifier.weight content _ category / _ = 0
      rw [(weight_eq_zero_iff smooth _ hcategory).mpr none, zero_div]

/-- A classifier of spam over the reals that looks at the first token of a text, if it has been
learned. -/
noncomputable def firstTokenFilter : Classifier ℝ where
  name := "mail"
  settings :=
    { smoothing := 1
      categories := defaultCategories
      minTokenCount := 1
      maxTokens := .int 1
      tokenizer := {} }
  scope := "mail"

/-- Counters that have gone below zero count as zero, and the second token is not looked at. -/
theorem classify_shares_firstTokenFilter :
    let shelf : Shelf :=
      [[("mail:msg:spam", 2), ("mail:msg:ham", 1), ("mail:tok:spam", 3), ("mail:tok:ham", -5),
        ("mail:cnt:spam:cheap", 2), ("mail:cnt:ham:cheap", -1)]]
    0 < firstTokenFilter.settings.smoothing
      ∧ ¬ firstTokenFilter.Idle (Memory.contentOf 0 shelf) "Cheap offer"
      ∧ ((firstTokenFilter.strategy (Memory.store 0)).classify (.text "Cheap offer")).outcome shelf
        = (.ok [(.text "spam", 3 / 5), (.text "ham", 2 / 5)], shelf) := by
  intro shelf
  have smooth : 0 < firstTokenFilter.settings.smoothing := one_pos
  have tokens : tokenize firstTokenFilter.settings.tokenizer "Cheap offer" = ["cheap", "offer"] := by
    show tokenize {} "Cheap offer" = _
    decide +kernel
  have busy : ¬ firstTokenFilter.Idle (Memory.contentOf 0 shelf) "Cheap offer" := by
    rintro (empty | none)
    · rw [tokens] at empty
      cases empty
    · have := none (.text "spam") (by simp [firstTokenFilter, defaultCategories])
      exact absurd this (by decide +kernel)
  refine ⟨smooth, busy, ?_⟩
  have limit : firstTokenFilter.settings.maxTokens = .int (1 : ℕ) := rfl
  have result := ((classify_shares firstTokenFilter smooth limit (by decide) "Cheap offer").2 busy).1
  -- The weight of a category over the one token that is looked at, by the three counters that it
  -- reads.
  have weight (category : Value) (messages count held : Int)
      (hmessages : firstTokenFilter.clamped (Memory.contentOf 0 shelf) (.messages category.display)
        = messages)
      (hcount : firstTokenFilter.clamped (Memory.contentOf 0 shelf) (.count category.display "cheap")
        = count)
      (hheld : firstTokenFilter.clamped (Memory.contentOf 0 shelf) (.tokens category.display)
        = held) :
      firstTokenFilter.weight (Memory.contentOf 0 shelf) ["cheap"] category
        = messages * ((count + 1) / (held + 1)) := by
    have learned : firstTokenFilter.total (Memory.contentOf 0 shelf) "cheap" = 2 := by
      decide +kernel
    have size : max 1 (amount firstTokenFilter.scope (Memory.contentOf 0 shelf) .vocabularySize)
        = 1 := by decide +kernel
    have often : firstTokenFilter.settings.minTokenCount ≤ ((2 : Int) : ℝ) := by
      norm_num [firstTokenFilter]
    rw [Classifier.weight, List.toFinset_cons, List.toFinset_nil, insert_empty_eq,
      Finset.filter_singleton, learned, if_pos often, Finset.prod_singleton, hmessages, hcount,
      hheld, size]
    norm_num [firstTokenFilter]
  rw [tokens] at result
  rw [result]
  show (Except.ok [(_, firstTokenFilter.weight _ ["cheap"] (.text "spam")
      / (firstTokenFilter.weight _ ["cheap"] (.text "spam")
        + (firstTokenFilter.weight _ ["cheap"] (.text "ham") + 0))),
    (_, firstTokenFilter.weight _ ["cheap"] (.text "ham")
      / (firstTokenFilter.weight _ ["cheap"] (.text "spam")
        + (firstTokenFilter.weight _ ["cheap"] (.text "ham") + 0)))], shelf) = _
  -- Spam weighs 2 · (3 / 4), and ham, whose counters are clamped, 1 · (1 / 1).
  rw [weight (.text "spam") 2 2 3 (by decide +kernel) (by decide +kernel) (by decide +kernel),
    weight (.text "ham") 1 0 0 (by decide +kernel) (by decide +kernel) (by decide +kernel)]
  norm_num

end Classifier

end Moderation.Bayes
