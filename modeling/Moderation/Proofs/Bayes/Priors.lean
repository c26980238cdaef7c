import Moderation.Proofs.Bayes.Consistency
import Moderation.Proofs.Bayes.Probability

/-!
# `Moderation.Proofs.Bayes.Priors`: texts of words that no category has learned

Of a text without a known word one expects that only the numbers of learned texts count. Smoothing
says something else. Every unknown token has the smoothed frequency

    smoothing / (tokens of the category + smoothing * vocabulary)

which is smaller in a category that has learned more tokens. So the priors are weighed against the
lengths of what was learned, and for each token of the text once more.

`probability_lt_iff_of_unknown` says exactly when a category wins over another. The priors decide if
tokens that were learned too seldom are left out, or if the category with more texts does not have
more tokens. `not_priors_exactFilter` shows that they need not: two long texts lose against a short
one.
-/

set_option autoImplicit false

namespace Moderation.Bayes

open Store Tokenizer

namespace Classifier

/-- No category has learned one of the tokens. -/
def Unknown (classifier : Classifier ℝ) (content : Entries Int) (tokens : List String) : Prop :=
  ∀ token ∈ tokens, ∀ category ∈ classifier.settings.categories,
    amount classifier.scope content (.count category.display token) ≤ 0

instance (classifier : Classifier ℝ) (content : Entries Int) (tokens : List String) :
    Decidable (classifier.Unknown content tokens) :=
  inferInstanceAs (Decidable (∀ token ∈ tokens, ∀ category ∈ classifier.settings.categories,
    amount classifier.scope content (.count category.display token) ≤ 0))

/-- How many of some unknown tokens count: all of them, or none if tokens must have been learned. -/
noncomputable def countedUnknown (classifier : Classifier ℝ) (tokens : List String) : ℕ :=
  if 0 < classifier.settings.minTokenCount then 0 else tokens.length

/-- What the smoothed counts of a category are divided by. -/
noncomputable def denominator (classifier : Classifier ℝ) (content : Entries Int)
    (category : String) : ℝ :=
  classifier.clamped content (.tokens category) + classifier.settings.smoothing
    * (max 1 (amount classifier.scope content .vocabularySize) : Int)

variable {classifier : Classifier ℝ} {content : Entries Int} {tokens : List String}

/-- With a smoothing the denominator is positive, however little was learned. -/
theorem denominator_pos (smooth : 0 < classifier.settings.smoothing) (category : String) :
    0 < classifier.denominator content category := by
  have tokens : (0 : ℝ) ≤ classifier.clamped content (.tokens category) := by
    exact_mod_cast le_max_left _ _
  have size : (0 : ℝ) < (max 1 (amount classifier.scope content .vocabularySize) : Int) := by
    exact_mod_cast Int.lt_of_lt_of_le Int.one_pos (le_max_left _ _)
  have product := mul_pos smooth size
  rw [denominator]
  linarith

/-- An unknown token has been learned in no category. -/
theorem Unknown.total_eq_zero (unknown : classifier.Unknown content tokens) {token : String}
    (h : token ∈ tokens) : classifier.total content token = 0 := by
  refine List.sum_eq_zero fun n hn => ?_
  obtain ⟨category, hcategory, rfl⟩ := List.mem_map.mp hn
  exact max_eq_left (unknown token h category hcategory)

/-- For unknown tokens a category weighs its texts, divided once for each token. -/
theorem Unknown.weight_eq (unknown : classifier.Unknown content tokens) {category : Value}
    (hcategory : category ∈ classifier.settings.categories) :
    classifier.weight content tokens category
      = classifier.clamped content (.messages category.display)
        * (classifier.settings.smoothing / classifier.denominator content category.display)
          ^ classifier.countedUnknown tokens := by
  rw [weight, countedUnknown]
  congr 1
  by_cases seldom : 0 < classifier.settings.minTokenCount
  · -- No unknown token has been learned often enough.
    rw [if_pos seldom, pow_zero, Finset.filter_false_of_mem, Finset.prod_empty]
    intro token h
    rw [unknown.total_eq_zero (List.mem_toFinset.mp h), Int.cast_zero]
    exact not_le.mpr seldom
  · rw [if_neg seldom, Finset.filter_true_of_mem, ← List.sum_toFinset_count_eq_length,
      ← Finset.prod_pow_eq_pow_sum]
    · refine Finset.prod_congr rfl fun token h => ?_
      have none : classifier.clamped content (.count category.display token) = 0 :=
        max_eq_left (unknown token (List.mem_toFinset.mp h) category hcategory)
      rw [none, Int.cast_zero, zero_add, denominator]
    · intro token h
      rw [unknown.total_eq_zero (List.mem_toFinset.mp h), Int.cast_zero]
      exact not_lt.mp seldom

/-- Which of two categories has the greater weight for unknown tokens. -/
theorem Unknown.weight_lt_weight_iff (unknown : classifier.Unknown content tokens)
    (smooth : 0 < classifier.settings.smoothing) {c d : Value}
    (hc : c ∈ classifier.settings.categories) (hd : d ∈ classifier.settings.categories) :
    classifier.weight content tokens d < classifier.weight content tokens c
      ↔ classifier.clamped content (.messages d.display)
          * classifier.denominator content c.display ^ classifier.countedUnknown tokens
        < classifier.clamped content (.messages c.display)
          * classifier.denominator content d.display ^ classifier.countedUnknown tokens := by
  rw [unknown.weight_eq hc, unknown.weight_eq hd]
  generalize classifier.countedUnknown tokens = n
  have powerOf (category : Value) : 0 < classifier.denominator content category.display ^ n :=
    pow_pos (denominator_pos smooth _) n
  -- Both weights have the same power of the smoothing in them, which can be cancelled.
  rw [div_pow, div_pow, mul_div_assoc', mul_div_assoc', div_lt_div_iff₀ (powerOf d) (powerOf c),
    mul_right_comm _ _ (classifier.denominator content c.display ^ n),
    mul_right_comm _ _ (classifier.denominator content d.display ^ n),
    mul_lt_mul_iff_left₀ (pow_pos smooth n)]

/-- The first tokens of unknown ones are unknown. -/
theorem Unknown.cut (unknown : classifier.Unknown content tokens) (limit : ℤ) :
    classifier.Unknown content (Classifier.cut limit tokens) := by
  intro token h
  refine unknown token ?_
  rw [Classifier.cut] at h
  split at h
  · exact List.mem_of_mem_take h
  · exact List.mem_of_mem_take h

end Classifier

/-- Which of two categories is more probable for a text that no category knows a token of, after any
run. More texts win if no token counts, or if they have not more tokens. -/
theorem probability_lt_iff_of_unknown (classifier : Classifier ℝ)
    (smooth : 0 < classifier.settings.smoothing) {limit : ℤ}
    (hlimit : classifier.settings.maxTokens = .int limit) {id : Nat} {shelf : Shelf}
    (hid : id < shelf.length)
    (fresh : ∀ key, Memory.inScope (scopeStart classifier.scope) key = true →
      (Memory.contentOf id shelf).get? key = none)
    (calls : List Call) (text : String) :
    let strategy := classifier.strategy (Memory.store id)
    let start := Call.runAll strategy calls shelf
    let content := Memory.contentOf id start
    let tokens := tokenize classifier.settings.tokenizer text
    let messages (category : String) := amount classifier.scope content (.messages category)
    let learned (category : String) := amount classifier.scope content (.tokens category)
    let denominator (category : String) : ℝ := learned category + classifier.settings.smoothing
      * (max 1 (amount classifier.scope content .vocabularySize) : Int)
    let n := if 0 < classifier.settings.minTokenCount then 0 else (Classifier.cut limit tokens).length
    classifier.Unknown content tokens →
    ∃ scores, ((strategy.classify (.text text)).outcome start).1 = .ok scores
      ∧ (scores = [] ↔ classifier.Idle content text)
      ∧ (scores ≠ [] → ∀ c d, .text c ∈ classifier.settings.categories →
        .text d ∈ classifier.settings.categories →
        (probability scores d < probability scores c
          ↔ messages d * denominator c ^ n < messages c * denominator d ^ n)
        ∧ (messages d < messages c → n = 0 ∨ learned c ≤ learned d →
          probability scores d < probability scores c)) := by
  intro strategy start content tokens messages learned denominator n unknown
  have keeps := (keeps_runAll hid fresh calls).1
  obtain ⟨scores, hscores, none, shares⟩ := Classifier.classify_probability smooth hlimit
    (lt_length_runAll hid fresh calls) text
  refine ⟨scores, hscores, none, fun some c d hc hd => ?_⟩
  have busy : ¬ classifier.Idle content text := mt none.mpr some
  -- After a run no counter is below zero, so the counters are read as they are.
  have denominator_eq (category : String) :
      classifier.denominator content category = denominator category := by
    rw [Classifier.denominator, keeps.clamped_eq (.tokens category) trivial]
  have iff : probability scores d < probability scores c
      ↔ messages d * denominator c ^ n < messages c * denominator d ^ n := by
    rw [shares c hc, shares d hd, if_neg busy, if_neg busy,
      Classifier.share_lt_share_iff smooth _ (Classifier.exists_learned_of_busy busy),
      (unknown.cut limit).weight_lt_weight_iff smooth hc hd, keeps.clamped_eq (.messages _) trivial,
      keeps.clamped_eq (.messages _) trivial, denominator_eq, denominator_eq]
    rfl
  refine ⟨iff, fun more short => iff.mpr ?_⟩
  have positive (category : String) : 0 < denominator category :=
    denominator_eq category ▸ Classifier.denominator_pos smooth category
  have texts : (0 : ℝ) ≤ messages d := by
    simp only [messages]
    rw [keeps.amount_held (.messages d) trivial]
    positivity
  have powers : denominator c ^ n ≤ denominator d ^ n := by
    rcases short with zero | fewer
    · rw [zero, pow_zero, pow_zero]
    · have : (learned c : ℝ) ≤ learned d := by exact_mod_cast fewer
      exact pow_le_pow_left₀ (positive c).le (by simp only [denominator]; linarith) n
  calc (messages d : ℝ) * denominator c ^ n
      ≤ messages d * denominator d ^ n := mul_le_mul_of_nonneg_left powers texts
    _ < messages c * denominator d ^ n :=
        mul_lt_mul_of_pos_right (by exact_mod_cast more) (pow_pos (positive d) n)

/-- Two texts are learned as spam and one as no spam, with two tokens in each category: an unknown word
is probably spam. -/
theorem probability_lt_exactFilter :
    let calls : List Call :=
      [.train (.text "spam") (.text "cheap"), .train (.text "spam") (.text "pills"),
        .train (.text "ham") (.text "small talk")]
    let strategy := exactFilter.strategy (Memory.store 0)
    let start : Shelf := Call.runAll strategy calls ([[]] : Shelf)
    exactFilter.Unknown (Memory.contentOf 0 start) (tokenize exactFilter.settings.tokenizer "zebra")
      ∧ ∃ scores, ((strategy.classify (.text "zebra")).outcome start).1 = .ok scores
        ∧ probability scores "ham" < probability scores "spam" := by
  intro calls strategy start
  have tokens : tokenize exactFilter.settings.tokenizer "zebra" = ["zebra"] := by
    show tokenize {} "zebra" = _
    decide +kernel
  have content : Memory.contentOf 0 start = [("mail:msg:spam", 2), ("mail:tok:spam", 2),
      ("mail:cnt:spam:cheap", 1), ("mail:voc:cheap", 1), ("mail:vocsize", 4),
      ("mail:cnt:spam:pills", 1), ("mail:voc:pills", 1), ("mail:msg:ham", 1), ("mail:tok:ham", 2),
      ("mail:cnt:ham:small", 1), ("mail:voc:small", 1), ("mail:cnt:ham:talk", 1),
      ("mail:voc:talk", 1)] := by decide +kernel
  have unknown : exactFilter.Unknown (Memory.contentOf 0 start)
      (tokenize exactFilter.settings.tokenizer "zebra") := by
    rw [tokens, content]
    decide +kernel
  have isSpam : .text "spam" ∈ exactFilter.settings.categories := List.mem_cons_self
  have isHam : .text "ham" ∈ exactFilter.settings.categories :=
    List.mem_cons_of_mem _ List.mem_cons_self
  obtain ⟨scores, hscores, none, compare⟩ := probability_lt_iff_of_unknown exactFilter one_pos
    (show exactFilter.settings.maxTokens = .int 2000 from rfl) (by decide) (fun _ _ => rfl) calls
    "zebra" unknown
  -- There is something to say, since a text has been learned as spam.
  have some : scores ≠ [] := by
    rw [Ne, none]
    rintro (empty | idle)
    · rw [tokens] at empty
      cases empty
    · have texts := idle _ isSpam
      rw [content] at texts
      exact absurd texts (by decide +kernel)
  refine ⟨unknown, scores, hscores, (compare some "spam" "ham" isSpam isHam).2 ?_ (Or.inr ?_)⟩
  · rw [content]
    decide +kernel
  · rw [content]
    decide +kernel

/-- Two texts of three tokens are learned as spam, and one of one token as no spam: an unknown word is
probably no spam. -/
theorem not_priors_exactFilter :
    let calls : List Call :=
      [.train (.text "spam") (.text "cheap cheap cheap"),
        .train (.text "spam") (.text "cheap cheap cheap"), .train (.text "ham") (.text "talk")]
    let strategy := exactFilter.strategy (Memory.store 0)
    let start : Shelf := Call.runAll strategy calls ([[]] : Shelf)
    let content := Memory.contentOf 0 start
    let scores : Scores ℝ := [(.text "spam", 3 / 7), (.text "ham", 4 / 7)]
    exactFilter.Unknown content (tokenize exactFilter.settings.tokenizer "zebra")
      ∧ amount "mail" content (.messages "ham") < amount "mail" content (.messages "spam")
      ∧ ((strategy.classify (.text "zebra")).outcome start).1 = .ok scores
      ∧ ¬ probability scores "ham" < probability scores "spam" := by
  intro calls strategy start content scores
  have tokens : tokenize exactFilter.settings.tokenizer "zebra" = ["zebra"] := by
    show tokenize {} "zebra" = _
    decide +kernel
  have held : content = [("mail:msg:spam", 2), ("mail:tok:spam", 6), ("mail:cnt:spam:cheap", 6),
      ("mail:voc:cheap", 6), ("mail:vocsize", 2), ("mail:msg:ham", 1), ("mail:tok:ham", 1),
      ("mail:cnt:ham:talk", 1), ("mail:voc:talk", 1)] := by decide +kernel
  have unknown : exactFilter.Unknown content ["zebra"] := by
    rw [held]
    decide +kernel
  have busy : ¬ exactFilter.Idle content "zebra" := by
    rintro (empty | idle)
    · rw [tokens] at empty
      cases empty
    · have texts := idle (.text "spam") List.mem_cons_self
      rw [held] at texts
      exact absurd texts (by decide +kernel)
  -- A category weighs its texts over its tokens and the two tokens of the vocabulary.
  have weight (category : Value) (hcategory : category ∈ exactFilter.settings.categories)
      (texts learned : Int)
      (htexts : exactFilter.clamped content (.messages category.display) = texts)
      (hlearned : exactFilter.clamped content (.tokens category.display) = learned) :
      exactFilter.weight content ["zebra"] category = texts / (learned + 2) := by
    have size : max 1 (amount exactFilter.scope content .vocabularySize) = 2 := by
      rw [held]
      decide +kernel
    rw [unknown.weight_eq hcategory, htexts, Classifier.denominator, hlearned, size,
      Classifier.countedUnknown]
    norm_num [exactFilter, div_eq_mul_inv]
  have spam := weight (.text "spam") List.mem_cons_self 2 6 (by rw [held]; decide +kernel)
    (by rw [held]; decide +kernel)
  have ham := weight (.text "ham") (List.mem_cons_of_mem _ List.mem_cons_self) 1 1
    (by rw [held]; decide +kernel) (by rw [held]; decide +kernel)
  refine ⟨tokens ▸ unknown, ?_, ?_, ?_⟩
  · rw [held]
    decide +kernel
  · have smooth : 0 < exactFilter.settings.smoothing := one_pos
    rw [Classifier.outcome_classify exactFilter
      (lt_length_runAll (by decide) (fun _ _ => rfl) calls),
      Classifier.scores_of_busy smooth rfl busy, tokens]
    show Except.ok [(_, exactFilter.weight content ["zebra"] (.text "spam")
        / (exactFilter.weight content ["zebra"] (.text "spam")
          + (exactFilter.weight content ["zebra"] (.text "ham") + 0))),
      (_, exactFilter.weight content ["zebra"] (.text "ham")
        / (exactFilter.weight content ["zebra"] (.text "spam")
          + (exactFilter.weight content ["zebra"] (.text "ham") + 0)))] = _
    rw [spam, ham]
    norm_num [scores]
  · show ¬ (4 / 7 : ℝ) < 3 / 7
    norm_num

end Moderation.Bayes
