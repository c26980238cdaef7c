import Moderation.Proofs.Bayes.Classification
import Moderation.Proofs.Bayes.Consistency

/-!
# `Moderation.Proofs.Bayes.Probability`: what a classification says of one category

Scores that say nothing give a category the probability zero (`probability`). Over the reals a
classification of a text never fails, and what it says of a category is the share of the category in
the tokens that are looked at (`classify_probability`). Shares of one text are compared as weights
are (`Classifier.share_lt_share_iff`).
-/

set_option autoImplicit false

namespace Moderation.Bayes

open Store Tokenizer

/-- What scores say of a category; zero if they do not name it. -/
def probability (scores : Scores ℝ) (category : String) : ℝ :=
  (scores.get? (.text category)).getD 0

/-- Scores for some categories give a category among them its own. -/
theorem probability_map {categories : List Value} {category : String}
    (h : .text category ∈ categories) (score : Value → ℝ) :
    probability (categories.map fun c => (c, score c)) category = score (.text category) := by
  rw [probability, Value.Map.get?]
  induction categories with
  | nil => cases h
  | cons c rest ih =>
    rw [List.map_cons, List.find?_cons]
    by_cases own : c = .text category
    · subst own
      simp [Value.same]
    · -- Only the category itself is the same as its name.
      have other : c.same (.text category) = false := by
        cases c <;> simp_all [Value.same]
      rw [other]
      exact ih ((List.mem_cons.mp h).resolve_left (Ne.symm own))

namespace Classifier

variable {classifier : Classifier ℝ} {content : Entries Int}

/-- Of two categories, the one with the greater weight has the greater share. -/
theorem share_lt_share_iff (smooth : 0 < classifier.settings.smoothing) (tokens : List String)
    (learned : ∃ category ∈ classifier.settings.categories,
      0 < amount classifier.scope content (.messages category.display)) (c d : Value) :
    classifier.share content tokens d < classifier.share content tokens c
      ↔ classifier.weight content tokens d < classifier.weight content tokens c :=
  div_lt_div_iff_of_pos_right (sum_weights_pos smooth tokens learned)

/-- A text with tokens is not looked at in vain iff some category has learned a text. -/
theorem exists_learned_of_busy {text : String} (busy : ¬ classifier.Idle content text) :
    ∃ category ∈ classifier.settings.categories,
      0 < amount classifier.scope content (.messages category.display) := by
  have learned := (not_or.mp busy).2
  push Not at learned
  exact learned

open Classical in
/-- A classification of a text succeeds, and says of each category its share. It says nothing iff
there is nothing to say. -/
theorem classify_probability (smooth : 0 < classifier.settings.smoothing) {limit : ℤ}
    (hlimit : classifier.settings.maxTokens = .int limit) {id : Nat} {shelf : Shelf}
    (hid : id < shelf.length) (text : String) :
    let content := Memory.contentOf id shelf
    let tokens := cut limit (tokenize classifier.settings.tokenizer text)
    ∃ scores, (((classifier.strategy (Memory.store id)).classify (.text text)).outcome shelf).1
        = .ok scores
      ∧ (scores = [] ↔ classifier.Idle content text)
      ∧ ∀ category, .text category ∈ classifier.settings.categories →
        probability scores category
          = if classifier.Idle content text then 0
            else classifier.share content tokens (.text category) := by
  intro content tokens
  rw [outcome_classify classifier hid]
  -- Without scores every category has the probability zero.
  by_cases idle : classifier.Idle content text
  · refine ⟨[], scores_of_idle hlimit idle, iff_of_true rfl idle, fun category _ => ?_⟩
    rw [if_pos idle]
    rfl
  · obtain ⟨category, hcategory, -⟩ := exists_learned_of_busy idle
    refine ⟨_, scores_of_busy smooth hlimit idle, iff_of_false ?_ idle, fun category h => ?_⟩
    · exact fun none => List.ne_nil_of_mem hcategory (List.map_eq_nil_iff.mp none)
    · rw [if_neg idle]
      exact probability_map h _

end Classifier

/-- What a stock holds is not below zero, so a classification reads it as it is. -/
theorem Keeps.clamped_eq {classifier : Classifier ℝ} {rest content : Entries Int} {stock : Stock}
    (keeps : Keeps classifier.scope rest stock.balance content) (counter : Counter)
    (proper : counter.IsProper) :
    classifier.clamped content counter = amount classifier.scope content counter := by
  rw [Classifier.clamped, keeps.amount_held counter proper]
  exact max_eq_right (Int.natCast_nonneg _)

/-- A classifier of spam over the reals, with the settings of one that is told of none. -/
noncomputable def exactFilter : Classifier ℝ where
  name := "mail"
  settings :=
    { smoothing := 1
      categories := defaultCategories
      minTokenCount := 0
      maxTokens := .int 2000
      tokenizer := {} }
  scope := "mail"

end Moderation.Bayes
