import Mathlib.Algebra.BigOperators.Finprod
import Mathlib.Data.Set.Card
import Moderation.Proofs.Bayes.Call

/-!
# `Moderation.Proofs.Bayes.Consistency`: the counters agree after every call

`Balanced` says how the five families of counters hang together: the tokens of a category and the
occurrences of a token are sums of counts, the size of the vocabulary is the number of tokens that
occur, and what is stored is above zero.

The balance of a stock has these properties by definition, if the stock holds nothing but tokens
and nothing outside the categories of the classifier. So the invariant of a run is
`Stock.Within`, and all that is left is to write the sums of a stock as sums over tokens and over
categories (`Stock.held_tokens_eq_sum`, `Stock.held_vocabulary_eq_sum`). The main statement is
`balanced_runAll`: the counters are balanced at the end of every run, and no total was ever mended.
-/

set_option autoImplicit false

namespace Moderation.Bayes

open Store Tokenizer

/-! ### Sums of a stock -/

namespace Stock

/-- The categories of a stock. -/
def categories (stock : Stock) : Finset String := stock.2.support.image Prod.fst

/-- The tokens of a stock. -/
def vocabulary (stock : Stock) : Finset String := stock.2.support.image Prod.snd

/-- A token outside the vocabulary is counted in no category. -/
theorem count_eq_zero_of_token {stock : Stock} {token : String}
    (h : token ∉ stock.vocabulary) (category : String) : stock.2 (category, token) = 0 := by
  by_contra hne
  exact h (Finset.mem_image_of_mem Prod.snd (Finsupp.mem_support_iff.mpr hne))

/-- A sum over the entries of a stock is a sum over categories and tokens. -/
theorem sum_eq_sum_product (stock : Stock) {cs ts : Finset String} (hc : stock.categories ⊆ cs)
    (ht : stock.vocabulary ⊆ ts) (f : String → String → ℕ → ℕ) (hf : ∀ c t, f c t 0 = 0) :
    (stock.2.sum fun entry n => f entry.1 entry.2 n)
      = ∑ c ∈ cs, ∑ t ∈ ts, f c t (stock.2 (c, t)) := by
  -- Outside the support a count is zero, and `f` of zero adds nothing.
  have inside : stock.2.support ⊆ cs ×ˢ ts := fun entry hentry =>
    Finset.mem_product.mpr ⟨hc (Finset.mem_image_of_mem Prod.fst hentry),
      ht (Finset.mem_image_of_mem Prod.snd hentry)⟩
  rw [Finsupp.sum_of_support_subset _ inside _ fun entry _ => hf entry.1 entry.2,
    Finset.sum_product]

/-- The tokens of a category are the sum of its counts. -/
theorem held_tokens_eq_sum (stock : Stock) (category : String) :
    stock.held (.tokens category) = ∑ t ∈ stock.vocabulary, stock.held (.count category t) := by
  have hsum := sum_eq_sum_product stock (Finset.subset_insert category stock.categories)
    (Finset.Subset.refl _) (fun c _ n => if c = category then n else 0) (fun _ _ => by simp)
  rw [held, hsum, Finset.sum_comm]
  refine Finset.sum_congr rfl fun t _ => ?_
  rw [Finset.sum_ite_eq' _ _ fun c => stock.2 (c, t), if_pos (Finset.mem_insert_self _ _)]
  rfl

/-- The occurrences of a token are the sum of its counts. -/
theorem held_vocabulary_eq_sum (stock : Stock) {cs : Finset String} (hc : stock.categories ⊆ cs)
    (token : String) :
    stock.held (.vocabulary token) = ∑ c ∈ cs, stock.held (.count c token) := by
  have hsum := sum_eq_sum_product stock hc (Finset.subset_insert token stock.vocabulary)
    (fun _ t n => if t = token then n else 0) (fun _ _ => by simp)
  rw [held, hsum]
  refine Finset.sum_congr rfl fun c _ => ?_
  rw [Finset.sum_ite_eq' _ _ fun t => stock.2 (c, t), if_pos (Finset.mem_insert_self _ _)]
  rfl

/-! ### Stocks of a classifier -/

/-- A stock holds tokens only, and those in some given categories. -/
def Within (labels : Finset String) (stock : Stock) : Prop :=
  ∀ entry ∈ stock.2.support, entry.1 ∈ labels ∧ IsToken entry.2

/-- The empty stock is within any categories. -/
theorem within_zero (labels : Finset String) : Within labels 0 := by
  simp [Within]

/-- What is in a sum is in one of the two. -/
theorem Within.add {labels : Finset String} {stock stock' : Stock} (h : stock.Within labels)
    (h' : stock'.Within labels) : (stock + stock').Within labels := by
  intro entry hentry
  rcases Finset.mem_union.mp (Finsupp.support_add hentry) with hentry | hentry
  · exact h entry hentry
  · exact h' entry hentry

/-- A stock that holds no more than another is within the same categories. -/
theorem Within.mono {labels : Finset String} {stock stock' : Stock} (h : stock.Within labels)
    (le : ∀ entry, stock'.2 entry ≤ stock.2 entry) : stock'.Within labels := by
  intro entry hentry
  refine h entry (Finsupp.mem_support_iff.mpr ?_)
  have := Finsupp.mem_support_iff.mp hentry
  have := le entry
  omega

/-- A lesson holds tokens, all of them in its category. -/
theorem within_ofLesson {labels : Finset String} (lesson : Lesson)
    (hlabel : lesson.category ∈ labels) : (ofLesson lesson).Within labels := by
  -- The induction is on the counts, so it cannot keep the lesson.
  have counts : ∀ counts : Entries Nat, (∀ entry ∈ counts, IsToken entry.1) →
      (ofCounts lesson.category counts).Within labels := by
    intro counts htokens
    induction counts with
    | nil => exact within_zero labels
    | cons entry counts ih =>
      obtain ⟨token, n⟩ := entry
      rw [ofCounts_cons]
      refine Within.add (fun e he => ?_) (ih fun e he => htokens e (by simp [he]))
      obtain rfl := Finset.mem_singleton.mp (Finsupp.support_single_subset he)
      exact ⟨hlabel, htokens (token, n) (by simp)⟩
  exact Within.add (fun entry hentry => absurd hentry (by simp [ofMessage]))
    (counts lesson.counts lesson.isToken)

/-- Forgetting adds nothing to a stock. -/
theorem forget_le (stock : Stock) (lesson : Lesson) (entry : String × String) :
    (stock.forget lesson).2 entry ≤ stock.2 entry := by
  rw [forget]
  split
  · exact le_rfl
  · simp [without]

end Stock

/-- The labels of the categories of a classifier. -/
def Classifier.labels {α : Type} (classifier : Classifier α) : Finset String :=
  (classifier.settings.categories.map Value.display).toFinset

variable {α : Type} {classifier : Classifier α}

/-- A lesson is about one of the categories of the classifier, if these are texts. -/
theorem Classifier.category_mem_labels
    (texts : ∀ category ∈ classifier.settings.categories, ∃ s, category = .text s)
    {category text : Value} {lesson : Lesson}
    (h : classifier.lesson? category text = some lesson) :
    lesson.category ∈ classifier.labels := by
  obtain ⟨known, hlabel⟩ := category_of_lesson? h
  obtain ⟨item, hitem, hsame⟩ := List.any_eq_true.mp known
  obtain ⟨s, rfl⟩ := texts item hitem
  -- Only the same text equals a text.
  have heq : category = .text s := by
    cases category <;> simp_all [Value.same]
  rw [hlabel, heq]
  exact List.mem_toFinset.mpr (List.mem_map_of_mem hitem)

/-- Every call keeps a stock within the categories of the classifier. -/
theorem within_follow
    (texts : ∀ category ∈ classifier.settings.categories, ∃ s, category = .text s)
    {stock : Stock} (h : stock.Within classifier.labels) (call : Call) :
    (stock.follow classifier call).Within classifier.labels := by
  -- A lesson is about one of the labels, and forgetting only takes away.
  cases call with
  | train category text =>
    rw [Stock.follow]
    cases hlesson : classifier.lesson? category text with
    | none => exact h
    | some lesson =>
      exact h.add (Stock.within_ofLesson lesson (Classifier.category_mem_labels texts hlesson))
  | untrain category text =>
    rw [Stock.follow]
    cases classifier.lesson? category text with
    | none => exact h
    | some lesson => exact h.mono (stock.forget_le lesson)
  | reset => exact Stock.within_zero _

/-- So does a run, by induction on its calls. -/
theorem within_foldl
    (texts : ∀ category ∈ classifier.settings.categories, ∃ s, category = .text s)
    {stock : Stock} (h : stock.Within classifier.labels) (calls : List Call) :
    (calls.foldl (Stock.follow classifier) stock).Within classifier.labels := by
  induction calls generalizing stock with
  | nil => exact h
  | cons call calls ih => exact ih (within_follow texts h call)

/-! ### The agreement of the counters -/

/-- The counters of a content agree. Sums over tokens have finitely many terms that are not
zero. -/
structure Balanced (scope : String) (labels : Finset String) (content : Entries Int) : Prop where
  finite_count : ∀ category,
    {token | IsToken token ∧ amount scope content (.count category token) ≠ 0}.Finite
  finite_vocabulary : {token | IsToken token ∧ 0 < amount scope content (.vocabulary token)}.Finite
  tokens : ∀ category, amount scope content (.tokens category)
    = ∑ᶠ token ∈ {token | IsToken token}, amount scope content (.count category token)
  vocabulary : ∀ token, IsToken token → amount scope content (.vocabulary token)
    = ∑ category ∈ labels, amount scope content (.count category token)
  vocabularySize : amount scope content .vocabularySize
    = {token | IsToken token ∧ 0 < amount scope content (.vocabulary token)}.ncard
  positive : ∀ key n, Memory.inScope (scopeStart scope) key = true → content.get? key = some n → 0 < n

section

variable {scope : String} {labels : Finset String} {rest content : Entries Int} {stock : Stock}

/-- The categories of a stock are among the given ones. -/
theorem Stock.Within.categories (within : stock.Within labels) : stock.categories ⊆ labels := by
  intro category hcategory
  obtain ⟨entry, hentry, rfl⟩ := Finset.mem_image.mp hcategory
  exact (within entry hentry).1

/-- The vocabulary consists of tokens. -/
theorem Stock.Within.isToken (within : stock.Within labels) {token : String}
    (h : token ∈ stock.vocabulary) : IsToken token := by
  obtain ⟨entry, hentry, rfl⟩ := Finset.mem_image.mp h
  exact (within entry hentry).2

/-- A counter says what the stock holds. -/
theorem Keeps.amount_held (keeps : Keeps scope rest stock.balance content) (a : Counter)
    (ha : a.IsProper) : amount scope content a = stock.held a :=
  keeps.amount_eq a ha

/-- The tokens that a category counts are tokens of the stock. -/
theorem Keeps.counted_subset (keeps : Keeps scope rest stock.balance content) (category : String) :
    {token | IsToken token} ∩ Function.support (fun token =>
      amount scope content (.count category token)) ⊆ ↑stock.vocabulary := by
  rintro token ⟨htoken, hcount⟩
  by_contra hmem
  refine hcount ?_
  show amount scope content (.count category token) = 0
  rw [keeps.amount_held (.count category token) htoken, Stock.held,
    Stock.count_eq_zero_of_token (mt Finset.mem_coe.mpr hmem), Nat.cast_zero]

/-- A token with a positive total is a token of the stock. -/
theorem Keeps.vocabulary_pos_iff (keeps : Keeps scope rest stock.balance content) {token : String}
    (htoken : IsToken token) :
    0 < amount scope content (.vocabulary token) ↔ token ∈ stock.vocabulary := by
  have zero := stock.held_vocabulary_eq_zero_iff token
  rw [keeps.amount_held (.vocabulary token) htoken, Int.natCast_pos, Nat.pos_iff_ne_zero, Ne, zero,
    Stock.vocabulary, not_not]

/-- The tokens with a positive total are the tokens of the stock. -/
theorem Keeps.occurring_eq (keeps : Keeps scope rest stock.balance content)
    (within : stock.Within labels) :
    {token | IsToken token ∧ 0 < amount scope content (.vocabulary token)} = ↑stock.vocabulary := by
  ext token
  constructor
  · rintro ⟨htoken, hpos⟩
    exact Finset.mem_coe.mpr ((keeps.vocabulary_pos_iff htoken).mp hpos)
  · intro hmem
    have htoken := within.isToken (Finset.mem_coe.mp hmem)
    exact ⟨htoken, (keeps.vocabulary_pos_iff htoken).mpr (Finset.mem_coe.mp hmem)⟩

/-- What is stored under a name of the scope is above zero. -/
theorem Keeps.pos_of_get? (keeps : Keeps scope rest stock.balance content)
    (fresh : ∀ key, Memory.inScope (scopeStart scope) key = true → rest.get? key = none)
    {key : String} {n : Int} (hkey : Memory.inScope (scopeStart scope) key = true)
    (hn : content.get? key = some n) : 0 < n := by
  obtain ⟨a, ha, rfl⟩ := keeps.exists_counter fresh hkey hn
  -- A counter of a stock is never below zero, and is stored only if it is not zero.
  rw [keeps.counter ha] at hn
  split at hn
  · cases hn
  · obtain rfl := Option.some.inj hn
    have : (0 : ℤ) ≤ stock.balance a := Int.natCast_nonneg _
    omega

/-- A content that keeps the balance of a stock is balanced, if the stock is within the labels and
nothing else is stored in the scope. -/
theorem Keeps.balanced (keeps : Keeps scope rest stock.balance content)
    (within : stock.Within labels)
    (fresh : ∀ key, Memory.inScope (scopeStart scope) key = true → rest.get? key = none) :
    Balanced scope labels content where
  finite_count category := stock.vocabulary.finite_toSet.subset (keeps.counted_subset category)
  finite_vocabulary := by
    rw [keeps.occurring_eq within]
    exact stock.vocabulary.finite_toSet
  -- A sum over all tokens is one over the vocabulary, outside of which nothing is counted.
  tokens category := by
    rw [finsum_mem_eq_sum_of_subset _ (keeps.counted_subset category) fun _ => within.isToken,
      keeps.amount_held (.tokens category) trivial, stock.held_tokens_eq_sum category,
      Nat.cast_sum]
    exact Finset.sum_congr rfl fun token htoken =>
      (keeps.amount_held (.count category token) (within.isToken htoken)).symm
  vocabulary token htoken := by
    rw [keeps.amount_held (.vocabulary token) htoken,
      stock.held_vocabulary_eq_sum within.categories token, Nat.cast_sum]
    exact Finset.sum_congr rfl fun category _ =>
      (keeps.amount_held (.count category token) htoken).symm
  vocabularySize := by
    rw [keeps.occurring_eq within, Set.ncard_coe_finset, keeps.amount_held .vocabularySize trivial]
    rfl
  positive _ _ hkey hn := keeps.pos_of_get? fresh hkey hn

end

/-- The counters of a classifier agree at the end of every run that starts without a name of its
scope, and no number was ever set to mend them. -/
theorem balanced_runAll [Arithmetic α] (classifier : Classifier α)
    (texts : ∀ category ∈ classifier.settings.categories, ∃ s, category = .text s)
    {id : Nat} {shelf : Shelf} (hid : id < shelf.length)
    (fresh : ∀ key, Memory.inScope (scopeStart classifier.scope) key = true →
      (Memory.contentOf id shelf).get? key = none)
    (calls : List Call) :
    Balanced classifier.scope classifier.labels
        (Memory.contentOf id (Call.runAll (classifier.strategy (Memory.store id)) calls shelf))
      ∧ ∀ key value, .set key value ∉ Call.requests classifier (Memory.store id) calls shelf := by
  obtain ⟨keeps, admitted⟩ := keeps_runAll hid fresh calls
  exact ⟨keeps.balanced (within_foldl texts (Stock.within_zero _) calls) fresh,
    fun key value hmem => admitted _ hmem key value rfl⟩

/-- A text is learned, and two texts are forgotten that share some tokens with it. The text is no
longer counted, but two of its tokens are. -/
theorem balanced_spamFilter :
    let calls : List Call :=
      [.train (.text "spam") (.text "cheap pills cheap"), .untrain (.text "ham") (.text "pills"),
        .untrain (.text "spam") (.text "other pills")]
    let shelf : Shelf := [[]]
    let after := Call.runAll (spamFilter.strategy (Memory.store 0)) calls shelf
    after = [[("mail:tok:spam", 2), ("mail:cnt:spam:cheap", 2), ("mail:voc:cheap", 2),
        ("mail:vocsize", 1)]]
      ∧ Balanced "mail" spamFilter.labels (Memory.contentOf 0 after)
      ∧ ∀ key value, .set key value ∉ Call.requests spamFilter (Memory.store 0) calls shelf := by
  intro calls shelf after
  refine ⟨by decide +kernel, balanced_runAll spamFilter ?_ (by decide) ?_ calls⟩
  · -- The categories are texts, and the store is empty.
    intro category hcategory
    simp only [spamFilter, defaultSettings, defaultCategories, List.mem_cons, List.not_mem_nil,
      or_false] at hcategory
    rcases hcategory with rfl | rfl <;> exact ⟨_, rfl⟩
  · intro key _
    rfl

end Moderation.Bayes
