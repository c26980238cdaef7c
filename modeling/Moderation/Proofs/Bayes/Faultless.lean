import Moderation.Proofs.Bayes.Probability
import Moderation.Proofs.Store.Meddling

/-!
# `Moderation.Proofs.Bayes.Faultless`: no counters make the arithmetic of a classification fail

A classification divides, takes logarithms and looks for a greatest number, and each of these can be
at fault. The numbers come from three requests, and nothing says that they fit together: counters may
be negative or contradict each other, and other writers may change them between the requests.

What the classifier makes of the replies is enough. It reads nothing below zero, a vocabulary of at
least one token, and it stops if no text has been learned. So the evidence is clamped and has
messages (`Evidence.Clamped`, `posterior_eq`), whatever was replied.

The main statement is `classify_meddled`: a classification has shares for a result, or none, and it
fails only with an error of the store.
-/

set_option autoImplicit false

namespace Moderation.Bayes

open Store Tokenizer

/-- Scores give each category a share: nothing below zero, and one in all. -/
structure Shares (categories : List Value) (scores : Scores ℝ) : Prop where
  names : scores.map (·.1) = categories
  nonneg : ∀ entry ∈ scores, 0 ≤ entry.2
  sum : (scores.map (·.2)).sum = 1

/-- Clamped evidence with some text learned gives shares. -/
theorem exists_shares {settings : Settings ℝ} {evidence : Evidence} (clamped : evidence.Clamped)
    (smooth : 0 < settings.smoothing) (learned : 0 < evidence.messages) {categories : List Value}
    (size : evidence.standings.length = categories.length) :
    ∃ shares, posterior settings evidence = .ok shares ∧ Shares categories (categories.zip shares) := by
  have sum_pos := Evidence.sum_weight_pos clamped smooth learned
  refine ⟨_, posterior_eq clamped smooth learned, ?_⟩
  -- Each share is a weight by the sum of all, which is positive.
  set weights := evidence.standings.map (evidence.weight settings) with hweights
  have length : categories.length = (weights.map (· / weights.sum)).length := by
    rw [List.length_map, hweights, List.length_map, size]
  have nonneg (w : ℝ) (hw : w ∈ weights) : 0 ≤ w := by
    obtain ⟨category, h, rfl⟩ := List.mem_map.mp hw
    exact Evidence.weight_nonneg clamped smooth h
  refine ⟨List.map_fst_zip length.le, fun entry hentry => ?_, ?_⟩
  · obtain ⟨w, hw, share⟩ := List.mem_map.mp (List.of_mem_zip hentry).2
    rw [← share]
    exact div_nonneg (nonneg w hw) sum_pos.le
  · rw [List.map_snd_zip length.ge]
    simp only [div_eq_mul_inv]
    rw [List.sum_map_mul_right, List.map_id', mul_inv_cancel₀ sum_pos.ne']

namespace Classifier

variable {classifier : Classifier ℝ} {kind : Error → Prop}

/-- Standings are those of the categories, with nothing below zero. -/
theorem yields_standings : classifier.standings.Yields kind fun standings =>
    ∃ standing : Value → Standing, standings = classifier.settings.categories.map standing
      ∧ ∀ category, 0 ≤ (standing category).messages ∧ 0 ≤ (standing category).tokens := by
  exact (Program.yields_ask _).bind fun reply _ =>
    Program.yields_pure ⟨_, rfl, fun _ => ⟨le_max_left _ _, le_max_left _ _⟩⟩

/-- No count is below zero. -/
theorem yields_tokenCounts (tokens : List String) : (classifier.tokenCounts tokens).Yields kind
    fun count => ∀ category token, 0 ≤ count category token :=
  (Program.yields_ask _).bind fun _ _ => Program.yields_pure fun _ _ => le_max_left _ _

/-- The size of the vocabulary may be replied as any number. -/
theorem yields_vocabularySize : classifier.vocabularySize.Yields kind fun _ => True :=
  (Program.yields_ask _).bind fun _ _ => Program.yields_pure trivial

/-- Whatever is replied to a classification, it gives shares or nothing. -/
theorem yields_classify (smooth : 0 < classifier.settings.smoothing) {limit : ℤ}
    (hlimit : classifier.settings.maxTokens = .int limit) (text : String) :
    (classifier.classify (.text text)).Yields kind fun scores =>
      scores = [] ∨ Shares classifier.settings.categories scores := by
  rw [classify]
  refine Program.yields_ofExcept_bind (tokens_text text) ?_
  by_cases empty : (tokenize classifier.settings.tokenizer text).isEmpty
  · rw [if_pos empty]
    exact Program.yields_pure (Or.inl rfl)
  rw [if_neg empty, hlimit]
  refine Program.yields_ofExcept_bind (limited_whole limit _) ?_
  -- From here on the replies are arbitrary, and only what is made of them is known.
  refine yields_standings.bind fun standings read => ?_
  obtain ⟨standing, rfl, nonneg⟩ := read
  by_cases idle : (classifier.settings.categories.map standing).all (·.messages = 0)
  · rw [if_pos idle]
    exact Program.yields_pure (Or.inl rfl)
  rw [if_neg idle]
  refine (yields_tokenCounts _).bind fun count counts => ?_
  refine yields_vocabularySize.bind fun size _ => ?_
  dsimp only
  rw [List.zip_map']
  set kept := cut limit (tokenize classifier.settings.tokenizer text)
  have clamped :=
    clamped_of_nonneg nonneg counts classifier.settings.categories (frequencies kept) size
  -- The classification has not stopped, so it has read a category with a text.
  obtain ⟨category, hcategory, some⟩ : ∃ category ∈ classifier.settings.categories,
      0 < (standing category).messages := by
    rw [List.all_map, List.all_eq_true] at idle
    push Not at idle
    obtain ⟨category, hcategory, some⟩ := idle
    have := (nonneg category).1
    have : (standing category).messages ≠ 0 := by simpa using some
    exact ⟨category, hcategory, by omega⟩
  have learned := (Evidence.messages_pos_iff clamped).mpr ⟨_, List.mem_map_of_mem hcategory, some⟩
  obtain ⟨shares, computed, hshares⟩ := exists_shares clamped smooth learned (List.length_map _)
  refine Program.yields_ofExcept_bind ?_ (Program.yields_pure (Or.inr hshares))
  rw [computed]
  rfl

/-- A classification of a text gives shares or nothing, or fails with an error of its store, whatever the
numbers in the store are and however other writers change them before each of its requests. -/
theorem classify_meddled (classifier : Classifier ℝ) (smooth : 0 < classifier.settings.smoothing)
    {limit : ℤ} (hlimit : classifier.settings.maxTokens = .int limit) {σ : Type} (store : Store σ)
    (writes : ℕ → σ → σ) (text : String) (state : ℕ × σ) :
    let strategy := classifier.strategy (store.meddled writes)
    let result := ((strategy.classify (.text text)).outcome state).1
    (∃ scores, result = .ok scores ∧ (scores = [] ∨ Shares classifier.settings.categories scores))
      ∨ ∃ e, result = .error e ∧ store.FailsWith e := by
  intro strategy result
  -- What the program yields is good for every reply that it may get, whoever has written it.
  have good : Program.Good store.FailsWith (fun scores => scores = [] ∨ Shares _ scores) result :=
    (yields_classify smooth hlimit text).run (failsAs_meddled writes store) state
  cases h : result with
  | ok scores => exact Or.inl ⟨scores, rfl, good.2 scores h⟩
  | error e => exact Or.inr ⟨e, rfl, good.1 e h⟩

/-- Other writers put negative numbers into a store, and others each time. -/
theorem classify_meddled_exactFilter :
    let shelf : Shelf := [[("mail:msg:spam", 2), ("mail:msg:ham", -1), ("mail:tok:spam", -7)]]
    let writes : ℕ → Shelf → Shelf := fun count shelf =>
      if count = 1 then [[("mail:cnt:spam:cheap", -5), ("mail:cnt:ham:cheap", 4)]]
      else if count = 2 then [[("mail:vocsize", -9)]]
      else shelf
    let strategy := exactFilter.strategy ((Memory.store 0).meddled writes)
    ∃ scores, ((strategy.classify (.text "cheap offer")).outcome (0, shelf)).1 = .ok scores
      ∧ (scores = [] ∨ Shares exactFilter.settings.categories scores) := by
  intro shelf writes strategy
  have limit : exactFilter.settings.maxTokens = .int 2000 := rfl
  -- A store in memory does not fail, so the second case is void.
  rcases classify_meddled exactFilter one_pos limit (Memory.store 0) writes "cheap offer" (0, shelf)
    with done | ⟨e, -, failed⟩
  · exact done
  · exact absurd failed (not_failsWith_memory 0 e)

end Classifier

end Moderation.Bayes
