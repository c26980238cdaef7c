import Mathlib.Algebra.Order.BigOperators.Group.List
import Moderation.Bayes.Posterior
import Moderation.Proofs.Exact
import Moderation.Proofs.Result

/-!
# `Moderation.Proofs.Bayes.Weight`: the posterior over the reals is a product

Over the reals the operations of scores are exact. Then the posterior needs no logarithms to be
said: the weight of a category is the number of its texts times a power for each token
(`Evidence.weight`), and its share is its weight over the sum of all weights. The main equation is

    posterior settings evidence
      = .ok (weights.map (· / weights.sum))

(`posterior_eq`). It needs a positive smoothing and some text learned, and then no operation is at
fault: the divisors are positive, and so is what logarithms are taken of. The greatest logarithm
that `normalize` takes off is a common factor of all weights, whatever its value, and cancels in
the shares (`normalize_eq`).
-/

set_option autoImplicit false

namespace Moderation

namespace Bayes

open Arithmetic

/-! ### Weights -/

namespace Evidence

variable (settings : Settings ℝ) (evidence : Evidence) (category : String × Standing)

/-- What smoothed counts of a category are divided by. -/
noncomputable def denominator : ℝ :=
  category.2.tokens + settings.smoothing * evidence.vocabularySize

/-- What a token of a text contributes to the weight of a category. A token that has been learned
too seldom contributes nothing. -/
noncomputable def factor (token : String × ℕ) : ℝ :=
  if (evidence.total token.1 : ℝ) < settings.minTokenCount then 1
  else ((evidence.count category.1 token.1 + settings.smoothing)
    / evidence.denominator settings category) ^ token.2

/-- The weight of a category: its texts times what the tokens contribute. -/
noncomputable def weight : ℝ :=
  category.2.messages * (evidence.frequencies.map (evidence.factor settings category)).prod

/-- No counter of the evidence is below zero, and the vocabulary has a size. -/
structure Clamped : Prop where
  messages : ∀ category ∈ evidence.standings, 0 ≤ category.2.messages
  tokens : ∀ category ∈ evidence.standings, 0 ≤ category.2.tokens
  count : ∀ category token, 0 ≤ evidence.count category token
  vocabularySize : 1 ≤ evidence.vocabularySize

variable {settings evidence category}

/-- Some text has been learned iff some category has learned one. -/
theorem messages_pos_iff (clamped : evidence.Clamped) :
    0 < evidence.messages ↔ ∃ category ∈ evidence.standings, 0 < category.2.messages := by
  -- The number of texts is a fold in the definition, and a sum of what is not negative.
  have sum : evidence.messages = (evidence.standings.map fun category => category.2.messages).sum := by
    rw [List.sum_eq_foldr, List.foldr_map]
    rfl
  rw [sum]
  constructor
  · intro learned
    exact List.exists_lt_of_sum_lt (fun _ => 0) _ (by simpa using learned)
  · rintro ⟨category, h, learned⟩
    refine lt_of_lt_of_le learned (List.single_le_sum (fun n hn => ?_) _ (List.mem_map_of_mem h))
    obtain ⟨other, hother, rfl⟩ := List.mem_map.mp hn
    exact clamped.messages other hother

/-- With a smoothing the denominator is positive, since the vocabulary has a size. -/
theorem denominator_pos (clamped : evidence.Clamped) (smooth : 0 < settings.smoothing)
    (h : category ∈ evidence.standings) : 0 < evidence.denominator settings category := by
  have tokens : (0 : ℝ) ≤ category.2.tokens := by exact_mod_cast clamped.tokens category h
  have size : (0 : ℝ) < evidence.vocabularySize := by
    exact_mod_cast Int.lt_of_lt_of_le Int.one_pos clamped.vocabularySize
  have product := mul_pos smooth size
  rw [denominator]
  linarith

/-- A smoothed count has a logarithm. -/
theorem ratio_pos (clamped : evidence.Clamped) (smooth : 0 < settings.smoothing)
    (h : category ∈ evidence.standings) (token : String) :
    0 < (evidence.count category.1 token + settings.smoothing)
      / evidence.denominator settings category := by
  have count : (0 : ℝ) ≤ evidence.count category.1 token := by
    exact_mod_cast clamped.count category.1 token
  exact div_pos (by linarith) (denominator_pos clamped smooth h)

/-- A token contributes something positive, or nothing at all, which is the factor one. -/
theorem factor_pos (clamped : evidence.Clamped) (smooth : 0 < settings.smoothing)
    (h : category ∈ evidence.standings) (token : String × ℕ) :
    0 < evidence.factor settings category token := by
  rw [factor]
  split
  · exact one_pos
  · exact pow_pos (ratio_pos clamped smooth h token.1) token.2

/-- So all tokens together contribute something positive. -/
theorem prod_factor_pos (clamped : evidence.Clamped) (smooth : 0 < settings.smoothing)
    (h : category ∈ evidence.standings) (tokens : List (String × ℕ)) :
    0 < (tokens.map (evidence.factor settings category)).prod := by
  refine List.prod_pos fun x hx => ?_
  obtain ⟨token, -, rfl⟩ := List.mem_map.mp hx
  exact factor_pos clamped smooth h token

/-- No weight is below zero, since no number of texts is. -/
theorem weight_nonneg (clamped : evidence.Clamped) (smooth : 0 < settings.smoothing)
    (h : category ∈ evidence.standings) : 0 ≤ evidence.weight settings category := by
  have messages : (0 : ℝ) ≤ category.2.messages := by exact_mod_cast clamped.messages category h
  exact mul_nonneg messages (prod_factor_pos clamped smooth h _).le

/-- A category has a weight iff it has learned a text. -/
theorem weight_eq_zero_iff (clamped : evidence.Clamped) (smooth : 0 < settings.smoothing)
    (h : category ∈ evidence.standings) :
    evidence.weight settings category = 0 ↔ category.2.messages ≤ 0 := by
  rw [weight, mul_eq_zero, or_iff_left (prod_factor_pos clamped smooth h _).ne', Int.cast_eq_zero]
  have := clamped.messages category h
  omega

/-- If some text has been learned, the weights have a positive sum. -/
theorem sum_weight_pos (clamped : evidence.Clamped) (smooth : 0 < settings.smoothing)
    (learned : 0 < evidence.messages) :
    0 < (evidence.standings.map (evidence.weight settings)).sum := by
  obtain ⟨category, h, learnedIn⟩ := (messages_pos_iff clamped).mp learned
  have zero_iff := weight_eq_zero_iff clamped smooth h
  have pos : 0 < evidence.weight settings category :=
    lt_of_le_of_ne (weight_nonneg clamped smooth h) (by rw [ne_comm, Ne, zero_iff]; omega)
  refine lt_of_lt_of_le pos (List.single_le_sum (fun w hw => ?_) _ (List.mem_map_of_mem h))
  obtain ⟨other, hother, rfl⟩ := List.mem_map.mp hw
  exact weight_nonneg clamped smooth hother

end Evidence

/-! ### Logarithms of weights -/

variable {settings : Settings ℝ} {evidence : Evidence} {category : String × Standing}

/-- A token adds the logarithm of what it contributes. -/
theorem addToken_eq (clamped : evidence.Clamped) (smooth : 0 < settings.smoothing)
    (h : category ∈ evidence.standings) (score : ℝ) (token : String × ℕ) :
    addToken settings evidence category.1 (evidence.denominator settings category) score token
      = .ok (score + Real.log (evidence.factor settings category token)) := by
  rw [addToken, Evidence.factor, ofInt_real]
  -- A rare token is skipped, and the logarithm of its factor is zero.
  by_cases rare : (evidence.total token.1 : ℝ) < settings.minTokenCount
  · rw [if_pos ((less_real _ _).mpr rare), if_pos rare, Real.log_one, add_zero]
  · rw [if_neg (mt (less_real _ _).mp rare), if_neg rare, Real.log_pow, ofInt_real, add_real,
      ok_bind, div_real (Evidence.denominator_pos clamped smooth h).ne', ok_bind,
      log_real (Evidence.ratio_pos clamped smooth h token.1), ok_bind, mul_real, ok_bind, add_real]
    rfl

/-- The tokens of a text add the logarithm of the product of what they contribute. -/
theorem foldlM_addToken (clamped : evidence.Clamped) (smooth : 0 < settings.smoothing)
    (h : category ∈ evidence.standings) (tokens : List (String × ℕ)) (score : ℝ) :
    tokens.foldlM (addToken settings evidence category.1 (evidence.denominator settings category))
        score
      = .ok (score + Real.log (tokens.map (evidence.factor settings category)).prod) := by
  induction tokens generalizing score with
  | nil => simp [pure, Except.pure]
  | cons token rest ih =>
    rw [List.foldlM_cons, addToken_eq clamped smooth h, List.map_cons, List.prod_cons,
      Real.log_mul (Evidence.factor_pos clamped smooth h token).ne'
        (Evidence.prod_factor_pos clamped smooth h rest).ne', ← add_assoc]
    exact ih _

/-- A weight over a common factor; none if there is no weight. -/
noncomputable def scaled (factor weight : ℝ) : Option ℝ :=
  if weight = 0 then none else some (weight / factor)

/-- A category without a text has no logarithm. For the others it is that of the weight, up to the
number of all texts. -/
theorem logScore_eq (clamped : evidence.Clamped) (smooth : 0 < settings.smoothing)
    (h : category ∈ evidence.standings) (learned : 0 < evidence.messages) :
    logScore settings evidence category
      = .ok ((scaled evidence.messages (evidence.weight settings category)).map Real.log) := by
  rw [logScore, scaled]
  by_cases idle : category.2.messages ≤ 0
  · rw [if_pos idle, if_pos ((Evidence.weight_eq_zero_iff clamped smooth h).mpr idle),
      Option.map_none]
  · -- Both numbers of texts are positive: the quotient has a logarithm.
    have all : (0 : ℝ) < evidence.messages := by exact_mod_cast learned
    have own : (0 : ℝ) < category.2.messages := by exact_mod_cast not_le.mp idle
    have product := Evidence.prod_factor_pos clamped smooth h evidence.frequencies
    rw [if_neg idle, if_neg (mt (Evidence.weight_eq_zero_iff clamped smooth h).mp idle),
      ofInt_real, ofInt_real, div_real all.ne', ok_bind, log_real (div_pos own all), ok_bind,
      mul_real, ok_bind, ofInt_real, add_real, ok_bind]
    show (evidence.frequencies.foldlM (addToken settings evidence category.1
      (evidence.denominator settings category)) _ >>= _) = _
    rw [foldlM_addToken clamped smooth h, ok_bind, ← Real.log_mul (div_pos own all).ne' product.ne',
      Evidence.weight, div_mul_eq_mul_div]
    rfl

/-! ### Shares -/

/-- A weight of zero is the same over any factor, so leaving it out changes nothing. -/
theorem getD_scaled (factor weight : ℝ) : (scaled factor weight).getD 0 = weight / factor := by
  rw [scaled]
  split
  · next h => rw [h, zero_div, Option.getD_none]
  · rfl

/-- The sum of the weights that are not left out is that of all, over the factor. -/
theorem sum_filterMap_scaled (factor : ℝ) (weights : List ℝ) :
    ((weights.map (scaled factor)).filterMap fun weight => weight).sum = weights.sum / factor := by
  induction weights with
  | nil => simp
  | cons w rest ih =>
    rw [List.map_cons, List.sum_cons, add_div, ← ih, scaled]
    by_cases h : w = 0
    · simp [h]
    · simp [h]

/-- What `normalize` takes off all logarithms is a common factor of all weights, and cancels in the
shares. -/
theorem normalize_eq {weights : List ℝ} {total : ℝ} (nonneg : ∀ w ∈ weights, 0 ≤ w)
    (total_pos : 0 < total) (sum_pos : 0 < weights.sum) :
    normalize (weights.map fun w => (scaled total w).map Real.log)
      = .ok (weights.map (· / weights.sum)) := by
  -- Some weight is positive, so there is a logarithm, and a greatest one.
  have logarithms : ((weights.map fun w => (scaled total w).map Real.log).filterMap
      fun score => score) ≠ [] := by
    intro none
    have all : ∀ w ∈ weights, scaled total w = Option.none := by simpa using none
    have := sum_filterMap_scaled total weights
    rw [List.filterMap_eq_nil_iff.mpr (by simpa using all), List.sum_nil] at this
    exact (div_pos sum_pos total_pos).ne this
  obtain ⟨greatest, hgreatest⟩ := maximum_real logarithms
  have factor_pos : 0 < total * Real.exp greatest := mul_pos total_pos (Real.exp_pos greatest)
  -- Taking `greatest` off the logarithms multiplies the factor of the weights.
  have exponentials : (weights.map fun w => (scaled total w).map Real.log).map
        (Option.map fun x => Real.exp (x - greatest))
      = weights.map (scaled (total * Real.exp greatest)) := by
    rw [List.map_map]
    refine List.map_congr_left fun w hw => ?_
    simp only [Function.comp, scaled]
    by_cases h : w = 0
    · rw [if_pos h, if_pos h]
      rfl
    · have pos : 0 < w := lt_of_le_of_ne (nonneg w hw) (Ne.symm h)
      rw [if_neg h, if_neg h, Option.map_some, Option.map_some, Real.exp_sub,
        Real.exp_log (div_pos pos total_pos), div_div]
  have shares : (weights.map (scaled (total * Real.exp greatest))).map (fun weight =>
        weight.getD 0 / (weights.sum / (total * Real.exp greatest)))
      = weights.map (· / weights.sum) := by
    rw [List.map_map]
    refine List.map_congr_left fun w _ => ?_
    rw [Function.comp_apply, getD_scaled, div_div_div_cancel_right₀ factor_pos.ne']
  rw [normalize, hgreatest, ok_bind, mapM_eq_ok (g := Option.map fun x => Real.exp (x - greatest)),
    exponentials, ok_bind, sum_real, sum_filterMap_scaled, ok_bind, ← shares]
  · exact mapM_eq_ok fun _ _ => div_real (div_pos sum_pos factor_pos).ne'
  · intro score _
    cases score <;> rfl

/-- The shares of the categories are their weights over the sum of the weights. -/
theorem posterior_eq (clamped : evidence.Clamped) (smooth : 0 < settings.smoothing)
    (learned : 0 < evidence.messages) :
    posterior settings evidence
      = .ok ((evidence.standings.map (evidence.weight settings)).map
          (· / (evidence.standings.map (evidence.weight settings)).sum)) := by
  have nonneg : ∀ w ∈ evidence.standings.map (evidence.weight settings), 0 ≤ w := by
    intro w hw
    obtain ⟨category, h, rfl⟩ := List.mem_map.mp hw
    exact Evidence.weight_nonneg clamped smooth h
  have sum_pos := Evidence.sum_weight_pos clamped smooth learned
  -- Each score is the logarithm of a weight, and the scores are then normalized.
  rw [posterior, mapM_eq_ok fun category h => logScore_eq clamped smooth h learned, ok_bind]
  have := normalize_eq nonneg (Int.cast_pos.mpr learned) sum_pos
  rwa [List.map_map] at this

end Bayes

end Moderation
