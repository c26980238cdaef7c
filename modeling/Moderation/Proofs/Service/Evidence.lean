import Mathlib.Algebra.BigOperators.Ring.List
import Moderation.Proofs.Exact
import Moderation.Proofs.Service.Round
import Moderation.Service.Verdict

/-!
# `Moderation.Proofs.Service.Evidence`: what the answers of analyzers amount to

An analyzer that is asked about a text fails, gives scores that are no evidence because there are none
or all are zero (`IsBlank`), or gives evidence. Evidence is a vote: the share of spam in the scores,
with the weight of the analyzer (`votes`). So the answers fall into three groups
(`outages_append_silent_append_votes_perm`), and the score of a text is the mean of the votes
(`mean`), which no other answer enters.

The mean lies among the shares that are its terms (`exists_le_mean`, `exists_mean_le`).

Answers may be given in another order, some without evidence may be left out, all weights may be
multiplied by one factor, and the scores of an analyzer by another (`SameEvidence`). The votes stay the
same up to their order and a factor of their weights (`SameEvidence.votes_perm`).
-/

set_option autoImplicit false

namespace Moderation.Service

open Arithmetic

/-! ### The share of one analyzer -/

/-- Scores that are no evidence: there are none, or all are zero. -/
def IsBlank (scores : Scores ℝ) : Prop := ∀ entry ∈ scores, entry.2 = 0

noncomputable instance : DecidablePred IsBlank := fun scores =>
  inferInstanceAs (Decidable (∀ entry ∈ scores, entry.2 = 0))

/-- The sum of some scores. -/
def total (scores : Scores ℝ) : ℝ := (scores.map (·.2)).sum

/-- The share of a category in some scores. -/
noncomputable def share (category : Value) (scores : Scores ℝ) : ℝ :=
  (scores.get? category).getD 0 / total scores

/-- The scores with a factor. -/
def rescale (factor : ℝ) (scores : Scores ℝ) : Scores ℝ :=
  scores.map fun entry => (entry.1, factor * entry.2)

section

variable {scores : Scores ℝ} {category : Value}

/-- The score of a category is zero or one of the scores. -/
theorem getD_get?_mem (scores : Scores ℝ) (category : Value) :
    (scores.get? category).getD 0 = 0 ∨ (scores.get? category).getD 0 ∈ scores.map (·.2) := by
  rw [Value.Map.get?]
  cases found : scores.find? (·.1.same category) with
  | none => exact Or.inl rfl
  | some entry => exact Or.inr (List.mem_map_of_mem (List.mem_of_find?_eq_some found))

/-- The scores without their categories are not negative either. -/
theorem map_snd_nonneg (nonneg : ∀ entry ∈ scores, 0 ≤ entry.2) :
    ∀ score ∈ scores.map (·.2), 0 ≤ score := by
  intro score hscore
  obtain ⟨entry, hentry, rfl⟩ := List.mem_map.mp hscore
  exact nonneg entry hentry

/-- Scores that are not negative are evidence if and only if their sum is positive. -/
theorem total_pos_iff (nonneg : ∀ entry ∈ scores, 0 ≤ entry.2) :
    0 < total scores ↔ ¬ IsBlank scores := by
  have none_negative := map_snd_nonneg nonneg
  -- A sum of such scores is zero only if all of them are.
  rw [total, (List.sum_nonneg none_negative).lt_iff_ne', not_iff_not]
  constructor
  · intro zero entry hentry
    exact List.all_zero_of_le_zero_le_of_sum_eq_zero none_negative zero
      (List.mem_map_of_mem hentry)
  · intro blank
    refine List.sum_eq_zero fun score hscore => ?_
    obtain ⟨entry, hentry, rfl⟩ := List.mem_map.mp hscore
    exact blank entry hentry

/-- The share that is taken into account, if there is evidence. -/
theorem spamShare_real (named : category.isName = true) (nonneg : ∀ entry ∈ scores, 0 ≤ entry.2) :
    spamShare category scores
      = .ok (if IsBlank scores then none else some (share category scores)) := by
  have nothing : (scores.isEmpty || atMost (total scores) (ofInt 0)) = true ↔ IsBlank scores := by
    rw [Bool.or_eq_true, List.isEmpty_iff, atMost_real, decide_eq_true_eq, ofInt_real, Int.cast_zero,
      ← not_lt, total_pos_iff nonneg, not_not]
    refine ⟨fun h => h.elim (fun empty entry hentry => ?_) id, Or.inr⟩
    rw [empty] at hentry
    exact absurd hentry List.not_mem_nil
  rw [spamShare, sum_real]
  show (if (scores.isEmpty || atMost (total scores) (ofInt 0)) = true then _ else _) = _
  by_cases blank : IsBlank scores
  · -- There is nothing to divide, and the category is not even looked at.
    rw [if_pos (nothing.mpr blank), if_pos blank]
    rfl
  · have divides := (total_pos_iff nonneg).mpr blank
    rw [if_neg (mt nothing.mp blank), if_neg blank, named]
    show (do return some (← (div ((scores.get? category).getD 0) (total scores)).mapError _)) = _
    rw [div_real divides.ne']
    rfl

/-- A share is between zero and one. -/
theorem share_mem_unit (nonneg : ∀ entry ∈ scores, 0 ≤ entry.2) :
    0 ≤ share category scores ∧ share category scores ≤ 1 := by
  have none_negative := map_snd_nonneg nonneg
  have total_nonneg : 0 ≤ total scores := List.sum_nonneg none_negative
  rcases getD_get?_mem scores category with zero | found
  · rw [share, zero, zero_div]
    exact ⟨le_rfl, zero_le_one⟩
  · refine ⟨div_nonneg (none_negative _ found) total_nonneg, ?_⟩
    exact div_le_one_of_le₀ (List.single_le_sum none_negative _ found) total_nonneg

/-! A factor of all scores does not matter. -/

/-- A positive factor makes no score zero. -/
theorem isBlank_rescale {factor : ℝ} (pos : 0 < factor) :
    IsBlank (rescale factor scores) ↔ IsBlank scores := by
  rw [IsBlank, rescale, List.forall_mem_map, IsBlank]
  simp only [mul_eq_zero, pos.ne', false_or]

/-- A factor of the part and of the whole leaves the share. -/
theorem share_rescale {factor : ℝ} (pos : 0 < factor) :
    share category (rescale factor scores) = share category scores := by
  -- The lookup goes by the category alone, which rescaling keeps, so the entry found is the same
  -- one.
  have part : ((rescale factor scores).get? category).getD 0
      = factor * (scores.get? category).getD 0 := by
    induction scores with
    | nil => exact (mul_zero _).symm
    | cons entry rest ih =>
      simp only [rescale, Value.Map.get?, List.map_cons, List.find?_cons] at ih ⊢
      split
      · rfl
      · exact ih
  have whole : total (rescale factor scores) = factor * total scores := by
    rw [total, total, ← List.sum_map_mul_left, rescale, List.map_map]
    rfl
  rw [share, part, whole, mul_div_mul_left _ _ pos.ne', share]

end

/-! ### The mean of votes -/

/-- What an analyzer with evidence contributes. -/
structure Vote where
  analyzer : String
  weight : ℝ
  share : ℝ

/-- A vote with a factor of its weight. -/
def Vote.reweigh (factor : ℝ) (vote : Vote) : Vote := { vote with weight := factor * vote.weight }

/-- The sum of the weights of some votes. -/
noncomputable def totalWeight (votes : List Vote) : ℝ := (votes.map Vote.weight).sum

/-- The sum of the shares of some votes, each times its weight. -/
noncomputable def weightedShares (votes : List Vote) : ℝ :=
  (votes.map fun vote => vote.weight * vote.share).sum

/-- The mean of the shares of some votes. -/
noncomputable def mean (votes : List Vote) : ℝ := weightedShares votes / totalWeight votes

section

variable {votes : List Vote}

/-- No votes have the mean zero. -/
theorem mean_nil : mean [] = 0 := div_zero _

/-- Votes with positive weights have a positive weight together. -/
theorem totalWeight_pos (pos : ∀ vote ∈ votes, 0 < vote.weight) (some : votes ≠ []) :
    0 < totalWeight votes := by
  refine List.sum_pos _ (fun weight hweight => ?_) (by simpa using some)
  obtain ⟨vote, hvote, rfl⟩ := List.mem_map.mp hweight
  exact pos vote hvote

/-- The mean, taken for every share, gives the weighted sum of the shares. -/
theorem sum_weight_mul_mean (pos : ∀ vote ∈ votes, 0 < vote.weight) (some : votes ≠ []) :
    (votes.map fun vote => vote.weight * mean votes).sum = weightedShares votes := by
  rw [List.sum_map_mul_right]
  exact mul_div_cancel₀ _ (totalWeight_pos pos some).ne'

/-- Some share is at most the mean. -/
theorem exists_le_mean (pos : ∀ vote ∈ votes, 0 < vote.weight) (some : votes ≠ []) :
    ∃ vote ∈ votes, vote.share ≤ mean votes := by
  -- Otherwise the weighted sum of the shares would exceed that of the mean, which is the same.
  obtain ⟨vote, hvote, le⟩ := List.exists_le_of_sum_le some
    (fun vote => vote.weight * vote.share) (fun vote => vote.weight * mean votes)
    (sum_weight_mul_mean pos some).ge
  exact ⟨vote, hvote, le_of_mul_le_mul_left le (pos vote hvote)⟩

/-- Some share is at least the mean. -/
theorem exists_mean_le (pos : ∀ vote ∈ votes, 0 < vote.weight) (some : votes ≠ []) :
    ∃ vote ∈ votes, mean votes ≤ vote.share := by
  obtain ⟨vote, hvote, le⟩ := List.exists_le_of_sum_le some
    (fun vote => vote.weight * mean votes) (fun vote => vote.weight * vote.share)
    (sum_weight_mul_mean pos some).le
  exact ⟨vote, hvote, le_of_mul_le_mul_left le (pos vote hvote)⟩

/-- The order of the votes does not matter. -/
theorem mean_perm {others : List Vote} (perm : votes.Perm others) : mean votes = mean others := by
  rw [mean, mean, weightedShares, weightedShares, totalWeight, totalWeight, (perm.map _).sum_eq,
    (perm.map Vote.weight).sum_eq]

/-- A factor of all weights does not matter. -/
theorem mean_reweigh {factor : ℝ} (pos : 0 < factor) :
    mean (votes.map (Vote.reweigh factor)) = mean votes := by
  have above : weightedShares (votes.map (Vote.reweigh factor)) = factor * weightedShares votes := by
    rw [weightedShares, weightedShares, ← List.sum_map_mul_left, List.map_map]
    exact congrArg List.sum (List.map_congr_left fun vote _ => mul_assoc _ _ _)
  have below : totalWeight (votes.map (Vote.reweigh factor)) = factor * totalWeight votes := by
    rw [totalWeight, totalWeight, ← List.sum_map_mul_left, List.map_map]
    rfl
  rw [mean, above, below, mul_div_mul_left _ _ pos.ne', mean]

end

/-! ### Answers -/

/-- An analyzer and what has come of asking it. -/
abbrev Answer := AnalyzerConfig × Except Error (Scores ℝ)

/-- An answer that is evidence. -/
def HasEvidence (answer : Answer) : Prop := ∃ scores, answer.2 = .ok scores ∧ ¬ IsBlank scores

/-- The vote that an answer is. -/
noncomputable def vote? (category : Value) : Answer → Option Vote
  | (_, .error _) => none
  | (analyzer, .ok scores) =>
    if IsBlank scores then none
    else some ⟨analyzer.name, analyzer.weight.value, share category scores⟩

/-- The votes among some answers. -/
noncomputable def votes (category : Value) (answers : List Answer) : List Vote :=
  answers.filterMap (vote? category)

/-- The analyzers that have given an answer without evidence. -/
noncomputable def silent (answers : List Answer) : List String :=
  answers.filterMap fun
    | (_, .error _) => none
    | (analyzer, .ok scores) => if IsBlank scores then some analyzer.name else none

section

variable {category : Value} {analyzer : AnalyzerConfig} {scores : Scores ℝ} {answers : List Answer}

/-- An analyzer that has failed casts no vote. -/
@[simp]
theorem votes_error (e : Error) :
    votes category ((analyzer, .error e) :: answers) = votes category answers := rfl

/-- An analyzer without evidence casts no vote. -/
theorem votes_blank (blank : IsBlank scores) :
    votes category ((analyzer, .ok scores) :: answers) = votes category answers := by
  simp only [votes, List.filterMap_cons, vote?, if_pos blank]

/-- Evidence is cast as the share of spam, with the weight of the analyzer. -/
theorem votes_evidence (evidence : ¬ IsBlank scores) :
    votes category ((analyzer, .ok scores) :: answers)
      = ⟨analyzer.name, analyzer.weight.value, share category scores⟩ :: votes category answers := by
  simp only [votes, List.filterMap_cons, vote?, if_neg evidence]

/-- An analyzer that has failed is not silent. -/
@[simp]
theorem silent_error (e : Error) : silent ((analyzer, .error e) :: answers) = silent answers := rfl

/-- One that answers without evidence is. -/
theorem silent_blank (blank : IsBlank scores) :
    silent ((analyzer, .ok scores) :: answers) = analyzer.name :: silent answers := by
  simp only [silent, List.filterMap_cons, if_pos blank]

/-- One that votes is not. -/
theorem silent_evidence (evidence : ¬ IsBlank scores) :
    silent ((analyzer, .ok scores) :: answers) = silent answers := by
  simp only [silent, List.filterMap_cons, if_neg evidence]

/-- An answer is a vote if and only if it is evidence. -/
theorem vote?_eq_none_iff {answer : Answer} : vote? category answer = none ↔ ¬ HasEvidence answer := by
  obtain ⟨analyzer, e | scores⟩ := answer
  · simp [vote?, HasEvidence]
  · by_cases blank : IsBlank scores <;> simp [vote?, HasEvidence, blank]

/-- A vote comes from an answer that is evidence. -/
theorem exists_of_mem_votes {vote : Vote} (h : vote ∈ votes category answers) :
    ∃ analyzer scores, (analyzer, .ok scores) ∈ answers ∧ vote.weight = analyzer.weight.value
      ∧ vote.share = share category scores := by
  obtain ⟨⟨analyzer, e | scores⟩, hanswer, hvote⟩ := List.mem_filterMap.mp h
  · cases hvote
  · rw [vote?] at hvote
    split at hvote
    · cases hvote
    · cases hvote
      exact ⟨analyzer, scores, hanswer, rfl, rfl⟩

/-- Every analyzer has failed, was silent or has voted. -/
theorem outages_append_silent_append_votes_perm (category : Value) (only : OnlyOutages answers) :
    ((outages (·.name) answers).keys ++ silent answers
        ++ (votes category answers).map Vote.analyzer).Perm
      (answers.map (·.1.name)) := by
  induction answers with
  | nil => rfl
  | cons answer answers ih =>
    have others := ih only.tail
    obtain ⟨analyzer, result⟩ := answer
    -- The first answer goes to exactly one of the three.
    rcases only.head with ⟨scores, rfl⟩ | ⟨outage, rfl⟩
    · by_cases blank : IsBlank scores
      · rw [outages_ok, silent_blank blank, votes_blank blank, List.append_assoc, List.cons_append,
          List.map_cons]
        rw [List.append_assoc] at others
        exact List.perm_middle.trans (others.cons _)
      · rw [outages_ok, silent_evidence blank, votes_evidence blank, List.map_cons, List.map_cons]
        exact List.perm_middle.trans (others.cons _)
    · rw [outages_error, silent_error, votes_error, List.map_cons]
      exact others.cons _

end

/-! ### The same evidence -/

/-- The second answers are the first up to what is no evidence: their order, answers without
evidence, a factor of all weights, and a factor of the scores of each analyzer. -/
inductive SameEvidence : List Answer → List Answer → Prop
  | reorder {answers others : List Answer} (perm : answers.Perm others) : SameEvidence answers others
  | drop {answers : List Answer} (keeps : Answer → Bool)
      (kept : ∀ answer ∈ answers, HasEvidence answer → keeps answer = true) :
      SameEvidence answers (answers.filter keeps)
  | reweigh {answers others : List Answer} (factor : ℝ) (pos : 0 < factor)
      (alike : List.Forall₂ (fun answer other : Answer => other.1.name = answer.1.name
        ∧ other.1.weight.value = factor * answer.1.weight.value ∧ other.2 = answer.2) answers others) :
      SameEvidence answers others
  | rescale {answers others : List Answer}
      (alike : List.Forall₂ (fun answer other : Answer => other.1 = answer.1
        ∧ ∃ factor : ℝ, 0 < factor ∧ other.2 = answer.2.map (rescale factor)) answers others) :
      SameEvidence answers others
  | trans {answers between others : List Answer} (first : SameEvidence answers between)
      (second : SameEvidence between others) : SameEvidence answers others

section

variable {category : Value} {factor : ℝ}

/-- The factor one changes no vote. -/
theorem map_reweigh_one (cast : List Vote) : cast.map (Vote.reweigh 1) = cast := by
  -- The equation holds for the functions, so the list need not be taken apart.
  have unchanged : Vote.reweigh 1 = id := funext fun vote => by
    rw [Vote.reweigh, one_mul]
    rfl
  rw [unchanged, List.map_id]

/-- The vote of an analyzer with another weight. -/
theorem vote?_reweigh {analyzer other : AnalyzerConfig} (name : other.name = analyzer.name)
    (weight : other.weight.value = factor * analyzer.weight.value)
    (result : Except Error (Scores ℝ)) :
    vote? category (other, result) = (vote? category (analyzer, result)).map (Vote.reweigh factor) := by
  cases result with
  | error e => rfl
  | ok scores =>
    rw [vote?, vote?, name, weight]
    split <;> rfl

/-- The vote of an analyzer whose scores have a factor. -/
theorem vote?_rescale (pos : 0 < factor) (analyzer : AnalyzerConfig)
    (result : Except Error (Scores ℝ)) :
    vote? category (analyzer, result.map (rescale factor)) = vote? category (analyzer, result) := by
  cases result with
  | error e => rfl
  | ok scores =>
    rw [Except.map, vote?, vote?, share_rescale pos]
    exact if_congr (isBlank_rescale pos) rfl rfl

/-- Answers that give the same votes one by one, up to a factor of the weights. -/
theorem map_reweigh_votes {answers others : List Answer}
    (alike : List.Forall₂ (fun answer other =>
      vote? category other = (vote? category answer).map (Vote.reweigh factor)) answers others) :
    (votes category answers).map (Vote.reweigh factor) = votes category others := by
  induction alike with
  | nil => rfl
  | @cons answer other answers others same _ ih =>
    rw [votes, votes, List.filterMap_cons, List.filterMap_cons, same]
    cases vote? category answer with
    | none => exact ih
    | some vote => exact congrArg _ ih

/-- Answers that are not evidence may be left out. -/
theorem votes_filter {answers : List Answer} {keeps : Answer → Bool}
    (kept : ∀ answer ∈ answers, HasEvidence answer → keeps answer = true) :
    votes category (answers.filter keeps) = votes category answers := by
  rw [votes, List.filterMap_filter]
  refine List.filterMap_congr fun answer hanswer => ?_
  by_cases keep : keeps answer = true
  · exact if_pos keep
  · rw [if_neg keep]
    exact (vote?_eq_none_iff.mpr (mt (kept answer hanswer) keep)).symm

/-- The same evidence gives the same votes, up to a factor of the weights. -/
theorem SameEvidence.votes_perm (category : Value) {answers others : List Answer}
    (same : SameEvidence answers others) :
    ∃ factor : ℝ, 0 < factor ∧
      ((votes category answers).map (Vote.reweigh factor)).Perm (votes category others) := by
  -- Only other weights have a factor, and the factors of two steps are multiplied.
  induction same with
  | reorder perm =>
    refine ⟨1, one_pos, ?_⟩
    rw [map_reweigh_one]
    exact perm.filterMap _
  | drop keeps kept =>
    refine ⟨1, one_pos, ?_⟩
    rw [map_reweigh_one, votes_filter kept]
  | reweigh factor pos alike =>
    refine ⟨factor, pos, List.Perm.of_eq (map_reweigh_votes (alike.imp ?_))⟩
    rintro ⟨analyzer, _⟩ ⟨other, result⟩ ⟨name, weight, rfl⟩
    exact vote?_reweigh name weight result
  | rescale alike =>
    refine ⟨1, one_pos, List.Perm.of_eq (map_reweigh_votes (alike.imp ?_))⟩
    rintro ⟨analyzer, result⟩ ⟨_, _⟩ ⟨same, factor, pos, scaled⟩
    cases same
    cases scaled
    exact (vote?_rescale pos analyzer result).trans (vote?_reweigh rfl (one_mul _).symm result)
  | trans _ _ first second =>
    obtain ⟨factor, pos, perm⟩ := first
    obtain ⟨factor', pos', perm'⟩ := second
    refine ⟨factor' * factor, mul_pos pos' pos, List.Perm.trans (List.Perm.of_eq ?_)
      ((perm.map (Vote.reweigh factor')).trans perm')⟩
    rw [List.map_map]
    exact List.map_congr_left fun vote _ => by simp [Vote.reweigh, mul_assoc]

end

end Moderation.Service
