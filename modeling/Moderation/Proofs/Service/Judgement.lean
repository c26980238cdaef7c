import Moderation.Proofs.Language
import Moderation.Proofs.Registry.Resolution
import Moderation.Proofs.Service.Evidence
import Moderation.Service.Basic

/-!
# `Moderation.Proofs.Service.Judgement`: the verdict on a text

To classify a text, the service asks its analyzers one after the other and keeps a tally. Over the
reals, the tally holds the votes among the answers and the outages, and no more (`outcome_consultAll`).
So the verdict is a function of the votes and of the names of those that failed (`verdictOf`), unless
there is none because all have failed (`classify_eq`).

`classify_by_evidence` says what follows for the verdict, and that answers with the same evidence give
the same score and the same decision.
-/

set_option autoImplicit false

namespace Moderation.Service

open Arithmetic

variable {σ : Type}

/-! ### The tally -/

/-- A tally to which some answers are added. -/
noncomputable def Tally.addAll (tally : Tally ℝ) (category : Value) (answers : List Answer) :
    Tally ℝ where
  shares := tally.shares ++ (votes category answers).map fun vote => (vote.analyzer, vote.share)
  failed := tally.failed ++ outages (·.name) answers
  weighted := tally.weighted + weightedShares (votes category answers)
  weight := tally.weight + totalWeight (votes category answers)

/-- A tally to which a vote is added. -/
def Tally.count (tally : Tally ℝ) (vote : Vote) : Tally ℝ :=
  { tally with
    shares := tally.shares ++ [(vote.analyzer, vote.share)]
    weighted := tally.weighted + vote.weight * vote.share
    weight := tally.weight + vote.weight }

/-- Over the reals, adding to a tally never overflows: it counts a vote. -/
theorem Tally.add_real (tally : Tally ℝ) (analyzer : String) (weight share : ℝ) :
    tally.add analyzer weight share = .ok (tally.count ⟨analyzer, weight, share⟩) := rfl

section

variable {tally : Tally ℝ} {category : Value} {analyzer : AnalyzerConfig} {answers : List Answer}

/-- Without answers a tally stays as it is. -/
theorem Tally.addAll_nil : tally.addAll category [] = tally := by
  simp [addAll, votes, outages, weightedShares, totalWeight]

/-- An answer that is an outage is put down among the failures, and adds nothing to the sums. -/
theorem Tally.addAll_outage (outage : Outage) :
    tally.addAll category ((analyzer, .error (.storeUnavailable outage)) :: answers)
      = (tally.fail analyzer.name outage.message).addAll category answers := by
  simp [addAll, fail]

/-- An answer without evidence adds nothing at all. -/
theorem Tally.addAll_blank {scores : Scores ℝ} (blank : IsBlank scores) :
    tally.addAll category ((analyzer, .ok scores) :: answers) = tally.addAll category answers := by
  rw [addAll, votes_blank blank, outages_ok, addAll]

/-- An answer with evidence is counted as one vote, before the answers behind it. -/
theorem Tally.addAll_evidence {scores : Scores ℝ} (evidence : ¬ IsBlank scores) :
    tally.addAll category ((analyzer, .ok scores) :: answers)
      = (tally.count ⟨analyzer.name, analyzer.weight.value, share category scores⟩).addAll category
          answers := by
  rw [addAll, votes_evidence evidence, outages_ok, addAll, count]
  simp [weightedShares, totalWeight, add_assoc]

end

/-- Asks some analyzers, one after the other, and gives what has come of it. -/
def ask (service : Service σ ℝ) (text : Value) (analyzers : List AnalyzerConfig)
    (deployment : Deployment σ ℝ) : List Answer × Deployment σ ℝ :=
  Act.round (fun analyzer => service.consult analyzer.name text) analyzers deployment

/-- Asking analyzers adds their answers to the tally. -/
theorem outcome_consultAll {service : Service σ ℝ} {text : Value}
    (named : service.config.spamCategory.isName = true) (analyzers : List AnalyzerConfig)
    (tally : Tally ℝ) (deployment : Deployment σ ℝ)
    (only : OnlyOutages (service.ask text analyzers deployment).1)
    (nonneg : ∀ answer ∈ reached (service.ask text analyzers deployment).1,
      ∀ entry ∈ answer.2, 0 ≤ entry.2) :
    (service.consultAll text tally analyzers).outcome deployment
      = (.ok (tally.addAll service.config.spamCategory (service.ask text analyzers deployment).1),
        (service.ask text analyzers deployment).2) := by
  induction analyzers generalizing tally deployment with
  | nil =>
    rw [ask, Act.round, Tally.addAll_nil, consultAll]
    rfl
  | cons analyzer analyzers ih =>
    cases asked : (service.consult analyzer.name text).outcome deployment with
    | mk result after =>
    have round : service.ask text (analyzer :: analyzers) deployment
        = ((analyzer, result) :: (service.ask text analyzers after).1,
          (service.ask text analyzers after).2) := by
      rw [ask, Act.round, asked, ask]
    rw [round] at only nonneg ⊢
    rw [consultAll]
    rcases only.head with ⟨scores, rfl⟩ | ⟨outage, rfl⟩
    · -- The rest goes on from any tally, with or without the vote.
      have rest := fun tally => ih tally after only.tail
        fun answer h => nonneg answer (List.mem_cons_of_mem _ h)
      have shared := spamShare_real named (nonneg _ List.mem_cons_self)
      rw [Act.outcome_bind_ok (outcome_reachable_ok asked)]
      dsimp only
      rw [shared, Act.outcome_bind_ok (Act.outcome_ofExcept _ _)]
      by_cases blank : IsBlank scores
      · rw [if_pos blank, Tally.addAll_blank blank]
        exact rest tally
      · rw [if_neg blank, Tally.addAll_evidence blank]
        exact rest _
    · rw [Act.outcome_bind_ok (outcome_reachable_outage asked), Tally.addAll_outage]
      exact ih _ after only.tail nonneg

/-! ### The verdict -/

/-- The verdict of some votes. -/
noncomputable def verdictOf (threshold : ℝ) (votes : List Vote) (failed : List String) :
    Verdict ℝ where
  spam := !votes.isEmpty && decide (threshold ≤ mean votes)
  score := mean votes
  shares := votes.map fun vote => (vote.analyzer, vote.share)
  threshold := threshold
  failedAnalyzers := failed
  insufficient := votes.isEmpty

/-- A tally of answers is closed with the verdict of their votes. That no weight has been counted means
that there are no votes, as all weights are positive. -/
theorem verdict_addAll {category : Value} {answers : List Answer} (threshold : ℝ)
    (weighed : ∀ vote ∈ votes category answers, 0 < vote.weight) :
    (Tally.start.addAll category answers).verdict threshold
      = .ok (verdictOf threshold (votes category answers) (outages (·.name) answers).keys) := by
  have weight : (Tally.start.addAll category answers).weight = totalWeight (votes category answers) :=
    zero_add _
  have sum : (Tally.start.addAll category answers).weighted
      = weightedShares (votes category answers) := zero_add _
  have shares : (Tally.start.addAll category answers).shares
      = (votes category answers).map fun vote => (vote.analyzer, vote.share) := List.nil_append _
  rw [Tally.verdict, weight, sum, shares]
  generalize votes category answers = cast at weighed ⊢
  -- The code looks at the weight, the verdict at the votes.
  cases cast with
  | nil =>
    have unweighed : isEqual (totalWeight []) (ofInt 0) = true := by
      simp [isEqual, atMost_real, ofInt_real, totalWeight]
    rw [unweighed, verdictOf, mean_nil]
    rfl
  | cons vote rest =>
    have pos := totalWeight_pos weighed (List.cons_ne_nil _ _)
    have unweighed : isEqual (totalWeight (vote :: rest)) (ofInt 0) = false := by
      simp [isEqual, atMost_real, ofInt_real, pos]
    rw [unweighed, div_real pos.ne']
    rfl

section

variable {threshold : ℝ} {votes : List Vote} {failed : List String}

/-- A verdict shows no shares if and only if nobody has voted. -/
theorem shares_verdictOf_eq_nil_iff : (verdictOf threshold votes failed).shares = [] ↔ votes = [] :=
  List.map_eq_nil_iff

/-- A verdict says that there was no evidence if and only if it shows no shares. -/
theorem insufficient_verdictOf_iff :
    (verdictOf threshold votes failed).insufficient = true
      ↔ (verdictOf threshold votes failed).shares = [] := by
  rw [shares_verdictOf_eq_nil_iff, verdictOf, List.isEmpty_iff]

/-- Without evidence the score is zero and the text is no spam, whatever the threshold is. -/
theorem verdictOf_of_insufficient (none : (verdictOf threshold votes failed).shares = []) :
    (verdictOf threshold votes failed).score = 0
      ∧ (verdictOf threshold votes failed).spam = false := by
  rw [shares_verdictOf_eq_nil_iff] at none
  subst none
  exact ⟨mean_nil, rfl⟩

/-- With evidence, a text is spam if and only if its score reaches the threshold. -/
theorem spam_verdictOf_iff (some : votes ≠ []) :
    (verdictOf threshold votes failed).spam = true
      ↔ threshold ≤ (verdictOf threshold votes failed).score := by
  simp [verdictOf, some]

/-- The score lies among the shares. -/
theorem score_verdictOf_between (pos : ∀ vote ∈ votes, 0 < vote.weight) (some : votes ≠ []) :
    (∃ low ∈ (verdictOf threshold votes failed).shares,
        low.2 ≤ (verdictOf threshold votes failed).score)
      ∧ ∃ high ∈ (verdictOf threshold votes failed).shares,
        (verdictOf threshold votes failed).score ≤ high.2 := by
  obtain ⟨low, hlow, le⟩ := exists_le_mean pos some
  obtain ⟨high, hhigh, ge⟩ := exists_mean_le pos some
  exact ⟨⟨_, List.mem_map_of_mem hlow, le⟩, ⟨_, List.mem_map_of_mem hhigh, ge⟩⟩

/-- If all shares lie between zero and one, the score does. -/
theorem score_verdictOf_mem_unit (pos : ∀ vote ∈ votes, 0 < vote.weight) (some : votes ≠ [])
    (unit : ∀ vote ∈ votes, 0 ≤ vote.share ∧ vote.share ≤ 1) :
    0 ≤ (verdictOf threshold votes failed).score ∧ (verdictOf threshold votes failed).score ≤ 1 := by
  obtain ⟨low, hlow, le⟩ := exists_le_mean pos some
  obtain ⟨high, hhigh, ge⟩ := exists_mean_le pos some
  exact ⟨(unit low hlow).1.trans le, ge.trans (unit high hhigh).2⟩

/-- Votes up to their order and a factor of the weights give one score and one decision. -/
theorem verdictOf_perm {others : List Vote} {factor : ℝ} (pos : 0 < factor)
    (perm : (votes.map (Vote.reweigh factor)).Perm others) (lost : List String) :
    (verdictOf threshold others lost).score = (verdictOf threshold votes failed).score
      ∧ (verdictOf threshold others lost).spam = (verdictOf threshold votes failed).spam
      ∧ (verdictOf threshold others lost).shares.Perm (verdictOf threshold votes failed).shares := by
  have score : mean others = mean votes := (mean_perm perm).symm.trans (mean_reweigh pos)
  have empty : others.isEmpty = votes.isEmpty := by
    rw [← perm.isEmpty_eq, List.isEmpty_map]
  refine ⟨score, ?_, ?_⟩
  · rw [verdictOf, verdictOf, score, empty]
  · have shares := (perm.map fun vote => (vote.analyzer, vote.share)).symm
    rwa [List.map_map] at shares

end

/-! ### Classification -/

section

variable (service : Service σ ℝ) (text : String) (deployment : Deployment σ ℝ)

/-- The answers of all analyzers of a deployment to a text. -/
def answers : List Answer :=
  (service.ask (.text text) (deployment.registry.configs.map (·.2)) deployment).1

/-- The analyzers that fail on a text, and why. -/
def lost : Entries String := outages (·.name) (service.answers text deployment)

/-- The votes on a text. -/
noncomputable def ballot : List Vote :=
  votes service.config.spamCategory (service.answers text deployment)

/-- All analyzers fail: there is one, and every one is lost. -/
def AllFailed : Prop :=
  deployment.registry.names ≠ []
    ∧ ∀ name ∈ deployment.registry.names, name ∈ (service.lost text deployment).keys

/-- The circumstances in which a text is classified: the registry is well-formed, the category of spam
can name something, weights are positive, the guesser of languages is sound, and each analyzer gives
scores that are not negative, unless its store is unavailable. -/
structure Proper : Prop where
  registered : deployment.registry.WellFormed
  named : service.config.spamCategory.isName = true
  weighed : ∀ entry ∈ deployment.registry.configs, 0 < entry.2.weight.value
  guesser : service.guess.IsSound
  only : OnlyOutages (service.answers text deployment)
  nonneg : ∀ answer ∈ reached (service.answers text deployment), ∀ entry ∈ answer.2, 0 ≤ entry.2

end

variable {service : Service σ ℝ} {text : String} {deployment : Deployment σ ℝ}

/-- All analyzers are asked, in the order of their registration. -/
theorem map_fst_answers :
    (service.answers text deployment).map (·.1) = deployment.registry.configs.map (·.2) :=
  Act.map_fst_round ..

/-- A verdict on a text can be logged. -/
theorem entryOf_text (sound : service.guess.IsSound) (text : String) (resourceId : Value)
    (verdict : Verdict ℝ) :
    ∃ entry, service.entryOf (.text text) resourceId verdict = .ok entry := by
  -- Only a service that is set to detect the language asks for it, and a sound guess has one for
  -- every text.
  have named : ∃ language, service.languageOf (.text text) = .ok language := by
    rw [languageOf]
    split
    · obtain ⟨language, detected⟩ := Language.Detector.default.detectOrUnknown_text sound text
      rw [detected]
      exact ⟨some language, rfl⟩
    · exact ⟨none, rfl⟩
  obtain ⟨language, named⟩ := named
  rw [entryOf, named]
  exact ⟨_, rfl⟩

namespace Proper

variable (proper : service.Proper text deployment)

include proper

/-- Analyzers are asked by the names they are registered under. -/
theorem map_name_answers :
    (service.answers text deployment).map (·.1.name) = deployment.registry.names := by
  have names : (service.answers text deployment).map (·.1.name)
      = ((service.answers text deployment).map (·.1)).map AnalyzerConfig.name := by
    rw [List.map_map]
    rfl
  rw [names, map_fst_answers, List.map_map]
  exact List.map_congr_left fun entry hentry => proper.registered.named entry hentry

/-- Every analyzer has failed, was silent or has voted. -/
theorem perm :
    ((service.lost text deployment).keys ++ silent (service.answers text deployment)
      ++ (service.ballot text deployment).map Vote.analyzer).Perm deployment.registry.names := by
  rw [← proper.map_name_answers]
  exact outages_append_silent_append_votes_perm _ proper.only

/-- Every vote has the weight of a registered analyzer, which is positive. -/
theorem weight_pos : ∀ vote ∈ service.ballot text deployment, 0 < vote.weight := by
  intro vote hvote
  obtain ⟨analyzer, scores, hanswer, weight, -⟩ := exists_of_mem_votes hvote
  have registered : analyzer ∈ deployment.registry.configs.map (·.2) := by
    rw [← map_fst_answers]
    exact List.mem_map_of_mem hanswer
  obtain ⟨entry, hentry, rfl⟩ := List.mem_map.mp registered
  rw [weight]
  exact proper.weighed entry hentry

/-- Every vote has the share of scores that are not negative, which lies between zero and one. -/
theorem share_mem_unit :
    ∀ vote ∈ service.ballot text deployment, 0 ≤ vote.share ∧ vote.share ≤ 1 := by
  intro vote hvote
  obtain ⟨analyzer, scores, hanswer, -, share⟩ := exists_of_mem_votes hvote
  rw [share]
  exact Service.share_mem_unit (proper.nonneg (analyzer, scores) (mem_reached_iff.mpr hanswer))

/-- The count by which the service sees that all analyzers have failed. -/
theorem allFailed_iff :
    (!(service.lost text deployment).isEmpty && decide ((service.lost text deployment).length
        = (deployment.registry.configs.map (·.2)).length)) = true
      ↔ service.AllFailed text deployment := by
  have perm := reached_append_outages_perm (·.name) proper.only
  rw [proper.map_name_answers] at perm
  have length := perm.length_eq
  simp only [List.length_append, List.length_map, Registry.names, Entries.keys] at length
  -- There are as many failures as analyzers if and only if no analyzer was reached.
  rw [AllFailed, lost, ← all_failed_iff perm proper.registered.distinct, Bool.and_eq_true,
    Bool.not_eq_true', List.isEmpty_eq_false_iff, decide_eq_true_eq, List.length_map,
    ← List.length_eq_zero_iff, List.length_map]
  refine and_congr_right fun _ => ?_
  omega

/-- The verdict on a text, before it is logged. -/
theorem outcome_judge :
    (service.AllFailed text deployment → ((service.judge (.text text)).outcome deployment).1
        = .error (.allAnalyzersFailed "classify" (service.lost text deployment)))
      ∧ (¬ service.AllFailed text deployment → ((service.judge (.text text)).outcome deployment).1
        = .ok (verdictOf service.config.spamThreshold.value (service.ballot text deployment)
          (service.lost text deployment).keys)) := by
  have tallied : (service.consultAll (.text text) Tally.start
      (deployment.registry.configs.map (·.2))).outcome deployment
      = (.ok (Tally.start.addAll service.config.spamCategory (service.answers text deployment)),
        (service.ask (.text text) (deployment.registry.configs.map (·.2)) deployment).2) :=
    outcome_consultAll proper.named _ _ _ proper.only proper.nonneg
  have failed : (Tally.start.addAll service.config.spamCategory
      (service.answers text deployment)).failed = service.lost text deployment := List.nil_append _
  rw [judge, Act.outcome_bind_ok (Act.outcome_get _)]
  dsimp only
  rw [Act.outcome_bind_ok tallied, failed]
  -- The service compares counts of names where the statement speaks of names.
  constructor
  · intro all
    rw [if_pos (proper.allFailed_iff.mpr all)]
    rfl
  · intro some
    rw [if_neg (mt proper.allFailed_iff.mp some)]
    exact congrArg (Except.mapError Error.ofArithmetic)
      (verdict_addAll service.config.spamThreshold.value proper.weight_pos)

/-- Classification ends as the judgement does. -/
theorem outcome_classify (resourceId : Value) {state : State σ ℝ}
    (same : state.deployment = deployment) :
    ((service.classify (.text text) resourceId).outcome state).1
      = ((service.judge (.text text)).outcome deployment).1 := by
  subst same
  cases judged : (service.judge (.text text)).outcome state.deployment with
  | mk result after =>
  have onState : (onDeployment (service.judge (.text text))).outcome state
      = (result, { state with deployment := after }) := by
    rw [onDeployment, Act.outcome_zoom, judged]
  rw [classify]
  -- An error passes, and a verdict is logged, which does not fail.
  cases result with
  | error e => rw [Act.outcome_bind_error onState]
  | ok verdict =>
    obtain ⟨entry, logged⟩ := entryOf_text proper.guesser text resourceId verdict
    rw [Act.outcome_bind_ok onState, logged]
    rfl

/-- What comes of a classification. -/
theorem classify_eq (resourceId : Value) {state : State σ ℝ} (same : state.deployment = deployment) :
    (service.AllFailed text deployment →
      ((service.classify (.text text) resourceId).outcome state).1
        = .error (.allAnalyzersFailed "classify" (service.lost text deployment)))
      ∧ (¬ service.AllFailed text deployment →
        ((service.classify (.text text) resourceId).outcome state).1
          = .ok (verdictOf service.config.spamThreshold.value (service.ballot text deployment)
            (service.lost text deployment).keys)) := by
  rw [proper.outcome_classify resourceId same]
  exact proper.outcome_judge

/-- Who has voted has not failed. -/
theorem not_allFailed_of_ballot (some : service.ballot text deployment ≠ []) :
    ¬ service.AllFailed text deployment := by
  rintro ⟨-, all⟩
  obtain ⟨vote, hvote⟩ := List.exists_mem_of_ne_nil _ some
  -- Its analyzer would be among the outages as well.
  have voted := List.mem_map_of_mem (f := Vote.analyzer) hvote
  have distinct := proper.perm.nodup_iff.mpr proper.registered.distinct
  rw [List.append_assoc] at distinct
  have named := proper.perm.mem_iff.mp (List.mem_append_right _ voted)
  exact (List.nodup_append.mp distinct).2.2 _ (all _ named) _ (List.mem_append_right _ voted) rfl

end Proper

/-! ### A panel

Analyzers whose scores are fixed beforehand, so that a verdict on any text can be told. -/

/-- An analyzer that scores all texts alike. -/
structure Panelist where
  name : String
  weight : Int
  /-- The scores of spam and ham; none if the store is unavailable. -/
  opinion : Option (ℝ × ℝ)

namespace Panelist

variable (panelist : Panelist)

/-- The configuration of a panelist. The strategy goes by the same name. -/
def config : AnalyzerConfig :=
  { name := panelist.name, strategy := panelist.name, adapter := "none", params := [],
    weight := .whole panelist.weight, options := [] }

/-- What a panelist says about a text. -/
def result : Except Error (Scores ℝ) :=
  match panelist.opinion with
  | some (spam, ham) => .ok [(.text "spam", spam), (.text "ham", ham)]
  | none => .error (.storeUnavailable (.stated panelist.name))

/-- The strategy of a panelist, which learns nothing. -/
def strategy : Strategy Unit ℝ where
  name := panelist.name
  categories := []
  train _ _ := pure ()
  untrain _ _ := pure ()
  classify _ := Act.ofExcept panelist.result
  survey := throw .lacking
  content := none
  reset := pure ()
  close := pure ()

end Panelist

/-- The service that asks a panel. -/
def ofPanel (panel : List Panelist) : Service Unit ℝ where
  config :=
    { spamThreshold := .whole 0, analyzers := panel.map Panelist.config, trainedModels := []
      spamDetectionService := .text "default", reportingUserEmail := .null
      spamCategory := .text "spam", hamCategory := .text "ham"
      logRawText := .switch false, detectLanguage := .switch false }
  factories :=
    { stores := [("none", fun _ => pure
        { id := 0, answer := fun _ => throw .lacking, close := pure (), content := fun _ => [] })]
      strategies := panel.map fun panelist => (panelist.name, fun _ _ _ _ => .ok panelist.strategy) }
  guess _ := .ok []

/-- A panel before it is asked. -/
def seated (panel : List Panelist) : State Unit ℝ where
  deployment :=
    { registry := ⟨panel.map fun panelist => (panelist.name, panelist.config), [], 0⟩, stores := () }
  log := []

/-- What a panel says. -/
def opinions (panel : List Panelist) : List Answer :=
  panel.map fun panelist => (panelist.config, panelist.result)

/-- A panel with distinct names, positive weights and scores that are not negative. -/
theorem proper_ofPanel {panel : List Panelist} {text : String}
    (asked : (ofPanel panel).answers text (seated panel).deployment = opinions panel)
    (distinct : (panel.map Panelist.name).Nodup)
    (fair : ∀ panelist ∈ panel, 0 < panelist.weight
      ∧ ∀ scores, panelist.opinion = some scores → 0 ≤ scores.1 ∧ 0 ≤ scores.2) :
    (ofPanel panel).Proper text (seated panel).deployment where
  registered := by
    refine ⟨?_, fun entry hentry => ?_, fun _ _ used => nomatch used⟩
    · rwa [Registry.names, seated, Entries.keys, List.map_map]
    · obtain ⟨panelist, -, rfl⟩ := List.mem_map.mp hentry
      rfl
  named := rfl
  weighed := by
    intro entry hentry
    obtain ⟨panelist, hpanelist, rfl⟩ := List.mem_map.mp hentry
    rw [Panelist.config, Number.value_whole]
    exact_mod_cast (fair panelist hpanelist).1
  guesser := by
    intro _ candidates guessed candidate hcandidate
    cases guessed
    cases hcandidate
  only := by
    rw [asked]
    -- An error among the opinions is that of a panelist who is away.
    intro analyzer e hanswer
    obtain ⟨⟨name, weight, opinion⟩, -, same⟩ := List.mem_map.mp hanswer
    cases opinion with
    | none =>
      cases same
      exact ⟨_, rfl⟩
    | some scores => cases same
  nonneg := by
    rw [asked]
    -- Scores among the opinions are the two of a panelist.
    rintro ⟨analyzer, scores⟩ hanswer entry hentry
    obtain ⟨⟨name, weight, opinion⟩, hpanelist, same⟩ := List.mem_map.mp (mem_reached_iff.mp hanswer)
    cases opinion with
    | none => cases same
    | some given =>
      cases same
      obtain ⟨spam, ham⟩ := (fair _ hpanelist).2 given rfl
      rcases List.mem_cons.mp hentry with rfl | hentry
      · exact spam
      · cases List.mem_singleton.mp hentry
        exact ham

/-- A panelist who finds three parts of spam to one of ham. -/
noncomputable def firm (weight : Int) (part : ℝ) : Panelist :=
  ⟨"firm", weight, some (3 * part, part)⟩

/-- A panelist who finds as much spam as ham. -/
noncomputable def torn (weight : Int) (part : ℝ) : Panelist := ⟨"torn", weight, some (part, part)⟩

/-- A panelist who finds nothing. -/
noncomputable def mute (weight : Int) : Panelist := ⟨"mute", weight, some (0, 0)⟩

/-- A panelist who cannot be asked. -/
def away (weight : Int) : Panelist := ⟨"away", weight, none⟩

/-- A panel. -/
noncomputable def bench : List Panelist := [firm 1 1, torn 3 1, mute 1, away 1]

/-- The panel without the panelist who cannot be asked, in another order, with twice the weights, and
with other scores of the same shares. -/
noncomputable def rearranged : List Panelist := [torn 6 3, mute 2, firm 2 5]

/-- The two panels have the same evidence: one is made of the other in four steps, one for each way
in which answers may differ. -/
theorem sameEvidence_rearranged : SameEvidence (opinions bench) (opinions rearranged) := by
  -- Without the one who is away, in another order, with twice the weights, and with other scores.
  have present : SameEvidence (opinions bench) (opinions [firm 1 1, torn 3 1, mute 1]) :=
    .drop (fun answer => answer.2.isOk) fun answer _ ⟨_, ok, _⟩ => by
      rw [ok]
      rfl
  have turned : SameEvidence (opinions [firm 1 1, torn 3 1, mute 1])
      (opinions [torn 3 1, mute 1, firm 1 1]) :=
    .reorder (List.perm_append_singleton _ _).symm
  have heavier : SameEvidence (opinions [torn 3 1, mute 1, firm 1 1])
      (opinions [torn 6 1, mute 2, firm 2 1]) := by
    refine .reweigh 2 two_pos ?_
    simp only [opinions, torn, mute, firm, List.map_cons, List.map_nil, List.forall₂_cons,
      Panelist.config, Panelist.result, Number.value_whole]
    norm_num
  have scaled : SameEvidence (opinions [torn 6 1, mute 2, firm 2 1]) (opinions rearranged) := by
    refine .rescale (.cons ⟨rfl, 3, by norm_num, ?_⟩
      (.cons ⟨rfl, 1, one_pos, ?_⟩ (.cons ⟨rfl, 5, by norm_num, ?_⟩ .nil)))
    · simp [torn, Panelist.result, rescale, Except.map]
    · simp [mute, Panelist.result, rescale, Except.map]
    · norm_num [firm, Panelist.result, rescale, Except.map]
  exact present.trans (turned.trans (heavier.trans scaled))

/-! ### The account -/

/-- The verdict on a text depends on the analyzers with evidence alone. Every analyzer has failed, was
silent or has voted; if all have failed, there is no verdict; otherwise the score is the mean of the
votes, or zero if there is none, and decides. Answers with the same evidence give the same score and the
same decision. -/
theorem classify_by_evidence {service : Service σ ℝ} {text : String} {state : State σ ℝ}
    (proper : service.Proper text state.deployment) (resourceId : Value) :
    let names := state.deployment.registry.names
    let failed := service.lost text state.deployment
    let votes := service.ballot text state.deployment
    let outcome := ((service.classify (.text text) resourceId).outcome state).1
    ((failed.keys ++ silent (service.answers text state.deployment)
        ++ votes.map Vote.analyzer).Perm names ∧ names.Nodup)
    ∧ ((∃ e, outcome = .error e) ↔ names ≠ [] ∧ ∀ name ∈ names, name ∈ failed.keys)
    ∧ (∀ e, outcome = .error e → e = .allAnalyzersFailed "classify" failed)
    ∧ (∀ verdict, outcome = .ok verdict →
      verdict.failedAnalyzers = failed.keys
      ∧ verdict.shares = votes.map (fun vote => (vote.analyzer, vote.share))
      ∧ (verdict.insufficient = true ↔ verdict.shares = [])
      ∧ (verdict.shares = [] → verdict.score = 0 ∧ verdict.spam = false)
      ∧ (verdict.shares ≠ [] →
        verdict.score = (votes.map fun vote => vote.weight * vote.share).sum
          / (votes.map Vote.weight).sum
        ∧ (∃ low ∈ verdict.shares, low.2 ≤ verdict.score)
        ∧ (∃ high ∈ verdict.shares, verdict.score ≤ high.2)
        ∧ (0 ≤ verdict.score ∧ verdict.score ≤ 1)
        ∧ (verdict.spam = true ↔ service.config.spamThreshold.value ≤ verdict.score)))
    ∧ (votes ≠ [] → ∀ (τ : Type) (other : Service τ ℝ) (text' : String) (state' : State τ ℝ)
      (resourceId' : Value), other.Proper text' state'.deployment →
      other.config.spamCategory = service.config.spamCategory →
      other.config.spamThreshold = service.config.spamThreshold →
      SameEvidence (service.answers text state.deployment) (other.answers text' state'.deployment) →
      ∃ verdict verdict', outcome = .ok verdict
        ∧ ((other.classify (.text text') resourceId').outcome state').1 = .ok verdict'
        ∧ verdict'.score = verdict.score ∧ verdict'.spam = verdict.spam
        ∧ verdict'.shares.Perm verdict.shares) := by
  intro names failed votes outcome
  obtain ⟨refused, decided⟩ := proper.classify_eq resourceId rfl
  refine ⟨⟨proper.perm, proper.registered.distinct⟩, ⟨?_, fun all => ⟨_, refused all⟩⟩, ?_, ?_, ?_⟩
  · rintro ⟨e, failure⟩
    by_contra some
    cases (decided some).symm.trans failure
  · intro e failure
    by_cases all : service.AllFailed text state.deployment
    · cases (refused all).symm.trans failure
      rfl
    · cases (decided all).symm.trans failure
  · intro verdict success
    by_cases all : service.AllFailed text state.deployment
    · cases (refused all).symm.trans success
    · cases (decided all).symm.trans success
      refine ⟨rfl, rfl, insufficient_verdictOf_iff, verdictOf_of_insufficient, fun shares => ?_⟩
      have voted := mt shares_verdictOf_eq_nil_iff.mpr shares
      obtain ⟨low, high⟩ := score_verdictOf_between proper.weight_pos voted
      exact ⟨rfl, low, high, score_verdictOf_mem_unit proper.weight_pos voted proper.share_mem_unit,
        spam_verdictOf_iff voted⟩
  · intro voted τ other text' state' resourceId' proper' category threshold same
    obtain ⟨factor, pos, perm⟩ := same.votes_perm service.config.spamCategory
    -- There are votes in the second run as well, so it ends in a verdict too.
    have voted' : other.ballot text' state'.deployment ≠ [] := by
      rw [ballot, category]
      intro none
      rw [none] at perm
      exact voted (List.map_eq_nil_iff.mp perm.eq_nil)
    refine ⟨_, _, decided (proper.not_allFailed_of_ballot voted),
      (proper'.classify_eq resourceId' rfl).2 (proper'.not_allFailed_of_ballot voted'), ?_⟩
    rw [threshold, ballot, ballot, category]
    exact verdictOf_perm pos perm _

/-- Rearranging a panel changes neither its score nor its decision. -/
theorem classify_by_evidence_panel :
    ∃ verdict verdict',
      (((ofPanel bench).classify (.text "cheap pills") .null).outcome (seated bench)).1 = .ok verdict
      ∧ (((ofPanel rearranged).classify (.text "cheap pills") .null).outcome (seated rearranged)).1
        = .ok verdict'
      ∧ verdict.failedAnalyzers = ["away"]
      ∧ (verdict.score = 9 / 16 ∧ verdict.spam = true)
      ∧ (verdict'.score = 9 / 16 ∧ verdict'.spam = true) := by
  have proper : (ofPanel bench).Proper "cheap pills" (seated bench).deployment :=
    proper_ofPanel rfl (by decide) (by simp [bench, firm, torn, mute, away])
  have proper' : (ofPanel rearranged).Proper "cheap pills" (seated rearranged).deployment :=
    proper_ofPanel rfl (by decide) (by simp [rearranged, firm, torn, mute])
  have asked : (ofPanel bench).ballot "cheap pills" (seated bench).deployment
      = votes (.text "spam") (opinions bench) := rfl
  -- The panelist without scores and the one who is away have no vote.
  have ballot : votes (.text "spam") (opinions bench)
      = [⟨"firm", 1, 3 / 4⟩, ⟨"torn", 3, 1 / 2⟩] := by
    simp [bench, opinions, firm, torn, mute, away, votes, vote?, Panelist.result, Panelist.config,
      IsBlank, share, total, Value.Map.get?, Value.same, Number.value_whole]
    norm_num
  rw [← asked] at ballot
  obtain ⟨-, -, -, told, agree⟩ := classify_by_evidence proper .null
  obtain ⟨verdict, verdict', ok, ok', score, spam, -⟩ := agree (by simp [ballot]) Unit
    (ofPanel rearranged) "cheap pills" (seated rearranged) .null proper' rfl rfl
    sameEvidence_rearranged
  obtain ⟨failed, shares, -, -, decided⟩ := told verdict ok
  obtain ⟨mean, -, -, -, threshold⟩ := decided (by simp [shares, ballot])
  rw [ballot] at mean
  have value : verdict.score = 9 / 16 := by
    rw [mean]
    norm_num
  have isSpam : verdict.spam = true := by
    rw [threshold, value, ofPanel, Number.value_whole]
    norm_num
  exact ⟨verdict, verdict', ok, ok', failed, ⟨value, isSpam⟩, score.trans value, spam.trans isSpam⟩

end Moderation.Service
