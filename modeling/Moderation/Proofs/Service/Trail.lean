import Moderation.Proofs.Result
import Moderation.Proofs.Service.Frame
import Moderation.Proofs.Service.Judgement

/-!
# `Moderation.Proofs.Service.Trail`: the log as an audit trail

Between two looks at the log, texts may be learned, forgotten and classified, analyzers registered,
strategies taken out of use, and stores fail and come back (`Happening`). What has come of it is told
by the decisions, the verdicts that were returned (`Service.session`).

* `log_outcome` is the step: a happening adds an entry to the log if it was a classification with a
  verdict, and nothing otherwise.
* `exists_log_session` is the run: the log grows by one entry for each decision, in their order.
* What a single entry says is a matter of the tally behind it. An analyzer is counted or has failed,
  and not both (`Tally.Apart`), over any numbers. Over the reals the weight of a tally is zero if and
  only if nothing was counted (`Tally.Weighed`), so the score is compared with the threshold if and
  only if there are shares.

`log_session` puts this together.
-/

set_option autoImplicit false

namespace Moderation.Service

open Arithmetic

variable {σ α : Type}

/-! ### Sessions -/

/-- What may happen to a service. -/
inductive Happening (σ : Type) where
  | train (category text : Value)
  | untrain (category text : Value)
  | classify (text resourceId : Value)
  | register (config : AnalyzerConfig)
  | close
  | reset
  /-- The stores change by themselves. -/
  | stores (change : σ → σ)

/-- A classification with a verdict. -/
structure Decision (α : Type) where
  text : Value
  resourceId : Value
  verdict : Verdict α

/-- Changes the deployment and tells nothing. -/
def upkeep {β : Type} (act : Act (Deployment σ α) β) (state : State σ α) :
    Option (Decision α) × State σ α :=
  (none, ((onDeployment act).outcome state).2)

section

variable [Scoring α] (service : Service σ α)

/-- What a happening leaves, and the decision if it was a classification with a verdict. -/
def Happening.outcome : Happening σ → State σ α → Option (Decision α) × State σ α
  | train category text, state => (none, ((service.train category text).outcome state).2)
  | untrain category text, state => (none, ((service.untrain category text).outcome state).2)
  | classify text resourceId, state =>
    let (result, after) := (service.classify text resourceId).outcome state
    (result.toOption.map fun verdict => ⟨text, resourceId, verdict⟩, after)
  | register config, state => upkeep (Deployment.register config) state
  | close, state => upkeep Deployment.close state
  | reset, state => upkeep Deployment.reset state
  | stores change, state => upkeep (Deployment.onStores (modify change)) state

/-- The decisions of a session, and what it leaves. -/
def session : List (Happening σ) → State σ α → List (Decision α) × State σ α
  | [], state => ([], state)
  | happening :: rest, state =>
    let (decision, after) := happening.outcome service state
    let (decisions, final) := session rest after
    (decision.toList ++ decisions, final)

end

/-- What an entry of the log says about a decision. -/
structure Records (service : Service σ α) (decision : Decision α) (entry : LogEntry α) : Prop where
  resourceId : entry.resourceId = decision.resourceId
  scores : entry.scores = decision.verdict.shares
  score : entry.score = decision.verdict.score
  spam : entry.spam = decision.verdict.spam
  threshold : entry.threshold = decision.verdict.threshold
  failedAnalyzers : entry.failedAnalyzers = decision.verdict.failedAnalyzers
  text : entry.text = if service.config.logRawText.isSet then some decision.text else none
  fingerprint : decision.text.toText.map Fingerprint.ofText = .ok entry.fingerprint

/-- An entry that is made for a decision records it. It cannot be made if the text or its language
cannot be told. -/
theorem records_entryOf {service : Service σ α} {decision : Decision α} {entry : LogEntry α}
    (h : service.entryOf decision.text decision.resourceId decision.verdict = .ok entry) :
    service.Records decision entry := by
  -- The entry is made after two looks that may fail, and there is none if either does.
  rw [entryOf] at h
  cases written : decision.text.toText with
  | error e =>
    rw [written] at h
    cases h
  | ok text =>
    rw [written] at h
    cases spoken : service.languageOf decision.text with
    | error e =>
      rw [spoken] at h
      cases h
    | ok language =>
      rw [spoken] at h
      cases h
      exact ⟨rfl, rfl, rfl, rfl, rfl, rfl, rfl, by rw [written]; rfl⟩

/-- What decisions make sure of whatever is recorded about them holds of all entries. -/
theorem forall_recorded {service : Service σ α} {decisions : List (Decision α)}
    {entries : List (LogEntry α)} (recorded : List.Forall₂ service.Records decisions entries)
    {holds : LogEntry α → Prop}
    (told : ∀ decision ∈ decisions, ∀ entry, service.Records decision entry → holds entry) :
    ∀ entry ∈ entries, holds entry := by
  induction recorded with
  | nil => exact fun _ h => absurd h List.not_mem_nil
  | cons first _ ih =>
    rw [List.forall_mem_cons] at told ⊢
    exact ⟨told.1 _ first, ih told.2⟩

/-! ### The log of a session -/

section

variable [Scoring α] (service : Service σ α)

/-- A classification returns the verdict of a judgement and logs it, or fails and leaves the log. -/
theorem classify_cases (text resourceId : Value) (state : State σ α) :
    let judged := (service.judge text).outcome state.deployment
    (∃ e, (service.classify text resourceId).outcome state
        = (.error e, { state with deployment := judged.2 }))
      ∨ ∃ verdict entry, judged.1 = .ok verdict
        ∧ service.entryOf text resourceId verdict = .ok entry
        ∧ (service.classify text resourceId).outcome state
          = (.ok verdict, { deployment := judged.2, log := state.log ++ [entry] }) := by
  intro judged
  have onState : (onDeployment (service.judge text)).outcome state
      = (judged.1, { state with deployment := judged.2 }) := Act.outcome_zoom ..
  rw [classify]
  -- Two things may fail: the judgement, and the entry for the log.
  cases result : judged.1 with
  | error e =>
    rw [result] at onState
    exact Or.inl ⟨e, Act.outcome_bind_error onState⟩
  | ok verdict =>
    rw [result] at onState
    rw [Act.outcome_bind_ok onState]
    cases written : service.entryOf text resourceId verdict with
    | error e => exact Or.inl ⟨e, rfl⟩
    | ok entry => exact Or.inr ⟨verdict, entry, rfl, written, rfl⟩

/-- A happening adds an entry to the log for its decision, if there is one. -/
theorem log_outcome (happening : Happening σ) (state : State σ α) :
    ∃ entries, (happening.outcome service state).2.log = state.log ++ entries
      ∧ List.Forall₂ service.Records (happening.outcome service state).1.toList entries := by
  cases happening with
  | classify text resourceId =>
    rw [Happening.outcome]
    obtain ⟨e, failed⟩ | ⟨verdict, entry, -, written, decided⟩ :=
      service.classify_cases text resourceId state
    · -- A classification that ends in an error writes no entry, and makes no decision.
      rw [failed]
      exact ⟨[], (List.append_nil _).symm, .nil⟩
    · rw [decided]
      have recorded : service.Records ⟨text, resourceId, verdict⟩ entry := records_entryOf written
      exact ⟨[entry], rfl, .cons recorded .nil⟩
  | _ => exact ⟨[], (List.append_nil _).symm, .nil⟩

/-- The log grows by one entry for each decision, in their order. -/
theorem exists_log_session (happenings : List (Happening σ)) (state : State σ α) :
    ∃ entries, (service.session happenings state).2.log = state.log ++ entries
      ∧ List.Forall₂ service.Records (service.session happenings state).1 entries := by
  -- The rest of a session starts from the state that the first happening has left.
  induction happenings generalizing state with
  | nil => exact ⟨[], (List.append_nil _).symm, .nil⟩
  | cons happening rest ih =>
    obtain ⟨first, grown, recorded⟩ := log_outcome service happening state
    obtain ⟨later, grown', recorded'⟩ := ih (happening.outcome service state).2
    refine ⟨first ++ later, ?_, List.rel_append recorded recorded'⟩
    rw [session, grown', grown, List.append_assoc]

end

/-! ### The tally behind a decision -/

section

variable [Scoring α] {service : Service σ α}

/-- What is kept while analyzers are asked holds of the last tally. -/
theorem consultAll_induction {text : Value} (holds : Tally α → List AnalyzerConfig → Prop)
    (silent : ∀ tally analyzer rest, holds tally (analyzer :: rest) → holds tally rest)
    (failed : ∀ tally analyzer rest reason, holds tally (analyzer :: rest) →
      holds (tally.fail analyzer.name reason) rest)
    (counted : ∀ tally analyzer rest share next, holds tally (analyzer :: rest) →
      tally.add analyzer.name (Scoring.ofNumber analyzer.weight) share = .ok next →
      holds next rest)
    (analyzers : List AnalyzerConfig) (tally : Tally α) (start : holds tally analyzers)
    (deployment : Deployment σ α) {final : Tally α}
    (ended : ((service.consultAll text tally analyzers).outcome deployment).1 = .ok final) :
    holds final [] := by
  -- The tally and the deployment change with each analyzer.
  induction analyzers generalizing tally deployment with
  | nil =>
    cases ended
    exact start
  | cons analyzer rest ih =>
    rw [consultAll] at ended
    obtain ⟨answer, after, -, ended⟩ := Act.ok_of_bind ended
    -- An analyzer fails, is silent or is counted, and each of these keeps what holds.
    cases answer with
    | error reason => exact ih _ (failed _ _ _ _ start) _ ended
    | ok scores =>
      obtain ⟨share, after, -, ended⟩ := Act.ok_of_bind ended
      cases share with
      | none => exact ih _ (silent _ _ _ start) _ ended
      | some share =>
        obtain ⟨next, after, sum, ended⟩ := Act.ok_of_bind ended
        have added : tally.add analyzer.name (Scoring.ofNumber analyzer.weight) share = .ok next :=
          ok_of_mapError (congrArg Prod.fst sum)
        exact ih _ (counted _ _ _ _ _ start added) _ ended

/-- A verdict is that of the tally of all analyzers. -/
theorem ok_of_judge {text : Value} {deployment : Deployment σ α} {verdict : Verdict α}
    (judged : ((service.judge text).outcome deployment).1 = .ok verdict) :
    ∃ tally, ((service.consultAll text Tally.start (deployment.analyzers.map (·.2))).outcome
        deployment).1 = .ok tally
      ∧ tally.verdict (Scoring.ofNumber service.config.spamThreshold) = .ok verdict := by
  obtain ⟨_, _, same, judged⟩ := Act.ok_of_bind judged
  cases same
  obtain ⟨tally, after, tallied, judged⟩ := Act.ok_of_bind judged
  refine ⟨tally, congrArg Prod.fst tallied, ?_⟩
  -- If all analyzers have failed, there is no verdict.
  split at judged
  · cases judged
  · exact ok_of_mapError judged

end

section

variable [Arithmetic α]

/-- Adding to a tally shows the share, if no sum overflows, and leaves the failures. -/
theorem Tally.ok_of_add {tally next : Tally α} {analyzer : String} {weight share : α}
    (h : tally.add analyzer weight share = .ok next) :
    next.shares = tally.shares ++ [(analyzer, share)] ∧ next.failed = tally.failed := by
  rw [Tally.add] at h
  obtain ⟨product, -, h⟩ := ok_of_bind h
  obtain ⟨weighted, -, h⟩ := ok_of_bind h
  obtain ⟨weight, -, h⟩ := ok_of_bind h
  cases h
  exact ⟨rfl, rfl⟩

/-- What a tally says it says in its verdict. The text is spam if something was counted and the
score reaches the threshold. -/
theorem Tally.ok_of_verdict {tally : Tally α} {threshold : α} {verdict : Verdict α}
    (h : tally.verdict threshold = .ok verdict) :
    verdict.shares = tally.shares ∧ verdict.failedAnalyzers = tally.failed.keys
      ∧ verdict.threshold = threshold
      ∧ verdict.spam = (!isEqual tally.weight (ofInt 0) && atMost threshold verdict.score) := by
  rw [Tally.verdict] at h
  -- The score is zero or a quotient, and then all goes on alike.
  split at h <;>
  · obtain ⟨score, -, h⟩ := ok_of_bind h
    cases h
    exact ⟨rfl, rfl, rfl, rfl⟩

end

/-! ### Who is in a tally -/

namespace Tally

/-- The analyzers that were counted, those that failed and those that are still to be asked are all
different. -/
def Apart (tally : Tally α) (analyzers : List AnalyzerConfig) : Prop :=
  (tally.shares.map (·.1) ++ tally.failed.keys ++ analyzers.map AnalyzerConfig.name).Nodup

/-- An analyzer without evidence can be left out. -/
theorem Apart.silent {tally : Tally α} {analyzer : AnalyzerConfig} {rest : List AnalyzerConfig}
    (h : tally.Apart (analyzer :: rest)) : tally.Apart rest :=
  h.sublist ((List.sublist_cons_self _ _).append_left _)

/-- An analyzer that fails moves from those to be asked to those that failed. -/
theorem Apart.fail {tally : Tally α} {analyzer : AnalyzerConfig} {rest : List AnalyzerConfig}
    (h : tally.Apart (analyzer :: rest)) (reason : String) :
    (tally.fail analyzer.name reason).Apart rest := by
  rw [Apart, List.map_cons] at h
  simpa [Apart, Tally.fail, Entries.keys] using h

/-- An analyzer that is counted moves from those to be asked to those with a share. -/
theorem Apart.add [Arithmetic α] {tally next : Tally α} {analyzer : AnalyzerConfig}
    {rest : List AnalyzerConfig} {weight share : α} (h : tally.Apart (analyzer :: rest))
    (added : tally.add analyzer.name weight share = .ok next) : next.Apart rest := by
  obtain ⟨shares, failed⟩ := ok_of_add added
  rw [Apart, shares, failed]
  refine (List.Perm.nodup_iff ?_).mp h
  simp only [List.map_append, List.map_cons, List.map_nil, List.append_assoc]
  exact List.Perm.append_left _ List.perm_middle

/-- Over the reals, the weight of a tally is positive if something was counted, and zero otherwise. -/
def Weighed (tally : Tally ℝ) : Prop :=
  tally.shares = [] ∧ tally.weight = 0 ∨ tally.shares ≠ [] ∧ 0 < tally.weight

/-- A vote of positive weight makes the weight of a tally positive. -/
theorem Weighed.count {tally : Tally ℝ} {vote : Vote} (h : tally.Weighed) (pos : 0 < vote.weight) :
    (tally.count vote).Weighed := by
  refine Or.inr ⟨List.append_ne_nil_of_right_ne_nil _ (List.cons_ne_nil _ _), ?_⟩
  show 0 < tally.weight + vote.weight
  rcases h with ⟨-, weight⟩ | ⟨-, weight⟩ <;> linarith

end Tally

/-! ### The decisions of a session -/

/-- Analyzers with different names, each registered under its own, all of them `good`. -/
structure Enrolled (good : AnalyzerConfig → Prop) (analyzers : Entries AnalyzerConfig) : Prop where
  distinct : analyzers.keys.Nodup
  named : ∀ entry ∈ analyzers, entry.2.name = entry.1
  good : ∀ entry ∈ analyzers, good entry.2

section

variable {good : AnalyzerConfig → Prop}

/-- Registering a good analyzer under its name leaves all analyzers good and different, whether it
is refused, new or in the place of another one. -/
theorem Enrolled.register {deployment : Deployment σ α} (h : Enrolled good deployment.analyzers)
    {config : AnalyzerConfig} (fine : good config) :
    Enrolled good ((Deployment.register config).outcome deployment).2.analyzers := by
  -- An analyzer whose strategy is in use is not replaced.
  by_cases inUse : deployment.registry.isResolved config.name = true
  · have refused : (Deployment.register config).outcome deployment
        = (.error (.configuration (.analyzerInUse config.name)), deployment) := by
      rw [Deployment.register, Act.outcome_bind_ok (Act.outcome_get _), Registry.register,
        if_pos inUse]
      rfl
    rw [refused]
    exact h
  · have registered : ((Deployment.register config).outcome deployment).2.analyzers
        = deployment.analyzers.set config.name config := by
      rw [Deployment.register, Act.outcome_bind_ok (Act.outcome_get _), Registry.register,
        if_neg inUse]
      rfl
    rw [registered]
    refine ⟨Entries.nodup_keys_set _ _ _ h.distinct, fun entry hentry => ?_, fun entry hentry => ?_⟩
    · rcases Entries.mem_set hentry with rfl | hentry
      · rfl
      · exact h.named entry hentry
    · rcases Entries.mem_set hentry with rfl | hentry
      · exact fine
      · exact h.good entry hentry

variable [Scoring α] {service : Service σ α}

/-- Nothing that may happen enrolls an analyzer except registering it. -/
theorem Enrolled.outcome {happening : Happening σ} {state : State σ α}
    (h : Enrolled good state.deployment.analyzers)
    (registers : ∀ config, happening = .register config → good config) :
    Enrolled good (happening.outcome service state).2.deployment.analyzers := by
  -- Trainings, classifications and closings leave the configurations as they are.
  cases happening with
  | train category text =>
    have left := leaves_analyzers_teach service.factories .train category text state.deployment
    exact left ▸ h
  | untrain category text =>
    have left := leaves_analyzers_teach service.factories .untrain category text state.deployment
    exact left ▸ h
  | classify text resourceId =>
    have left := service.leaves_analyzers_judge text state.deployment
    rw [Happening.outcome]
    obtain ⟨e, failed⟩ | ⟨verdict, entry, -, -, decided⟩ :=
      service.classify_cases text resourceId state
    · rw [failed]
      exact left ▸ h
    · rw [decided]
      exact left ▸ h
  | register config => exact h.register (registers config rfl)
  | close => exact (Deployment.leaves_analyzers_run Registry.closeAll state.deployment) ▸ h
  | reset => exact h
  | stores change => exact h

/-- What all judgements ensure holds of all decisions of a session. -/
theorem forall_decisions (service : Service σ α) {holds : Verdict α → Prop}
    (judged : ∀ text (deployment : Deployment σ α) verdict, Enrolled good deployment.analyzers →
      ((service.judge text).outcome deployment).1 = .ok verdict → holds verdict)
    (happenings : List (Happening σ)) {state : State σ α}
    (enrolled : Enrolled good state.deployment.analyzers)
    (registers : ∀ config, .register config ∈ happenings → good config) :
    ∀ decision ∈ (service.session happenings state).1, holds decision.verdict := by
  induction happenings generalizing state with
  | nil => exact fun _ h => absurd h List.not_mem_nil
  | cons happening rest ih =>
    intro decision hdecision
    rw [session] at hdecision
    rcases List.mem_append.mp hdecision with first | later
    · -- Only a classification makes a decision.
      cases happening with
      | classify text resourceId =>
        rw [Happening.outcome] at first
        obtain ⟨e, failed⟩ | ⟨verdict, entry, ok, -, decided⟩ :=
          service.classify_cases text resourceId state
        · rw [failed] at first
          cases first
        · rw [decided] at first
          cases List.mem_singleton.mp first
          exact judged text state.deployment verdict enrolled ok
      | _ => cases first
    · refine ih (enrolled.outcome fun config same => registers config ?_) (fun config hconfig =>
        registers config (List.mem_cons_of_mem _ hconfig)) decision later
      exact same ▸ List.mem_cons_self

/-- No analyzer has a share in a verdict and has failed. -/
theorem apart_of_judge {text : Value} {deployment : Deployment σ α} {verdict : Verdict α}
    (enrolled : Enrolled good deployment.analyzers)
    (judged : ((service.judge text).outcome deployment).1 = .ok verdict) :
    ∀ share ∈ verdict.shares, share.1 ∉ verdict.failedAnalyzers := by
  obtain ⟨tally, tallied, closed⟩ := ok_of_judge judged
  obtain ⟨shares, failed, -, -⟩ := Tally.ok_of_verdict closed
  -- Before the first analyzer is asked, all of them are still to be asked.
  have start : (Tally.start : Tally α).Apart (deployment.analyzers.map (·.2)) := by
    have names : (deployment.analyzers.map (·.2)).map AnalyzerConfig.name
        = deployment.analyzers.keys := by
      rw [List.map_map]
      exact List.map_congr_left fun entry hentry => enrolled.named entry hentry
    show ((deployment.analyzers.map (·.2)).map AnalyzerConfig.name).Nodup
    rw [names]
    exact enrolled.distinct
  have apart : tally.Apart [] := consultAll_induction Tally.Apart (fun _ _ _ h => h.silent)
    (fun _ _ _ reason h => h.fail reason) (fun _ _ _ _ _ h added => h.add added) _ _ start _ tallied
  rw [Tally.Apart, List.map_nil, List.append_nil] at apart
  intro share hshare lost
  rw [shares] at hshare
  rw [failed] at lost
  exact (List.nodup_append.mp apart).2.2 _ (List.mem_map_of_mem hshare) _ lost rfl

end

/-- Over the reals and with positive weights, a text is spam if there are shares and the score reaches
the threshold. -/
theorem spam_of_judge {service : Service σ ℝ} {text : Value} {deployment : Deployment σ ℝ}
    {verdict : Verdict ℝ}
    (enrolled : Enrolled (fun config => 0 < config.weight.value) deployment.analyzers)
    (judged : ((service.judge text).outcome deployment).1 = .ok verdict) :
    verdict.spam = true ↔ verdict.shares ≠ [] ∧ verdict.threshold ≤ verdict.score := by
  obtain ⟨tally, tallied, closed⟩ := ok_of_judge judged
  obtain ⟨shares, -, threshold, spam⟩ := Tally.ok_of_verdict closed
  have pos : ∀ config ∈ deployment.analyzers.map (·.2), 0 < config.weight.value := by
    intro config hconfig
    obtain ⟨entry, hentry, rfl⟩ := List.mem_map.mp hconfig
    exact enrolled.good entry hentry
  -- The weights still to be counted are part of what is kept, as each vote needs its own to be
  -- positive.
  have weighed : tally.Weighed ∧ ∀ config ∈ ([] : List AnalyzerConfig), 0 < config.weight.value := by
    refine consultAll_induction
      (fun tally configs => tally.Weighed ∧ ∀ config ∈ configs, 0 < config.weight.value)
      (fun _ _ _ h => ⟨h.1, fun config hconfig => h.2 config (List.mem_cons_of_mem _ hconfig)⟩)
      (fun _ _ _ _ h => ⟨h.1, fun config hconfig => h.2 config (List.mem_cons_of_mem _ hconfig)⟩)
      ?_ _ _ ⟨Or.inl ⟨rfl, rfl⟩, pos⟩ _ tallied
    intro tally analyzer rest share next h added
    rw [Tally.add_real] at added
    cases added
    have weight : 0 < (⟨analyzer.name, analyzer.weight.value, share⟩ : Vote).weight :=
      h.2 analyzer List.mem_cons_self
    exact ⟨h.1.count weight, fun config hconfig => h.2 config (List.mem_cons_of_mem _ hconfig)⟩
  -- So a tally without weight is one without shares.
  rw [spam, shares, threshold, Bool.and_eq_true, Bool.not_eq_true', isEqual, atMost_real, atMost_real,
    atMost_real, decide_eq_true_iff]
  refine and_congr_left fun _ => ?_
  rcases weighed.1 with ⟨none, weight⟩ | ⟨some, weight⟩
  · simp [none, weight, ofInt_real]
  · simp [some, ofInt_real, weight]

/-! ### The account -/

/-- After any session, the log is the log before it and one entry for each classification with a
verdict, in their order, which says what was decided. In no new entry an analyzer has a share and has
failed. Over the reals and with positive weights, a new entry says that the text is spam if and only
if it has shares and the score reaches the threshold. -/
theorem log_session (σ : Type) :
    (∀ (α : Type) [Scoring α] (service : Service σ α) (happenings : List (Happening σ))
      (state : State σ α), state.deployment.registry.WellFormed →
      ∃ entries, (service.session happenings state).2.log = state.log ++ entries
        ∧ List.Forall₂ service.Records (service.session happenings state).1 entries
        ∧ ∀ entry ∈ entries, ∀ share ∈ entry.scores, share.1 ∉ entry.failedAnalyzers)
    ∧ ∀ (service : Service σ ℝ) (happenings : List (Happening σ)) (state : State σ ℝ),
      state.deployment.registry.WellFormed →
      (∀ entry ∈ state.deployment.registry.configs, 0 < entry.2.weight.value) →
      (∀ config, .register config ∈ happenings → 0 < config.weight.value) →
      ∃ entries, (service.session happenings state).2.log = state.log ++ entries
        ∧ ∀ entry ∈ entries,
          (entry.spam = true ↔ entry.scores ≠ [] ∧ entry.threshold ≤ entry.score) := by
  constructor
  · -- What is said of all verdicts holds of all entries, as each entry records one.
    intro α _ service happenings state wellFormed
    have enrolled : Enrolled (fun _ => True) state.deployment.analyzers :=
      ⟨wellFormed.distinct, wellFormed.named, fun _ _ => trivial⟩
    obtain ⟨entries, grown, recorded⟩ := exists_log_session service happenings state
    have apart := forall_decisions service (fun _ _ _ h judged => apart_of_judge h judged)
      happenings enrolled fun _ _ => trivial
    refine ⟨entries, grown, recorded, forall_recorded recorded fun decision hdecision entry told => ?_⟩
    rw [told.scores, told.failedAnalyzers]
    exact apart decision hdecision
  · intro service happenings state wellFormed weighed registers
    have enrolled : Enrolled (fun config => 0 < config.weight.value) state.deployment.analyzers :=
      ⟨wellFormed.distinct, wellFormed.named, weighed⟩
    obtain ⟨entries, grown, recorded⟩ := exists_log_session service happenings state
    have spam := forall_decisions service (fun _ _ _ h judged => spam_of_judge h judged)
      happenings enrolled registers
    refine ⟨entries, grown, forall_recorded recorded fun decision hdecision entry told => ?_⟩
    rw [told.spam, told.scores, told.threshold, told.score]
    exact spam decision hdecision

/-- Two analyzers, one of which cannot be asked. -/
noncomputable def pair : List Panelist := [firm 1 1, away 1]

/-- Of the pair, only the analyzer that can be reached votes. -/
theorem ballot_pair : (ofPanel pair).ballot "cheap pills" (seated pair).deployment
    = [⟨"firm", 1, 3 / 4⟩] := by
  have asked : (ofPanel pair).ballot "cheap pills" (seated pair).deployment
      = votes (.text "spam") (opinions pair) := rfl
  rw [asked]
  simp [pair, opinions, firm, away, votes, vote?, Panelist.result, Panelist.config, IsBlank, share,
    total, Value.Map.get?, Value.same, Number.value_whole]
  norm_num

/-- A text is classified and then taught in a category that no analyzer knows: the log has one entry,
which says that the text is spam and that an analyzer has failed. -/
theorem log_session_pair :
    let happenings := [.classify (.text "cheap pills") (.text "7"),
      .train (.text "spam") (.text "cheap pills")]
    ∃ entry, ((ofPanel pair).session happenings (seated pair)).2.log = [entry]
      ∧ entry.resourceId = .text "7" ∧ entry.text = none ∧ entry.failedAnalyzers = ["away"]
      ∧ entry.score = 3 / 4 ∧ entry.spam = true := by
  intro happenings
  have proper : (ofPanel pair).Proper "cheap pills" (seated pair).deployment :=
    proper_ofPanel rfl (by decide) (by simp [pair, firm, away])
  have voted : (ofPanel pair).ballot "cheap pills" (seated pair).deployment ≠ [] := by
    simp [ballot_pair]
  have judged := (proper.classify_eq (.text "7") rfl).2 (proper.not_allFailed_of_ballot voted)
  rw [ballot_pair] at judged
  have decided : ((ofPanel pair).session happenings (seated pair)).1 = [⟨.text "cheap pills",
      .text "7", verdictOf (Number.whole 0).value [⟨"firm", 1, 3 / 4⟩] ["away"]⟩] := by
    show ((((ofPanel pair).classify (.text "cheap pills") (.text "7")).outcome
      (seated pair)).1.toOption.map fun verdict => Decision.mk _ _ verdict).toList ++ [] = _
    rw [judged]
    rfl
  -- There is one decision, so there is one entry, and both parts speak of it.
  obtain ⟨entries, grown, recorded, -⟩ := (log_session Unit).1 ℝ (ofPanel pair) happenings
    (seated pair) proper.registered
  obtain ⟨entries', grown', spam⟩ := (log_session Unit).2 (ofPanel pair) happenings
    (seated pair) proper.registered proper.weighed (by simp [happenings])
  rw [decided] at recorded
  obtain ⟨entry, rest, told, alone, rfl⟩ := List.forall₂_cons_left_iff.mp recorded
  obtain rfl := List.forall₂_nil_left_iff.mp alone
  obtain rfl := List.append_cancel_left (grown.symm.trans grown')
  refine ⟨entry, grown, told.resourceId, told.text, told.failedAnalyzers, ?_, ?_⟩
  · rw [told.score]
    simp [verdictOf, mean, weightedShares, totalWeight]
  · rw [spam entry (List.mem_singleton.mpr rfl), told.scores, told.score, told.threshold]
    norm_num [verdictOf, mean, weightedShares, totalWeight, Number.value_whole]

end Moderation.Service
