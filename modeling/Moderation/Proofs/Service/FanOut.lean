import Moderation.Proofs.Registry.Resolution
import Moderation.Proofs.Service.Round
import Moderation.Rehearsal.Stub

/-!
# `Moderation.Proofs.Service.FanOut`: what becomes of a training

A training resolves all analyzers, checks that those it has reached know the category, and teaches
them. Stores may be unavailable at any point of this. Here is what is left of it in every case.

* If a strategy does not know the category, the training is refused and nothing was taught: all that
  was done is to resolve (`outcome_teach_of_foreign`).
* Otherwise every strategy that was resolved has been taught once, and every analyzer is reported
  once, as a success or as a failure (`outcome_teach_of_known`).

`teach_accounts` puts this together and says which of the three outcomes there is.

Failures come from two rounds and end in one table. That no analyzer is in it twice, or is a success
as well, is a matter of counting: the second round is a round of what the first has reached
(`reached_append_outages_perm`).
-/

set_option autoImplicit false

namespace Moderation.Service

variable {σ α : Type}

/-- The round in which a training resolves the analyzers. -/
def resolution (factories : Registry.Factories σ α) (deployment : Deployment σ α) :
    List (String × Except Error (Instance σ α)) × Deployment σ α :=
  Act.round (Deployment.resolve factories) deployment.registry.names deployment

/-- The round in which a training teaches the strategies that it has reached. -/
def lessons (factories : Registry.Factories σ α) (operation : Operation) (category text : Value)
    (deployment : Deployment σ α) :
    List ((String × Instance σ α) × Except Error Unit) × Deployment σ α :=
  Act.round (teachOne operation category text) (reached (resolution factories deployment).1)
    (resolution factories deployment).2

/-- The analyzers that a training has taught. -/
def succeeded (factories : Registry.Factories σ α) (operation : Operation) (category text : Value)
    (deployment : Deployment σ α) : List String :=
  (reached (lessons factories operation category text deployment).1).map (·.1.1)

/-- The analyzers that a training has not reached, first those that could not be resolved. -/
def failed (factories : Registry.Factories σ α) (operation : Operation) (category text : Value)
    (deployment : Deployment σ α) : Entries String :=
  outages id (resolution factories deployment).1
    ++ outages (·.1) (lessons factories operation category text deployment).1

section

variable {factories : Registry.Factories σ α} {operation : Operation} {category text : Value}
  {deployment : Deployment σ α}

/-! ### The outcome -/

/-- Nobody rejects a category that all strategies know. -/
theorem rejecting_eq_nil_iff (category : Value) (resolved : List (String × Instance σ α)) :
    rejecting category resolved = []
      ↔ ∀ entry ∈ resolved, category.isAmong entry.2.strategy.categories = true := by
  simp [rejecting]

/-- A training starts with the resolution. -/
theorem outcome_resolution (only : OnlyOutages (resolution factories deployment).1) :
    (resolveAll factories deployment.registry.names).outcome deployment
      = (.ok (reached (resolution factories deployment).1,
          outages id (resolution factories deployment).1),
        (resolution factories deployment).2) :=
  outcome_resolveAll factories deployment.registry.names deployment only

/-- A training in a category that some strategy does not know is refused after the resolution. -/
theorem outcome_teach_of_foreign (only : OnlyOutages (resolution factories deployment).1)
    (showable : Value.requireShowable [category] = .ok ())
    (foreign : rejecting category (reached (resolution factories deployment).1) ≠ []) :
    (teach factories operation category text).outcome deployment
      = (.error (.invalid (.foreignCategory category
          (rejecting category (reached (resolution factories deployment).1)))),
        (resolution factories deployment).2) := by
  have refused : (!(rejecting category (reached (resolution factories deployment).1)).isEmpty)
      = true := by simpa using foreign
  rw [teach, Act.outcome_bind_ok (Act.outcome_get _), Act.outcome_bind_ok (outcome_resolution only),
    showable, Act.outcome_bind_ok (Act.outcome_ofExcept _ _)]
  dsimp only
  -- The check comes behind the resolution, so what that did to the stores is not undone.
  rw [if_pos refused]
  rfl

/-- A training in a category that all strategies know teaches those that were resolved. -/
theorem outcome_teach_of_known (only : OnlyOutages (resolution factories deployment).1)
    (showable : Value.requireShowable [category] = .ok ())
    (known : rejecting category (reached (resolution factories deployment).1) = [])
    (taught : OnlyOutages (lessons factories operation category text deployment).1) :
    (teach factories operation category text).outcome deployment
      = (if failed factories operation category text deployment ≠ []
            ∧ succeeded factories operation category text deployment = [] then
          .error (.allAnalyzersFailed operation.name
            (failed factories operation category text deployment))
        else .ok {
          operation
          category
          succeeded := succeeded factories operation category text deployment
          failed := failed factories operation category text deployment },
        (lessons factories operation category text deployment).2) := by
  have accepted : ¬(!(rejecting category (reached (resolution factories deployment).1)).isEmpty)
      = true := by simpa using known
  -- Both loops of a training are rounds, which never fail if all failures are outages.
  rw [teach, Act.outcome_bind_ok (Act.outcome_get _), Act.outcome_bind_ok (outcome_resolution only),
    showable, Act.outcome_bind_ok (Act.outcome_ofExcept _ _)]
  dsimp only
  rw [if_neg accepted, Act.outcome_bind_ok (outcome_teachEach operation category text _ _ taught)]
  show (if (!(failed factories operation category text deployment).isEmpty
    && (succeeded factories operation category text deployment).isEmpty) = true then _ else _ :
      Act (Deployment σ α) Report).outcome _ = _
  simp only [Bool.and_eq_true, Bool.not_eq_true', List.isEmpty_eq_false_iff, List.isEmpty_iff]
  split <;> rfl

/-! ### Who was taught -/

/-- The second round is one of the analyzers that the first has reached. -/
theorem map_lessons :
    (lessons factories operation category text deployment).1.map (·.1.1)
      = (reached (resolution factories deployment).1).map (id ·.1) := by
  have taught : (lessons factories operation category text deployment).1.map (·.1)
      = reached (resolution factories deployment).1 := Act.map_fst_round ..
  rw [← taught, List.map_map]
  rfl

/-- The first round asks all analyzers by their names. -/
theorem map_resolution :
    (resolution factories deployment).1.map (id ·.1) = deployment.registry.names :=
  Act.map_fst_round ..

/-- Every analyzer was taught or not. -/
theorem succeeded_append_failed_perm (only : OnlyOutages (resolution factories deployment).1)
    (taught : OnlyOutages (lessons factories operation category text deployment).1) :
    (succeeded factories operation category text deployment
        ++ (failed factories operation category text deployment).keys).Perm
      deployment.registry.names := by
  have first := reached_append_outages_perm id only
  have second := reached_append_outages_perm (·.1) taught
  rw [map_resolution] at first
  rw [map_lessons] at second
  refine List.Perm.trans ?_ first
  rw [failed, Entries.keys, List.map_append]
  -- The second round divides what the first has reached; its outages go to the others.
  refine List.Perm.trans ?_ (second.append_right _)
  rw [List.append_assoc]
  exact List.perm_append_comm.append_left _

/-- The analyzers that are reached keep the order in which they are registered. -/
theorem resolved_sublist :
    ((reached (resolution factories deployment).1).map (id ·.1)).Sublist
      deployment.registry.names := by
  rw [← map_resolution]
  exact reached_sublist id _

/-- Those of the reached analyzers that are taught keep their order as well. -/
theorem succeeded_sublist_resolved :
    (succeeded factories operation category text deployment).Sublist
      ((reached (resolution factories deployment).1).map (id ·.1)) := by
  rw [← map_lessons]
  exact reached_sublist (fun entry : String × Instance σ α => entry.1) _

/-- Every strategy that was resolved was taught once, and nothing else was done. -/
theorem lessons_snd :
    (lessons factories operation category text deployment).2
      = { (resolution factories deployment).2 with
          stores := (reached (resolution factories deployment).1).foldl
            (fun stores entry => ((operation.apply entry.2.strategy category text).outcome stores).2)
            (resolution factories deployment).2.stores } := by
  -- The start moves with each strategy that is taught, so it is generalised before the induction.
  have fold (resolved : List (String × Instance σ α)) (start : Deployment σ α) :
      resolved.foldl (fun d entry => ((teachOne operation category text entry).outcome d).2) start
        = { start with
            stores := resolved.foldl (fun stores entry =>
              ((operation.apply entry.2.strategy category text).outcome stores).2) start.stores } := by
    induction resolved generalizing start with
    | nil => rfl
    | cons entry rest ih => exact ih _
  rw [lessons, Act.round_snd, fold]

/-- A strategy was resolved for the analyzer whose configuration it was built from, and with the
stores only happened what happens when they are opened and closed. -/
theorem resolution_spec (factories : Registry.Factories σ α)
    (wellFormed : deployment.registry.WellFormed) :
    (∀ entry ∈ reached (resolution factories deployment).1, entry.2.config.name = entry.1)
      ∧ ∀ related, factories.Spares related →
        related deployment.stores (resolution factories deployment).2.stores := by
  have round := Act.round_induction (Deployment.resolve factories)
    (fun d => d.registry.WellFormed ∧ ∀ related, factories.Spares related →
      related deployment.stores d.stores)
    (fun name result => ∀ inst, result = .ok inst → inst.config.name = name) ?_
    deployment.registry.names deployment ⟨wellFormed, fun _ spares => spares.refl _⟩
  · refine ⟨fun entry hentry => ?_, round.2.2⟩
    exact round.1 _ (mem_reached_iff.mp hentry) entry.2 rfl
  · -- A step resolves one analyzer: the factories may only do to the stores what every relation
    -- that they spare allows.
    rintro name d ⟨wellFormed, spared⟩
    obtain ⟨given, after, opened⟩ := Deployment.resolve_spec factories name wellFormed
    exact ⟨given, after, fun related spares =>
      spares.trans (spared related spares) (opened related spares)⟩

end

/-! ### The account -/

/-- The three outcomes of a training that was not refused. -/
theorem result_cases {result : Except Error Report} (report : Report) (e : Error)
    (h : result = if report.failed ≠ [] ∧ report.succeeded = [] then .error e else .ok report) :
    (∀ other, result = .ok other → other = report)
      ∧ (∀ other, result = .error other → other = e)
      ∧ ((∃ other, result = .error other) ↔ report.failed ≠ [] ∧ report.succeeded = [])
      ∧ ((∃ other, result = .ok other ∧ other.isComplete = false)
        ↔ report.succeeded ≠ [] ∧ report.failed ≠ [])
      ∧ ((∃ other, result = .ok other ∧ other.isComplete = true) ↔ report.failed = []) := by
  -- An error means that there were failures only. A report is complete if there were none.
  by_cases none : report.failed ≠ [] ∧ report.succeeded = []
  · rw [if_pos none] at h
    subst h
    simp [none.1, none.2]
  · rw [if_neg none] at h
    subst h
    refine ⟨fun _ same => (Except.ok.inj same).symm, fun _ same => ?_, ?_, ?_, ?_⟩
    · cases same
    · simpa using none
    · simp only [Except.ok.injEq, exists_eq_left', Report.isComplete, List.isEmpty_eq_false_iff]
      exact ⟨fun lost => ⟨fun taught => none ⟨lost, taught⟩, lost⟩, fun both => both.2⟩
    · simp [Report.isComplete]

/-- What becomes of a training if all errors are outages. In a category that some resolved strategy
does not know, it is refused and nothing is taught. Otherwise every resolved strategy is taught once,
every analyzer has succeeded or failed, and the three outcomes are told apart by who has. -/
theorem teach_accounts (factories : Registry.Factories σ α) (operation : Operation)
    (category : String) (text : Value) {deployment : Deployment σ α}
    (wellFormed : deployment.registry.WellFormed)
    (only : OnlyOutages (resolution factories deployment).1) :
    let names := deployment.registry.names
    let resolved := reached (resolution factories deployment).1
    let outcome := (teach factories operation (.text category) text).outcome deployment
    ((∃ entry ∈ resolved, (Value.text category).isAmong entry.2.strategy.categories = false) →
      outcome = (.error (.invalid (.foreignCategory (.text category)
          (rejecting (.text category) resolved))), (resolution factories deployment).2)
      ∧ ∀ related, factories.Spares related → related deployment.stores outcome.2.stores)
    ∧ ((∀ entry ∈ resolved, (Value.text category).isAmong entry.2.strategy.categories = true) →
      OnlyOutages (lessons factories operation (.text category) text deployment).1 →
      let taught := succeeded factories operation (.text category) text deployment
      let lost := failed factories operation (.text category) text deployment
      ((∀ name, name ∈ names ↔ name ∈ taught ∨ name ∈ lost.keys) ∧ (taught ++ lost.keys).Nodup
        ∧ taught.Sublist names)
      ∧ ((resolved.map (·.1)).Nodup ∧ taught.Sublist (resolved.map (·.1))
        ∧ (∀ entry ∈ resolved, entry.2.config.name = entry.1)
        ∧ outcome.2 = { (resolution factories deployment).2 with
            stores := resolved.foldl (fun stores entry =>
              ((operation.apply entry.2.strategy (.text category) text).outcome stores).2)
              (resolution factories deployment).2.stores })
      ∧ (∀ report, outcome.1 = .ok report → report.succeeded = taught ∧ report.failed = lost)
      ∧ (∀ e, outcome.1 = .error e → e = .allAnalyzersFailed operation.name lost)
      ∧ ((∃ e, outcome.1 = .error e) ↔ names ≠ [] ∧ ∀ name ∈ names, name ∈ lost.keys)
      ∧ ((∃ report, outcome.1 = .ok report ∧ report.isComplete = false)
        ↔ taught ≠ [] ∧ lost ≠ [])
      ∧ ((∃ report, outcome.1 = .ok report ∧ report.isComplete = true) ↔ lost = [])) := by
  intro names resolved outcome
  have showable : Value.requireShowable [.text category] = .ok () := rfl
  obtain ⟨built, spared⟩ := resolution_spec factories wellFormed
  constructor
  · rintro ⟨entry, hentry, unknown⟩
    -- Somebody rejects the category, so the training is refused before the second round.
    have foreign : rejecting (.text category) resolved ≠ [] := by
      intro none
      rw [(rejecting_eq_nil_iff _ _).mp none entry hentry] at unknown
      cases unknown
    have refused : outcome = _ := outcome_teach_of_foreign only showable foreign
    refine ⟨refused, ?_⟩
    rw [refused]
    exact spared
  · intro known taughtOnly taught lost
    have perm := succeeded_append_failed_perm only taughtOnly
    have reported : outcome = _ := outcome_teach_of_known only showable
      ((rejecting_eq_nil_iff _ _).mpr known) taughtOnly
    -- First who is taught and who is lost, then what the training leaves, and then which of the
    -- three outcomes there is.
    refine ⟨⟨fun name => ?_, perm.nodup_iff.mpr wellFormed.distinct,
      succeeded_sublist_resolved.trans resolved_sublist⟩,
      ⟨wellFormed.distinct.sublist resolved_sublist, succeeded_sublist_resolved, built, ?_⟩, ?_⟩
    · rw [← perm.mem_iff, List.mem_append]
    · rw [reported]
      exact lessons_snd
    · obtain ⟨ok, error, all, partially, complete⟩ := result_cases
        { operation, category := .text category, succeeded := taught, failed := lost }
        (.allAnalyzersFailed operation.name lost) (congrArg Prod.fst reported)
      refine ⟨fun report h => ?_, error, ?_, partially, complete⟩
      · rw [ok report h]
        exact ⟨rfl, rfl⟩
      · rw [← all_failed_iff perm wellFormed.distinct]
        exact all

/-- Three analyzers of a rehearsal: one that works, one whose store refuses to open at first, and one
whose strategy cannot be reached. -/
def staged : List AnalyzerConfig :=
  let analyzer (name adapter : String) (params options : Value.Map Value) : AnalyzerConfig :=
    { name, strategy := "stub", adapter, params, weight := .whole 1, options }
  [analyzer "steady" "memory" [] [],
    analyzer "refused" "flaky" [(.text "connect_failures", .int 1)] [],
    analyzer "broken" "memory" [] [(.text "broken", .int 1)]]

/-- The three analyzers on an empty stage. -/
def onStage : Deployment Rehearsal.Stage Number where
  registry := { configs := staged.map fun config => (config.name, config), instances := [], built := 0 }
  stores := Rehearsal.Stage.empty

/-- A text is taught to the one analyzer that works, and the training is reported as partial. In a
category that no analyzer knows, it is taught to none. -/
theorem teach_accounts_onStage :
    let train (category : String) :=
      (teach Rehearsal.factories .train (.text category) (.text "cheap pills")).outcome onStage
    (∃ report, (train "spam").1 = .ok report ∧ report.isComplete = false)
      ∧ (train "spam").2.stores.lessons.length = 1
      ∧ (train "news").1
        = .error (.invalid (.foreignCategory (.text "news") ["steady", "broken"]))
      ∧ (train "news").2.stores.lessons.length = 0 := by
  intro train
  have wellFormed : onStage.registry.WellFormed :=
    Registry.wellFormed_ofConfigs (show Registry.ofConfigs staged = .ok onStage.registry from rfl)
  have only : OnlyOutages (resolution Rehearsal.factories onStage).1 := by decide +kernel
  have taught := (teach_accounts Rehearsal.factories .train "spam" (.text "cheap pills") wellFormed
    only).2 (by decide +kernel) (by decide +kernel)
  have refused := (teach_accounts Rehearsal.factories .train "news" (.text "cheap pills") wellFormed
    only).1 (by decide +kernel)
  -- The reports come from the general theorem; what the stores have been asked is counted on the
  -- stage.
  refine ⟨?_, by decide +kernel, ?_, by decide +kernel⟩
  · refine taught.2.2.2.2.2.1.mpr ⟨?_, ?_⟩ <;> decide +kernel
  · exact congrArg Prod.fst refused.1

end Moderation.Service
