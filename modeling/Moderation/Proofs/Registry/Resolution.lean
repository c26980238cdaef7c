import Mathlib.Data.List.Nodup
import Moderation.Proofs.Entries
import Moderation.Registry.Deployment

/-!
# `Moderation.Proofs.Registry.Resolution`: what resolving an analyzer does

A registry keeps analyzers and strategies under the names of their configurations
(`Registry.WellFormed`). Registering, taking a strategy into use and starting over keep it so.

Resolving an analyzer finds its strategy in use (`Deployment.outcome_resolve`), or builds it and
takes it into use, or fails and leaves the registry as it was (`Deployment.construct_cases`). What
happens to the stores is left to those who open and close them (`Factories.Spares`).
`Deployment.resolve_spec` is what others need to know of it.
-/

set_option autoImplicit false

namespace Moderation

variable {σ α β γ : Type}

/-! ### Entries under the names of their values -/

namespace Registry

/-- Analyzers, and strategies in use, go by the names of their configurations. -/
structure WellFormed (registry : Registry σ α) : Prop where
  distinct : registry.names.Nodup
  named : ∀ entry ∈ registry.configs, entry.2.name = entry.1
  inUse : ∀ name inst, registry.instances.get? name = some inst → inst.config.name = name

/-- A registry without analyzers is well-formed. -/
theorem wellFormed_empty : (empty : Registry σ α).WellFormed where
  distinct := List.nodup_nil
  named _ h := absurd h List.not_mem_nil
  inUse _ _ h := nomatch h

variable {registry registry' : Registry σ α}

/-- Registering puts an analyzer under its own name, so the registry stays well-formed. -/
theorem WellFormed.register (h : registry.WellFormed) {config : AnalyzerConfig}
    (registered : Registry.register config registry = .ok registry') : registry'.WellFormed := by
  rw [Registry.register] at registered
  split at registered
  · cases registered
  · cases registered
    refine ⟨Entries.nodup_keys_set _ _ _ h.distinct, fun entry hentry => ?_, h.inUse⟩
    rcases Entries.mem_set hentry with rfl | hentry
    · rfl
    · exact h.named entry hentry

/-- Registering several analyzers keeps a registry well-formed, if none of them is refused. -/
theorem WellFormed.registerAll (h : registry.WellFormed) {configs : List AnalyzerConfig}
    (made : configs.foldlM (fun registry config => Registry.register config registry) registry
      = .ok registry') : registry'.WellFormed := by
  induction configs generalizing registry with
  | nil =>
    cases made
    exact h
  | cons config configs ih =>
    rw [List.foldlM_cons] at made
    -- The first refusal ends the loop.
    cases registered : Registry.register config registry with
    | error e =>
      rw [registered] at made
      cases made
    | ok next =>
      rw [registered] at made
      exact ih (h.register registered) made

/-- The registry of any configurations is well-formed. -/
theorem wellFormed_ofConfigs {configs : List AnalyzerConfig}
    (made : ofConfigs configs = .ok registry) : registry.WellFormed :=
  wellFormed_empty.registerAll made

/-- Taking a strategy into use puts it under the name of its configuration. -/
theorem WellFormed.adopt (h : registry.WellFormed) (config : AnalyzerConfig) (store : Store σ)
    (strategy : Strategy σ α) : (registry.adopt config store strategy).2.WellFormed where
  distinct := h.distinct
  named := h.named
  inUse name inst hinst := by
    rw [Registry.adopt, Entries.get?_set] at hinst
    split at hinst
    · next same =>
      cases hinst
      exact same
    · exact h.inUse name inst hinst

/-- Starting over leaves the analyzers, and nothing in use. -/
theorem WellFormed.reset (h : registry.WellFormed) : registry.reset.WellFormed where
  distinct := h.distinct
  named := h.named
  inUse _ _ hinst := nomatch hinst

/-- What opening stores may do to the state, and closing a store that was just opened. -/
structure Factories.Spares (factories : Factories σ α) (related : σ → σ → Prop) : Prop where
  refl : ∀ state, related state state
  trans : ∀ {first second third}, related first second → related second third →
    related first third
  opening : ∀ entry ∈ factories.stores, ∀ params state,
    related state ((entry.2 params).outcome state).2
  closing : ∀ entry ∈ factories.stores, ∀ params state store,
    ((entry.2 params).outcome state).1 = .ok store →
    ∀ later, related later (store.close.outcome later).2

end Registry

/-! ### Programs that run alone -/

namespace Deployment

open Registry

variable {deployment : Deployment σ α}

/-- A program that runs alone runs its parts one after the other. -/
theorem run_bind (program : Registry.Program σ α β) (f : β → Registry.Program σ α γ) :
    run (program >>= f) = run program >>= fun x => run (f x) :=
  Dialogue.run_except_bind answerAlone program f

/-- A program that runs alone finds the lock free. -/
theorem run_exclusively (name : String) (program : Registry.Program σ α β) :
    run (Registry.Program.exclusively name program) = run program := by
  show ExceptT.mk (Dialogue.run answerAlone
    (ExceptT.run program >>= fun result => .ask (.unlock name) fun _ => .done result)) = _
  exact congrArg ExceptT.mk (Dialogue.run_bind_ask _ _ rfl)

/-- A program that looks at the registry finds it as it is. -/
theorem outcome_look (deployment : Deployment σ α) :
    (run Program.look).outcome deployment = (.ok deployment.registry, deployment) := rfl

/-- A result that is there already is given at once, and nothing moves. -/
theorem outcome_run_ofExcept (result : Except Error β) (deployment : Deployment σ α) :
    (run (Registry.Program.ofExcept result)).outcome deployment = (result, deployment) := rfl

/-- Resolving an analyzer looks for its strategy, and builds it if there is none. -/
theorem outcome_resolve (factories : Factories σ α) (name : String) (deployment : Deployment σ α) :
    (resolve factories name).outcome deployment =
      match deployment.registry.configs.get? name, deployment.registry.instances.get? name with
      | none, _ => (.error (.unknownAnalyzer (.text name)), deployment)
      | some _, some inst => (.ok inst, deployment)
      | some config, none => (run (construct factories config)).outcome deployment := by
  rw [resolve, Registry.resolve, run_bind, Act.outcome_bind_ok (outcome_look deployment), run_bind]
  -- The strategy is looked up twice, before the lock and inside it. Nobody else acts in between.
  cases configured : deployment.registry.configs.get? name with
  | none =>
    have unknown := outcome_run_ofExcept (deployment.registry.config? name) deployment
    rw [config?, configured] at unknown
    rw [config?, configured, Act.outcome_bind_error unknown]
  | some config =>
    have known := outcome_run_ofExcept (deployment.registry.config? name) deployment
    rw [config?, configured] at known
    rw [config?, configured, Act.outcome_bind_ok known]
    cases inUse : deployment.registry.instances.get? name with
    | some inst => rfl
    | none =>
      dsimp only
      rw [run_exclusively, run_bind, Act.outcome_bind_ok (outcome_look deployment), inUse]

/-- Opening a store moves the state of the stores as the factory does. -/
theorem outcome_run_openStore {factory : Act σ (Store σ)} {result : Except Error (Store σ)}
    {stores : σ} (h : factory.outcome deployment.stores = (result, stores)) :
    (run (Program.openStore factory)).outcome deployment
      = (result, { deployment with stores }) := by
  have opened : (run (Program.openStore factory)).outcome deployment
      = ((factory.outcome deployment.stores).1,
        { deployment with stores := (factory.outcome deployment.stores).2 }) := rfl
  rw [opened, h]

/-- Closing a store moves the state of the stores as the closing does, whether or not it succeeds.
-/
theorem outcome_run_close {closing : Act σ Unit} {result : Except Error Unit} {stores : σ}
    (h : closing.outcome deployment.stores = (result, stores)) :
    (run (Program.step (Step.close closing))).outcome deployment
      = (.ok result, { deployment with stores }) := by
  have closed : (run (Program.step (Step.close closing))).outcome deployment
      = (.ok (closing.outcome deployment.stores).1,
        { deployment with stores := (closing.outcome deployment.stores).2 }) := rfl
  rw [closed, h]

/-- Building a strategy ends in an error and leaves the registry as it was, or takes the strategy
into use. -/
theorem construct_cases (factories : Factories σ α) (config : AnalyzerConfig)
    (deployment : Deployment σ α) :
    ∃ stores, (∀ related, factories.Spares related → related deployment.stores stores)
      ∧ ((∃ e, (run (construct factories config)).outcome deployment
            = (.error e, { deployment with stores }))
        ∨ ∃ store strategy, (run (construct factories config)).outcome deployment
            = (.ok (deployment.registry.adopt config store strategy).1,
              { registry := (deployment.registry.adopt config store strategy).2, stores })) := by
  have unchanged : ∀ related, factories.Spares related →
      related deployment.stores deployment.stores := fun _ spares => spares.refl _
  rw [construct]
  cases factories.strategies.lookup config.strategy with
  | none => exact ⟨_, unchanged, Or.inl ⟨_, rfl⟩⟩
  | some makeStrategy =>
    cases adapter : factories.stores.lookup config.adapter with
    | none => exact ⟨_, unchanged, Or.inl ⟨_, rfl⟩⟩
    | some openStore =>
      have listed := Entries.mem_of_get? adapter
      dsimp only
      rw [run_bind]
      cases opened : (openStore config.params).outcome deployment.stores with
      | mk result stores =>
      have opening : ∀ related, factories.Spares related → related deployment.stores stores := by
        intro related spares
        have := spares.opening _ listed config.params deployment.stores
        rwa [opened] at this
      have ran := outcome_run_openStore (α := α) opened
      cases result with
      | error e => exact ⟨stores, opening, Or.inl ⟨e, Act.outcome_bind_error ran⟩⟩
      | ok store =>
        rw [Act.outcome_bind_ok ran]
        cases makeStrategy config.name store config.options.named config.params.named with
        | ok strategy => exact ⟨stores, opening, Or.inr ⟨store, strategy, rfl⟩⟩
        | error e =>
          cases e with
          | invalid fault =>
            -- The store is closed again, which may fail in its turn.
            cases closed : store.close.outcome stores with
            | mk result after =>
            have closing : ∀ related, factories.Spares related →
                related deployment.stores after := by
              intro related spares
              have := spares.closing _ listed config.params deployment.stores store (by rw [opened])
                stores
              rw [closed] at this
              exact spares.trans (opening related spares) this
            dsimp only
            rw [run_bind, Act.outcome_bind_ok (outcome_run_close closed), run_bind]
            cases result with
            | ok _ => exact ⟨after, closing, Or.inl ⟨_, rfl⟩⟩
            | error e => exact ⟨after, closing, Or.inl ⟨e, rfl⟩⟩
          | _ => exact ⟨stores, opening, Or.inl ⟨_, rfl⟩⟩

/-- Resolving an analyzer gives the strategy of its configuration, or fails. The registry stays
well-formed, and with the stores only happens what happens when they are opened and closed. -/
theorem resolve_spec (factories : Factories σ α) (name : String)
    (wellFormed : deployment.registry.WellFormed) :
    (∀ inst, ((resolve factories name).outcome deployment).1 = .ok inst → inst.config.name = name)
      ∧ ((resolve factories name).outcome deployment).2.registry.WellFormed
      ∧ ∀ related, factories.Spares related →
        related deployment.stores ((resolve factories name).outcome deployment).2.stores := by
  rw [outcome_resolve]
  -- The name is unknown, in use, or in need of a strategy.
  cases configured : deployment.registry.configs.get? name with
  | none =>
    refine ⟨fun inst h => ?_, wellFormed, fun _ spares => spares.refl _⟩
    cases h
  | some config =>
    cases inUse : deployment.registry.instances.get? name with
    | some inst =>
      refine ⟨fun other h => ?_, wellFormed, fun _ spares => spares.refl _⟩
      cases h
      exact wellFormed.inUse name inst inUse
    | none =>
      dsimp only
      obtain ⟨stores, spared, ⟨e, failed⟩ | ⟨store, strategy, built⟩⟩ :=
        construct_cases factories config deployment
      · rw [failed]
        refine ⟨fun inst h => ?_, wellFormed, spared⟩
        cases h
      · rw [built]
        refine ⟨fun inst h => ?_, wellFormed.adopt config store strategy, spared⟩
        cases h
        exact wellFormed.named _ (Entries.mem_of_get? configured)

end Deployment

end Moderation
