import Moderation.Proofs.Bayes.Options
import Moderation.Proofs.Registry.Resolution
import Moderation.Proofs.Store.Custody

/-!
# `Moderation.Proofs.Registry.Leaks`: which stores a registry leaves open

The store of an analyzer is opened before its options are looked at. If they are told to be invalid,
the store is closed again. If they cannot be read at all, the resolution fails with the error of the
reading, and nobody has the store any more.

* `Construction` lists what building a strategy comes to, with what it enters in the book of the
  stores. `construction` says that there is nothing else.
* `Balanced` is the invariant of errands, made one after the other: a store that has been opened is
  that of a strategy in use, or has been left behind, or has been asked to close, and only one of them
  (`Balanced.outcome`, `Balanced.after`).
* `openStores_after`: what follows for every run. The stores left behind are those of the resolutions
  that failed with an error that is not the registry's, and `Mislays` is the exact condition for that.
-/

set_option autoImplicit false

namespace Moderation

open Registry Custody

/-- What a registry says it fails with: a faulty configuration, an unknown analyzer or a store that
cannot be reached. -/
def Error.isOfRegistry : Error → Bool
  | configuration _ | unknownAnalyzer _ | storeUnavailable _ => true
  | _ => false

/-- That a value cannot be read is none of the errors of a registry. -/
theorem Error.IsIllegible.isOfRegistry {e : Error} (h : e.IsIllegible) : e.isOfRegistry = false := by
  cases e <;> first | rfl | (rcases h with h | h <;> cases h)

/-- A value under a new name comes last. -/
theorem Entries.set_of_get?_none {β : Type} {entries : Entries β} {key : String} {value : β}
    (absent : entries.get? key = none) : entries.set key value = entries ++ [(key, value)] := by
  induction entries with
  | nil => rfl
  | cons head rest ih =>
    obtain ⟨k, v⟩ := head
    rw [Entries.get?_cons] at absent
    split at absent
    · cases absent
    · next different => rw [Entries.set, if_neg different, ih absent, List.cons_append]

/-! ### Errands -/

/-- A call of a registry. -/
inductive Errand where
  | register (config : AnalyzerConfig)
  | resolve (name : String)
  | close

section

variable {σ α : Type} (factories : Factories σ α)

/-- How a call ends, and what it leaves. -/
def Errand.outcome : Errand → Deployment σ α → Except Error Unit × Deployment σ α
  | register config, deployment => (Deployment.register config).outcome deployment
  | resolve name, deployment =>
    let (result, after) := (Deployment.resolve factories name).outcome deployment
    (result.map fun _ => (), after)
  | close, deployment => Deployment.close.outcome deployment

/-- What calls leave that are made one after the other. -/
def Deployment.after (errands : List Errand) (deployment : Deployment σ α) : Deployment σ α :=
  errands.foldl (fun deployment errand => (errand.outcome factories deployment).2) deployment

end

/-- Whether a call has failed with an error that is not the registry's. -/
def strayed {β : Type} : Except Error β → Bool
  | .ok _ => false
  | .error e => !e.isOfRegistry

namespace Deployment

variable {σ : Type}

/-- The stores of the strategies in use. -/
def held (deployment : Deployment σ Number) : List Nat :=
  deployment.registry.instances.map (·.2.store.id)

/-- The stores that were opened by calls that have failed with an error that is not the registry's. -/
def strays (factories : Factories (Custody σ) Number) :
    List Errand → Deployment (Custody σ) Number → List Nat
  | [], _ => []
  | errand :: rest, deployment =>
    let (result, after) := errand.outcome factories deployment
    (if strayed result then [deployment.stores.opened] else []) ++ strays factories rest after

/-! ### Building a strategy -/

variable (adapters : Adapters σ)

/-- A store can be opened for an analyzer, but its options cannot be read. -/
def Strands (state : σ) (config : AnalyzerConfig) : Prop :=
  config.strategy = "bayes" ∧ ∃ connect, adapters.lookup config.adapter = some connect
    ∧ (∃ store, ((connect config.params).outcome state).1 = .ok store)
    ∧ ¬ Bayes.LegibleOptions config.options.named

/-- What building a strategy comes to. -/
inductive Construction (config : AnalyzerConfig) (before : Deployment (Custody σ) Number) :
    Except Error (Instance (Custody σ) Number) → Deployment (Custody σ) Number → Prop where
  /-- No store is opened. -/
  | refused {e : Error} (ofRegistry : e.isOfRegistry = true)
      (spared : ¬ Strands adapters before.stores.stores config) (stores : σ) :
      Construction config before (.error e)
        { before with stores := { before.stores with stores } }
  /-- A store is opened, and its strategy taken into use. -/
  | adopted {store : Store (Custody σ)} {strategy : Strategy (Custody σ) Number}
      (number : store.id = before.stores.opened) (closes : Closes strategy.close store.id)
      (spared : ¬ Strands adapters before.stores.stores config) (stores : σ) :
      Construction config before (.ok (before.registry.adopt config store strategy).1)
        { registry := (before.registry.adopt config store strategy).2
          stores := { before.stores with stores, opened := before.stores.opened + 1 } }
  /-- A store is opened, and closed again as an option is invalid. -/
  | abandoned {e : Error} (ofRegistry : e.isOfRegistry = true)
      (spared : ¬ Strands adapters before.stores.stores config) (stores : σ) :
      Construction config before (.error e)
        { before with stores := {
            stores
            opened := before.stores.opened + 1
            closings := before.stores.closings ++ [before.stores.opened] } }
  /-- A store is opened, and an option cannot be read. -/
  | stranded {e : Error} (other : e.isOfRegistry = false)
      (strands : Strands adapters before.stores.stores config) (stores : σ) :
      Construction config before (.error e)
        { before with stores := { before.stores with stores, opened := before.stores.opened + 1 } }

variable {adapters}

/-- Building a strategy comes to one of four things, and the options tell which. -/
theorem construction (dependable : Dependable adapters) (config : AnalyzerConfig)
    (before : Deployment (Custody σ) Number) :
    Construction adapters config before
      ((run (construct (custodial adapters) config)).outcome before).1
      ((run (construct (custodial adapters) config)).outcome before).2 := by
  rw [construct, lookup_strategies_custodial, lookup_custodial]
  by_cases bayes : config.strategy = "bayes"
  swap
  · -- No other strategy is known, so no store is opened for one.
    rw [if_neg bayes]
    exact .refused rfl (fun strands => bayes strands.1) before.stores.stores
  rw [if_pos bayes]
  cases adapter : adapters.lookup config.adapter with
  | none =>
    refine .refused rfl (fun strands => ?_) before.stores.stores
    obtain ⟨-, connect, found, -⟩ := strands
    cases adapter.symm.trans found
  | some connect =>
    have strands_iff : Strands adapters before.stores.stores config
        ↔ (∃ store, ((connect config.params).outcome before.stores.stores).1 = .ok store)
          ∧ ¬ Bayes.LegibleOptions config.options.named := by
      simp [Strands, bayes, adapter]
    dsimp only [Option.map_some]
    rw [run_bind]
    obtain ⟨outage, stores, unopened, ran⟩ | ⟨store, stores, opens, number, closes, ran⟩ :=
      openBooked_cases dependable (Entries.mem_of_get? adapter) config.params before.stores
    · rw [Act.outcome_bind_error (outcome_run_openStore ran)]
      refine .refused rfl (fun strands => ?_) stores
      obtain ⟨⟨given, opened⟩, -⟩ := strands_iff.mp strands
      exact unopened given opened
    rw [Act.outcome_bind_ok (outcome_run_openStore ran)]
    have legible_iff : FailsAs Error.IsInvalid (makeBayes config.name store config.options.named
        config.params.named) ↔ Bayes.LegibleOptions config.options.named :=
      Bayes.failsAs_invalid_makeBayes_iff config.name store config.params.named
    have illegible := Bayes.failsAs_illegible_makeBayes config.name store config.options.named
      config.params.named
    have strands : Strands adapters before.stores.stores config
        ↔ ¬ FailsAs Error.IsInvalid (makeBayes config.name store config.options.named
          config.params.named) := by
      rw [strands_iff, legible_iff, and_iff_right opens]
    cases made : makeBayes config.name store config.options.named config.params.named with
    | ok strategy =>
      rw [made] at strands
      have closing : Closes strategy.close store.id := by
        rw [close_of_makeBayes made, number]
        exact closes
      exact .adopted number closing (fun h => strands.mp h (failsAs_ok strategy)) stores
    | error e =>
      rw [made] at strands illegible
      rw [failsAs_error_iff] at strands
      have other := ((failsAs_error_iff e).mp illegible).isOfRegistry
      cases e with
      | invalid fault =>
        -- The store is closed again, unless it cannot be reached any more.
        have spared : ¬ Strands adapters before.stores.stores config :=
          fun h => strands.mp h (isInvalid_invalid fault)
        obtain ⟨result, last, outage, closed⟩ :=
          closes { before.stores with stores, opened := before.stores.opened + 1 }
        dsimp only
        rw [run_bind, Act.outcome_bind_ok (outcome_run_close closed), run_bind]
        cases result with
        | ok _ => exact .abandoned rfl spared last
        | error e =>
          obtain ⟨gone, rfl⟩ := (failsAs_error_iff e).mp outage
          exact .abandoned rfl spared last
      -- Any other error goes through, and with it the only hold on the store.
      | _ =>
        refine .stranded other (strands.mpr ?_) stores
        rintro ⟨fault, same⟩
        cases same

/-- The options tell whether a store is opened in vain. -/
theorem Construction.strayed_iff {config : AnalyzerConfig} {before after : Deployment (Custody σ) Number}
    {result : Except Error (Instance (Custody σ) Number)}
    (constructed : Construction adapters config before result after) :
    strayed result = true ↔ Strands adapters before.stores.stores config := by
  cases constructed with
  | refused ofRegistry spared => simp [strayed, ofRegistry, spared]
  | adopted _ _ spared => simp [strayed, spared]
  | abandoned ofRegistry spared => simp [strayed, ofRegistry, spared]
  | stranded other strands => simp [strayed, other, strands]

/-! ### The balance -/

/-- Every store that has been opened is that of a strategy in use, or has been left behind, or has been
asked to close, and only one of them. Closing a strategy in use closes its store. -/
structure Balanced (deployment : Deployment (Custody σ) Number) (left : List Nat) : Prop where
  wellFormed : deployment.registry.WellFormed
  closes : ∀ entry ∈ deployment.registry.instances, Closes entry.2.strategy.close entry.2.store.id
  balance : (List.range deployment.stores.opened).Perm
    (deployment.held ++ left ++ deployment.stores.closings)

variable {deployment : Deployment (Custody σ) Number} {left : List Nat}

/-- Nothing has been opened yet. -/
theorem balanced_empty (stores : σ) : Balanced ⟨.empty, .blank stores⟩ [] where
  wellFormed := wellFormed_empty
  closes _ h := absurd h List.not_mem_nil
  balance := .refl _

/-- The stores that are open are those of the strategies in use, and those left behind. -/
theorem Balanced.openStores (h : Balanced deployment left) :
    deployment.stores.openStores.Perm (deployment.held ++ left) := openStores_perm h.balance

/-- Registering an analyzer opens and closes nothing. -/
theorem Balanced.register (h : Balanced deployment left) (config : AnalyzerConfig) :
    let registered := (Deployment.register config).outcome deployment
    strayed registered.1 = false ∧ Balanced registered.2 left := by
  rw [Deployment.register, Act.outcome_bind_ok (Act.outcome_get _)]
  -- A registration is refused if the strategy is in use. Stores are not asked in either case.
  cases registered : deployment.registry.register config with
  | error e =>
    rw [Registry.register] at registered
    split at registered
    · cases registered
      exact ⟨rfl, h⟩
    · cases registered
  | ok registry =>
    have wellFormed := h.wellFormed.register registered
    rw [Registry.register] at registered
    split at registered
    · cases registered
    · cases registered
      exact ⟨rfl, wellFormed, h.closes, h.balance⟩

/-- Building a strategy keeps the balance. What it leaves behind is the store that it has opened. -/
theorem Balanced.construct (h : Balanced deployment left) {config : AnalyzerConfig}
    (unused : deployment.registry.instances.get? config.name = none)
    {result : Except Error (Instance (Custody σ) Number)} {after : Deployment (Custody σ) Number}
    (constructed : Construction adapters config deployment result after) :
    Balanced after (left ++ if strayed result then [deployment.stores.opened] else []) := by
  have balance := h.balance
  -- In each case the number of the store that was opened, if one was, is put in one of the three
  -- places.
  cases constructed with
  | refused ofRegistry spared stores =>
    rw [strayed, ofRegistry, Bool.not_true, if_neg Bool.false_ne_true, List.append_nil]
    exact ⟨h.wellFormed, h.closes, balance⟩
  | @adopted store strategy number closes spared stores =>
    have grown : (deployment.registry.adopt config store strategy).2.instances
        = deployment.registry.instances
          ++ [(config.name, (deployment.registry.adopt config store strategy).1)] :=
      Entries.set_of_get?_none unused
    refine ⟨h.wellFormed.adopt config store strategy, fun entry hentry => ?_, ?_⟩
    · rw [grown] at hentry
      rcases List.mem_append.mp hentry with before | new
      · exact h.closes entry before
      · rw [List.mem_singleton.mp new]
        exact closes
    · rw [List.append_assoc] at balance
      rw [held, grown, List.map_append, strayed, if_neg Bool.false_ne_true, List.append_nil,
        List.append_assoc, List.append_assoc]
      show List.Perm _ (deployment.held ++ store.id :: (left ++ deployment.stores.closings))
      rw [number]
      exact perm_range_succ balance
  | abandoned ofRegistry spared stores =>
    rw [strayed, ofRegistry, Bool.not_true, if_neg Bool.false_ne_true, List.append_nil]
    refine ⟨h.wellFormed, h.closes, ?_⟩
    rw [← List.append_nil (_ ++ deployment.stores.closings)] at balance
    rw [← List.append_assoc]
    exact perm_range_succ balance
  | stranded other strands stores =>
    rw [strayed, other, Bool.not_false, if_pos rfl]
    refine ⟨h.wellFormed, h.closes, ?_⟩
    rw [← List.append_assoc, List.append_assoc _ [deployment.stores.opened]]
    exact perm_range_succ balance

/-- Resolving an analyzer keeps the balance. -/
theorem Balanced.resolve (dependable : Dependable adapters) (h : Balanced deployment left)
    (name : String) :
    let resolved := (Deployment.resolve (custodial adapters) name).outcome deployment
    Balanced resolved.2 (left ++ if strayed resolved.1 then [deployment.stores.opened] else []) := by
  rw [outcome_resolve]
  -- An unknown name and a strategy in use open no store.
  cases configured : deployment.registry.configs.get? name with
  | none => simpa [strayed, Error.isOfRegistry] using h
  | some config =>
    cases inUse : deployment.registry.instances.get? name with
    | some inst => simpa [strayed] using h
    | none =>
      have named : config.name = name := h.wellFormed.named _ (Entries.mem_of_get? configured)
      exact h.construct (named ▸ inUse) (construction dependable config deployment)

/-- Closing strategies asks their stores to close, one after the other. -/
theorem outcome_closeEach (insts : List (Instance (Custody σ) Number))
    (closes : ∀ inst ∈ insts, Closes inst.strategy.close inst.store.id)
    (deployment : Deployment (Custody σ) Number) :
    ∃ stores, (run (closeEach insts)).outcome deployment
      = (.ok (), { deployment with stores := { deployment.stores with
          stores
          closings := deployment.stores.closings ++ insts.map (·.store.id) } }) := by
  induction insts generalizing deployment with
  | nil =>
    refine ⟨deployment.stores.stores, ?_⟩
    rw [List.map_nil, List.append_nil]
    rfl
  | cons inst rest ih =>
    rw [List.forall_mem_cons] at closes
    obtain ⟨result, stores, outage, closed⟩ := closes.1 deployment.stores
    obtain ⟨last, ran⟩ := ih closes.2 { deployment with stores := { deployment.stores with
      stores, closings := deployment.stores.closings ++ [inst.store.id] } }
    refine ⟨last, ?_⟩
    rw [closeEach, run_bind, Act.outcome_bind_ok (outcome_run_close closed)]
    rw [List.append_assoc] at ran
    -- A store that cannot be reached is passed over, as its number has been noted.
    cases result with
    | ok _ => exact ran
    | error e =>
      obtain ⟨gone, rfl⟩ := (failsAs_error_iff e).mp outage
      exact ran

/-- Closing takes all strategies out of use, and asks their stores to close. -/
theorem outcome_close (closes : ∀ entry ∈ deployment.registry.instances,
      Closes entry.2.strategy.close entry.2.store.id) :
    ∃ stores, close.outcome deployment = (.ok (), {
      registry := deployment.registry.reset
      stores := { deployment.stores with
        stores, closings := deployment.stores.closings ++ deployment.held } }) := by
  obtain ⟨stores, closed⟩ := outcome_closeEach (deployment.registry.instances.map (·.2))
    (List.forall_mem_map.mpr closes) deployment
  refine ⟨stores, ?_⟩
  rw [close, closeAll, run_bind, Act.outcome_bind_ok (outcome_look deployment), run_bind,
    Act.outcome_bind_ok closed, List.map_map]
  rfl

/-- Closing the registry moves the stores of the strategies in use to those that were asked to
close, and strays nowhere. -/
theorem Balanced.close (h : Balanced deployment left) :
    let closed := Deployment.close.outcome deployment
    strayed closed.1 = false ∧ Balanced closed.2 left := by
  obtain ⟨stores, closed⟩ := outcome_close h.closes
  rw [closed]
  refine ⟨rfl, h.wellFormed.reset, fun _ h => absurd h List.not_mem_nil, h.balance.trans ?_⟩
  show List.Perm _ (left ++ (deployment.stores.closings ++ deployment.held))
  rw [← List.append_assoc, List.append_assoc]
  exact List.perm_append_comm

/-! ### Errands, one after the other -/

/-- The result of a resolution is dropped, its error is not. -/
theorem strayed_resolve (factories : Factories (Custody σ) Number) (name : String)
    (deployment : Deployment (Custody σ) Number) :
    strayed ((Errand.resolve name).outcome factories deployment).1
      = strayed ((Deployment.resolve factories name).outcome deployment).1 := by
  show strayed (((Deployment.resolve factories name).outcome deployment).1.map fun _ => ()) = _
  cases ((Deployment.resolve factories name).outcome deployment).1 <;> rfl

/-- A call keeps the balance, and leaves a store behind if it fails with an error that is not the
registry's. -/
theorem Balanced.outcome (dependable : Dependable adapters) (h : Balanced deployment left)
    (errand : Errand) :
    let ended := errand.outcome (custodial adapters) deployment
    Balanced ended.2 (left ++ if strayed ended.1 then [deployment.stores.opened] else []) := by
  -- Only a resolution can leave a store behind.
  cases errand with
  | register config =>
    obtain ⟨expected, kept⟩ := h.register config
    dsimp only [Errand.outcome]
    rw [expected]
    simpa using kept
  | resolve name =>
    dsimp only
    rw [strayed_resolve]
    exact h.resolve dependable name
  | close =>
    obtain ⟨expected, kept⟩ := h.close
    dsimp only [Errand.outcome]
    rw [expected]
    simpa using kept

/-- By induction on the calls, each of which may leave one store behind. -/
theorem Balanced.after (dependable : Dependable adapters) (h : Balanced deployment left)
    (errands : List Errand) :
    Balanced (deployment.after (custodial adapters) errands)
      (left ++ deployment.strays (custodial adapters) errands) := by
  induction errands generalizing deployment left with
  | nil => simpa [Deployment.after, strays] using h
  | cons errand rest ih =>
    have later := ih (h.outcome dependable errand)
    rwa [List.append_assoc] at later

/-- A resolution that is going to open a store in vain: a strategy has to be built for the name, a store
can be opened for it, and its options cannot be read. -/
def Mislays (adapters : Adapters σ) (deployment : Deployment (Custody σ) Number) (name : String) :
    Prop :=
  deployment.registry.instances.get? name = none
    ∧ ∃ config, deployment.registry.configs.get? name = some config
      ∧ Strands adapters deployment.stores.stores config

/-- A resolution fails with an error that is not the registry's if and only if it opens a store in
vain. Without a configuration or with a strategy in use, nothing is opened. -/
theorem strayed_resolve_iff (dependable : Dependable adapters) (name : String) :
    strayed ((Deployment.resolve (custodial adapters) name).outcome deployment).1 = true
      ↔ Mislays adapters deployment name := by
  rw [outcome_resolve, Mislays]
  cases configured : deployment.registry.configs.get? name with
  | none => simp [strayed, Error.isOfRegistry]
  | some config =>
    cases inUse : deployment.registry.instances.get? name with
    | some inst => simp [strayed]
    | none =>
      simpa using (construction dependable config deployment).strayed_iff

/-- After any calls, made one after the other, the stores that are open are those of the strategies in
use, one for each, and those left behind by the calls that failed with an error that is not the
registry's. So they are those in use if and only if there was no such call, and closing leaves open
what was left behind. Such a call is a resolution for which a store is opened in vain. -/
theorem openStores_after (dependable : Dependable adapters) (stores : σ) (errands : List Errand) :
    let start : Deployment (Custody σ) Number := ⟨.empty, .blank stores⟩
    let after := start.after (custodial adapters) errands
    let left := start.strays (custodial adapters) errands
    after.stores.openStores.Perm (after.held ++ left)
      ∧ (after.stores.openStores.Perm after.held ↔ left = [])
      ∧ (Deployment.close.outcome after).2.stores.openStores.Perm left
      ∧ ∀ name, strayed ((Deployment.resolve (custodial adapters) name).outcome after).1 = true
        ↔ Mislays adapters after name := by
  intro start after left
  have balanced : Balanced after left := (balanced_empty stores).after dependable errands
  have opened := balanced.openStores
  refine ⟨opened, ⟨fun same => ?_, fun none => ?_⟩, ?_, strayed_resolve_iff dependable⟩
  · -- If those in use are all that are open, there is no room for what was left behind.
    have length := (opened.symm.trans same).length_eq
    rw [List.length_append] at length
    exact List.length_eq_zero_iff.mp (by omega)
  · rwa [none, List.append_nil] at opened
  · obtain ⟨stores, closed⟩ := outcome_close balanced.closes
    have last := balanced.close.2.openStores
    rw [closed] at last ⊢
    exact last

/-- An analyzer whose smoothing is a list. -/
def listSmoothed : AnalyzerConfig where
  name := "f"
  strategy := "bayes"
  adapter := "memory"
  params := []
  weight := .whole 1
  options := [(.text "alpha", .list [])]

/-- It is registered and resolved, and the registry closed. -/
def lostErrands : List Errand := [.register listSmoothed, .resolve "f", .close]

/-- One store is left open by three calls: the smoothing cannot be read, and closing the registry
does not reach the store. -/
theorem openStores_after_lostErrands : Dependable shelved ∧
    let start : Deployment (Custody Store.Shelf) Number := ⟨.empty, .blank []⟩
    (start.after (custodial shelved) lostErrands).stores.openStores.Perm [0] :=
  ⟨dependable_shelved, (openStores_after dependable_shelved [] lostErrands).1⟩

/-- Nothing is in use any more, and the store is still open. -/
theorem not_perm_held_lostErrands : Dependable shelved ∧
    let start : Deployment (Custody Store.Shelf) Number := ⟨.empty, .blank []⟩
    let after := start.after (custodial shelved) lostErrands
    after.held = [] ∧ ¬ after.stores.openStores.Perm after.held := by
  refine ⟨dependable_shelved, rfl, ?_⟩
  show ¬ List.Perm [0] []
  decide

end Deployment

end Moderation
