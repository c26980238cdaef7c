import Moderation.Proofs.Registry.Progress
import Moderation.Proofs.Registry.Resolution
import Moderation.Proofs.Store.Custody

/-!
# `Moderation.Proofs.Registry.Intents`: which stores a call is going to close

A construction whose strategy could not be made closes the store that it has opened, and a call to close
closes the strategies that were in use when it was made. Both wait for the stores to be closed, so others
may come in between.

* `Intends` says how far a call has come, and which stores it is still going to ask to close.
* `Deed` is what a call does in one go, from one wait to the next, to the book of the stores and to the
  strategies in use. `Intends.turn` says that a call does one of these deeds at its turn.
* What a deed keeps is read off its four cases: `Deed.closings`, `Deed.intents`, `Deed.owed`,
  `Deed.inUse`.
-/

set_option autoImplicit false

namespace Moderation.Registry

open Dialogue Custody

variable {σ : Type} {adapters : Adapters σ}

/-! ### What a call is going to close -/

/-- How far a call has come, and the numbers of the stores that it is still going to ask to close. -/
inductive Intends (adapters : Adapters σ) : Call → Task (Custody σ) Number → List Nat → Prop where
  /-- It wants to build a strategy, and waits for the lock. -/
  | queued {name : String} {config : AnalyzerConfig} :
      Intends adapters (.resolve name)
        (.ask (.lock name) fun _ => inside (custodial adapters) name config) []
  /-- It builds a strategy, and waits for the store. -/
  | opening {name : String} {config : AnalyzerConfig}
      {adapter : String × ((params : Value.Map Value) → Act σ (Store σ))}
      (listed : adapter ∈ adapters) (params : Value.Map Value) :
      Intends adapters (.resolve name)
        (.ask (.openStore (openBooked (adapter.2 params))) fun reply =>
          opened makeBayes config reply >>= releasing name) []
  /-- It could not make a strategy, and waits for the store to be closed. -/
  | abandoning {name : String} {config : AnalyzerConfig} {fault : InvalidValue}
      {act : Act (Custody σ) Unit} {id : Nat} (closes : Closes act id) :
      Intends adapters (.resolve name)
        (.ask (.close act) fun reply => releasing name (abandoned config fault reply)) [id]
  /-- It closes strategies, one after the other. -/
  | closing {inst : Instance (Custody σ) Number} {rest : List (Instance (Custody σ) Number)}
      (closes : ∀ other ∈ inst :: rest, Closes other.strategy.close other.store.id) :
      Intends adapters .close (.ask (.close inst.strategy.close) (closed rest))
        ((inst :: rest).map (·.store.id))
  | over {call : Call} {result : Result (Custody σ) Number} :
      Intends adapters call (.done result) []

/-- What a call does to the strategies in use and to the book in one go, by the stores that it is going
to ask to close before and after that. -/
inductive Deed (before : Desk (Custody σ) Number) :
    List Nat → Desk (Custody σ) Number → List Nat → Prop where
  | nothing {after : Desk (Custody σ) Number}
      (instances : after.registry.instances = before.registry.instances)
      (opened : after.stores.opened = before.stores.opened)
      (closings : after.stores.closings = before.stores.closings) : Deed before [] after []
  /-- A store is opened, and is perhaps to be closed again. -/
  | opens {after : Desk (Custody σ) Number} {ids : List Nat}
      (back : ∀ id ∈ ids, id = before.stores.opened)
      (instances : after.registry.instances = before.registry.instances)
      (opened : after.stores.opened = before.stores.opened + 1)
      (closings : after.stores.closings = before.stores.closings) : Deed before [] after ids
  /-- A store is opened, and its strategy taken into use. -/
  | adopts {name : String} {inst : Instance (Custody σ) Number} {after : Desk (Custody σ) Number}
      (number : inst.store.id = before.stores.opened)
      (closes : Closes inst.strategy.close inst.store.id)
      (instances : after.registry.instances = before.registry.instances.set name inst)
      (opened : after.stores.opened = before.stores.opened + 1)
      (closings : after.stores.closings = before.stores.closings) : Deed before [] after []
  /-- A store is asked to close, and perhaps all strategies taken out of use then. -/
  | closes {id : Nat} {ids : List Nat} {after : Desk (Custody σ) Number}
      (instances : after.registry.instances = before.registry.instances
        ∨ after.registry.instances = [])
      (opened : after.stores.opened = before.stores.opened)
      (closings : after.stores.closings = before.stores.closings ++ [id]) :
      Deed before (id :: ids) after ids

/-! ### What a call does in one go -/

section

variable {desk served : Desk (Custody σ) Number} {place : Nat} {name : String}

namespace Desk

/-- Noting what a call has come to leaves the registry alone. -/
theorem registry_noteResult (desk : Desk (Custody σ) Number) (call : Call)
    (task : Task (Custody σ) Number) :
    (desk.noteResult call task).registry = desk.registry := by
  unfold noteResult
  split <;> rfl

/-- Noting what a call has come to leaves the book of the stores alone. -/
theorem stores_noteResult (desk : Desk (Custody σ) Number) (call : Call)
    (task : Task (Custody σ) Number) :
    (desk.noteResult call task).stores = desk.stores := by
  unfold noteResult
  split <;> rfl

end Desk

open Desk

/-- A call to close goes on to the next strategy, or takes all out of use. -/
theorem goOn_closing (insts : List (Instance (Custody σ) Number)) :
    goOn place (closing insts) desk = match insts with
      | [] => (.done (.ok none), desk.reset)
      | inst :: rest => (.ask (.close inst.strategy.close) (closed rest), desk) := by
  cases insts with
  | nil => rfl
  | cons inst rest => rw [closing_cons, goOn_of_waits rfl]

/-- Until the next wait, a call to close neither opens nor closes a store, nor takes a strategy into
use. -/
theorem desk_goOn_closing (place : Nat) (desk : Desk (Custody σ) Number)
    (insts : List (Instance (Custody σ) Number)) :
    (goOn place (closing insts) desk).2.stores = desk.stores
      ∧ ∀ entry ∈ (goOn place (closing insts) desk).2.registry.instances,
        entry ∈ desk.registry.instances := by
  rw [goOn_closing]
  cases insts with
  | nil => exact ⟨rfl, fun _ h => absurd h List.not_mem_nil⟩
  | cons inst rest => exact ⟨rfl, fun _ h => h⟩

/-- A store that cannot be reached is as good as closed. -/
theorem closed_of_isOutage {reply : Except Error Unit} (outage : FailsAs Error.IsOutage reply)
    (rest : List (Instance (Custody σ) Number)) : closed rest reply = closing rest := by
  cases reply with
  | ok _ => rfl
  | error e =>
    obtain ⟨gone, rfl⟩ := (failsAs_error_iff e).mp outage
    rfl

/-- A call to close is going to close what it was given, all of it. -/
theorem intends_closing {insts : List (Instance (Custody σ) Number)}
    (closes : ∀ inst ∈ insts, Closes inst.strategy.close inst.store.id) :
    Intends adapters .close (goOn place (closing insts) desk).1 (insts.map (·.store.id)) := by
  rw [goOn_closing]
  cases insts with
  | nil => exact .over
  | cons inst rest => exact .closing closes

/-- A construction opens a store in the book, unless it knows no factory to begin with. -/
theorem construct_custodial_cases (adapters : Adapters σ) (config : AnalyzerConfig) :
    (∃ e, ExceptT.run (construct (custodial adapters) config) = .done (.error e))
      ∨ ∃ adapter ∈ adapters, ExceptT.run (construct (custodial adapters) config)
        = .ask (.openStore (openBooked (adapter.2 config.params))) (opened makeBayes config) := by
  have strategy := lookup_strategies_custodial adapters config.strategy
  have adapter := lookup_custodial adapters config.adapter
  -- Both factories are looked up before a store is opened.
  by_cases bayes : config.strategy = "bayes"
  · rw [if_pos bayes] at strategy
    cases found : adapters.lookup config.adapter with
    | some connect =>
      rw [found] at adapter
      exact Or.inr ⟨(config.adapter, connect), Entries.mem_of_get? found, construct_eq strategy adapter⟩
    | none =>
      rw [found] at adapter
      unfold construct
      rw [strategy, adapter]
      exact Or.inl ⟨_, rfl⟩
  · rw [if_neg bayes] at strategy
    unfold construct
    rw [strategy]
    exact Or.inl ⟨_, rfl⟩

/-- So a deed is the same with or without the note. -/
theorem Deed.noteResult {ids ids' : List Nat} (deed : Deed desk ids served ids') (call : Call)
    (task : Task (Custody σ) Number) : Deed desk ids (served.noteResult call task) ids' := by
  have registry := registry_noteResult served call task
  have stores := stores_noteResult served call task
  cases deed with
  | nothing instances opened closings =>
    exact .nothing (registry ▸ instances) (stores ▸ opened) (stores ▸ closings)
  | opens back instances opened closings =>
    exact .opens back (registry ▸ instances) (stores ▸ opened) (stores ▸ closings)
  | adopts number closes instances opened closings =>
    exact .adopts number closes (registry ▸ instances) (stores ▸ opened) (stores ▸ closings)
  | closes instances opened closings =>
    exact .closes (registry ▸ instances) (stores ▸ opened) (stores ▸ closings)

/-- Opening a store concerns the book only: the registry stays as it is. -/
theorem serve_openStore_eq {factory : Act (Custody σ) (Store (Custody σ))}
    {reply : Except Error (Store (Custody σ))}
    (h : desk.serve place (.openStore factory) = some (reply, served)) :
    factory.outcome desk.stores = (reply, served.stores) ∧ served.registry = desk.registry := by
  cases h
  exact ⟨rfl, rfl⟩

/-- Closing a store concerns the book only, too. -/
theorem serve_close_eq {act : Act (Custody σ) Unit} {reply : Except Error Unit}
    (h : desk.serve place (.close act) = some (reply, served)) :
    act.outcome desk.stores = (reply, served.stores) ∧ served.registry = desk.registry := by
  cases h
  exact ⟨rfl, rfl⟩

/-- Once it has the lock, a resolution gives the strategy in use, or wants a store to be opened. -/
theorem intends_inside (adapters : Adapters σ) (place : Nat) (desk : Desk (Custody σ) Number)
    (name : String) (config : AnalyzerConfig) :
    let went := goOn place (inside (custodial adapters) name config) desk
    Intends adapters (.resolve name) went.1 [] ∧ went.2.registry = desk.registry
      ∧ went.2.stores = desk.stores := by
  intro went
  -- Somebody else may have built the strategy while the call was waiting for the lock.
  cases inUse : desk.registry.instances.get? name with
  | some inst =>
    have gives : went = (.done (.ok (some inst)), desk.hand name none) := goOn_inside_of_inUse inUse
    rw [gives]
    exact ⟨.over, rfl, rfl⟩
  | none =>
    have builds : went = goOn place (constructing (custodial adapters) name config) desk :=
      goOn_inside_of_unused inUse
    unfold constructing at builds
    rcases construct_custodial_cases adapters config with ⟨e, unknown⟩ | ⟨adapter, listed, opens⟩
    · rw [unknown, done_bind, goOn_releasing] at builds
      rw [builds]
      exact ⟨.over, rfl, rfl⟩
    · rw [opens, ask_bind, goOn_of_waits rfl] at builds
      rw [builds]
      exact ⟨.opening listed config.params, rfl, rfl⟩

/-- A resolution whose store has been opened takes its strategy into use, or wants the store to be
closed, or fails. -/
theorem intends_made {config : AnalyzerConfig} {store : Store (Custody σ)}
    (number : store.id = desk.stores.opened) (closes : Closes store.close desk.stores.opened)
    (registry : served.registry = desk.registry)
    (grown : served.stores.opened = desk.stores.opened + 1)
    (closings : served.stores.closings = desk.stores.closings) :
    let went := goOn place (opened makeBayes config (.ok store) >>= releasing name) served
    ∃ ids, Intends adapters (.resolve name) went.1 ids ∧ Deed desk [] went.2 ids := by
  intro went
  have went_eq : went = goOn place (made config store (makeBayes config.name store config.options.named
      config.params.named) >>= releasing name) served := rfl
  have instances : served.registry.instances = desk.registry.instances := by rw [registry]
  cases result : makeBayes config.name store config.options.named config.params.named with
  | ok strategy =>
    rw [result] at went_eq
    rw [went_eq]
    have closing : Closes strategy.close store.id := by
      rw [close_of_makeBayes result, number]
      exact closes
    have adopted : (served.registry.adopt config store strategy).2.instances
        = desk.registry.instances.set config.name (served.registry.adopt config store strategy).1 := by
      rw [← instances]
      rfl
    exact ⟨[], .over, .adopts number closing adopted grown closings⟩
  | error e =>
    rw [result] at went_eq
    rw [went_eq]
    cases e with
    | invalid fault =>
      exact ⟨[desk.stores.opened], .abandoning closes, .opens (by simp) instances grown closings⟩
    -- Any other error ends the construction at once, with the store open.
    | _ => exact ⟨[], .over, .opens nofun instances grown closings⟩

/-- What a call does at its turn, if it need not wait. -/
theorem Intends.turn (dependable : Dependable adapters) {call : Call} {step : Step (Custody σ) Number}
    {next : step.Answer → Task (Custody σ) Number} {ids : List Nat} {reply : step.Answer}
    (intends : Intends adapters call (.ask step next) ids)
    (h : desk.serve place step = some (reply, served)) :
    let went := goOn place (next reply) served
    ∃ ids', Intends adapters call went.1 ids' ∧ Deed desk ids (went.2.noteResult call went.1) ids' := by
  suffices deed : ∃ ids', Intends adapters call (goOn place (next reply) served).1 ids'
      ∧ Deed desk ids (goOn place (next reply) served).2 ids' by
    obtain ⟨ids', intends, deed⟩ := deed
    exact ⟨ids', intends, deed.noteResult _ _⟩
  cases intends with
  | @queued name config =>
    -- Somebody else may have built the strategy in the meantime.
    obtain ⟨-, rfl⟩ := serve_lock h
    obtain ⟨intends, registry, stores⟩ := intends_inside adapters place
      (desk.hand name (some place)) name config
    exact ⟨[], intends, .nothing (by rw [registry]; rfl) (by rw [stores]; rfl) (by rw [stores]; rfl)⟩
  | @opening name config adapter listed params =>
    obtain ⟨ran, registry⟩ := serve_openStore_eq h
    obtain ⟨outage, stores, -, refused⟩ | ⟨store, stores, -, number, closes, opens⟩ :=
      openBooked_cases dependable listed params desk.stores
    · rw [refused, Prod.mk.injEq] at ran
      obtain ⟨rfl, same⟩ := ran
      have opened : served.stores.opened = desk.stores.opened := by rw [← same]
      have closings : served.stores.closings = desk.stores.closings := by rw [← same]
      exact ⟨[], .over, .nothing (congrArg Registry.instances registry) opened closings⟩
    · rw [opens, Prod.mk.injEq] at ran
      obtain ⟨rfl, same⟩ := ran
      have grown : served.stores.opened = desk.stores.opened + 1 := by rw [← same]
      have closings : served.stores.closings = desk.stores.closings := by rw [← same]
      exact intends_made number closes registry grown closings
  | @abandoning name config fault act id closes =>
    obtain ⟨ran, registry⟩ := serve_close_eq h
    obtain ⟨result, stores, -, closed⟩ := closes desk.stores
    rw [closed, Prod.mk.injEq] at ran
    obtain ⟨rfl, same⟩ := ran
    have opened : served.stores.opened = desk.stores.opened := by rw [← same]
    have closings : served.stores.closings = desk.stores.closings ++ [id] := by rw [← same]
    exact ⟨[], .over, .closes (Or.inl (congrArg Registry.instances registry)) opened closings⟩
  | @closing inst rest closes =>
    obtain ⟨ran, registry⟩ := serve_close_eq h
    rw [List.forall_mem_cons] at closes
    obtain ⟨result, stores, outage, asked⟩ := closes.1 desk.stores
    rw [asked, Prod.mk.injEq] at ran
    obtain ⟨rfl, same⟩ := ran
    have opened : served.stores.opened = desk.stores.opened := by rw [← same]
    have closings : served.stores.closings = desk.stores.closings ++ [inst.store.id] := by rw [← same]
    have goes : goOn place (closed rest result) served = goOn place (Registry.closing rest) served := by
      rw [closed_of_isOutage outage]
    rw [goes]
    refine ⟨rest.map (·.store.id), intends_closing closes.2, ?_⟩
    rw [goOn_closing]
    -- After the last store all strategies are taken out of use, whoever has come in since.
    cases rest with
    | nil => exact .closes (Or.inr rfl) opened closings
    | cons other rest => exact .closes (Or.inl (congrArg Registry.instances registry)) opened closings

end

/-! ### What a deed keeps -/

namespace Deed

variable {before after : Desk (Custody σ) Number} {ids ids' : List Nat}

/-- Stores are not opened backwards: their number never falls. -/
theorem opened_le (deed : Deed before ids after ids') : before.stores.opened ≤ after.stores.opened := by
  cases deed <;> omega

/-- What has been asked to close stays so. -/
theorem closings_mono (deed : Deed before ids after ids') :
    ∀ id ∈ before.stores.closings, id ∈ after.stores.closings := by
  intro id member
  cases deed with
  | nothing _ _ closings => exact closings ▸ member
  | opens _ _ _ closings => exact closings ▸ member
  | adopts _ _ _ _ closings => exact closings ▸ member
  | closes _ _ closings => exact closings ▸ List.mem_append_left _ member

/-- Only a store that was to be asked is asked to close. -/
theorem closings (deed : Deed before ids after ids') :
    ∀ id ∈ after.stores.closings, id ∈ before.stores.closings ∨ id ∈ ids := by
  intro id member
  cases deed with
  | nothing _ _ closings => exact Or.inl (closings ▸ member)
  | opens _ _ _ closings => exact Or.inl (closings ▸ member)
  | adopts _ _ _ _ closings => exact Or.inl (closings ▸ member)
  | closes _ _ closings =>
    rw [closings, List.mem_append, List.mem_singleton] at member
    rcases member with old | rfl
    · exact Or.inl old
    · exact Or.inr List.mem_cons_self

/-- A store that is to be asked to close was so before, or has just been opened. -/
theorem intents (deed : Deed before ids after ids') :
    ∀ id ∈ ids', id ∈ ids ∨ id = before.stores.opened ∧ id < after.stores.opened := by
  intro id member
  cases deed with
  | nothing => exact absurd member List.not_mem_nil
  | opens back _ opened _ =>
    obtain rfl := back id member
    exact Or.inr ⟨rfl, by omega⟩
  | adopts => exact absurd member List.not_mem_nil
  | closes => exact Or.inl (List.mem_cons_of_mem _ member)

/-- A store that was to be asked to close has been asked, or still is to be. -/
theorem owed (deed : Deed before ids after ids') (id : Nat) :
    id ∈ before.stores.closings ∨ id ∈ ids → id ∈ after.stores.closings ∨ id ∈ ids' := by
  cases deed with
  | nothing _ _ closings => simp [closings]
  | opens _ _ _ closings => simpa [closings] using Or.inl
  | adopts _ _ _ _ closings => simp [closings]
  | closes _ _ closings =>
    rw [closings, List.mem_append, List.mem_singleton, List.mem_cons, or_assoc]
    exact fun h => h

/-- A strategy in use was in use before, or its store has just been opened. -/
theorem inUse (deed : Deed before ids after ids') :
    ∀ entry ∈ after.registry.instances, entry ∈ before.registry.instances
      ∨ entry.2.store.id = before.stores.opened ∧ before.stores.opened < after.stores.opened
        ∧ Closes entry.2.strategy.close entry.2.store.id ∧ ids' = [] := by
  intro entry member
  -- Only an adoption brings a strategy into use.
  cases deed with
  | nothing instances => exact Or.inl (instances ▸ member)
  | opens _ instances => exact Or.inl (instances ▸ member)
  | adopts number closes instances opened =>
    rw [instances] at member
    rcases Entries.mem_set member with rfl | member
    · exact Or.inr ⟨number, by omega, closes, rfl⟩
    · exact Or.inl member
  | closes instances =>
    rcases instances with same | none
    · exact Or.inl (same ▸ member)
    · rw [none] at member
      exact absurd member List.not_mem_nil

end Deed

end Moderation.Registry
