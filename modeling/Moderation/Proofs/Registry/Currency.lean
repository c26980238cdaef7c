import Moderation.Proofs.Registry.Single

/-!
# `Moderation.Proofs.Registry.Currency`: strategies and the configurations they were built from

An analyzer cannot be registered anew while its strategy is in use, so that the strategy is one of the
configuration that is registered. But a resolution takes the configuration before it waits, and nothing
is in use yet while it waits for its lock or for its store.

* `current_of_careful`: a strategy in use has been built from the configuration that is registered, if
  no analyzer is registered anew while it is being resolved.
* `stale_of_overtaken`: if one is, then the strategy that is taken into use afterwards has been built
  from the configuration that was replaced.

The invariant is that of `Moderation.Proofs.Registry.Single`, and a configuration fits if it is the one
that is registered under its name.
-/

set_option autoImplicit false

namespace Moderation.Registry

open Dialogue

variable {σ α : Type}

namespace Traffic

/-- Whether a configuration is the one that is registered under its name. -/
def Registers (all : Traffic σ α) (config : AnalyzerConfig) : Prop :=
  all.desk.registry.configs.get? config.name = some config

/-- Moves that register no analyzer while it is being resolved. -/
def Careful (factories : Factories σ α) : List Move → Traffic σ α → Prop
  | [], _ => True
  | next :: moves, all => (∀ config, next = .register config → ¬ all.Resolves config.name)
      ∧ Careful factories moves (all.move factories next)

end Traffic

variable {factories : Factories σ α} {all : Traffic σ α}

/-- What fits goes on to fit, since all that is not registered anew stays registered. -/
theorem Sound.careful_move (sound : Sound factories all.Registers all) {next : Move}
    (careful : ∀ config, next = .register config → ¬ all.Resolves config.name) :
    Sound factories (all.move factories next).Registers (all.move factories next) := by
  -- Registering is the one move that changes what is registered. The name it is for is neither in
  -- use nor being resolved.
  cases next with
  | register config =>
    show Sound factories (all.register config).Registers (all.register config)
    rcases all.register_cases config with ⟨-, same⟩ | ⟨unused, replaced⟩
    · rw [same]
      exact sound
    · rw [replaced]
      refine sound.replace ?_ unused (fun other different fit => ?_) (Or.inr (careful config rfl))
      · simp [Traffic.Registers, Entries.get?_set]
      · simpa [Traffic.Registers, Entries.get?_set, Ne.symm different] using fit
  | reset => exact sound.reset
  | call call =>
    have kept : (all.call factories call).desk.registry.configs = all.desk.registry.configs :=
      (proceeds_call factories sound.registered sound.apart_length call).change.configs
    have fits : (all.call factories call).Registers = all.Registers := by
      funext config
      rw [Traffic.Registers, kept, Traffic.Registers]
    show Sound factories (all.call factories call).Registers (all.call factories call)
    rw [fits]
    exact sound.call call
  | turn place =>
    have kept : (all.turn place).desk.registry.configs = all.desk.registry.configs := by
      rcases sound.turn_cases place with same | ⟨_, _, _, _, _, -, proceeds, eq⟩
      · rw [same]
      · rw [eq]
        exact proceeds.change.configs
    have fits : (all.turn place).Registers = all.Registers := by
      funext config
      rw [Traffic.Registers, kept, Traffic.Registers]
    show Sound factories (all.turn place).Registers (all.turn place)
    rw [fits]
    exact sound.turn place

/-- So it does over careful moves, by induction on them. -/
theorem Sound.careful_run (sound : Sound factories all.Registers all) {moves : List Move}
    (careful : all.Careful factories moves) :
    Sound factories (all.run factories moves).Registers (all.run factories moves) := by
  induction moves generalizing all with
  | nil => exact sound
  | cons next moves ih => exact ih (sound.careful_move careful.1) careful.2

/-- A strategy in use has been built from the configuration that is registered under its name, if no
analyzer is registered anew while it is being resolved. -/
theorem current_of_careful (factories : Factories σ α) (stores : σ) {moves : List Move}
    (careful : (Traffic.start stores).Careful factories moves) {name : String}
    {inst : Instance σ α} :
    let all := (Traffic.start stores).run factories moves
    all.desk.registry.instances.get? name = some inst →
      all.desk.registry.config? name = .ok inst.config := by
  intro all inUse
  have sound : Sound factories all.Registers all :=
    (Sound.start factories _ stores).careful_run careful
  obtain ⟨named, registered⟩ := sound.used name inst inUse
  rw [Traffic.Registers, named] at registered
  rw [Registry.config?, registered]

/-- An analyzer that is registered, resolved and not registered anew. -/
theorem current_mail :
    let moves : List Move := [.register mail, .call (.resolve "mail"), .turn 0, .turn 0]
    let all := (Traffic.start []).run inMemory moves
    ∃ inst, all.desk.registry.instances.get? "mail" = some inst
      ∧ all.desk.registry.config? "mail" = .ok inst.config := by
  intro moves all
  have careful : (Traffic.start []).Careful inMemory moves := by
    refine ⟨?_, nofun, nofun, nofun, trivial⟩
    rintro config - ⟨place, step, next, h⟩
    cases h
  exact ⟨_, rfl, current_of_careful inMemory [] careful rfl⟩

/-- A construction whose configuration is replaced while it waits for the store still takes its
strategy into use. -/
theorem stale_of_overtaken {place : Nat} {name : String} {config config' : AnalyzerConfig}
    {make : MakeStrategy σ α} {factory : Act σ (Store σ)} {store : Store σ} {stores : σ}
    {strategy : Strategy σ α} (sound : Sound factories (fun _ => True) all)
    (waits : all.calls[place]? = some (.resolve name,
      .ask (.openStore factory) fun reply => opened make config reply >>= releasing name))
    (named : config.name = name) (named' : config'.name = name)
    (opens : factory.outcome all.desk.stores = (.ok store, stores))
    (makes : make config.name store config.options.named config.params.named = .ok strategy) :
    let later := (all.register config').turn place
    ∃ inst, later.desk.registry.instances.get? name = some inst ∧ inst.config = config
      ∧ later.desk.registry.config? name = .ok config' := by
  intro later
  obtain ⟨-, unused⟩ := sound.holds_of_builds ⟨_, _, waits, by simp⟩
  rw [← named'] at unused
  rcases all.register_cases config' with ⟨⟨inst, inUse⟩, -⟩ | ⟨-, replaced⟩
  · rw [unused] at inUse
    cases inUse
  -- The store opens, and the strategy is made from the configuration that the call has taken.
  let registry := { all.desk.registry with
    configs := all.desk.registry.configs.set config'.name config' }
  have served : (all.register config').desk.serve place (.openStore factory)
      = some (.ok store, { all.desk with registry, stores }) := by
    rw [replaced]
    simp only [Desk.serve, opens]
    rfl
  have resumed : (all.register config').calls[place]? = some (.resolve name,
      .ask (.openStore factory) fun reply => opened make config reply >>= releasing name) := by
    rw [replaced]
    exact waits
  have adopts : later.desk.registry = (registry.adopt config store strategy).2 := by
    unfold later
    rw [Traffic.turn_of_served resumed served]
    simp only [opened, makes]
    rfl
  refine ⟨(registry.adopt config store strategy).1, ?_, rfl, ?_⟩
  · rw [adopts, Registry.adopt]
    dsimp only
    rw [Entries.get?_set, if_pos named]
  · rw [adopts, Registry.adopt, Registry.config?]
    simp [registry, Entries.get?_set, named']

/-- An analyzer is registered anew, with a weight of two, while its strategy is being built. The
strategy that is taken into use has been built from the configuration with a weight of one. -/
theorem stale_mail :
    let moves : List Move := [.register mail, .call (.resolve "mail"), .turn 0,
      .register { mail with weight := .whole 2 }, .turn 0]
    let all := (Traffic.start []).run inMemory moves
    ∃ inst config, all.desk.registry.instances.get? "mail" = some inst
      ∧ all.desk.registry.config? "mail" = .ok config
      ∧ inst.config.weight = .whole 1 ∧ config.weight = .whole 2 :=
  ⟨_, _, rfl, rfl, rfl, rfl⟩

end Moderation.Registry
