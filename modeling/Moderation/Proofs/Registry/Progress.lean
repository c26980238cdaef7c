import Moderation.Proofs.Registry.Traffic

/-!
# `Moderation.Proofs.Registry.Progress`: what calls of the registry do in one go

A call that waits is told by what it waits for, and by what it does then: `inside`, `opened`, `closed`
and so on are what is left of the programs there. Nothing beyond this module looks into the programs.

* `Stands` says how far a call can have come, and what it holds meanwhile.
* `Change` says what it can do to the registry from one wait to the next, and `Proceeds` that this is
  all it does.
* `proceeds_call` and `Stands.proceeds` say that a call proceeds so when it is made, and at its turn.
-/

set_option autoImplicit false

namespace Moderation.Registry

open Dialogue

variable {σ α : Type}

/-! ### What is left of a call -/

/-- Gives back the lock of a name, and ends with a result. -/
def releasing (name : String) (result : Except Error (Instance σ α)) : Task σ α :=
  .ask (.unlock name) fun _ => .done (result.map some)

/-- What a resolution does once it has the lock and no strategy is in use. -/
def constructing (factories : Factories σ α) (name : String) (config : AnalyzerConfig) :
    Dialogue (Step σ α) Step.Answer (Result σ α) :=
  ExceptT.run (construct factories config) >>= releasing name

/-- What a resolution does once it has the lock. -/
def inside (factories : Factories σ α) (name : String) (config : AnalyzerConfig) : Task σ α :=
  .ask .look fun registry =>
    match registry.instances.get? name with
    | some inst => releasing name (.ok inst)
    | none => constructing factories name config

/-- A way to make strategies. -/
abbrev MakeStrategy (σ α : Type) :=
  (analyzer : String) → Store σ → (options params : Entries Value) → Except Error (Strategy σ α)

/-- What comes of a construction whose strategy could not be made, once its store is closed. -/
def abandoned (config : AnalyzerConfig) (fault : InvalidValue) :
    Except Error Unit → Except Error (Instance σ α)
  | .ok _ => .error (.configuration (.invalidOptions config.name fault))
  | .error e => .error e

/-- What a construction does once it has tried to make a strategy. -/
def made (config : AnalyzerConfig) (store : Store σ) :
    Except Error (Strategy σ α) → Dialogue (Step σ α) Step.Answer (Except Error (Instance σ α))
  | .ok strategy => .ask (.adopt config store strategy) fun inst => .done (.ok inst)
  | .error (.invalid fault) =>
    .ask (.close store.close) fun reply => .done (abandoned config fault reply)
  | .error e => .done (.error e)

/-- What a construction does once it has a store. -/
def opened (make : MakeStrategy σ α) (config : AnalyzerConfig) :
    Except Error (Store σ) → Dialogue (Step σ α) Step.Answer (Except Error (Instance σ α))
  | .error e => .done (.error e)
  | .ok store => made config store
      (make config.name store config.options.named config.params.named)

/-- A construction that knows its factories begins with opening a store. -/
theorem construct_eq {factories : Factories σ α} {config : AnalyzerConfig}
    {make : MakeStrategy σ α} {openStore : (params : Value.Map Value) → Act σ (Store σ)}
    (hmake : factories.strategies.lookup config.strategy = some make)
    (hopen : factories.stores.lookup config.adapter = some openStore) :
    ExceptT.run (construct factories config)
      = .ask (.openStore (openStore config.params)) (opened make config) := by
  unfold construct
  rw [hmake, hopen]
  show Dialogue.ask _ _ = Dialogue.ask _ _
  congr 1
  funext reply
  cases reply with
  | error e => rfl
  | ok store =>
    show ExceptT.run (m := Dialogue (Step σ α) Step.Answer)
      (match make config.name store config.options.named config.params.named with
        | .ok strategy => Program.step (.adopt config store strategy)
        | .error (.invalid fault) => do
          Program.ofExcept (← Program.step (Step.close (α := α) store.close))
          throw (.configuration (.invalidOptions config.name fault))
        | .error e => throw e)
      = made config store (make config.name store config.options.named config.params.named)
    -- The strategy could be made or not. If an option is told to be invalid, the store is closed
    -- before the error is given.
    rcases make config.name store config.options.named config.params.named with e | strategy
    · cases e with
      | invalid fault =>
        show Dialogue.ask _ _ = Dialogue.ask _ _
        congr 1
        funext reply
        cases reply <;> rfl
      | _ => rfl
    · rfl

/-- A construction begins with opening a store, unless it knows no factory to begin with. -/
theorem construct_cases (factories : Factories σ α) (config : AnalyzerConfig) :
    (∃ e, ExceptT.run (construct factories config) = .done (.error e))
      ∨ ∃ make factory, ExceptT.run (construct factories config)
        = .ask (.openStore factory) (opened make config) := by
  -- Both factories are looked up before anything is asked.
  cases hmake : factories.strategies.lookup config.strategy with
  | none =>
    unfold construct
    rw [hmake]
    exact Or.inl ⟨_, rfl⟩
  | some make =>
    cases hopen : factories.stores.lookup config.adapter with
    | none =>
      unfold construct
      rw [hmake, hopen]
      exact Or.inl ⟨_, rfl⟩
    | some openStore => exact Or.inr ⟨make, _, construct_eq hmake hopen⟩

/-- A resolution looks at the registry, and if it finds no strategy in use, it wants the lock. -/
theorem resolve_eq (factories : Factories σ α) (name : String) :
    (Call.resolve name).task factories = .ask .look fun registry =>
      match registry.configs.get? name with
      | none => .done (.error (.unknownAnalyzer (.text name)))
      | some config =>
        match registry.instances.get? name with
        | some inst => .done (.ok (some inst))
        | none => .ask (.lock name) fun _ => inside factories name config := by
  show Dialogue.ask _ _ = Dialogue.ask _ _
  congr 1
  funext registry
  show (ExceptT.run (m := Dialogue (Step σ α) Step.Answer) (do
      let config ← Program.ofExcept (registry.config? name)
      match registry.instances.get? name with
      | some inst => return inst
      | none =>
        Program.exclusively name do
          match (← Program.look).instances.get? name with
          | some inst => return inst
          | none => construct factories config) >>= fun result => .done (result.map some)) = _
  unfold Registry.config?
  -- Both sides ask the same questions, so they are compared question by question, and case by case
  -- of what a look finds.
  cases registry.configs.get? name with
  | none => rfl
  | some config =>
    cases registry.instances.get? name with
    | some inst => rfl
    | none =>
      show Dialogue.ask _ _ = Dialogue.ask _ _
      congr 1
      funext _
      show Dialogue.ask _ _ = Dialogue.ask _ _
      congr 1
      funext registry
      show ((ExceptT.run (m := Dialogue (Step σ α) Step.Answer)
          (match registry.instances.get? name with
            | some inst => return inst
            | none => construct factories config) >>= fun result =>
              .ask (.unlock name) fun _ => .done result) >>= fun result => .done (result.map some)) = _
      cases registry.instances.get? name with
      | some inst => rfl
      | none => exact Dialogue.bind_assoc ..

/-- What a call to close does while it has instances to close. -/
def closing (insts : List (Instance σ α)) : Dialogue (Step σ α) Step.Answer (Result σ α) :=
  ExceptT.run (do
    closeEach insts
    let _ ← Program.step (Step.reset (σ := σ) (α := α))) >>= fun result =>
      .done (result.map fun _ => none)

/-- What a call to close does once it has tried to close an instance. -/
def closed (rest : List (Instance σ α)) : Except Error Unit → Task σ α
  | .ok _ => closing rest
  | .error (.storeUnavailable _) => closing rest
  | .error e => .done (.error e)

/-- A call to close closes its instances one after the other. -/
theorem closing_cons (inst : Instance σ α) (rest : List (Instance σ α)) :
    closing (inst :: rest) = .ask (.close inst.strategy.close) (closed rest) := by
  show Dialogue.ask _ _ = Dialogue.ask _ _
  congr 1
  funext reply
  cases reply with
  | ok _ => rfl
  | error e => cases e <;> rfl

/-! ### What a call does in one go -/

section

variable (factories : Factories σ α) (fits : AnalyzerConfig → Prop)

/-- How far a call at a place has come, and what it holds. What it builds is built from a
configuration that `fits`. -/
inductive Stands (desk : Desk σ α) (place : Nat) : Call → Task σ α → Prop where
  /-- It wants to build a strategy, and waits for the lock. -/
  | queued {name : String} {config : AnalyzerConfig} (named : config.name = name)
      (fit : fits config) (apart : ∀ other, desk.holder other ≠ some place) :
      Stands desk place (.resolve name) (.ask (.lock name) fun _ => inside factories name config)
  /-- It builds a strategy, and waits for the store. -/
  | opening {name : String} {config : AnalyzerConfig} {make : MakeStrategy σ α}
      {factory : Act σ (Store σ)} (named : config.name = name) (fit : fits config)
      (holds : ∀ other, desk.holder other = some place ↔ other = name)
      (unused : desk.registry.instances.get? name = none) :
      Stands desk place (.resolve name)
        (.ask (.openStore factory) fun reply => opened make config reply >>= releasing name)
  /-- It could not make a strategy, and waits for the store to be closed. -/
  | abandoning {name : String} {config : AnalyzerConfig} {fault : InvalidValue} {closing : Act σ Unit}
      (holds : ∀ other, desk.holder other = some place ↔ other = name)
      (unused : desk.registry.instances.get? name = none) :
      Stands desk place (.resolve name)
        (.ask (.close closing) fun reply => releasing name (abandoned config fault reply))
  /-- It closes what instances have open, one after the other. -/
  | closing {inst : Instance σ α} {rest : List (Instance σ α)}
      (apart : ∀ other, desk.holder other ≠ some place) :
      Stands desk place .close (.ask (.close inst.strategy.close) (closed rest))
  | finished {call : Call} {result : Result σ α} (apart : ∀ other, desk.holder other ≠ some place) :
      Stands desk place call (.done result)

/-- What a call can do to the registry in one go. -/
inductive Change (before : Desk σ α) (place : Nat) : Call → Task σ α → Desk σ α → Prop where
  /-- It changes nothing there and gives no instance. -/
  | idle {call : Call} {task : Task σ α} {after : Desk σ α}
      (resultless : ∀ inst, task ≠ .done (.ok (some inst)))
      (registry : after.registry = before.registry) (journal : after.journal = before.journal) :
      Change before place call task after
  /-- It gives the instance that is in use. -/
  | found {name : String} {inst : Instance σ α} {after : Desk σ α}
      (inUse : before.registry.instances.get? name = some inst)
      (registry : after.registry = before.registry)
      (journal : after.journal = before.journal ++ [.returned name inst]) :
      Change before place (.resolve name) (.done (.ok (some inst))) after
  /-- It takes an instance into use that it has built, and gives it. -/
  | built {config : AnalyzerConfig} {store : Store σ} {strategy : Strategy σ α} {after : Desk σ α}
      (fit : fits config) (holds : before.holder config.name = some place)
      (unused : before.registry.instances.get? config.name = none)
      (registry : after.registry = (before.registry.adopt config store strategy).2)
      (journal : after.journal = before.journal
        ++ [.built (before.registry.adopt config store strategy).1,
          .returned config.name (before.registry.adopt config store strategy).1]) :
      Change before place (.resolve config.name)
        (.done (.ok (some (before.registry.adopt config store strategy).1))) after
  /-- It takes all instances out of use. -/
  | cleared {after : Desk σ α} (registry : after.registry = before.registry.reset)
      (journal : after.journal = before.journal ++ [.cleared]) :
      Change before place .close (.done (.ok none)) after

/-- What a call does in one go, from one wait to the next. -/
structure Proceeds (before : Desk σ α) (place : Nat) (call : Call) (task : Task σ α)
    (after : Desk σ α) : Prop where
  stands : Stands factories fits after place call task
  others : ∀ name p, p ≠ place → (after.holder name = some p ↔ before.holder name = some p)
  change : Change fits before place call task after

end

section

variable {factories : Factories σ α} {fits : AnalyzerConfig → Prop} {desk : Desk σ α} {place : Nat}
  {name : String}

namespace Desk

/-- Of two handings over of a lock the last one counts. -/
theorem hand_hand (name : String) (place place' : Option Nat) (desk : Desk σ α) :
    (desk.hand name place).hand name place' = desk.hand name place' := by
  simp [hand]

/-- Who has the lock can be given it. -/
theorem hand_of_holder {place : Option Nat} (h : desk.holder name = place) :
    desk.hand name place = desk := by
  subst h
  simp [hand]

/-- Who gets a lock and has no other has this one. -/
theorem holder_hand_some (apart : ∀ other, desk.holder other ≠ some place) (other : String) :
    (desk.hand name (some place)).holder other = some place ↔ other = name := by
  by_cases h : other = name
  · simp [hand, h]
  · simp [hand, h, apart other]

/-- Who gives back its lock has none. -/
theorem holder_hand_none (holds : ∀ other, desk.holder other = some place ↔ other = name)
    (other : String) : (desk.hand name none).holder other ≠ some place := by
  by_cases h : other = name
  · simp [hand, h]
  · simp [hand, h, holds other]

/-- To hand over a lock concerns nobody who neither has it nor gets it. -/
theorem holder_hand_others {place' : Option Nat} {p : Nat} (before : desk.holder name ≠ some p)
    (after : place' ≠ some p) (other : String) :
    (desk.hand name place').holder other = some p ↔ desk.holder other = some p := by
  by_cases h : other = name
  · subst h
    simp [hand, before, after]
  · simp [hand, h]

/-- Opening a store changes nothing but the stores. -/
theorem serve_openStore {factory : Act σ (Store σ)} {reply : Except Error (Store σ)}
    {served : Desk σ α} (h : desk.serve place (.openStore factory) = some (reply, served)) :
    ∃ stores, served = { desk with stores } := by
  cases h
  exact ⟨_, rfl⟩

/-- Neither does closing one. -/
theorem serve_close {closing : Act σ Unit} {reply : Except Error Unit} {served : Desk σ α}
    (h : desk.serve place (.close closing) = some (reply, served)) :
    ∃ stores, served = { desk with stores } := by
  cases h
  exact ⟨_, rfl⟩

/-- A lock is given to who asks for it if it is free. -/
theorem serve_lock {reply : Unit} {served : Desk σ α}
    (h : desk.serve place (.lock name) = some (reply, served)) :
    desk.holder name = none ∧ served = desk.hand name (some place) := by
  dsimp only [serve] at h
  cases free : desk.holder name with
  | none =>
    rw [free] at h
    cases h
    exact ⟨rfl, rfl⟩
  | some other =>
    rw [free] at h
    cases h

end Desk

open Desk

/-- Giving back the lock is the end of a resolution. -/
theorem goOn_releasing (result : Except Error (Instance σ α)) :
    goOn place (releasing name result) desk = (.done (result.map some), desk.hand name none) := rfl

/-- What a resolution does before it has the lock. -/
theorem goOn_resolve : goOn place ((Call.resolve name).task factories) desk
    = goOn place (match desk.registry.configs.get? name with
      | none => .done (.error (.unknownAnalyzer (.text name)))
      | some config =>
        match desk.registry.instances.get? name with
        | some inst => .done (.ok (some inst))
        | none => .ask (.lock name) fun _ => inside factories name config) desk := by
  rw [resolve_eq]
  rfl

/-- A resolution that finds no strategy in use waits for the lock. -/
theorem goOn_resolve_of_unused {config : AnalyzerConfig}
    (registered : desk.registry.configs.get? name = some config)
    (unused : desk.registry.instances.get? name = none) :
    goOn place ((Call.resolve name).task factories) desk
      = (.ask (.lock name) fun _ => inside factories name config, desk) := by
  rw [goOn_resolve]
  simp only [registered, unused]
  exact goOn_of_waits rfl

/-- What it does once it has the lock, told by what it finds in use. -/
theorem goOn_inside {config : AnalyzerConfig} : goOn place (inside factories name config) desk
    = goOn place (match desk.registry.instances.get? name with
      | some inst => releasing name (.ok inst)
      | none => constructing factories name config) desk := rfl

/-- Once it has the lock, a resolution gives the strategy that is in use by now. -/
theorem goOn_inside_of_inUse {config : AnalyzerConfig} {inst : Instance σ α}
    (inUse : desk.registry.instances.get? name = some inst) :
    goOn place (inside factories name config) desk
      = (.done (.ok (some inst)), desk.hand name none) := by
  rw [goOn_inside]
  simp only [inUse]
  rfl

/-- Once it has the lock, a resolution that finds no strategy in use builds one. -/
theorem goOn_inside_of_unused {config : AnalyzerConfig}
    (unused : desk.registry.instances.get? name = none) :
    goOn place (inside factories name config) desk
      = goOn place (constructing factories name config) desk := by
  rw [goOn_inside]
  simp only [unused]

/-- What a resolution does once it has the lock. -/
theorem proceeds_inside {config : AnalyzerConfig} (named : config.name = name) (fit : fits config)
    (free : desk.holder name = none) (apart : ∀ other, desk.holder other ≠ some place) :
    let went := goOn place (inside factories name config) (desk.hand name (some place))
    Proceeds factories fits desk place (.resolve name) went.1
      (noteResult (.resolve name) went.1 went.2) := by
  intro went
  have back : (desk.hand name (some place)).hand name none = desk := by
    rw [hand_hand, hand_of_holder free]
  -- A strategy that is in use by now is given, and the lock goes back at once.
  cases inUse : desk.registry.instances.get? name with
  | some inst =>
    have gives : went = (.done (.ok (some inst)), (desk.hand name (some place)).hand name none) :=
      goOn_inside_of_inUse inUse
    rw [back] at gives
    rw [gives]
    exact ⟨.finished apart, fun _ _ _ => .rfl, .found inUse rfl rfl⟩
  | none =>
    have builds : went
        = goOn place (constructing factories name config) (desk.hand name (some place)) :=
      goOn_inside_of_unused inUse
    unfold constructing at builds
    rcases construct_cases factories config with ⟨e, unknown⟩ | ⟨make, factory, opens⟩
    · rw [unknown, done_bind, goOn_releasing, back] at builds
      rw [builds]
      exact ⟨.finished apart, fun _ _ _ => .rfl, .idle (by simp [Except.map]) rfl rfl⟩
    · rw [opens, ask_bind, goOn_of_waits rfl] at builds
      rw [builds]
      refine ⟨.opening named fit (holder_hand_some apart) inUse, ?_, .idle (by simp) rfl rfl⟩
      exact fun other p hp => holder_hand_others (by simp [free]) (by simpa using hp.symm) other

/-- A call to close goes on to the next instance, or takes all out of use. -/
theorem proceeds_closing (apart : ∀ other, desk.holder other ≠ some place) (stores : σ)
    (insts : List (Instance σ α)) :
    let went := goOn place (closing insts) { desk with stores }
    Proceeds factories fits desk place .close went.1 (noteResult .close went.1 went.2) := by
  cases insts with
  | nil => exact ⟨.finished apart, fun _ _ _ => .rfl, .cleared rfl rfl⟩
  | cons inst rest =>
    rw [closing_cons, goOn_of_waits rfl]
    exact ⟨.closing apart, fun _ _ _ => .rfl, .idle (by simp) rfl rfl⟩

/-- A resolution that fails inside the lock gives it back, and the registry is as it was. -/
theorem proceeds_releasing (holds : ∀ other, desk.holder other = some place ↔ other = name)
    (stores : σ) (e : Error) :
    let went := goOn place (releasing (α := α) name (.error e)) { desk with stores }
    Proceeds factories fits desk place (.resolve name) went.1
      (noteResult (.resolve name) went.1 went.2) where
  stands := .finished (holder_hand_none holds)
  others other p hp := holder_hand_others (by simpa [(holds name).mpr rfl] using hp.symm) (by simp) other
  change := .idle (by simp [goOn_releasing, Except.map]) rfl rfl

/-- A resolution that has tried to make a strategy takes it into use, or fails. -/
theorem proceeds_made {config : AnalyzerConfig} {store : Store σ} (named : config.name = name)
    (fit : fits config) (holds : ∀ other, desk.holder other = some place ↔ other = name)
    (unused : desk.registry.instances.get? name = none) (stores : σ)
    (result : Except Error (Strategy σ α)) :
    let went := goOn place (made config store result >>= releasing name) { desk with stores }
    Proceeds factories fits desk place (.resolve name) went.1
      (noteResult (.resolve name) went.1 went.2) := by
  subst named
  have holder : desk.holder config.name = some place := (holds _).mpr rfl
  -- Options that are invalid are noticed with the store open, so it has to be closed first.
  cases result with
  | ok strategy =>
    have apart : ∀ other, (desk.hand config.name none).holder other ≠ some place :=
      holder_hand_none holds
    have others (other : String) (p : Nat) (hp : p ≠ place) :
        (desk.hand config.name none).holder other = some p ↔ desk.holder other = some p :=
      holder_hand_others (by simpa [holder] using hp.symm) (by simp) other
    exact ⟨.finished apart, others, .built fit holder unused rfl (List.append_assoc ..)⟩
  | error e =>
    cases e with
    | invalid fault =>
      exact ⟨.abandoning holds unused, fun _ _ _ => .rfl, .idle nofun rfl rfl⟩
    | _ => exact proceeds_releasing holds stores _

/-- What a call does at its turn, if it need not wait. -/
theorem Stands.proceeds {call : Call} {step : Step σ α} {next : step.Answer → Task σ α}
    {reply : step.Answer} {served : Desk σ α}
    (stands : Stands factories fits desk place call (.ask step next))
    (h : desk.serve place step = some (reply, served)) :
    let went := goOn place (next reply) served
    Proceeds factories fits desk place call went.1 (noteResult call went.1 went.2) := by
  -- One case for each thing that a call can wait for.
  cases stands with
  | queued named fit apart =>
    obtain ⟨free, rfl⟩ := serve_lock h
    exact proceeds_inside named fit free apart
  | opening named fit holds unused =>
    obtain ⟨stores, rfl⟩ := serve_openStore h
    cases reply with
    | ok store => exact proceeds_made named fit holds unused stores _
    | error e => exact proceeds_releasing holds stores e
  | abandoning holds unused =>
    obtain ⟨stores, rfl⟩ := serve_close h
    cases reply with
    | ok _ => exact proceeds_releasing holds stores _
    | error e => exact proceeds_releasing holds stores e
  | @closing inst rest apart =>
    obtain ⟨stores, rfl⟩ := serve_close h
    cases reply with
    | ok _ => exact proceeds_closing apart stores rest
    | error e =>
      cases e with
      | storeUnavailable _ => exact proceeds_closing apart stores rest
      | _ => exact ⟨.finished apart, fun _ _ _ => .rfl, .idle (by simp [closed, goOn]) rfl rfl⟩

/-- What a call does when it is made. -/
theorem proceeds_call (factories : Factories σ α)
    (registered : ∀ name config, desk.registry.configs.get? name = some config →
      config.name = name ∧ fits config)
    (apart : ∀ other, desk.holder other ≠ some place) (call : Call) :
    let went := goOn place (call.task factories) desk
    Proceeds factories fits desk place call went.1 (noteResult call went.1 went.2) := by
  intro went
  -- Closing has a lemma of its own. A resolution ends at once for an unknown name and for a
  -- strategy in use, and else waits for the lock.
  cases call with
  | close => exact proceeds_closing apart desk.stores _
  | resolve name =>
    cases hconfig : desk.registry.configs.get? name with
    | none =>
      have unknown : went = (.done (.error (.unknownAnalyzer (.text name))), desk) := by
        unfold went
        rw [goOn_resolve]
        simp only [hconfig]
        rfl
      rw [unknown]
      exact ⟨.finished apart, fun _ _ _ => .rfl, .idle nofun rfl rfl⟩
    | some config =>
      obtain ⟨named, fit⟩ := registered name config hconfig
      cases inUse : desk.registry.instances.get? name with
      | some inst =>
        have gives : went = (.done (.ok (some inst)), desk) := by
          unfold went
          rw [goOn_resolve]
          simp only [hconfig, inUse]
          rfl
        rw [gives]
        exact ⟨.finished apart, fun _ _ _ => .rfl, .found inUse rfl rfl⟩
      | none =>
        have waits : went = (.ask (.lock name) fun _ => inside factories name config, desk) :=
          goOn_resolve_of_unused hconfig inUse
        rw [waits]
        exact ⟨.queued named fit apart, fun _ _ _ => .rfl, .idle (by simp) rfl rfl⟩

end

end Moderation.Registry
