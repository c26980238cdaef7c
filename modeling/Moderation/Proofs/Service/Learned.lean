import Moderation.Proofs.Registry.Resolution
import Moderation.Proofs.Service.FanOut
import Moderation.Proofs.Service.Reach
import Moderation.Registry.Standard

/-!
# `Moderation.Proofs.Service.Learned`: what analyzers have learned in spite of outages

Bayes analyzers are taught by a service, each with a store in memory of its own, and any of the
stores may be out of reach during any training. An analyzer that cannot be reached misses the text.
So each analyzer has its own stock, and what all of them have learned is a stock for every name
(`Learned`).

A training resolves the analyzers and then teaches those that it has reached. Resolving leaves the
counters of all analyzers as they are (`InOrder.resolve_round`), and teaching changes those of the
analyzers that succeed (`InOrder.teach_round`). Both are inductions over a round, with one stop each
(`InOrder.resolve_stop`, `InOrder.teach_stop`). `InOrder.teach_follows` says what this comes to: after
a training, those that it reports as successes have followed it, and the others have what they had.
-/

set_option autoImplicit false

namespace Moderation.Service

open Store Bayes Registry

/-! ### The analyzers -/

/-- Bayes analyzers over stores in memory that cannot be reached for a while. -/
def blackoutFactories : Factories Blackout Number where
  stores := [("memory", fun _ => Blackout.openStore)]
  strategies := [("bayes", makeBayes)]

/-- A configuration asks for a classifier with a store in memory. -/
structure Asks (config : AnalyzerConfig) (classifier : Classifier Number) : Prop where
  strategy : config.strategy = "bayes"
  adapter : config.adapter = "memory"
  options : Classifier.ofOptions? config.name config.options.named config.params.named = .ok classifier

/-- A strategy in use is that of a classifier on the store with a number. -/
structure Serves (classifier : Classifier Number) (id : Nat) (inst : Instance Blackout Number) :
    Prop where
  store : inst.store = Blackout.store id
  strategy : inst.strategy = classifier.strategy (Blackout.store id)

/-- The counters of an analyzer. There are none as long as its strategy is not in use. -/
def counters (deployment : Deployment Blackout Number) (name : String) : Entries Int :=
  (deployment.registry.instances.get? name).elim [] fun inst => inst.store.content deployment.stores

/-- Every analyzer is the classifier of its name, and those in use have stores of their own. -/
structure InOrder (classifiers : String → Classifier Number)
    (deployment : Deployment Blackout Number) : Prop where
  wellFormed : deployment.registry.WellFormed
  asks : ∀ entry ∈ deployment.registry.configs, Asks entry.2 (classifiers entry.1)
  inUse : ∀ name inst, deployment.registry.instances.get? name = some inst →
    ∃ id < deployment.stores.shelf.length, Serves (classifiers name) id inst
  apart : ∀ name other inst inst', deployment.registry.instances.get? name = some inst →
    deployment.registry.instances.get? other = some inst' → inst.store.id = inst'.store.id →
    name = other

/-- The analyzers have learned the stocks of their names. -/
def Learned (classifiers : String → Classifier Number) (stocks : String → Stock)
    (deployment : Deployment Blackout Number) : Prop :=
  ∀ name, Keeps (classifiers name).scope [] (stocks name).balance (counters deployment name)

/-- What resolving leaves as it is: which analyzers there are, which stores cannot be reached, the
strategies in use, and what has been learned. -/
structure Retains (before after : Deployment Blackout Number) : Prop where
  configs : after.registry.configs = before.registry.configs
  refuses : after.stores.refuses = before.stores.refuses
  down : after.stores.down = before.stores.down
  inUse : ∀ name inst, before.registry.instances.get? name = some inst →
    after.registry.instances.get? name = some inst
  counters : ∀ name, counters after name = counters before name

variable {classifiers : String → Classifier Number} {stocks : String → Stock}
  {before after final : Deployment Blackout Number}

/-- What does nothing retains everything. -/
theorem Retains.refl (deployment : Deployment Blackout Number) : Retains deployment deployment where
  configs := rfl
  refuses := rfl
  down := rfl
  inUse _ _ h := h
  counters _ := rfl

/-- What two steps retain, both of them do. -/
theorem Retains.trans (h : Retains before after) (h' : Retains after final) :
    Retains before final where
  configs := h'.configs.trans h.configs
  refuses := h'.refuses.trans h.refuses
  down := h'.down.trans h.down
  inUse name inst hinst := h'.inUse name inst (h.inUse name inst hinst)
  counters name := (h'.counters name).trans (h.counters name)

/-- What the analyzers have learned is a matter of their counters, so it is retained with these. -/
theorem Learned.retained (learned : Learned classifiers stocks before)
    (retains : Retains before after) : Learned classifiers stocks after := by
  intro name
  rw [retains.counters]
  exact learned name

/-- The counters of an analyzer in use are the content of its store. -/
theorem counters_of_inUse (deployment : Deployment Blackout Number) {name : String} {id : Nat}
    {inst : Instance Blackout Number} (h : deployment.registry.instances.get? name = some inst)
    (serves : Serves (classifiers name) id inst) :
    counters deployment name = Memory.contentOf id deployment.stores := by
  rw [counters, h, Option.elim_some, serves.store]
  rfl

/-- An analyzer that is not in use has no counters. -/
theorem counters_of_unused (deployment : Deployment Blackout Number) {name : String}
    (h : deployment.registry.instances.get? name = none) : counters deployment name = [] := by
  rw [counters, h, Option.elim_none]

/-- The counters of an analyzer stay as they are, if its strategy and the content of its store do. -/
theorem InOrder.counters_congr (inOrder : InOrder classifiers before) {name : String}
    (same : after.registry.instances.get? name = before.registry.instances.get? name)
    (contents : ∀ inst id, before.registry.instances.get? name = some inst →
      id < before.stores.shelf.length → inst.store = Blackout.store id →
      Memory.contentOf id after.stores = Memory.contentOf id before.stores) :
    counters after name = counters before name := by
  cases h : before.registry.instances.get? name with
  | none => rw [counters_of_unused before h, counters_of_unused after (same.trans h)]
  | some inst =>
    obtain ⟨id, bound, serves⟩ := inOrder.inUse name inst h
    rw [counters_of_inUse before h serves, counters_of_inUse after (same.trans h) serves,
      contents inst id h bound serves.store]

/-! ### Resolving -/

/-- A deployment whose shelf has an empty content more. -/
def withPlace (deployment : Deployment Blackout Number) : Deployment Blackout Number :=
  { deployment with stores :=
    { deployment.stores with shelf := deployment.stores.shelf ++ [[]] } }

/-- A place more on the shelf is nobody's, so the analyzers stay in order. -/
theorem InOrder.place (inOrder : InOrder classifiers before) :
    InOrder classifiers (withPlace before) where
  wellFormed := inOrder.wellFormed
  asks := inOrder.asks
  inUse name inst h := by
    obtain ⟨id, bound, serves⟩ := inOrder.inUse name inst h
    refine ⟨id, ?_, serves⟩
    show id < (before.stores.shelf ++ [[]]).length
    rw [List.length_append]
    omega
  apart := inOrder.apart

/-- The contents that there are stay where they are. -/
theorem contentOf_withPlace {id : Nat} (bound : id < before.stores.shelf.length) :
    Memory.contentOf id (withPlace before).stores = Memory.contentOf id before.stores := by
  show (before.stores.shelf ++ [[]])[id]?.getD [] = before.stores.shelf[id]?.getD []
  rw [List.getElem?_append_left bound]

/-- Nobody notices a place more on the shelf. -/
theorem retains_withPlace (inOrder : InOrder classifiers before) :
    Retains before (withPlace before) where
  configs := rfl
  refuses := rfl
  down := rfl
  inUse _ _ h := h
  counters _ := inOrder.counters_congr rfl fun _ _ _ bound _ => contentOf_withPlace bound

/-- A classifier on the next store, which is built for a configuration. -/
def enlisted (deployment : Deployment Blackout Number) (config : AnalyzerConfig)
    (classifier : Classifier Number) : Instance Blackout Number × Registry Blackout Number :=
  let store := Blackout.store deployment.stores.shelf.length
  deployment.registry.adopt config store (classifier.strategy store)

/-- Building a strategy opens a store, which may be refused. It never fails otherwise. -/
theorem outcome_construct {config : AnalyzerConfig} {classifier : Classifier Number}
    (asks : Asks config classifier) (deployment : Deployment Blackout Number) :
    (Deployment.run (construct blackoutFactories config)).outcome deployment
      = if deployment.stores.refuses deployment.stores.shelf.length then
          (.error Blackout.outage, withPlace deployment)
        else (.ok (enlisted deployment config classifier).1,
          { withPlace deployment with registry := (enlisted deployment config classifier).2 }) := by
  have strategy : blackoutFactories.strategies.lookup config.strategy = some makeBayes := by
    rw [asks.strategy]
    rfl
  have adapter : blackoutFactories.stores.lookup config.adapter
      = some fun _ => Blackout.openStore := by
    rw [asks.adapter]
    rfl
  have made (store : Store Blackout) :
      makeBayes config.name store config.options.named config.params.named
        = .ok (classifier.strategy store) := by
    rw [makeBayes, asks.options]
    rfl
  have opened := Deployment.outcome_run_openStore (α := Number)
    (Blackout.outcome_openStore deployment.stores)
  -- The strategy and the adapter are known by name, and the options were accepted beforehand, so
  -- nothing but the opening of the store is left to fail.
  rw [construct, strategy, adapter]
  dsimp only
  rw [Deployment.run_bind]
  by_cases refused : deployment.stores.refuses deployment.stores.shelf.length = true
  · rw [if_pos refused] at opened ⊢
    exact Act.outcome_bind_error opened
  · rw [if_neg refused] at opened ⊢
    rw [Act.outcome_bind_ok opened, made]
    rfl

section Enlisting

variable {config : AnalyzerConfig} {classifier : Classifier Number}

/-- The analyzer of a configuration is in use once it is enlisted, and the others are what they
were. -/
theorem get?_enlisted (deployment : Deployment Blackout Number) (config : AnalyzerConfig)
    (classifier : Classifier Number) (name : String) :
    (enlisted deployment config classifier).2.instances.get? name
      = if config.name = name then some (enlisted deployment config classifier).1
        else deployment.registry.instances.get? name :=
  Entries.get?_set ..

/-- The next store is none of those in use. -/
theorem InOrder.id_ne (inOrder : InOrder classifiers before) {name : String}
    {inst : Instance Blackout Number} (h : before.registry.instances.get? name = some inst) :
    inst.store.id ≠ (enlisted before config classifier).1.store.id := by
  obtain ⟨id, bound, serves⟩ := inOrder.inUse name inst h
  rw [serves.store]
  show id ≠ before.stores.shelf.length
  omega

/-- An analyzer that is enlisted has the next store, so the stores in use stay apart. -/
theorem InOrder.enlist (inOrder : InOrder classifiers before) (config : AnalyzerConfig) :
    InOrder classifiers { withPlace before with
      registry := (enlisted before config (classifiers config.name)).2 } where
  wellFormed := inOrder.wellFormed.adopt ..
  asks := inOrder.asks
  inUse name inst h := by
    have place : (withPlace before).stores.shelf.length = before.stores.shelf.length + 1 :=
      List.length_append
    rw [get?_enlisted] at h
    split at h
    · next same =>
      cases h
      subst same
      exact ⟨before.stores.shelf.length, by rw [place]; omega, rfl, rfl⟩
    · obtain ⟨id, bound, serves⟩ := inOrder.inUse name inst h
      exact ⟨id, by rw [place]; omega, serves⟩
  apart name other inst inst' h h' same := by
    rw [get?_enlisted] at h h'
    -- Of two analyzers in use, none, one or both may be the one that is enlisted.
    split at h <;> split at h'
    · next first second => exact first.symm.trans second
    · cases h
      exact absurd same.symm (inOrder.id_ne h')
    · cases h'
      exact absurd same (inOrder.id_ne h)
    · exact inOrder.apart name other inst inst' h h' same

/-- A classifier that is taken into use has learned nothing, as it had before. -/
theorem retains_enlist (inOrder : InOrder classifiers before)
    (unused : before.registry.instances.get? config.name = none) :
    Retains before { withPlace before with
      registry := (enlisted before config (classifiers config.name)).2 } where
  configs := rfl
  refuses := rfl
  down := rfl
  inUse name inst h := by
    rw [get?_enlisted, if_neg]
    · exact h
    · rintro rfl
      rw [unused] at h
      cases h
  counters name := by
    -- The new store is empty, as the counters of an analyzer without a store are.
    by_cases same : config.name = name
    · subst same
      rw [counters_of_unused before unused, counters, get?_enlisted, if_pos rfl]
      show (before.stores.shelf ++ [[]])[before.stores.shelf.length]?.getD [] = []
      simp
    · refine inOrder.counters_congr ?_ fun _ _ _ bound _ => contentOf_withPlace bound
      rw [get?_enlisted, if_neg same]

end Enlisting

/-- What resolving an analyzer gives: a strategy in use, or an outage as its store refuses to open. -/
def Gives (deployment : Deployment Blackout Number) (name : String)
    (result : Except Error (Instance Blackout Number)) : Prop :=
  (∃ inst, result = .ok inst ∧ deployment.registry.instances.get? name = some inst)
    ∨ result = .error Blackout.outage ∧ ∃ id, deployment.stores.refuses id = true

/-- What resolving has given stays true as long as strategies stay in use. -/
theorem Gives.retained {name : String} {result : Except Error (Instance Blackout Number)}
    (gives : Gives before name result) (retains : Retains before after) :
    Gives after name result := by
  rcases gives with ⟨inst, ok, used⟩ | ⟨failed, refused⟩
  · exact Or.inl ⟨inst, ok, retains.inUse name inst used⟩
  · exact Or.inr ⟨failed, by rwa [retains.refuses]⟩

/-- Resolving an analyzer changes nothing but that its strategy is in use. -/
theorem InOrder.resolve_stop (inOrder : InOrder classifiers before) {name : String}
    (listed : name ∈ before.registry.names) :
    let resolved := (Deployment.resolve blackoutFactories name).outcome before
    InOrder classifiers resolved.2 ∧ Retains before resolved.2
      ∧ Gives resolved.2 name resolved.1 := by
  intro resolved
  obtain ⟨⟨key, config⟩, hmem, same⟩ := List.mem_map.mp listed
  have named : config.name = key := inOrder.wellFormed.named _ hmem
  obtain rfl : config.name = name := named.trans same
  have configured : before.registry.configs.get? config.name = some config := by
    rw [named]
    exact Entries.get?_of_mem inOrder.wellFormed.distinct hmem
  have outcome : resolved = _ := Deployment.outcome_resolve blackoutFactories config.name before
  rw [configured] at outcome
  -- An analyzer in use is taken as it is. Otherwise it is built, and its store may refuse to open.
  cases h : before.registry.instances.get? config.name with
  | some inst =>
    rw [h] at outcome
    rw [outcome]
    exact ⟨inOrder, Retains.refl before, Or.inl ⟨inst, rfl, h⟩⟩
  | none =>
    have asks : Asks config (classifiers config.name) := named ▸ inOrder.asks _ hmem
    rw [h] at outcome
    dsimp only at outcome
    rw [outcome_construct asks] at outcome
    rw [outcome]
    by_cases refused : before.stores.refuses before.stores.shelf.length = true
    · rw [if_pos refused]
      exact ⟨inOrder.place, retains_withPlace inOrder, Or.inr ⟨rfl, _, refused⟩⟩
    · rw [if_neg refused]
      refine ⟨inOrder.enlist config, retains_enlist inOrder h, Or.inl ⟨_, rfl, ?_⟩⟩
      rw [get?_enlisted, if_pos rfl]

/-- Resolving analyzers one after the other changes nothing but that their strategies are in use. -/
theorem InOrder.resolve_round {names : List String} (inOrder : InOrder classifiers before)
    (listed : ∀ name ∈ names, name ∈ before.registry.names) :
    let round := Act.round (Deployment.resolve blackoutFactories) names before
    InOrder classifiers round.2 ∧ Retains before round.2
      ∧ ∀ entry ∈ round.1, Gives round.2 entry.1 entry.2 := by
  induction names generalizing before with
  | nil => exact ⟨inOrder, Retains.refl before, fun _ h => absurd h List.not_mem_nil⟩
  | cons name names ih =>
    intro round
    obtain ⟨ordered, retains, gives⟩ := inOrder.resolve_stop (listed name List.mem_cons_self)
    have listedAfter : ∀ other ∈ names, other
        ∈ ((Deployment.resolve blackoutFactories name).outcome before).2.registry.names := by
      intro other hother
      rw [Registry.names, retains.configs]
      exact listed other (List.mem_cons_of_mem _ hother)
    obtain ⟨last, retainsLast, rest⟩ := ih ordered listedAfter
    refine ⟨last, retains.trans retainsLast, fun entry hentry => ?_⟩
    -- A strategy that is in use after its stop is in use after the last one.
    rcases List.mem_cons.mp hentry with rfl | hentry
    · exact gives.retained retainsLast
    · exact rest entry hentry

/-! ### Teaching -/

/-- What the analyzers have learned after an operation that has succeeded with some of them. -/
noncomputable def followed (classifiers : String → Classifier Number) (operation : Operation)
    (category text : Value) (succeeded : List String) (stocks : String → Stock) : String → Stock :=
  fun name => if name ∈ succeeded then
    (stocks name).follow (classifiers name) (operation.call category text) else stocks name

variable {operation : Operation} {category : Value} {text : String}

/-- If nobody succeeds, nobody follows. -/
theorem followed_nil : followed classifiers operation category (.text text) [] stocks = stocks := by
  funext name
  rw [followed, if_neg List.not_mem_nil]

/-- An analyzer that succeeds once follows once. -/
theorem followed_cons {name : String} {succeeded : List String} (once : name ∉ succeeded) :
    followed classifiers operation category (.text text) succeeded
        (followed classifiers operation category (.text text) [name] stocks)
      = followed classifiers operation category (.text text) (name :: succeeded) stocks := by
  funext other
  simp only [followed, List.mem_cons]
  by_cases same : other = name
  · subst same
    simp [once]
  · simp [same]

/-- A deployment with another content under a number of the shelf. -/
def withContent (deployment : Deployment Blackout Number) (id : Nat) (content : Entries Int) :
    Deployment Blackout Number :=
  { deployment with stores :=
    { deployment.stores with shelf := deployment.stores.shelf.set id content } }

/-- The order of the analyzers does not depend on what their stores hold. -/
theorem InOrder.write (inOrder : InOrder classifiers before) (id : Nat) (content : Entries Int) :
    InOrder classifiers (withContent before id content) where
  wellFormed := inOrder.wellFormed
  asks := inOrder.asks
  inUse name inst h := by
    obtain ⟨id', bound, serves⟩ := inOrder.inUse name inst h
    refine ⟨id', ?_, serves⟩
    show id' < (before.stores.shelf.set id content).length
    rwa [List.length_set]
  apart := inOrder.apart

/-- Another content is that of the one analyzer whose store has the number. If it keeps a stock, the
analyzer has learned this stock, and the others have what they had. -/
theorem InOrder.learned_write (inOrder : InOrder classifiers before)
    (learned : Learned classifiers stocks before) {name : String} {inst : Instance Blackout Number}
    {id : Nat} (bound : id < before.stores.shelf.length)
    (used : before.registry.instances.get? name = some inst)
    (serves : Serves (classifiers name) id inst) {content : Entries Int} {stocks' : String → Stock}
    (keeps : Keeps (classifiers name).scope [] (stocks' name).balance content)
    (others : ∀ other, other ≠ name → stocks' other = stocks other) :
    Learned classifiers stocks' (withContent before id content) := by
  intro other
  by_cases same : other = name
  · subst same
    rw [counters_of_inUse (withContent before id content) used serves]
    show Keeps _ _ _ (Memory.contentOf id (before.stores.shelf.set id content))
    rwa [Memory.contentOf_set bound]
  · have unchanged : counters (withContent before id content) other = counters before other := by
      refine inOrder.counters_congr rfl fun inst' id' h _ store => ?_
      -- The other analyzer has a store of its own.
      have different : id ≠ id' := by
        rintro rfl
        exact same (inOrder.apart other name inst' inst h used (by rw [serves.store, store]))
      show (before.stores.shelf.set id content)[id']?.getD [] = before.stores.shelf[id']?.getD []
      rw [List.getElem?_set_ne different]
    rw [unchanged, others other same]
    exact learned other

/-- Teaching the strategy of an analyzer in use changes nothing but contents. If it succeeds, what the
analyzer has learned follows the operation; if it fails, a store is out of reach. -/
theorem InOrder.teach_stop (operation : Operation) (text : String)
    (inOrder : InOrder classifiers before) (learned : Learned classifiers stocks before)
    {name : String} {inst : Instance Blackout Number}
    (used : before.registry.instances.get? name = some inst)
    (known : (classifiers name).knows category = true) :
    let taught := (teachOne operation category (.text text) (name, inst)).outcome before
    InOrder classifiers taught.2
      ∧ (∃ shelf, taught.2 = { before with stores := { before.stores with shelf } })
      ∧ (taught.1 = .ok () ∧ Learned classifiers
          (followed classifiers operation category (.text text) [name] stocks) taught.2
        ∨ taught.1 = .error Blackout.outage ∧ Learned classifiers stocks taught.2
          ∧ ∃ id, before.stores.down id = true) := by
  intro taught
  obtain ⟨id, bound, serves⟩ := inOrder.inUse name inst used
  have keeps := learned name
  rw [counters_of_inUse before used serves] at keeps
  obtain ⟨content, changed, result⟩ := outcome_apply operation text bound known keeps
  rw [← serves.strategy] at changed result
  have after : taught.2 = withContent before id content := by
    have ran : taught.2 = { before with stores :=
      ((operation.apply inst.strategy category (.text text)).outcome before.stores).2 } := rfl
    rw [ran, changed]
    rfl
  rw [after]
  refine ⟨inOrder.write id content, ⟨_, rfl⟩, ?_⟩
  -- An operation that fails has left the content as it was.
  rcases result with ⟨ok, follows⟩ | ⟨failed, rfl, down⟩
  · refine Or.inl ⟨ok, inOrder.learned_write learned bound used serves ?_ fun other different => ?_⟩
    · rwa [followed, if_pos (List.mem_singleton_self _)]
    · rw [followed, if_neg (by simpa using different)]
  · exact Or.inr ⟨failed, inOrder.learned_write learned bound used serves keeps fun _ _ => rfl,
      id, down⟩

/-- Teaching analyzers in use one after the other. What those have learned that succeed follows the
operation, and nothing else changes but contents. -/
theorem InOrder.teach_round (operation : Operation) (text : String)
    {entries : List (String × Instance Blackout Number)}
    (inOrder : InOrder classifiers before) (learned : Learned classifiers stocks before)
    (used : ∀ entry ∈ entries, before.registry.instances.get? entry.1 = some entry.2)
    (known : ∀ entry ∈ entries, (classifiers entry.1).knows category = true)
    (distinct : (entries.map (·.1)).Nodup) :
    let round := Act.round (teachOne operation category (.text text)) entries before
    InOrder classifiers round.2
      ∧ (∃ shelf, round.2 = { before with stores := { before.stores with shelf } })
      ∧ Learned classifiers (followed classifiers operation category (.text text)
          ((reached round.1).map (·.1.1)) stocks) round.2
      ∧ ∀ entry ∈ round.1, entry.2 = .ok ()
        ∨ entry.2 = .error Blackout.outage ∧ ∃ id, before.stores.down id = true := by
  -- Each stop changes the deployment and the stocks, and the stops behind it start from there.
  induction entries generalizing before stocks with
  | nil =>
    refine ⟨inOrder, ⟨before.stores.shelf, rfl⟩, ?_, fun _ h => absurd h List.not_mem_nil⟩
    show Learned classifiers (followed classifiers operation category (.text text) [] stocks) before
    rwa [followed_nil]
  | cons entry entries ih =>
    obtain ⟨name, inst⟩ := entry
    obtain ⟨notAgain, distinct⟩ := List.nodup_cons.mp distinct
    obtain ⟨ordered, ⟨shelf, changed⟩, stop⟩ := inOrder.teach_stop operation text learned
      (used _ List.mem_cons_self) (known _ List.mem_cons_self)
    rw [Act.round]
    generalize (teachOne operation category (.text text) (name, inst)).outcome before = taught at *
    obtain ⟨result, after⟩ := taught
    dsimp only at changed stop ordered ⊢
    subst changed
    have usedAfter (e) (he : e ∈ entries) := used e (List.mem_cons_of_mem _ he)
    have knownAfter (e) (he : e ∈ entries) := known e (List.mem_cons_of_mem _ he)
    rcases stop with ⟨rfl, learned⟩ | ⟨rfl, learned, down⟩
    · obtain ⟨last, changed, follows, results⟩ := ih ordered learned usedAfter knownAfter distinct
      refine ⟨last, changed, ?_, fun e he => ?_⟩
      · rw [reached_ok, List.map_cons, ← followed_cons]
        · exact follows
        · -- The names of a round are those of its stops, and this one is behind.
          intro again
          have listed := (reached_sublist (fun entry : String × Instance Blackout Number => entry.1)
            _).mem again
          rw [Act.map_round] at listed
          exact notAgain listed
      · rcases List.mem_cons.mp he with rfl | he
        · exact Or.inl rfl
        · exact results e he
    · obtain ⟨last, changed, follows, results⟩ := ih ordered learned usedAfter knownAfter distinct
      refine ⟨last, changed, ?_, fun e he => ?_⟩
      · rwa [reached_error]
      · rcases List.mem_cons.mp he with rfl | he
        · exact Or.inr ⟨rfl, down⟩
        · exact results e he

/-! ### Training -/

/-- Results that are successes or one kind of outage hold no failures but outages. -/
theorem onlyOutages_of_outage {ι β : Type} {results : List (ι × Except Error β)}
    (h : ∀ entry ∈ results, (∃ x, entry.2 = .ok x) ∨ entry.2 = .error Blackout.outage) :
    OnlyOutages results := by
  intro item e hmem
  rcases h _ hmem with ⟨x, ok⟩ | failed
  · cases ok
  · exact ⟨_, Except.error.inj failed⟩

/-- What a training finds when it has resolved the analyzers. -/
structure Resolved (classifiers : String → Classifier Number)
    (before : Deployment Blackout Number) : Prop where
  inOrder : InOrder classifiers (resolution blackoutFactories before).2
  retains : Retains before (resolution blackoutFactories before).2
  only : OnlyOutages (resolution blackoutFactories before).1
  used : ∀ entry ∈ reached (resolution blackoutFactories before).1,
    (resolution blackoutFactories before).2.registry.instances.get? entry.1 = some entry.2
  complete : (∀ id, before.stores.refuses id = false) →
    ∀ entry ∈ (resolution blackoutFactories before).1, ∃ inst, entry.2 = .ok inst

/-- Resolving all analyzers is a round of them, from which all of this follows. -/
theorem InOrder.resolved (inOrder : InOrder classifiers before) : Resolved classifiers before := by
  obtain ⟨ordered, retains, gives⟩ := inOrder.resolve_round fun name listed => listed
  refine ⟨ordered, retains, onlyOutages_of_outage fun entry hentry => ?_, fun entry hentry => ?_,
    fun opens entry hentry => ?_⟩
  · exact (gives entry hentry).imp (fun ⟨inst, ok, _⟩ => ⟨inst, ok⟩) And.left
  · rcases gives _ (mem_reached_iff.mp hentry) with ⟨inst, ok, used⟩ | ⟨failed, -⟩
    · cases ok
      exact used
    · cases failed
  · rcases gives entry hentry with ⟨inst, ok, -⟩ | ⟨-, id, refused⟩
    · exact ⟨inst, ok⟩
    · -- An analyzer is out of reach only if its store was refused, and here every store opens.
      rw [retains.refuses, opens id] at refused
      cases refused

namespace Resolved

/-- The strategies that were reached know what their classifiers know. -/
theorem rejecting_eq_nil_iff (resolved : Resolved classifiers before) (category : Value) :
    rejecting category (reached (resolution blackoutFactories before).1) = []
      ↔ ∀ entry ∈ reached (resolution blackoutFactories before).1,
        (classifiers entry.1).knows category = true := by
  rw [Service.rejecting_eq_nil_iff]
  refine forall_congr' fun entry => forall_congr' fun hentry => ?_
  obtain ⟨id, -, serves⟩ := resolved.inOrder.inUse _ _ (resolved.used entry hentry)
  rw [serves.strategy]
  rfl

/-- If no store refuses to open, all analyzers are reached. -/
theorem map_reached (resolved : Resolved classifiers before)
    (opens : ∀ id, before.stores.refuses id = false) :
    (reached (resolution blackoutFactories before).1).map (·.1) = before.registry.names := by
  have all := (reached_of_ok (fun name => name) (resolved.complete opens)).1
  exact all.trans map_resolution

end Resolved

/-- What a training of the analyzers that were reached comes to. -/
theorem InOrder.lessons_follow (operation : Operation) (text : String)
    (inOrder : InOrder classifiers before) (learned : Learned classifiers stocks before)
    (known : ∀ entry ∈ reached (resolution blackoutFactories before).1,
      (classifiers entry.1).knows category = true) :
    let round := lessons blackoutFactories operation category (.text text) before
    InOrder classifiers round.2 ∧ round.2.registry.configs = before.registry.configs
      ∧ Learned classifiers (followed classifiers operation category (.text text)
          (succeeded blackoutFactories operation category (.text text) before) stocks) round.2
      ∧ OnlyOutages round.1
      ∧ ((∀ id, before.stores.down id = false) → ∀ entry ∈ round.1, ∃ x, entry.2 = .ok x) := by
  have resolved := inOrder.resolved
  have listed : ((reached (resolution blackoutFactories before).1).map (·.1)).Sublist
      before.registry.names := resolved_sublist
  obtain ⟨ordered, ⟨shelf, changed⟩, follows, results⟩ := resolved.inOrder.teach_round operation text
    (learned.retained resolved.retains) resolved.used known
    (inOrder.wellFormed.distinct.sublist listed)
  -- Teaching changes contents, so the configurations and the outages are as they were resolved.
  refine ⟨ordered, ?_, follows, onlyOutages_of_outage fun entry hentry => ?_,
    fun up entry hentry => ?_⟩
  · exact (congrArg (·.registry.configs) changed).trans resolved.retains.configs
  · exact (results entry hentry).imp (fun ok => ⟨(), ok⟩) And.left
  · rcases results entry hentry with ok | ⟨-, id, down⟩
    · exact ⟨(), ok⟩
    · rw [resolved.retains.down, up id] at down
      cases down

/-- A training leaves the analyzers in order. What those have learned that it reports as successes
follows it, and what the others have learned stays as it was. -/
theorem InOrder.teach_follows (operation : Operation) (category text : String)
    (inOrder : InOrder classifiers before) (learned : Learned classifiers stocks before) :
    let outcome := (teach blackoutFactories operation (.text category) (.text text)).outcome before
    InOrder classifiers outcome.2 ∧ outcome.2.registry.configs = before.registry.configs
      ∧ ∃ succeeded, (∀ report, outcome.1 = .ok report → report.succeeded = succeeded)
        ∧ (∀ name ∈ succeeded, (classifiers name).knows (.text category) = true)
        ∧ Learned classifiers (followed classifiers operation (.text category) (.text text) succeeded
            stocks) outcome.2 := by
  intro outcome
  have resolved := inOrder.resolved
  have showable : Value.requireShowable [.text category] = .ok () := rfl
  -- Either all analyzers that were reached know the category, or the training is refused before
  -- anything is taught.
  by_cases foreign : rejecting (.text category) (reached (resolution blackoutFactories before).1) = []
  · have known := (resolved.rejecting_eq_nil_iff _).mp foreign
    obtain ⟨ordered, configs, follows, taught, -⟩ := inOrder.lessons_follow operation text learned known
    have reported : outcome = _ := outcome_teach_of_known resolved.only showable foreign taught
    rw [reported]
    refine ⟨ordered, configs, _, fun report ok => ?_, fun name hname => ?_, follows⟩
    · dsimp only at ok
      split at ok
      · cases ok
      · cases ok
        rfl
    · obtain ⟨entry, hentry, rfl⟩ := List.mem_map.mp (succeeded_sublist_resolved.mem hname)
      exact known entry hentry
  · have refused : outcome = _ := outcome_teach_of_foreign resolved.only showable foreign
    rw [refused]
    refine ⟨resolved.inOrder, resolved.retains.configs, [], fun report ok => ?_,
      fun name none => absurd none List.not_mem_nil, ?_⟩
    · cases ok
    · rw [followed_nil]
      exact learned.retained resolved.retains

/-- If all stores can be reached and all analyzers know the category, a training succeeds with all of
them. -/
theorem InOrder.teach_complete (operation : Operation) {category : String} (text : String)
    (inOrder : InOrder classifiers before) (learned : Learned classifiers stocks before)
    (known : ∀ name ∈ before.registry.names, (classifiers name).knows (.text category) = true)
    (reach : ∀ id, before.stores.refuses id = false ∧ before.stores.down id = false) :
    ((teach blackoutFactories operation (.text category) (.text text)).outcome before).1
      = .ok { operation, category := .text category, succeeded := before.registry.names,
              failed := [] } := by
  have resolved := inOrder.resolved
  have all := resolved.map_reached fun id => (reach id).1
  have knownReached : ∀ entry ∈ reached (resolution blackoutFactories before).1,
      (classifiers entry.1).knows (.text category) = true := by
    intro entry hentry
    refine known _ ?_
    rw [← all]
    exact List.mem_map_of_mem hentry
  obtain ⟨-, -, -, taught, complete⟩ := inOrder.lessons_follow operation text learned knownReached
  -- Everyone is reached twice: when it is resolved and when it is taught.
  have everyone : succeeded blackoutFactories operation (.text category) (.text text) before
      = before.registry.names := by
    rw [← all, succeeded]
    exact (reached_of_ok (fun entry : String × Instance Blackout Number => entry.1)
      (complete fun id => (reach id).2)).1.trans map_lessons
  have nobody : failed blackoutFactories operation (.text category) (.text text) before = [] := by
    rw [failed, (reached_of_ok _ (resolved.complete fun id => (reach id).1)).2,
      (reached_of_ok _ (complete fun id => (reach id).2)).2]
    rfl
  rw [outcome_teach_of_known resolved.only rfl ((resolved.rejecting_eq_nil_iff _).mpr knownReached)
    taught, everyone, nobody]
  rfl

/-- If no store refuses to open and some analyzer does not know the category, a training is refused
and nothing is learned. -/
theorem InOrder.teach_refused (operation : Operation) {category : String} (text : String)
    (inOrder : InOrder classifiers before) (learned : Learned classifiers stocks before)
    {name : String} (listed : name ∈ before.registry.names)
    (unknown : (classifiers name).knows (.text category) = false)
    (opens : ∀ id, before.stores.refuses id = false) :
    let outcome := (teach blackoutFactories operation (.text category) (.text text)).outcome before
    (∃ e, outcome.1 = .error e) ∧ Learned classifiers stocks outcome.2 := by
  intro outcome
  have resolved := inOrder.resolved
  -- All analyzers are reached, so the one that does not know the category is among them.
  have foreign : rejecting (.text category) (reached (resolution blackoutFactories before).1) ≠ [] := by
    intro none
    rw [← resolved.map_reached opens] at listed
    obtain ⟨entry, hentry, rfl⟩ := List.mem_map.mp listed
    rw [(resolved.rejecting_eq_nil_iff _).mp none entry hentry] at unknown
    cases unknown
  have refused : outcome = _ := outcome_teach_of_foreign resolved.only rfl foreign
  rw [refused]
  exact ⟨⟨_, rfl⟩, learned.retained resolved.retains⟩

end Moderation.Service
