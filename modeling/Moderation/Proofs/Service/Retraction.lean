import Moderation.Proofs.Bayes.Reversal
import Moderation.Proofs.Bayes.Subtraction
import Moderation.Proofs.Service.Learned

/-!
# `Moderation.Proofs.Service.Retraction`: taking back a training that some analyzers have missed

A text is learned while some stores cannot be reached, and forgotten when all of them can. The second
training reaches analyzers that the first has not, and an analyzer does not remember what it has
missed: it forgets the tokens of the text that it has learned from other texts.

`get?_retracted_iff` says exactly which analyzers have their counters back, after any trainings with
any outages before.

* If all analyzers know the category, these are the ones that have learned the text, and those that
  hold no token of it.
* If some do not, which happens only if they have missed the text, the forgetting is refused. Those
  that have learned the text keep it.

`not_retracted_offer` is an analyzer that loses what it had learned from a text that was not taken back.
-/

set_option autoImplicit false

namespace Moderation.Service

open Store Bayes Tokenizer

variable {scope : String} {content after : Entries Int} {stock : Stock}

/-! ### Contents that hold the same -/

/-- Learning changes a content. -/
theorem get?_learn_ne (lesson : Lesson) (keeps : Keeps scope [] stock.balance content)
    (keeps' : Keeps scope [] (stock.learn lesson).balance after) :
    ¬ ∀ key, after.get? key = content.get? key := by
  intro same
  have texts : ((stock.learn lesson).1 lesson.category : ℤ) = stock.1 lesson.category :=
    balance_eq_of_get?_eq keeps keeps' (.messages lesson.category) trivial (same _)
  rw [Stock.learn, Stock.ofLesson, Prod.fst_add, Prod.fst_add, Stock.ofCounts_fst] at texts
  simp [Stock.ofMessage] at texts

/-- Forgetting leaves a content as it is iff no count of a token of the lesson is stored. -/
theorem get?_forget_iff (lesson : Lesson) (keeps : Keeps scope [] stock.balance content)
    (keeps' : Keeps scope [] (stock.forget lesson).balance after) :
    (∀ key, after.get? key = content.get? key)
      ↔ ∀ token ∈ lesson.counts.keys,
        content.get? ((Counter.count lesson.category token).key scope) = none := by
  rw [keeps.get?_forget_iff keeps']
  refine forall_congr' fun token => imp_congr_right fun listed => ?_
  obtain ⟨entry, hentry, rfl⟩ := List.mem_map.mp listed
  -- A counter is stored iff it is above zero, so an amount of nothing and a missing key are one.
  have proper : (Counter.count lesson.category entry.1).IsProper := lesson.isToken entry hentry
  have nonneg : (0 : ℤ) ≤ stock.balance (.count lesson.category entry.1) := Int.natCast_nonneg _
  rw [keeps.amount_eq _ proper, keeps.counter proper]
  split
  · next zero => exact iff_of_true zero.le rfl
  · next held => exact iff_of_false (by omega) nofun

/-! ### Trainings with outages -/

/-- A training during which some stores cannot be reached. -/
structure Occasion where
  operation : Operation
  category : String
  text : String
  /-- The stores that refuse to open. -/
  refuses : Nat → Bool
  /-- The stores that fail at every request. -/
  down : Nat → Bool

/-- A deployment while some stores cannot be reached. -/
def during (occasion : Occasion) (deployment : Deployment Blackout Number) :
    Deployment Blackout Number :=
  { deployment with stores :=
    { deployment.stores with refuses := occasion.refuses, down := occasion.down } }

/-- What a training comes to. -/
def Occasion.outcome (occasion : Occasion) (deployment : Deployment Blackout Number) :
    Except Error Report × Deployment Blackout Number :=
  (teach blackoutFactories occasion.operation (.text occasion.category)
    (.text occasion.text)).outcome (during occasion deployment)

/-- The deployment after some trainings, one after the other. -/
def afterAll (history : List Occasion) (deployment : Deployment Blackout Number) :
    Deployment Blackout Number :=
  history.foldl (fun deployment occasion => (occasion.outcome deployment).2) deployment

/-- A registry before its stores are opened. -/
def unopened (registry : Registry Blackout Number) : Deployment Blackout Number where
  registry := registry
  stores := { shelf := [], refuses := fun _ => false, down := fun _ => false }

variable {classifiers : String → Classifier Number} {stocks : String → Stock}
  {before : Deployment Blackout Number}

/-- Whether stores can be reached does not matter to what has been learned. -/
theorem InOrder.during (inOrder : InOrder classifiers before) (occasion : Occasion) :
    InOrder classifiers (during occasion before) where
  wellFormed := inOrder.wellFormed
  asks := inOrder.asks
  inUse := inOrder.inUse
  apart := inOrder.apart

/-- Whether stores can be reached does not matter to the counters. -/
theorem counters_during (inOrder : InOrder classifiers before) (occasion : Occasion) (name : String) :
    counters (during occasion before) name = counters before name :=
  inOrder.counters_congr rfl fun _ _ _ _ _ => rfl

/-- What has been learned stays learned, also while stores cannot be reached. -/
theorem Learned.during (learned : Learned classifiers stocks before)
    (inOrder : InOrder classifiers before) (occasion : Occasion) :
    Learned classifiers stocks (during occasion before) := by
  intro name
  rw [counters_during inOrder]
  exact learned name

/-- What one training leaves: the analyzers in order, and more or less learned. -/
theorem InOrder.outcome (inOrder : InOrder classifiers before)
    (learned : Learned classifiers stocks before) (occasion : Occasion) :
    InOrder classifiers (occasion.outcome before).2
      ∧ (occasion.outcome before).2.registry.configs = before.registry.configs
      ∧ ∃ succeeded, (∀ report, (occasion.outcome before).1 = .ok report →
          report.succeeded = succeeded)
        ∧ (∀ name ∈ succeeded, (classifiers name).knows (.text occasion.category) = true)
        ∧ Learned classifiers (followed classifiers occasion.operation (.text occasion.category)
            (.text occasion.text) succeeded stocks) (occasion.outcome before).2 :=
  (inOrder.during occasion).teach_follows occasion.operation occasion.category occasion.text
    (learned.during inOrder occasion)

/-- Whatever trainings there were, the analyzers are in order and have learned some stocks. -/
theorem InOrder.afterAll (inOrder : InOrder classifiers before)
    (learned : Learned classifiers stocks before) (history : List Occasion) :
    InOrder classifiers (afterAll history before)
      ∧ (afterAll history before).registry.configs = before.registry.configs
      ∧ ∃ stocks, Learned classifiers stocks (afterAll history before) := by
  induction history generalizing before stocks with
  | nil => exact ⟨inOrder, rfl, stocks, learned⟩
  | cons occasion history ih =>
    obtain ⟨ordered, configs, succeeded, -, -, follows⟩ := inOrder.outcome learned occasion
    obtain ⟨last, same, learnedLast⟩ := ih ordered follows
    exact ⟨last, same.trans configs, learnedLast⟩

/-- Registering analyzers takes no strategy into use. -/
theorem instances_ofConfigs {configs : List AnalyzerConfig} {registry : Registry Blackout Number}
    (made : Registry.ofConfigs configs = .ok registry) : registry.instances = [] := by
  -- The registry is folded over the configurations, so the induction is about any registry to start
  -- from.
  suffices h : ∀ start : Registry Blackout Number, start.instances = [] →
      configs.foldlM (fun registry config => Registry.register config registry) start = .ok registry →
      registry.instances = [] from h Registry.empty rfl made
  clear made
  induction configs with
  | nil =>
    intro start unused made
    cases made
    exact unused
  | cons config configs ih =>
    intro start unused made
    rw [List.foldlM_cons] at made
    have free : start.isResolved config.name = false := by
      rw [Registry.isResolved, unused]
      rfl
    rw [Registry.register, free] at made
    exact ih { start with configs := start.configs.set config.name config } unused made

/-- Analyzers that were only registered are in order, and have learned nothing. -/
theorem inOrder_unopened {configs : List AnalyzerConfig} {registry : Registry Blackout Number}
    (made : Registry.ofConfigs configs = .ok registry)
    (asks : ∀ entry ∈ registry.configs, Asks entry.2 (classifiers entry.1)) :
    InOrder classifiers (unopened registry) ∧ Learned classifiers (fun _ => 0) (unopened registry) := by
  -- No analyzer has an instance yet, so what is asked of the instances holds of none.
  have unused (name : String) : registry.instances.get? name = none := by
    rw [instances_ofConfigs made]
    rfl
  have absent (name : String) (inst : Instance Blackout Number) :
      registry.instances.get? name ≠ some inst := by
    rw [unused name]
    exact nofun
  refine ⟨⟨Registry.wellFormed_ofConfigs made, asks, fun name inst h => absurd h (absent name inst),
    fun name _ inst _ h => absurd h (absent name inst)⟩, fun name => ?_⟩
  rw [counters_of_unused (unopened registry) (unused name)]
  exact Keeps.of_nothing fun _ _ => rfl

/-! ### Taking a training back -/

/-- Learning a text in a category, while some stores cannot be reached. -/
def learning (category text : String) (refuses down : Nat → Bool) : Occasion :=
  { operation := .train, category, text, refuses, down }

/-- Forgetting the text again, when all stores can be reached. -/
def retraction (category text : String) : Occasion :=
  { operation := .untrain, category, text, refuses := fun _ => false, down := fun _ => false }

/-- Learning a text changes the counters iff it has tokens. -/
theorem get?_train_iff {classifier : Classifier Number} {category text : String}
    (known : classifier.knows (.text category) = true)
    (keeps : Keeps classifier.scope [] stock.balance content)
    (keeps' : Keeps classifier.scope []
      (stock.follow classifier (.train (.text category) (.text text))).balance after) :
    (∀ key, after.get? key = content.get? key)
      ↔ tokenize classifier.settings.tokenizer text = [] := by
  -- A text without tokens is no lesson. Any other adds to the message count at least.
  rcases Classifier.lesson?_text text known with ⟨empty, none⟩ | ⟨nonempty, lesson, some, -, -⟩
  · rw [Stock.follow, none] at keeps'
    exact ⟨fun _ => empty, fun _ => keeps'.get?_eq keeps⟩
  · rw [Stock.follow, some] at keeps'
    exact ⟨fun same => absurd same (get?_learn_ne lesson keeps keeps'), fun empty =>
      absurd empty nonempty⟩

/-- Forgetting a text changes the counters iff the category holds one of its tokens. -/
theorem get?_untrain_iff {classifier : Classifier Number} {category text : String}
    (known : classifier.knows (.text category) = true)
    (keeps : Keeps classifier.scope [] stock.balance content)
    (keeps' : Keeps classifier.scope []
      (stock.follow classifier (.untrain (.text category) (.text text))).balance after) :
    (∀ key, after.get? key = content.get? key)
      ↔ ∀ token ∈ tokenize classifier.settings.tokenizer text,
        content.get? ((Counter.count category token).key classifier.scope) = none := by
  -- A text without tokens is no lesson, and there is no token of it to look for.
  rcases Classifier.lesson?_text text known with ⟨empty, none⟩ | ⟨-, lesson, some, label, counts⟩
  · rw [Stock.follow, none] at keeps'
    rw [empty]
    exact ⟨fun _ token h => absurd h List.not_mem_nil, fun _ => keeps'.get?_eq keeps⟩
  · rw [Stock.follow, some] at keeps'
    rw [get?_forget_iff lesson keeps keeps', label, counts]
    exact forall_congr' fun token => imp_congr (mem_keys_frequencies _ token) Iff.rfl

/-- Forgetting a text that all analyzers know how to forget. Those that have learned it are back where
they were, and the others forget it all the same. -/
theorem InOrder.retract {taught : Deployment Blackout Number} {category text : String}
    {succeeded : List String} (inOrder : InOrder classifiers taught)
    (learned : Learned classifiers
      (followed classifiers .train (.text category) (.text text) succeeded stocks) taught)
    (known : ∀ name ∈ taught.registry.names, (classifiers name).knows (.text category) = true) :
    let retracted := (retraction category text).outcome taught
    (∃ complete, retracted.1 = .ok complete ∧ complete.isComplete = true)
      ∧ ∀ name ∈ taught.registry.names, Keeps (classifiers name).scope []
        (if name ∈ succeeded then stocks name else (stocks name).follow (classifiers name)
          (.untrain (.text category) (.text text))).balance (counters retracted.2 name) := by
  intro retracted
  have now := inOrder.during (retraction category text)
  have learnedNow := learned.during inOrder (retraction category text)
  have complete := now.teach_complete .untrain text learnedNow known fun _ => ⟨rfl, rfl⟩
  obtain ⟨-, -, all, reported, -, follows⟩ := now.teach_follows .untrain category text learnedNow
  have everyone : taught.registry.names = all := reported _ complete
  refine ⟨⟨_, complete, rfl⟩, fun name listed => ?_⟩
  have left := follows name
  rw [followed, ← everyone, if_pos listed, followed, Operation.call] at left
  -- Learning a lesson and forgetting it cancel out. Who has missed the lesson forgets it alone.
  by_cases had : name ∈ succeeded
  · rw [if_pos had, Operation.call, Stock.follow_train, Stock.follow_untrain] at left
    rwa [if_pos had]
  · rw [if_neg had] at left
    rwa [if_neg had]

/-- Which analyzers have their counters back when a text that was learned during outages is forgotten.
If all analyzers know the category, these are the ones that have learned the text, and those in which
the category holds none of its tokens. If some analyzer does not know it, the forgetting is refused,
and these are the ones that have not learned the text, if it has tokens. -/
theorem get?_retracted_iff {configs : List AnalyzerConfig} {registry : Registry Blackout Number}
    {classifiers : String → Classifier Number} (made : Registry.ofConfigs configs = .ok registry)
    (asks : ∀ entry ∈ registry.configs, Asks entry.2 (classifiers entry.1))
    (history : List Occasion) {category text : String} {refuses down : Nat → Bool} {report : Report}
    {taught : Deployment Blackout Number}
    (trained : (learning category text refuses down).outcome (afterAll history (unopened registry))
      = (.ok report, taught)) :
    let before := afterAll history (unopened registry)
    let retracted := (retraction category text).outcome taught
    let tokens (name : String) := tokenize (classifiers name).settings.tokenizer text
    let same (name : String) : Prop :=
      ∀ key, (counters retracted.2 name).get? key = (counters before name).get? key
    ((∀ name ∈ registry.names, (classifiers name).knows (.text category) = true) →
      (∃ complete, retracted.1 = .ok complete ∧ complete.isComplete = true)
      ∧ ∀ name ∈ registry.names, same name ↔ name ∈ report.succeeded
        ∨ ∀ token ∈ tokens name, (counters before name).get?
          ((Counter.count category token).key (classifiers name).scope) = none)
    ∧ ((∃ name ∈ registry.names, (classifiers name).knows (.text category) = false) →
      (∃ e, retracted.1 = .error e)
      ∧ ∀ name ∈ registry.names, same name ↔ name ∉ report.succeeded ∨ tokens name = []) := by
  intro before retracted tokens same
  obtain ⟨inOrder, learned⟩ := inOrder_unopened made asks
  obtain ⟨inOrder, configured, stocks, learned⟩ := inOrder.afterAll learned history
  obtain ⟨ordered, configs, succeeded, reported, known, follows⟩ :=
    inOrder.outcome learned (learning category text refuses down)
  rw [trained] at ordered configs reported follows
  obtain rfl := reported report rfl
  have names : taught.registry.names = registry.names :=
    congrArg Entries.keys (configs.trans configured)
  -- In each case the analyzers divide into those that have learned the text and those that have
  -- missed it.
  constructor
  · intro everyone
    rw [← names] at everyone ⊢
    obtain ⟨complete, left⟩ := ordered.retract follows everyone
    refine ⟨complete, fun name listed => ?_⟩
    have after := left name listed
    by_cases had : name ∈ report.succeeded
    · rw [if_pos had] at after
      exact ⟨fun _ => Or.inl had, fun _ => after.get?_eq (learned name)⟩
    · rw [if_neg had] at after
      have unheld := get?_untrain_iff (everyone name listed) (learned name) after
      exact ⟨fun back => Or.inr (unheld.mp back), fun h => unheld.mpr (h.resolve_left had)⟩
  · -- Whoever knows the category has its lesson still, as the refusal comes before any teaching.
    rintro ⟨stranger, listed, unknown⟩
    rw [← names] at listed
    obtain ⟨refused, left⟩ := (ordered.during (retraction category text)).teach_refused .untrain text
      (follows.during ordered _) listed unknown fun _ => rfl
    refine ⟨refused, fun name _ => ?_⟩
    have after := left name
    rw [followed] at after
    by_cases had : name ∈ report.succeeded
    · rw [if_pos had] at after
      have textless := get?_train_iff (known name had) (learned name) after
      exact ⟨fun back => Or.inr (textless.mp back),
        fun h => textless.mpr (h.resolve_left (not_not.mpr had))⟩
    · rw [if_neg had] at after
      exact ⟨fun _ => Or.inl had, fun _ => after.get?_eq (learned name)⟩

/-- Two analyzers with nothing but their names. -/
def twins : Registry Blackout Number where
  configs := ["a", "b"].map fun name => (name, ⟨name, "bayes", "memory", [], .whole 1, []⟩)
  instances := []
  built := 0

/-- The classifier of an analyzer with nothing but its name. -/
def plain (name : String) : Classifier Number := ⟨name, defaultSettings, defaultScope name⟩

/-- All stores can be reached. -/
def nowhere : Nat → Bool := fun _ => false

/-- The twins after they have learned a text. -/
def taughtTwins : Deployment Blackout Number :=
  afterAll [learning "spam" "cheap pills" nowhere nowhere] (unopened twins)

/-- The second analyzer misses a text and holds none of its tokens: when it is taken back, both
analyzers have their counters back. -/
theorem get?_retracted_fresh :
    let trained := (learning "spam" "fresh offer" nowhere (· == 1)).outcome taughtTwins
    let retracted := (retraction "spam" "fresh offer").outcome trained.2
    trained.1.toOption.map (·.succeeded) = some ["a"]
      ∧ ∀ name ∈ twins.names, ∀ key,
        (counters retracted.2 name).get? key = (counters taughtTwins name).get? key := by
  intro trained retracted
  have first : trained.1.toOption.map (·.succeeded) = some ["a"] := by decide +kernel
  refine ⟨first, ?_⟩
  have made : Registry.ofConfigs (twins.configs.map (·.2)) = .ok twins := rfl
  have asks : ∀ entry ∈ twins.configs, Asks entry.2 (plain entry.1) := by
    intro entry hentry
    obtain ⟨name, -, rfl⟩ := List.mem_map.mp hentry
    exact ⟨rfl, rfl, rfl⟩
  cases h : trained.1 with
  | error e =>
    rw [h] at first
    cases first
  | ok report =>
    rw [h] at first
    have succeeded : report.succeeded = ["a"] := Option.some.inj first
    -- Both know the category, so the first part applies: one has learned the text, the other holds
    -- no token of it.
    obtain ⟨-, iff⟩ := (get?_retracted_iff made asks
      [learning "spam" "cheap pills" nowhere nowhere] (Prod.ext h rfl)).1 (by decide +kernel)
    intro name listed
    refine (iff name listed).mpr ?_
    rw [succeeded]
    revert name
    decide +kernel

/-- The second analyzer misses a text and holds a token of it from another text: when the text is taken
back, the token is lost. -/
theorem not_retracted_offer :
    let trained := (learning "spam" "cheap offer" nowhere (· == 1)).outcome taughtTwins
    let retracted := (retraction "spam" "cheap offer").outcome trained.2
    trained.1.toOption.map (·.succeeded) = some ["a"]
      ∧ retracted.1.toOption.map (·.succeeded) = some ["a", "b"]
      ∧ ¬ ∀ name ∈ twins.names, ∀ key,
        (counters retracted.2 name).get? key = (counters taughtTwins name).get? key := by
  intro trained retracted
  -- The second analyzer has learned "cheap" from the first text alone, and forgets it with the
  -- second.
  obtain ⟨first, second, held, lost⟩ : trained.1.toOption.map (·.succeeded) = some ["a"]
      ∧ retracted.1.toOption.map (·.succeeded) = some ["a", "b"]
      ∧ (counters taughtTwins "b").get? "decidim_ai:b:cnt:spam:cheap" = some 1
      ∧ (counters retracted.2 "b").get? "decidim_ai:b:cnt:spam:cheap" = none := by
    decide +kernel
  refine ⟨first, second, fun same => ?_⟩
  rw [same "b" (by decide), held] at lost
  cases lost

end Moderation.Service
