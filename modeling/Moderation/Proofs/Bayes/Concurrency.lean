import Moderation.Proofs.Bayes.Consistency
import Moderation.Proofs.Bayes.Steps

/-!
# `Moderation.Proofs.Bayes.Concurrency`: calls that are made at once

Learning, forgetting and starting over make several round trips each, and calls that are made at
once can make them in any order. All of them hold the lock for as long as they make any, so they
take turns (`Call.takesTurns`), and `Moderation.Proofs.Store.Exclusion` applies.

* `concurrent_eq_runAll`: the calls leave what they leave one after the other, in the order in which
  they took the lock, and the counters agree.

A call without a lesson is done before it would take the lock. So it can stand at any place of that
order.
-/

set_option autoImplicit false

namespace Moderation.Bayes

open Store Dialogue

/-- A program that is carried out inside the lock. -/
def IsExclusive (program : Program Unit) : Prop :=
  ∃ body, OnlyRequests body ∧ ExceptT.run program = exclusive body

/-- A program that makes all its requests inside the lock is carried out inside it. -/
theorem InsideLock.isExclusive {program : Program Unit} (h : InsideLock program) :
    IsExclusive program := by
  obtain ⟨body, careful, rfl⟩ := h
  exact ⟨ExceptT.run body, careful.onlyRequests, run_exclusively body⟩

/-- Starting over makes one request, inside the lock. -/
theorem isExclusive_reset (scope : String) : IsExclusive (reset scope) := by
  refine ⟨_, .ask (.clear (scopeStart scope)) fun reply => ?_, run_exclusively _⟩
  cases reply <;> exact .done _

variable {σ α : Type} {classifier : Classifier α}

/-! ### Calls at once -/

namespace Call

/-- Whether a call takes the lock: without a lesson there is nothing to change. -/
def takesLock (classifier : Classifier α) : Call → Bool
  | train category text => (classifier.lesson? category text).isSome
  | untrain category text => (classifier.lesson? category text).isSome
  | reset => true

/-- The steps of a call. -/
def task (classifier : Classifier α) (call : Call) : Dialogue Step Step.Answer (Except Error Unit) :=
  ExceptT.run (call.program classifier)

/-- Calls that are made at once, before the first of their steps. -/
def concurrently (classifier : Classifier α) (calls : List Call) (state : σ) :
    Interleaving Step Step.Answer (Except Error Unit) (Guarded σ) :=
  atOnce (calls.map (task classifier)) state

/-- A call is carried out inside the lock, or done at once. -/
theorem task_cases (classifier : Classifier α) (call : Call) :
    call.takesLock classifier = true ∧ IsExclusive (call.program classifier)
      ∨ call.takesLock classifier = false ∧ ∃ x, call.task classifier = .done x := by
  -- Training and untraining differ in the change they make, and both changes are inside the lock.
  have teach (category text : Value)
      {change : (scope category : String) → Entries Nat → Program Unit}
      (inside : ∀ scope category counts, InsideLock (change scope category counts)) :
      (classifier.lesson? category text).isSome = true
          ∧ IsExclusive (classifier.teach category text change)
        ∨ (classifier.lesson? category text).isSome = false
          ∧ ∃ x, ExceptT.run (classifier.teach category text change) = .done x := by
    rcases classifier.teach_eq category text change with ⟨lesson, some, eq⟩ | ⟨none, done⟩
    · exact Or.inl ⟨by rw [some, Option.isSome_some], eq ▸ (inside _ _ _).isExclusive⟩
    · exact Or.inr ⟨by rw [none, Option.isSome_none], done⟩
  cases call with
  | train category text => exact teach category text insideLock_learn
  | untrain category text => exact teach category text insideLock_forget
  | reset => exact Or.inl ⟨rfl, isExclusive_reset classifier.scope⟩

/-- A call waits for its turn to make requests, or makes none. -/
theorem takesTurns (classifier : Classifier α) (call : Call) : TakesTurns (call.task classifier) := by
  rcases call.task_cases classifier with ⟨-, body, plain, eq⟩ | ⟨-, x, eq⟩
  · rw [task, eq]
    exact .exclusive plain
  · rw [eq]
    exact .idle x

/-- A call takes the lock if it has something to carry out inside it. -/
theorem takesLock_iff (classifier : Classifier α) (call : Call) :
    call.takesLock classifier = true ↔ ∃ body, call.task classifier = exclusive body := by
  rcases call.task_cases classifier with ⟨takes, body, plain, eq⟩ | ⟨idle, x, eq⟩
  · simp only [takes, true_iff]
    exact ⟨body, eq⟩
  · simp [idle, eq, exclusive]

/-- What calls leave one after the other is what a run of them leaves. -/
theorem leftBy_task [Arithmetic α] (store : Store σ) (calls : List Call) (order : List Nat)
    (state : σ) :
    leftBy store.answer (calls.map (task classifier)) order state
      = runAll (classifier.strategy store) (order.filterMap (calls[·]?)) state := by
  induction order generalizing state with
  | nil => rfl
  | cons place order ih =>
    rw [leftBy, List.foldl_cons, List.getElem?_map]
    -- A place without a call leaves the store as it is.
    cases h : calls[place]? with
    | none =>
      rw [List.filterMap_cons_none h]
      exact ih state
    | some call =>
      rw [List.filterMap_cons_some h, runAll, List.foldl_cons, act_strategy]
      exact ih _

end Call

/-- Calls that are made at once on one classifier, their steps in any order. Each takes the lock
once if it has anything to change, and once all are done the store is as all of them leave it one
after the other, in an order that keeps to that of the lock. On a store in memory the counters
agree, if they did before. -/
theorem concurrent_eq_runAll [Arithmetic α] (classifier : Classifier α) (calls : List Call)
    (schedule : List Nat) :
    (∀ {σ : Type} (store : Store σ) (state : σ) final,
      (Call.concurrently classifier calls state).run (Guarded.serve store.answer) schedule = final →
      final.isFinished = true →
        final.state.turns.Nodup
        ∧ (∀ place, place ∈ final.state.turns
            ↔ ∃ call, calls[place]? = some call ∧ call.takesLock classifier = true)
        ∧ (∃ order, order.Perm (List.range calls.length) ∧ final.state.turns.Sublist order)
        ∧ ∀ order, order.Perm (List.range calls.length) → final.state.turns.Sublist order →
            final.state.store
              = Call.runAll (classifier.strategy store) (order.filterMap (calls[·]?)) state)
    ∧ ∀ {id : Nat} {shelf : Shelf} (earlier : List Call),
      (∀ category ∈ classifier.settings.categories, ∃ s, category = .text s) →
      id < shelf.length →
      (∀ key, Memory.inScope (scopeStart classifier.scope) key = true →
        (Memory.contentOf id shelf).get? key = none) →
      ∀ state final, Call.runAll (classifier.strategy (Memory.store id)) earlier shelf = state →
      (Call.concurrently classifier calls state).run (Guarded.serve (Memory.store id).answer) schedule
        = final →
      final.isFinished = true →
        Balanced classifier.scope classifier.labels (Memory.contentOf id final.state.store) := by
  have takesTurns : ∀ program ∈ calls.map (Call.task classifier), TakesTurns program := by
    intro program h
    obtain ⟨call, -, rfl⟩ := List.mem_map.mp h
    exact call.takesTurns classifier
  constructor
  · intro σ store state final hfinal finished
    obtain ⟨stored, distinct, locked⟩ := store_run takesTurns schedule hfinal finished
    have taken : ∀ place, place ∈ final.state.turns
        ↔ ∃ call, calls[place]? = some call ∧ call.takesLock classifier = true := by
      intro place
      simp only [locked, List.getElem?_map, Option.map_eq_some_iff, Call.takesLock_iff]
      exact ⟨fun ⟨body, call, h, eq⟩ => ⟨call, h, body, eq⟩,
        fun ⟨call, h, body, eq⟩ => ⟨body, call, h, eq⟩⟩
    -- The turns are distinct places of calls, so an order of all calls can be made from them.
    refine ⟨distinct, taken, List.subperm_iff.mp (List.subperm_of_subset distinct ?_), ?_⟩
    · intro place h
      obtain ⟨call, hcall, -⟩ := (taken place).mp h
      exact List.mem_range.mpr (List.getElem?_eq_some_iff.mp hcall).1
    · intro order perm kept
      rw [stored, ← Call.leftBy_task]
      refine (leftBy_of_sublist kept (perm.nodup_iff.mpr List.nodup_range) ?_ state).symm
      -- A call that has taken no turn is one without a lesson.
      intro place hplace fresh
      have bound := List.mem_range.mp (perm.mem_iff.mp hplace)
      rcases calls[place].task_cases classifier with ⟨takes, -⟩ | ⟨-, x, eq⟩
      · exact absurd ((taken place).mpr ⟨_, List.getElem?_eq_getElem bound, takes⟩) fresh
      · exact ⟨x, by rw [List.getElem?_map, List.getElem?_eq_getElem bound, Option.map_some, eq]⟩
  · intro id shelf earlier texts hid fresh state final hstate hfinal finished
    obtain ⟨stored, -⟩ := store_run takesTurns schedule hfinal finished
    -- The earlier calls and these make one run.
    rw [stored, Call.leftBy_task, ← hstate, ← Call.runAll_append]
    exact (keeps_runAll hid fresh _).1.balanced (within_foldl texts (Stock.within_zero _) _) fresh

/-- Three calls whose steps come in turn, and one without a lesson. The second of them takes the
lock first, so that it has nothing to forget yet. -/
theorem concurrent_spamFilter :
    let calls : List Call :=
      [.train (.text "spam") (.text "cheap pills"), .untrain (.text "spam") (.text "pills"),
        .train (.text "ham") (.text "?"), .train (.text "ham") (.text "pills")]
    let shelf : Shelf := [[]]
    let final := (Call.concurrently spamFilter calls shelf).run
      (Guarded.serve (Memory.store 0).answer) (List.replicate 20 [1, 0, 3]).flatten
    final.isFinished = true ∧ final.state.turns = [1, 0, 3]
      ∧ final.state.store = Call.runAll (spamFilter.strategy (Memory.store 0))
        ([1, 0, 2, 3].filterMap (calls[·]?)) shelf
      ∧ Balanced "mail" spamFilter.labels (Memory.contentOf 0 final.state.store) := by
  intro calls shelf final
  have finished : final.isFinished = true := by decide +kernel
  have turns : final.state.turns = [1, 0, 3] := by decide +kernel
  obtain ⟨serial, balanced⟩ :=
    concurrent_eq_runAll spamFilter calls (List.replicate 20 [1, 0, 3]).flatten
  -- The call without a lesson took no turn; it may stand anywhere in the order, here before the
  -- last.
  refine ⟨finished, turns, ?_, ?_⟩
  · refine (serial (Memory.store 0) shelf final rfl finished).2.2.2 [1, 0, 2, 3] (by decide) ?_
    rw [turns]
    decide
  · refine balanced [] ?_ (by decide) ?_ shelf final rfl rfl finished
    · intro category hcategory
      simp only [spamFilter, defaultSettings, defaultCategories, List.mem_cons, List.not_mem_nil,
        or_false] at hcategory
      rcases hcategory with rfl | rfl <;> exact ⟨_, rfl⟩
    · intro key _
      rfl

end Moderation.Bayes
