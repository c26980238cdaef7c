import Moderation.Proofs.Bayes.Call
import Moderation.Proofs.Bayes.Steps
import Moderation.Proofs.Redis.SteadyServer

/-!
# `Moderation.Proofs.Bayes.Interchange`: a store in memory and one on a server

A store in memory removes a number that becomes zero, a Redis server keeps it. A classifier does not
notice. On the one store and on the other, both empty at first, it gives the same results and the
same errors call by call, and what the stores hold differs in zeros only.

* `interchangeable`: the two stores answer alike up to zeros, request by request.
* `outcome_memory_eq_redis`: so do two classifiers on them, after any run.
-/

set_option autoImplicit false

namespace Moderation.Bayes

open Store Redis

/-! ### Operations -/

/-- What a classifier can be asked, but for starting over. -/
inductive Operation where
  | train (category text : Value)
  | untrain (category text : Value)
  | classify (text : Value)
  | survey
  | tokenStats (tokens : List String)

variable {σ α : Type}

namespace Operation

/-- What an operation gives. -/
abbrev Result (α : Type) : Operation → Type
  | train .. => Unit
  | untrain .. => Unit
  | classify _ => Scores α
  | survey => ModelStats
  | tokenStats _ => List TokenStats

variable [Arithmetic α]

/-- Carries out an operation with the strategy of a classifier on a store. -/
def act (classifier : Classifier α) (store : Store σ) : (op : Operation) → Act σ (op.Result α)
  | train category text => (classifier.strategy store).train category text
  | untrain category text => (classifier.strategy store).untrain category text
  | classify text => (classifier.strategy store).classify text
  | survey => (classifier.strategy store).survey
  | tokenStats tokens => (classifier.tokenStats tokens).run store.answer

/-- The state after a run of operations, each of which may have failed. -/
def runAll (classifier : Classifier α) (store : Store σ) (ops : List Operation) (state : σ) : σ :=
  ops.foldl (fun state op => ((op.act classifier store).outcome state).2) state

/-- What an operation asks of the store. -/
def program (classifier : Classifier α) : (op : Operation) → Program (op.Result α)
  | train category text => classifier.train category text
  | untrain category text => classifier.untrain category text
  | classify text => classifier.classify text
  | survey => classifier.survey
  | tokenStats tokens => classifier.tokenStats tokens

/-- Carrying out an operation is running its program against the store. -/
theorem act_eq (classifier : Classifier α) (store : Store σ) (op : Operation) :
    op.act classifier store = (op.program classifier).run store.answer := by
  cases op <;> rfl

end Operation

/-! ### The two stores -/

/-- A store in memory and a server hold the same numbers, where absent is zero. -/
def SameCounts (id : Nat) (shelf : Shelf) (content : Entries Int) : Prop :=
  id < shelf.length ∧ replied (Memory.contentOf id shelf) = replied content

/-- Contents with the same numbers reply the same, however many keys are asked for. -/
theorem replied_getMany_congr {content content' : Entries Int}
    (same : replied content = replied content') (keys : List String) :
    replied (Memory.getMany content keys) = replied (Memory.getMany content' keys) := by
  funext key
  rw [replied, replied, Memory.get?_getMany, Memory.get?_getMany]
  split
  · exact congrFun same key
  · rfl

/-- Adding on the server and in memory: a sum that is zero is kept on the server. -/
theorem replied_increment {content content' : Entries Int}
    (same : replied content = replied content') (key : String) (delta : Int) :
    replied (Memory.increment content key delta).2
      = replied (content'.set key ((content'.get? key).getD 0 + delta)) := by
  funext other
  have before := congrFun same other
  rw [replied, replied] at before
  rw [replied, replied, Memory.get?_increment, Entries.get?_set, before]
  by_cases this : key = other
  · subst this
    rw [if_pos rfl, if_pos rfl, Option.getD_some]
  · rw [if_neg this, if_neg this, add_zero]

/-- A store in memory and a store on a server that never fails answer alike. -/
theorem interchangeable (server : SteadyServer) (id id' : Nat) (batch : Value) :
    Interchangeable (Memory.store id).answer (Redis.store id' server.client batch).answer
      (SameCounts id) where
  answers r shelf content keeps same := by
    obtain ⟨hid, counts⟩ := same
    -- In memory, a request leaves the shelf with the content after it.
    have after {changed content' : Entries Int} (h : replied changed = replied content') :
        SameCounts id (shelf.set id changed) content' :=
      ⟨by rwa [List.length_set], by rwa [Memory.contentOf_set hid]⟩
    cases r with
    | get key =>
      exact ⟨_, _, _, _, rfl, server.outcome_get id' batch content key, congrFun counts key,
        after counts⟩
    | getMany keys =>
      exact ⟨_, _, _, _, rfl, server.outcome_getMany id' batch content keys,
        replied_getMany_congr counts keys, after counts⟩
    | set key value =>
      refine ⟨_, _, _, _, rfl, server.outcome_set id' batch content key value, rfl, after ?_⟩
      funext other
      have before := congrFun counts other
      rw [replied, replied] at before ⊢
      rw [Entries.get?_set, Entries.get?_set]
      split
      · rfl
      · exact before
    | increment key delta =>
      exact ⟨_, _, _, _, rfl, server.outcome_increment id' batch content key delta,
        congrArg (· + delta) (congrFun counts key), after (replied_increment counts key delta)⟩
    | clear scope => exact absurd rfl (keeps scope)

/-! ### Classifiers on the two stores -/

section

variable [Arithmetic α] (classifier : Classifier α) (server : SteadyServer) (id id' : Nat)
  (batch : Value)

/-- An operation has the same result on the two stores, and keeps their numbers the same. -/
theorem agrees_program (op : Operation) :
    (op.program classifier).Agrees (Memory.store id).answer
      (Redis.store id' server.client batch).answer (SameCounts id) := by
  have both := interchangeable server id id' batch
  have teach (category text : Value)
      {change : (scope category : String) → Entries Nat → Program Unit}
      (inside : ∀ scope category counts, InsideLock (change scope category counts)) :
      (classifier.teach category text change).Agrees (Memory.store id).answer
        (Redis.store id' server.client batch).answer (SameCounts id) := by
    -- Without a lesson, the classifier asks the store for nothing.
    rcases classifier.teach_eq category text change with ⟨lesson, -, eq⟩ | ⟨-, result, eq⟩
    · obtain ⟨body, careful, locked⟩ := inside classifier.scope lesson.category lesson.counts
      rw [eq, locked]
      exact (careful.agrees both).exclusively
    · have careful : (classifier.teach category text change).IgnoresZeros := by
        rw [Program.IgnoresZeros, eq]
        exact .done result
      exact careful.agrees both
  cases op with
  | train category text => exact teach category text insideLock_learn
  | untrain category text => exact teach category text insideLock_forget
  | classify text => exact (classifier.ignoresZeros_classify text).agrees both
  | survey => exact classifier.ignoresZeros_survey.agrees both
  | tokenStats tokens => exact (classifier.ignoresZeros_tokenStats tokens).agrees both

/-- The numbers stay the same over a run, by induction on its operations. -/
theorem sameCounts_runAll (ops : List Operation) {shelf : Shelf} {content : Entries Int}
    (same : SameCounts id shelf content) :
    SameCounts id (Operation.runAll classifier (Memory.store id) ops shelf)
      (Operation.runAll classifier (Redis.store id' server.client batch) ops content) := by
  induction ops generalizing shelf content with
  | nil => exact same
  | cons op ops ih =>
    -- Whether the operation succeeds or fails, the run goes on from what it has left.
    have step := (agrees_program classifier server id id' batch op shelf content same).2
    rw [← Operation.act_eq, ← Operation.act_eq] at step
    exact ih step

end

/-- After any run, a classifier on a store in memory and one on a server that never fails give the
same result to an operation, or the same error, if both stores were empty at first. What they hold
then is the same, where absent is zero. -/
theorem outcome_memory_eq_redis [Arithmetic α] (classifier : Classifier α) (server : SteadyServer)
    {id : Nat} (id' : Nat) (batch : Value) {shelf : Shelf} (hid : id < shelf.length)
    (empty : Memory.contentOf id shelf = []) (ops : List Operation) (op : Operation) :
    let outcome := (op.act classifier (Memory.store id)).outcome
      (Operation.runAll classifier (Memory.store id) ops shelf)
    let outcome' := (op.act classifier (Redis.store id' server.client batch)).outcome
      (Operation.runAll classifier (Redis.store id' server.client batch) ops [])
    outcome.1 = outcome'.1
      ∧ ∀ key, ((Memory.contentOf id outcome.2).get? key).getD 0
        = ((server.client.content outcome'.2).get? key).getD 0 := by
  have start : SameCounts id shelf [] := ⟨hid, by rw [empty]⟩
  intro outcome outcome'
  -- The run before keeps the counts of both stores the same, and the operation agrees on such
  -- stores.
  have agrees := agrees_program classifier server id id' batch op _ _
    (sameCounts_runAll classifier server id id' batch ops start)
  rw [← Operation.act_eq, ← Operation.act_eq] at agrees
  exact ⟨agrees.1, fun key => congrFun agrees.2.2 key⟩

/-- A text is learned and one of its tokens forgotten. In memory the counters of that token are gone,
on the server they are zero, and what the classifier has learned is the same. -/
theorem survey_spamFilter_memory_eq_redis :
    let ops : List Operation :=
      [.train (.text "spam") (.text "cheap pills"), .untrain (.text "spam") (.text "pills")]
    let inMemory := Operation.runAll spamFilter (Memory.store 0) ops ([[]] : Shelf)
    let store := Redis.store 0 SteadyServer.inDecimal.client defaultBatch
    let onServer := Operation.runAll spamFilter store ops []
    Memory.contentOf 0 inMemory = [("mail:tok:spam", 1), ("mail:cnt:spam:cheap", 1),
        ("mail:voc:cheap", 1), ("mail:vocsize", 1)]
      ∧ onServer = [("mail:msg:spam", 0), ("mail:tok:spam", 1), ("mail:cnt:spam:cheap", 1),
        ("mail:voc:cheap", 1), ("mail:vocsize", 1), ("mail:cnt:spam:pills", 0),
        ("mail:voc:pills", 0)]
      ∧ ((Operation.survey.act spamFilter (Memory.store 0)).outcome inMemory).1
        = ((Operation.survey.act spamFilter store).outcome onServer).1 := by
  intro ops inMemory store onServer
  refine ⟨by decide +kernel, by decide +kernel, ?_⟩
  exact (outcome_memory_eq_redis spamFilter SteadyServer.inDecimal 0 defaultBatch (by decide) rfl
    ops .survey).1

end Moderation.Bayes
