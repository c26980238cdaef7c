import Moderation.Proofs.Store.Ensures
import Moderation.Store.Basic

/-!
# `Moderation.Proofs.Store.Watched`: a store in memory, and one that is watched and may fail

A store in memory that stands on a shelf shows one content of the shelf and leaves the others
alone (`honours_memory`).

`Store.watched plan store` is the store with a record of what it was asked. It fails at a request
where `plan` names an outage, and a request that fails changes nothing but the record. The plan may
look at all requests made so far, so every pattern of outages is the pattern of a plan.
`honours_watched` says that such a store keeps to any terms that allow for its plan, and that its
record holds admitted requests only. A plan without outages is unnoticed (`outcome_run_steady`).
-/

set_option autoImplicit false

namespace Moderation.Store

variable {σ : Type}

/-- The store with a record of its requests, which fails where the plan names an outage. -/
def watched (plan : List Request → Request → Option Outage) (store : Store σ) :
    Store (List Request × σ) where
  id := store.id
  answer request := ExceptT.mk fun state =>
    match plan state.1 request with
    | some outage => (.error (.storeUnavailable outage), state.1 ++ [request], state.2)
    | none =>
      let (reply, after) := (store.answer request).outcome state.2
      (reply, state.1 ++ [request], after)
  close := Act.zoom Prod.snd (fun after state => (state.1, after)) store.close
  content state := store.content state.2

/-- The plan of a store that never fails. -/
def steady : List Request → Request → Option Outage := fun _ _ => none

/-- Watching a store that never fails changes neither its answers nor its contents. -/
theorem outcome_run_steady {β : Type} (store : Store σ) (program : Program β)
    (record : List Request) (state : σ) :
    ∃ record', (program.run (watched steady store).answer).outcome (record, state)
      = (((program.run store.answer).outcome state).1, record',
          ((program.run store.answer).outcome state).2) := by
  show ∃ record', (ExceptT.run program).run (Program.answerAlone (watched steady store).answer)
      (record, state)
    = (((ExceptT.run program).run (Program.answerAlone store.answer) state).1, record',
        ((ExceptT.run program).run (Program.answerAlone store.answer) state).2)
  induction ExceptT.run program generalizing record state with
  | done x => exact ⟨record, rfl⟩
  | ask step next ih =>
    -- Only a request is noted in the record. Taking the lock and leaving it ask the store nothing.
    cases step with
    | request r => exact ih _ (record ++ [r]) ((store.answer r).outcome state).2
    | lock => exact ih () record state
    | unlock => exact ih () record state

namespace Memory

variable {id : Nat} {shelf : Shelf}

/-- A content that is written on the shelf is there. -/
theorem contentOf_set (h : id < shelf.length) (content : Entries Int) :
    contentOf id (shelf.set id content) = content := by
  simp [contentOf, HasShelf.shelf, h]

/-- To write back what is on the shelf changes nothing. -/
theorem set_contentOf (h : id < shelf.length) : shelf.set id (contentOf id shelf) = shelf := by
  simp [contentOf, HasShelf.shelf, h]

/-- The answer of a store on a shelf is that of a store in memory, and only its content changes. -/
theorem outcome_answer_store (h : id < shelf.length) (r : Request) (content : Entries Int) :
    ((store id).answer r).outcome (shelf.set id content)
      = (.ok (answer content r).1, shelf.set id (answer content r).2) := by
  show ((Except.ok (answer (contentOf id (shelf.set id content)) r).1, _) : _ × Shelf) = _
  rw [contentOf_set h]
  exact Prod.ext rfl (List.set_set _)

end Memory

variable {terms : Terms} {id : Nat} {shelf : Shelf}

/-- A store in memory honours all terms on which every request may be served. It shows its content
on the shelf, the other contents being as they were. -/
theorem honours_memory (h : id < shelf.length) (served : ∀ r, terms.serves r) :
    Honours terms (Memory.store id).answer fun state content => state = shelf.set id content where
  answers r state content _ shown := by
    subst shown
    rw [Memory.outcome_answer_store h]
    exact Or.inl ⟨served r, rfl, rfl⟩

/-- The answer of a watched store in memory: it is that of the store, unless the plan names an
outage. -/
theorem outcome_watched (h : id < shelf.length) (plan : List Request → Request → Option Outage)
    (record : List Request) (content : Entries Int) (r : Request) :
    ((watched plan (Memory.store id)).answer r).outcome (record, shelf.set id content)
      = match plan record r with
        | some outage => (.error (.storeUnavailable outage), record ++ [r], shelf.set id content)
        | none =>
          (.ok (Memory.answer content r).1, record ++ [r],
            shelf.set id (Memory.answer content r).2) := by
  have inner := Memory.outcome_answer_store h r content
  show (match plan record r with
    | some outage => _
    | none =>
      let (reply, after) := ((Memory.store id).answer r).outcome (shelf.set id content)
      (reply, record ++ [r], after)) = _
  rw [inner]

/-- A watched store in memory honours all terms that allow for its plan. Its record holds admitted
requests only. -/
theorem honours_watched (h : id < shelf.length) {plan : List Request → Request → Option Outage}
    (served : ∀ record r, plan record r = none → terms.serves r)
    (failed : ∀ record r outage, plan record r = some outage →
      terms.fails r (.storeUnavailable outage)) :
    Honours terms (watched plan (Memory.store id)).answer fun state content =>
      state.2 = shelf.set id content ∧ ∀ r ∈ state.1, terms.admits r where
  answers r state content admitted shown := by
    obtain ⟨record, onShelf⟩ := state
    obtain ⟨rfl, admittedBefore⟩ := shown
    have recorded : ∀ q ∈ record ++ [r], terms.admits q := by
      intro q hq
      rcases List.mem_append.mp hq with hq | hq
      · exact admittedBefore q hq
      · rw [List.mem_singleton.mp hq]
        exact admitted
    -- What the state shows is all of it, so the answer can be computed.
    rw [outcome_watched h]
    cases hplan : plan record r with
    | none => exact Or.inl ⟨served record r hplan, rfl, rfl, recorded⟩
    | some outage => exact Or.inr ⟨_, failed record r outage hplan, rfl, rfl, recorded⟩

end Moderation.Store
