import Moderation.Proofs.Dialogue.Interleaving
import Moderation.Store.Program

/-!
# `Moderation.Proofs.Store.Exclusion`: programs that take turns at a store

A program that holds the lock from its first round trip to its last has the store to itself. Here is
what this gives, for any number of such programs, whose steps come in any order.

`Guarded` is a store behind its lock, with a record of who has taken the lock. A program `TakesTurns`
if it asks the store for nothing at all, or for nothing outside the lock. The main statement is
`store_run`: once all programs are done, the store is as the programs leave it that run one after
the other, in the order in which they took the lock.

The invariant is `Serial`. Between two turns a program has not begun, is inside the lock or is done,
and whoever is inside can be let finish alone: the store would then be (`settled`) as the programs
leave it that have taken the lock, one after the other. A round trip of the one inside does not
change what it will leave, and nobody else makes any.
-/

set_option autoImplicit false

namespace Moderation.Store

open Moderation.Dialogue

variable {σ β : Type}

/-! ### Programs that make requests only -/

/-- A computation that makes requests and does not touch the lock. -/
inductive OnlyRequests : Dialogue Step Step.Answer β → Prop where
  | done (x : β) : OnlyRequests (.done x)
  | ask (r : Request) {next : Except Error r.Reply → Dialogue Step Step.Answer β}
      (h : ∀ reply, OnlyRequests (next reply)) : OnlyRequests (.ask (.request r) next)

/-! ### What programs leave -/

/-- The store as a computation leaves it that runs alone. -/
def left (answer : (r : Request) → Act σ r.Reply) (d : Dialogue Step Step.Answer β) (store : σ) : σ :=
  (d.run (Program.answerAlone answer) store).2

/-- The rest of a computation, and giving back the lock. -/
def untilRelease (rest : Dialogue Step Step.Answer β) : Dialogue Step Step.Answer β :=
  rest >>= fun x => .ask .unlock fun _ => .done x

/-- A computation inside the lock. -/
def exclusive (body : Dialogue Step Step.Answer β) : Dialogue Step Step.Answer β :=
  .ask .lock fun _ => untilRelease body

/-- A program inside the lock is a computation inside the lock. -/
theorem run_exclusively (program : Program β) :
    ExceptT.run (Program.exclusively program) = exclusive (ExceptT.run program) := rfl

/-- A computation that takes the lock, if it makes requests, and has it until they are made. -/
inductive TakesTurns : Dialogue Step Step.Answer β → Prop where
  | idle (x : β) : TakesTurns (.done x)
  | exclusive {body : Dialogue Step Step.Answer β} (plain : OnlyRequests body) :
      TakesTurns (exclusive body)

/-- The store as programs leave it that run one after the other. The programs are given by their
places. -/
def leftBy (answer : (r : Request) → Act σ r.Reply) (programs : List (Dialogue Step Step.Answer β))
    (places : List Nat) (store : σ) : σ :=
  places.foldl (fun store place => programs[place]?.elim store (left answer · store)) store

/-! ### A store behind its lock -/

/-- A store behind its lock. -/
structure Guarded (σ : Type) where
  store : σ
  /-- Who holds the lock. -/
  holder : Option Nat
  /-- Who has taken the lock, in this order. -/
  turns : List Nat

/-- Answers a step. Only who wants the lock may have to wait. -/
def Guarded.serve (answer : (r : Request) → Act σ r.Reply) : Host Step Step.Answer (Guarded σ)
  | _, .request r, guarded =>
    let (reply, store) := (answer r).outcome guarded.store
    some (reply, { guarded with store })
  | place, .lock, guarded =>
    match guarded.holder with
    | none => some ((), { guarded with holder := some place, turns := guarded.turns ++ [place] })
    | some _ => none
  | _, .unlock, guarded => some ((), { guarded with holder := none })

/-- Programs that have not begun, and a store whose lock is free. -/
def atOnce (programs : List (Dialogue Step Step.Answer β)) (store : σ) :
    Interleaving Step Step.Answer β (Guarded σ) :=
  { state := { store, holder := none, turns := [] }, tasks := programs }

section Invariant

variable {answer : (r : Request) → Act σ r.Reply} {programs : List (Dialogue Step Step.Answer β)}
  {start : σ} {all : Interleaving Step Step.Answer β (Guarded σ)}

/-- How far a program has come: it has not begun, it is inside the lock, or it has been. -/
inductive Stage (programs : List (Dialogue Step Step.Answer β)) (guarded : Guarded σ) (place : Nat) :
    Dialogue Step Step.Answer β → Prop where
  | waiting {program : Dialogue Step Step.Answer β} (h : programs[place]? = some program)
      (fresh : place ∉ guarded.turns) : Stage programs guarded place program
  | inside {rest : Dialogue Step Step.Answer β} (plain : OnlyRequests rest)
      (holds : guarded.holder = some place) (begun : place ∈ guarded.turns) :
      Stage programs guarded place (untilRelease rest)
  | gone (x : β) (free : guarded.holder ≠ some place) (begun : place ∈ guarded.turns) :
      Stage programs guarded place (.done x)

/-- The store once whoever holds the lock has finished. -/
def settled (answer : (r : Request) → Act σ r.Reply)
    (all : Interleaving Step Step.Answer β (Guarded σ)) : σ :=
  (all.state.holder.bind (all.tasks[·]?)).elim all.state.store (left answer · all.state.store)

/-- Every program has a stage, and once whoever holds the lock has finished, the store is as the
programs leave it that have taken the lock. -/
structure Serial (answer : (r : Request) → Act σ r.Reply)
    (programs : List (Dialogue Step Step.Answer β)) (start : σ)
    (all : Interleaving Step Step.Answer β (Guarded σ)) : Prop where
  length : all.tasks.length = programs.length
  stage : ∀ place task, all.tasks[place]? = some task → Stage programs all.state place task
  distinct : all.state.turns.Nodup
  exclusive : ∀ place ∈ all.state.turns, ∃ body, programs[place]? = some (exclusive body)
  holder : ∀ place ∈ all.state.holder, place ∈ all.state.turns
  settled : settled answer all = leftBy answer programs all.state.turns start

/-- The stage of a program is the same as long as it takes no turn itself. -/
theorem Stage.of_other {guarded guarded' : Guarded σ} {place : Nat}
    {task : Dialogue Step Step.Answer β} (h : Stage programs guarded place task)
    (turns : place ∈ guarded'.turns ↔ place ∈ guarded.turns)
    (holder : guarded'.holder = some place ↔ guarded.holder = some place) :
    Stage programs guarded' place task := by
  cases h with
  | waiting h fresh => exact .waiting h (mt turns.mp fresh)
  | inside plain holds begun => exact .inside plain (holder.mpr holds) (turns.mpr begun)
  | gone x free begun => exact .gone x (mt holder.mp free) (turns.mpr begun)

/-- Before the first turn all programs are waiting, and nobody has taken the lock. -/
theorem serial_atOnce (answer : (r : Request) → Act σ r.Reply)
    (programs : List (Dialogue Step Step.Answer β)) (start : σ) :
    Serial answer programs start (atOnce programs start) where
  length := rfl
  stage _ _ h := .waiting h List.not_mem_nil
  distinct := List.nodup_nil
  exclusive _ h := absurd h List.not_mem_nil
  holder _ h := nomatch h
  settled := rfl

/-- Who takes the lock next runs on what the others have left. -/
theorem leftBy_append_singleton (places : List Nat) {place : Nat}
    {program : Dialogue Step Step.Answer β} (h : programs[place]? = some program) :
    leftBy answer programs (places ++ [place]) start
      = left answer program (leftBy answer programs places start) := by
  rw [leftBy, List.foldl_append, List.foldl_cons, List.foldl_nil, h]
  rfl

/-- Programs without a request to make can be left out. -/
theorem leftBy_of_sublist {turns order : List Nat} (kept : turns.Sublist order)
    (distinct : order.Nodup)
    (idle : ∀ place ∈ order, place ∉ turns → ∃ x, programs[place]? = some (.done x)) (start : σ) :
    leftBy answer programs order start = leftBy answer programs turns start := by
  induction kept generalizing start with
  | slnil => rfl
  | cons place kept ih =>
    -- The program at this place is done at once, so it leaves the store as it is.
    obtain ⟨fresh, distinct⟩ := List.nodup_cons.mp distinct
    obtain ⟨x, hx⟩ := idle place List.mem_cons_self fun h => fresh (kept.subset h)
    rw [leftBy, List.foldl_cons, hx]
    exact ih distinct (fun other h => idle other (List.mem_cons_of_mem _ h)) start
  | cons_cons place kept ih =>
    obtain ⟨fresh, distinct⟩ := List.nodup_cons.mp distinct
    refine ih distinct (fun other h hother => idle other (List.mem_cons_of_mem _ h) ?_) _
    simpa [ne_of_mem_of_not_mem h fresh] using hother

/-- If nobody holds the lock, the store is settled. -/
theorem settled_of_free (free : all.state.holder = none) : settled answer all = all.state.store := by
  rw [settled, free]
  rfl

/-- If somebody holds the lock, the store will be as he leaves it. -/
theorem settled_of_holder {place : Nat} {task : Dialogue Step Step.Answer β}
    (holds : all.state.holder = some place) (htask : all.tasks[place]? = some task) :
    settled answer all = left answer task all.state.store := by
  rw [settled, holds, Option.bind_some, htask]
  rfl

namespace Serial

/-- Taking the lock: the program at a place begins. -/
theorem lock (h : Serial answer programs start all) (free : all.state.holder = none) {place : Nat}
    {body : Dialogue Step Step.Answer β} (plain : OnlyRequests body)
    (fresh : place ∉ all.state.turns) (hprogram : programs[place]? = some (Store.exclusive body))
    (htask : all.tasks[place]? = some (Store.exclusive body)) :
    Serial answer programs start
      { state := { all.state with holder := some place, turns := all.state.turns ++ [place] }
        tasks := all.tasks.set place (untilRelease body) } where
  length := by rw [List.length_set, h.length]
  stage other task hother := by
    by_cases same : other = place
    · subst same
      rw [List.getElem?_set_self (List.getElem?_eq_some_iff.mp htask).1] at hother
      cases hother
      exact .inside plain rfl (by simp)
    · rw [List.getElem?_set_ne (Ne.symm same)] at hother
      exact (h.stage other task hother).of_other (by simp [same]) (by simp [free, Ne.symm same])
  distinct := by simpa [List.nodup_append] using ⟨h.distinct, fun p hp heq => fresh (heq ▸ hp)⟩
  exclusive other hother := by
    rcases List.mem_append.mp hother with hother | hother
    · exact h.exclusive other hother
    · rw [List.mem_singleton.mp hother]
      exact ⟨body, hprogram⟩
  holder other hother := by
    cases hother
    simp
  settled := by
    -- Nobody was inside, so the store was settled, and the program is the next to change it.
    rw [leftBy_append_singleton _ hprogram, ← h.settled, settled_of_free free]
    show _ = left answer (untilRelease body) all.state.store
    exact settled_of_holder rfl (List.getElem?_set_self (List.getElem?_eq_some_iff.mp htask).1)

/-- A round trip of the program inside the lock. -/
theorem request (h : Serial answer programs start all) {place : Nat} {r : Request}
    {next : Except Error r.Reply → Dialogue Step Step.Answer β}
    (plain : ∀ reply, OnlyRequests (next reply)) (holds : all.state.holder = some place)
    (begun : place ∈ all.state.turns)
    (htask : all.tasks[place]? = some (untilRelease (.ask (.request r) next))) :
    Serial answer programs start
      { state := { all.state with store := ((answer r).outcome all.state.store).2 }
        tasks := all.tasks.set place
          (untilRelease (next ((answer r).outcome all.state.store).1)) } where
  length := by rw [List.length_set, h.length]
  stage other task hother := by
    by_cases same : other = place
    · subst same
      rw [List.getElem?_set_self (List.getElem?_eq_some_iff.mp htask).1] at hother
      cases hother
      exact .inside (plain _) holds begun
    · rw [List.getElem?_set_ne (Ne.symm same)] at hother
      exact (h.stage other task hother).of_other Iff.rfl Iff.rfl
  distinct := h.distinct
  exclusive := h.exclusive
  holder := h.holder
  settled := by
    -- What a program will leave is what the rest of it will leave after its next request.
    rw [← h.settled, settled_of_holder holds htask]
    exact settled_of_holder holds (List.getElem?_set_self (List.getElem?_eq_some_iff.mp htask).1)

/-- Giving back the lock: the program inside is done. -/
theorem unlock (h : Serial answer programs start all) {place : Nat} {x : β}
    (holds : all.state.holder = some place) (begun : place ∈ all.state.turns)
    (htask : all.tasks[place]? = some (untilRelease (.done x))) :
    Serial answer programs start
      { state := { all.state with holder := none }
        tasks := all.tasks.set place (.done x) } where
  length := by rw [List.length_set, h.length]
  stage other task hother := by
    -- The program that gives back the lock has been inside, and the others are where they were.
    by_cases same : other = place
    · subst same
      rw [List.getElem?_set_self (List.getElem?_eq_some_iff.mp htask).1] at hother
      cases hother
      exact .gone x (by simp) begun
    · rw [List.getElem?_set_ne (Ne.symm same)] at hother
      exact (h.stage other task hother).of_other Iff.rfl (by simp [holds, Ne.symm same])
  distinct := h.distinct
  exclusive := h.exclusive
  holder _ hother := nomatch hother
  settled := by
    rw [← h.settled, settled_of_holder holds htask]
    exact settled_of_free rfl

/-- Every turn keeps the invariant. -/
theorem advance (takesTurns : ∀ program ∈ programs, TakesTurns program) (place : Nat)
    (h : Serial answer programs start all) :
    Serial answer programs start (all.advance (Guarded.serve answer) place) := by
  rcases all.advance_cases (Guarded.serve answer) place with
    same | ⟨step, next, reply, state, htask, served, turned⟩
  · rw [same]
    exact h
  rw [turned]
  -- The stage of the program says which step it can be about to take.
  generalize hask : Dialogue.ask step next = task at htask
  cases h.stage place task htask with
  | waiting hprogram fresh =>
    -- It asks for the lock, and is served if nobody is inside.
    cases takesTurns _ (List.mem_of_getElem? hprogram) with
    | idle x => cases hask
    | exclusive plain =>
      cases hask
      rw [Guarded.serve] at served
      split at served
      · next free =>
        cases served
        exact h.lock free plain fresh hprogram htask
      · cases served
  | inside plain holds begun =>
    -- It gives back the lock or makes a request; both are served at once.
    cases plain with
    | done x =>
      cases hask
      cases served
      exact h.unlock holds begun htask
    | ask r plain =>
      cases hask
      cases served
      exact h.request plain holds begun htask
  | gone x free begun => cases hask

/-- Once all programs are done, each has been inside the lock or had no request to make. -/
theorem gone_of_isFinished (h : Serial answer programs start all) (finished : all.isFinished = true)
    {place : Nat} {program : Dialogue Step Step.Answer β} (hprogram : programs[place]? = some program) :
    program.isDone = true ∨ place ∈ all.state.turns ∧ all.state.holder ≠ some place := by
  have bound : place < all.tasks.length := by
    rw [h.length]
    exact (List.getElem?_eq_some_iff.mp hprogram).1
  have htask := List.getElem?_eq_getElem bound
  obtain ⟨x, hx⟩ := Interleaving.eq_done_of_isFinished finished htask
  have stage := h.stage place _ htask
  rw [hx] at stage
  generalize hdone : Dialogue.done x = task at stage
  cases stage with
  | waiting same _ =>
    rw [hprogram] at same
    cases same
    subst hdone
    exact Or.inl rfl
  | inside plain _ _ =>
    -- Inside, there is still the step that gives back the lock.
    cases plain <;> cases hdone
  | gone _ free begun => exact Or.inr ⟨begun, free⟩

/-- Once all programs are done, the lock is free. -/
theorem holder_of_isFinished (h : Serial answer programs start all)
    (finished : all.isFinished = true) : all.state.holder = none := by
  cases holds : all.state.holder with
  | none => rfl
  | some place =>
    obtain ⟨body, hprogram⟩ := h.exclusive place (h.holder place holds)
    rcases h.gone_of_isFinished finished hprogram with idle | ⟨_, free⟩
    · cases idle
    · exact absurd holds free

end Serial

/-- Programs that take turns leave the store as if they had run one after the other, in the order in
which they took the lock. Each takes the lock once, if it makes requests. -/
theorem store_run (takesTurns : ∀ program ∈ programs, TakesTurns program) (schedule : List Nat)
    {final : Interleaving Step Step.Answer β (Guarded σ)}
    (hfinal : (atOnce programs start).run (Guarded.serve answer) schedule = final)
    (finished : final.isFinished = true) :
    final.state.store = leftBy answer programs final.state.turns start
      ∧ final.state.turns.Nodup
      ∧ ∀ place, place ∈ final.state.turns ↔ ∃ body, programs[place]? = some (exclusive body) := by
  -- The invariant of the schedule says it all at the end, where nobody holds the lock any more.
  have h : Serial answer programs start final :=
    hfinal ▸ Interleaving.run_induction (fun _ place => Serial.advance takesTurns place) schedule
      (serial_atOnce answer programs start)
  refine ⟨?_, h.distinct, fun place => ⟨h.exclusive place, fun ⟨body, hprogram⟩ => ?_⟩⟩
  · rw [← h.settled, settled_of_free (h.holder_of_isFinished finished)]
  · rcases h.gone_of_isFinished finished hprogram with idle | ⟨begun, _⟩
    · cases idle
    · exact begun

end Invariant

end Moderation.Store
