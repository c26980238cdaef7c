import Moderation.Dialogue

/-!
# `Moderation.Proofs.Dialogue.Interleaving`: computations side by side

Computations that share a state take their steps in any order. `Interleaving` holds the state and
what is left of each computation, and a schedule says whose turn it is, time after time. At its turn
a computation asks its next question, and the host of the state answers it or lets it wait.

A turn of a computation that has to wait, that is done or that does not exist changes nothing. So
schedules need no side condition: every order in which the steps can be taken is the order of a
schedule, and what holds for all schedules holds for all interleavings.

* `advance_cases`: what one turn does.
* `run_induction`: what every turn keeps is kept by every run.
-/

set_option autoImplicit false

namespace Moderation.Dialogue

variable {Q : Type} {A : Q → Type} {β σ : Type}

/-- Computations under way, and the state that they share. -/
structure Interleaving (Q : Type) (A : Q → Type) (β σ : Type) where
  state : σ
  /-- What is left of each computation, by its place. -/
  tasks : List (Dialogue Q A β)

/-- Answers a question that the computation at a place asks, or lets it wait. -/
abbrev Host (Q : Type) (A : Q → Type) (σ : Type) :=
  (place : Nat) → (question : Q) → σ → Option (A question × σ)

/-- Whether a computation is done. -/
def isDone : Dialogue Q A β → Bool
  | done _ => true
  | ask .. => false

namespace Interleaving

/-- The turn of the computation at a place. -/
def advance (host : Host Q A σ) (all : Interleaving Q A β σ) (place : Nat) :
    Interleaving Q A β σ :=
  match all.tasks[place]? with
  | some (.ask q next) =>
    match host place q all.state with
    | some (reply, state) => { state, tasks := all.tasks.set place (next reply) }
    | none => all
  | _ => all

/-- The turns of a schedule. -/
def run (host : Host Q A σ) (schedule : List Nat) (all : Interleaving Q A β σ) :
    Interleaving Q A β σ :=
  schedule.foldl (advance host) all

/-- Whether all computations are done. -/
def isFinished (all : Interleaving Q A β σ) : Bool := all.tasks.all isDone

variable {host : Host Q A σ} {all : Interleaving Q A β σ}

/-- A turn changes nothing, or a question of the computation is answered. -/
theorem advance_cases (host : Host Q A σ) (all : Interleaving Q A β σ) (place : Nat) :
    all.advance host place = all
      ∨ ∃ q next reply state, all.tasks[place]? = some (.ask q next)
        ∧ host place q all.state = some (reply, state)
        ∧ all.advance host place = { state, tasks := all.tasks.set place (next reply) } := by
  rw [advance]
  split
  · next q next task =>
    split
    · next reply state served => exact Or.inr ⟨q, next, reply, state, task, served, rfl⟩
    · exact Or.inl rfl
  · exact Or.inl rfl

/-- The turns of two schedules, one after the other. -/
theorem run_append (host : Host Q A σ) (all : Interleaving Q A β σ) (first second : List Nat) :
    all.run host (first ++ second) = (all.run host first).run host second :=
  List.foldl_append

/-- What every turn keeps is kept by every run. -/
theorem run_induction {holds : Interleaving Q A β σ → Prop}
    (turn : ∀ all place, holds all → holds (all.advance host place)) (schedule : List Nat)
    (h : holds all) : holds (all.run host schedule) := by
  induction schedule generalizing all with
  | nil => exact h
  | cons place schedule ih => exact ih (turn all place h)

/-- Where all computations are done, each has given its result. -/
theorem eq_done_of_isFinished (h : all.isFinished = true) {place : Nat} {task : Dialogue Q A β}
    (htask : all.tasks[place]? = some task) : ∃ x, task = .done x := by
  have : isDone task = true := List.all_eq_true.mp h task (List.mem_of_getElem? htask)
  cases task with
  | done x => exact ⟨x, rfl⟩
  | ask q next => cases this

end Interleaving

end Moderation.Dialogue
