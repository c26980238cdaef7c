import Moderation.Error

/-!
# `Moderation.Act`: actions that change a state and may fail

What an action changed before it failed stays changed: a failed training leaves the counters
that it had reached.

* `Act.attempt` turns the failure of an action into a value, so that the next action can go on.
-/

set_option autoImplicit false

namespace Moderation

/-- An action on a state `σ` that gives a `β` or fails. -/
abbrev Act (σ β : Type) := ExceptT Error (StateM σ) β

namespace Act

variable {σ β : Type}

/-- The outcome of an action and the state after it. -/
def outcome (act : Act σ β) (state : σ) : Except Error β × σ := act.run.run state

/-- Carries an action out and gives its failure as a value. -/
def attempt (act : Act σ β) : Act σ (Except Error β) := ExceptT.mk (Except.ok <$> act.run)

/-- Gives a result that is known, or fails at once. -/
def ofExcept (result : Except Error β) : Act σ β := ExceptT.mk (pure result)

/-- Lets an arithmetic fault fail the action. -/
def ofArithmetic (result : Except ArithmeticFault β) : Act σ β :=
  ofExcept (result.mapError Error.ofArithmetic)

/-- Carries out an action on a part of the state. -/
def zoom {τ : Type} (part : σ → τ) (replace : τ → σ → σ) (act : Act τ β) : Act σ β :=
  ExceptT.mk fun state =>
    let (result, changed) := act.outcome (part state)
    (result, replace changed state)

/-- An action that is done changes nothing. -/
@[simp]
theorem outcome_pure (x : β) (state : σ) : (pure x : Act σ β).outcome state = (.ok x, state) := rfl

/-- Looking at the state changes nothing. -/
@[simp]
theorem outcome_get (state : σ) : (get : Act σ σ).outcome state = (.ok state, state) := rfl

/-- A result is given as it is, and changes nothing. -/
@[simp]
theorem outcome_ofExcept (result : Except Error β) (state : σ) :
    (ofExcept result : Act σ β).outcome state = (result, state) := rfl

/-- An attempt never fails: it gives the result, an error included, and keeps what the action has
changed. -/
@[simp]
theorem outcome_attempt (act : Act σ β) (state : σ) :
    act.attempt.outcome state = (.ok (act.outcome state).1, (act.outcome state).2) := rfl

/-- An action on a part changes this part, whether it fails or not. -/
@[simp]
theorem outcome_zoom {τ : Type} (part : σ → τ) (replace : τ → σ → σ) (act : Act τ β) (state : σ) :
    (act.zoom part replace).outcome state
      = ((act.outcome (part state)).1, replace (act.outcome (part state)).2 state) := rfl

/-- The second action goes on where the first has succeeded. An error of the first ends both. -/
theorem outcome_bind {γ : Type} (act : Act σ β) (f : β → Act σ γ) (state : σ) :
    (act >>= f).outcome state =
      match act.outcome state with
      | (.ok x, after) => (f x).outcome after
      | (.error e, after) => (.error e, after) := by
  simp only [outcome, ExceptT.run_bind, StateT.run_bind]
  show (match act.run.run state with | (r, after) => _) = _
  rcases act.run.run state with ⟨_ | _, _⟩ <;> rfl

/-- An action that succeeds goes on with what it gives. -/
theorem outcome_bind_ok {γ : Type} {act : Act σ β} {f : β → Act σ γ} {state after : σ} {x : β}
    (h : act.outcome state = (.ok x, after)) :
    (act >>= f).outcome state = (f x).outcome after := by
  rw [outcome_bind, h]

/-- An action that fails ends there. -/
theorem outcome_bind_error {γ : Type} {act : Act σ β} {f : β → Act σ γ} {state after : σ}
    {e : Error} (h : act.outcome state = (.error e, after)) :
    (act >>= f).outcome state = (.error e, after) := by
  rw [outcome_bind, h]

/-- An action that has succeeded in two steps has succeeded in each. -/
theorem ok_of_outcome_bind {γ : Type} {act : Act σ β} {f : β → Act σ γ} {state after : σ} {y : γ}
    (h : (act >>= f).outcome state = (.ok y, after)) :
    ∃ x mid, act.outcome state = (.ok x, mid) ∧ (f x).outcome mid = (.ok y, after) := by
  rcases first : act.outcome state with ⟨_ | x, mid⟩
  · rw [outcome_bind_error first] at h
    cases h
  · exact ⟨x, mid, rfl, (outcome_bind_ok first).symm.trans h⟩

end Act

end Moderation
