import Moderation.Proofs.Registry.Resolution
import Moderation.Service.Basic

/-!
# `Moderation.Proofs.Service.Frame`: what the operations leave as it is

An action leaves a part of the state if that part is the same before and after it, whether the
action succeeds or fails (`Act.Leaves`).

Whatever runs on a registry leaves the analyzers (`Deployment.leaves_analyzers_run`), and so do all
operations of the service. Analyzers are only added or replaced by registering them.
-/

set_option autoImplicit false

namespace Moderation

variable {σ τ α β γ : Type}

namespace Act

/-- What has succeeded in two steps has succeeded in each. -/
theorem ok_of_bind {act : Act σ β} {f : β → Act σ γ} {state : σ} {y : γ}
    (h : ((act >>= f).outcome state).1 = .ok y) :
    ∃ x after, act.outcome state = (.ok x, after) ∧ ((f x).outcome after).1 = .ok y := by
  rw [outcome_bind] at h
  cases ran : act.outcome state with
  | mk result after =>
  rw [ran] at h
  cases result with
  | ok x => exact ⟨x, after, rfl, h⟩
  | error e => cases h

/-- An action leaves a part of the state as it was, whether it succeeds or fails. -/
def Leaves (part : σ → τ) (act : Act σ β) : Prop :=
  ∀ state, part (act.outcome state).2 = part state

variable {part : σ → τ} {act : Act σ β}

/-- Giving a value changes nothing. -/
theorem leaves_pure (x : β) : (pure x : Act σ β).Leaves part := fun _ => rfl

/-- Looking at the state changes nothing. -/
theorem leaves_get : (get : Act σ σ).Leaves part := fun _ => rfl

/-- Failing changes nothing. -/
theorem leaves_throw (e : Error) : (throw e : Act σ β).Leaves part := fun _ => rfl

/-- A result that is known is one of the two. -/
theorem leaves_ofExcept (result : Except Error β) : (ofExcept result : Act σ β).Leaves part :=
  fun _ => rfl

/-- An action that is attempted leaves what it leaves otherwise. -/
theorem Leaves.attempt (h : act.Leaves part) : act.attempt.Leaves part := h

/-- Two actions leave what each of them does, also if the first fails. -/
theorem Leaves.bind {f : β → Act σ γ} (h : act.Leaves part) (hf : ∀ x, (f x).Leaves part) :
    (act >>= f).Leaves part := by
  intro state
  have first := h state
  rw [outcome_bind]
  cases ran : act.outcome state with
  | mk result after =>
  rw [ran] at first
  cases result with
  | ok x => exact (hf x after).trans first
  | error e => exact first

/-- An action that is only carried out if there is no reason to fail. -/
theorem Leaves.unless {reason : Prop} [Decidable reason] (e : Error) (h : act.Leaves part) :
    (if reason then (throw e : Act σ PUnit) >>= fun _ => act else act).Leaves part := by
  split
  · exact (leaves_throw e).bind fun _ => h
  · exact h

end Act

/-! ### The analyzers of a deployment -/

namespace Deployment

/-- The analyzers that are registered. -/
def analyzers (deployment : Deployment σ α) : Entries AnalyzerConfig := deployment.registry.configs

/-- No step of a registry registers an analyzer. -/
theorem analyzers_answerAlone (step : Registry.Step σ α) (deployment : Deployment σ α) :
    ((answerAlone step).run deployment).2.analyzers = deployment.analyzers := by
  cases step <;> rfl

/-- A program that runs on a registry leaves the analyzers. -/
theorem leaves_analyzers_run (program : Registry.Program σ α β) :
    (run program).Leaves analyzers := by
  show ∀ deployment, ((Dialogue.run answerAlone (ExceptT.run program)).run deployment).2.analyzers
    = deployment.analyzers
  generalize ExceptT.run program = dialogue
  induction dialogue with
  | done result => exact fun _ => rfl
  | ask step next ih =>
    intro deployment
    exact (ih _ _).trans (analyzers_answerAlone step deployment)

/-- What is done with the stores leaves the analyzers. -/
theorem leaves_analyzers_onStores (act : Act σ β) :
    (onStores act : Act (Deployment σ α) β).Leaves analyzers := fun _ => rfl

end Deployment

namespace Service

open Act Deployment

/-- So does an action whose outages are kept as an answer. -/
theorem leaves_analyzers_reachable {act : Act (Deployment σ α) β} (h : act.Leaves analyzers) :
    (reachable act).Leaves analyzers := by
  refine h.attempt.bind fun result => ?_
  split
  · exact leaves_pure _
  · exact leaves_pure _
  · exact leaves_throw _

/-- No analyzer that is registered is changed by resolving names, by induction on the names. -/
theorem leaves_analyzers_resolveAll (factories : Registry.Factories σ α) (names : List String) :
    (resolveAll factories names).Leaves analyzers := by
  induction names with
  | nil => exact leaves_pure _
  | cons name names ih =>
    refine (leaves_analyzers_reachable (leaves_analyzers_run _)).bind fun outcome => ih.bind ?_
    intro collected
    cases outcome <;> exact leaves_pure _

/-- No analyzer that is registered is changed by teaching, by induction on the strategies. -/
theorem leaves_analyzers_teachEach (operation : Operation) (category text : Value)
    (resolved : List (String × Instance σ α)) :
    (teachEach operation category text resolved).Leaves analyzers := by
  induction resolved with
  | nil => exact leaves_pure _
  | cons entry resolved ih =>
    refine (leaves_analyzers_reachable (leaves_analyzers_onStores _)).bind fun outcome => ih.bind ?_
    intro collected
    cases outcome <;> exact leaves_pure _

/-- A training leaves the analyzers. -/
theorem leaves_analyzers_teach (factories : Registry.Factories σ α) (operation : Operation)
    (category text : Value) : (teach factories operation category text).Leaves analyzers := by
  refine leaves_get.bind fun deployment =>
    (leaves_analyzers_resolveAll factories _).bind fun (resolved, unreached) =>
      (leaves_ofExcept _).bind fun _ => Leaves.unless _ ?_
  exact (leaves_analyzers_teachEach operation category text resolved).bind fun (taught, interrupted) =>
    Leaves.unless _ (leaves_pure _)

/-- Consulting an analyzer resolves it and asks its strategy. -/
theorem leaves_analyzers_consult (service : Service σ α) (name : String) (text : Value) :
    (service.consult name text).Leaves analyzers :=
  (leaves_analyzers_run _).bind fun _ => leaves_analyzers_onStores _

section

variable [Scoring α]

/-- By induction on the analyzers that are consulted: some answers fail, some are no evidence, and
none matters. -/
theorem leaves_analyzers_consultAll (service : Service σ α) (text : Value) (tally : Tally α)
    (configs : List AnalyzerConfig) : (service.consultAll text tally configs).Leaves analyzers := by
  induction configs generalizing tally with
  | nil => exact leaves_pure _
  | cons config configs ih =>
    refine (leaves_analyzers_reachable (service.leaves_analyzers_consult _ _)).bind fun answer => ?_
    cases answer with
    | error reason => exact ih _
    | ok scores =>
      refine (leaves_ofExcept _).bind fun share => ?_
      cases share with
      | none => exact ih _
      | some share => exact (leaves_ofExcept _).bind fun tally => ih tally

/-- A judgement leaves the analyzers. -/
theorem leaves_analyzers_judge (service : Service σ α) (text : Value) :
    (service.judge text).Leaves analyzers :=
  leaves_get.bind fun _ => (service.leaves_analyzers_consultAll text _ _).bind fun _ =>
    Leaves.unless _ (leaves_ofExcept _)

end

end Service

end Moderation
