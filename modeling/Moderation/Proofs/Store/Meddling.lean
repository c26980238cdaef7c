import Moderation.Proofs.Result
import Moderation.Store.Basic

/-!
# `Moderation.Proofs.Store.Meddling`: programs whatever their requests are replied

Other writers may change the numbers of a store between two requests of a program. The replies of one
program then need not fit together: they may come from contents that have nothing in common.

`Program.Yields kind good program` says that such a program still comes to a good result. It is for
all replies, and so no content is followed, and there is one rule for each way to make a program. A
program fails only where a request has, with an error of the `kind` of the store.

`Store.meddled` is a store whose state is changed before each request. What a program yields holds on
any store, and so on a meddled one (`Program.Yields.run`).
-/

set_option autoImplicit false

namespace Moderation.Store

variable {σ β γ : Type} {kind : Error → Prop}

/-- What a step may be answered: any reply, or an error of the kind. -/
def Step.MayBe (kind : Error → Prop) : (step : Step) → step.Answer → Prop
  | .request _, answer => FailsAs kind answer
  | .lock, _ => True
  | .unlock, _ => True

/-- A computation comes to a good end whatever its steps are answered. -/
def Dialogue.Yields (kind : Error → Prop) (good : β → Prop) : Dialogue Step Step.Answer β → Prop
  | .done x => good x
  | .ask step next => ∀ answer, step.MayBe kind answer → Dialogue.Yields kind good (next answer)

/-- A computation that yields what the next one can take composes with it. -/
theorem Dialogue.Yields.bind {good : β → Prop} {good' : γ → Prop} {d : Dialogue Step Step.Answer β}
    {f : β → Dialogue Step Step.Answer γ} (h : Dialogue.Yields kind good d)
    (hf : ∀ x, good x → Dialogue.Yields kind good' (f x)) : Dialogue.Yields kind good' (d >>= f) := by
  induction d with
  | done x => exact hf x h
  | ask step next ih => exact fun answer may => ih answer (h answer may)

/-- Whoever answers the steps as they may be answered gets a good end. -/
theorem Dialogue.Yields.run {answer : (r : Request) → Act σ r.Reply}
    (fails : ∀ r state, FailsAs kind ((answer r).outcome state).1) {good : β → Prop}
    {d : Dialogue Step Step.Answer β} (h : Dialogue.Yields kind good d) (state : σ) :
    good (d.run (Program.answerAlone answer) state).1 := by
  induction d generalizing state with
  | done x => exact h
  | ask step next ih =>
    cases step with
    | request r => exact ih _ (h _ (fails r state)) ((answer r).outcome state).2
    | lock => exact ih () (h () trivial) state
    | unlock => exact ih () (h () trivial) state

namespace Program

/-- A result is good, or an error of the kind. -/
def Good (kind : Error → Prop) (good : β → Prop) (result : Except Error β) : Prop :=
  FailsAs kind result ∧ ∀ x, result = .ok x → good x

/-- A good result is a success with a good value. -/
theorem good_ok {good : β → Prop} {x : β} (h : good x) : Good kind good (.ok x) :=
  ⟨failsAs_ok x, fun _ same => Except.ok.inj same ▸ h⟩

/-- Whatever its requests are replied, a program has a good result or fails as a request has. -/
def Yields (kind : Error → Prop) (good : β → Prop) (program : Program β) : Prop :=
  Dialogue.Yields kind (Good kind good) (ExceptT.run program)

variable {good : β → Prop}

/-- A program that is done yields its value, whatever the others write. -/
theorem yields_pure {x : β} (h : good x) : (pure x : Program β).Yields kind good := good_ok h

/-- A result that is known goes on. -/
theorem yields_ofExcept_bind {result : Except Error γ} {x : γ} {f : γ → Program β}
    (known : result = .ok x) (h : (f x).Yields kind good) :
    (ofExcept result >>= f).Yields kind good := by
  rw [known]
  exact h

/-- Nothing is known of a reply. -/
theorem yields_ask (r : Request) : (ask r).Yields kind fun _ => True :=
  fun _ may => ⟨may, fun _ _ => trivial⟩

/-- What comes next only has to be good for good results of the program before it. -/
theorem Yields.bind {good' : γ → Prop} {program : Program β} {f : β → Program γ}
    (h : program.Yields kind good) (hf : ∀ x, good x → (f x).Yields kind good') :
    (program >>= f).Yields kind good' := by
  rw [Yields, ExceptT.run_bind]
  refine Dialogue.Yields.bind h fun result hresult => ?_
  cases result with
  | ok x => exact hf x (hresult.2 x rfl)
  | error e =>
    -- The error ends the program, and it was a request that failed with it.
    exact ⟨(failsAs_error_iff e).mpr (hresult.1 e rfl), nofun⟩

/-- On a store whose errors are of the kind, the result is good or such an error. -/
theorem Yields.run {answer : (r : Request) → Act σ r.Reply}
    (fails : ∀ r state, FailsAs kind ((answer r).outcome state).1) {program : Program β}
    (h : program.Yields kind good) (state : σ) :
    Good kind good ((program.run answer).outcome state).1 :=
  Dialogue.Yields.run fails h state

end Program

/-- The store beside other writers, who change its state before each request. The requests are
counted. -/
def meddled (writes : Nat → σ → σ) (store : Store σ) : Store (Nat × σ) where
  id := store.id
  answer request := ExceptT.mk fun state =>
    let (reply, after) := (store.answer request).outcome (writes state.1 state.2)
    (reply, state.1 + 1, after)
  close := Act.zoom Prod.snd (fun after state => (state.1, after)) store.close
  content state := store.content state.2

/-- An error that the store fails with at some request. -/
def FailsWith (store : Store σ) (e : Error) : Prop :=
  ∃ r state, ((store.answer r).outcome state).1 = .error e

/-- Beside other writers, a store fails with its own errors only. -/
theorem failsAs_meddled (writes : Nat → σ → σ) (store : Store σ) (r : Request) (state : Nat × σ) :
    FailsAs store.FailsWith (((store.meddled writes).answer r).outcome state).1 :=
  fun _ failed => ⟨r, writes state.1 state.2, failed⟩

/-- A store in memory does not fail. -/
theorem not_failsWith_memory [HasShelf σ] (id : Nat) (e : Error) :
    ¬ (Memory.store id : Store σ).FailsWith e := by
  rintro ⟨r, state, failed⟩
  cases failed

end Moderation.Store
