/-!
# `Moderation.Dialogue`: computations that ask questions

A learner asks its store for counters, a store asks a server, and the registry asks for its
lock. Such a computation is a tree: it is done, or it asks a question and goes on with the
answer. The tree says nothing about who answers, so one computation can be run against a store,
against a failing store, or step by step beside others.

* `Dialogue.run` answers all questions in a monad.
* `Dialogue.run_bind` says that running respects composition.
-/

set_option autoImplicit false

namespace Moderation

/-- A computation of a `β` that asks questions `Q`, the answer to `q` being an `A q`. -/
inductive Dialogue (Q : Type) (A : Q → Type) (β : Type) where
  | done (result : β)
  | ask (question : Q) (next : A question → Dialogue Q A β)

namespace Dialogue

variable {Q : Type} {A : Q → Type} {β γ : Type}

/-- Goes on with `f` after a computation. -/
def bind : Dialogue Q A β → (β → Dialogue Q A γ) → Dialogue Q A γ
  | done x, f => f x
  | ask q next, f => ask q fun answer => (next answer).bind f

instance : Monad (Dialogue Q A) where
  pure := done
  bind := bind

/-- Asks one question. -/
def question (q : Q) : Dialogue Q A (A q) := ask q done

/-- Runs a computation, all questions being answered in a monad. -/
def run {m : Type → Type} [Monad m] (answer : (q : Q) → m (A q)) : Dialogue Q A β → m β
  | done x => pure x
  | ask q next => do
    let reply ← answer q
    (next reply).run answer

/-! ### Laws -/

/-- A computation that asks nothing is done. -/
@[simp]
theorem pure_eq_done (x : β) : (pure x : Dialogue Q A β) = done x := rfl

/-- What comes after a computation that is done goes on with its result. -/
@[simp]
theorem done_bind (x : β) (f : β → Dialogue Q A γ) : (done x >>= f) = f x := rfl

/-- A computation that asks is followed after each answer. -/
@[simp]
theorem ask_bind (q : Q) (next : A q → Dialogue Q A β) (f : β → Dialogue Q A γ) :
    (ask q next >>= f) = ask q fun answer => next answer >>= f := rfl

/-- Nothing needs to follow a computation. -/
theorem bind_done (d : Dialogue Q A β) : (d >>= done) = d := by
  induction d with
  | done x => rfl
  | ask q next ih => simp [ih]

/-- It does not matter how three computations in a row are bracketed. -/
theorem bind_assoc {δ : Type} (d : Dialogue Q A β) (f : β → Dialogue Q A γ)
    (g : γ → Dialogue Q A δ) : ((d >>= f) >>= g) = (d >>= fun x => f x >>= g) := by
  induction d with
  | done x => rfl
  | ask q next ih => simp [ih]

instance : LawfulMonad (Dialogue Q A) :=
  LawfulMonad.mk' (Dialogue Q A) (fun d => bind_done d) (fun _ _ => rfl) bind_assoc

section Run

variable {m : Type → Type} [Monad m] (answer : (q : Q) → m (A q))

/-- A computation that is done gives its result. -/
@[simp]
theorem run_done (x : β) : (done x : Dialogue Q A β).run answer = pure x := rfl

/-- A question is answered, and the computation goes on with the answer. -/
@[simp]
theorem run_ask (q : Q) (next : A q → Dialogue Q A β) :
    (ask q next).run answer = answer q >>= fun reply => (next reply).run answer := rfl

/-- Two computations in a row are run one after the other. -/
theorem run_bind [LawfulMonad m] (d : Dialogue Q A β) (f : β → Dialogue Q A γ) :
    (d >>= f).run answer = d.run answer >>= fun x => (f x).run answer := by
  induction d with
  | done x => simp
  | ask q next ih => simp [ih]

/-- A last question whose answer changes nothing might as well not be asked. -/
theorem run_bind_ask [LawfulMonad m] (d : Dialogue Q A β) {q : Q} {reply : A q}
    (idle : answer q = pure reply) :
    (d >>= fun x => ask q fun _ => done x).run answer = d.run answer := by
  rw [run_bind]
  simp only [run_ask, run_done, idle, pure_bind, bind_pure]

/-- Running respects the composition of computations that may fail. -/
theorem run_except_bind [LawfulMonad m] {ε : Type} (program : ExceptT ε (Dialogue Q A) β)
    (f : β → ExceptT ε (Dialogue Q A) γ) :
    ExceptT.mk (Dialogue.run answer (ExceptT.run (program >>= f)))
      = ExceptT.mk (Dialogue.run answer (ExceptT.run program)) >>= fun x =>
          ExceptT.mk (Dialogue.run answer (ExceptT.run (f x))) := by
  apply ExceptT.ext
  rw [ExceptT.run_mk, ExceptT.run_bind, ExceptT.run_bind, run_bind, ExceptT.run_mk]
  refine bind_congr fun result => ?_
  cases result <;> rfl

end Run

end Dialogue

end Moderation
