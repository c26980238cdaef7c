import Moderation.Bayes.Training
import Moderation.Proofs.Store.Exclusion

/-!
# `Moderation.Proofs.Store.Zeros`: programs that do not tell zero from absent

Some stores drop a number that becomes zero, and some keep it. A counter that is absent counts as
zero, so a learner should not see the difference: not in the number under a name, and not in the
numbers under several.

`Dialogue.IgnoresZeros` says this of a tree of requests: what comes after a reply is the same for all
replies that differ in zeros only. The relation is on replies and not on results, and so it composes
(`IgnoresZeros.bind`), as long as each reply is turned into counts at once (`ignoresZeros_getMany`,
`ignoresZeros_get`).

`Program.IgnoresZeros.agrees` is what it is for. Two stores that answer alike up to zeros
(`Interchangeable`) give such a program the same result, and go on answering alike. The lock makes
no difference to a program that runs alone (`Agrees.exclusively`).

A program that removes names is not among them: it gets their number for a reply.
-/

set_option autoImplicit false

namespace Moderation.Store

open Bayes (replied)

variable {σ τ β γ : Type}

/-- Replies that differ in zeros only. -/
def Request.Alike : (r : Request) → r.Reply → r.Reply → Prop
  | .get _, a, b => a.getD 0 = b.getD 0
  | .getMany _, a, b => replied a = replied b
  | .set .., a, b => a = b
  | .increment .., a, b => a = b
  | .clear _, _, _ => False

/-! ### Trees of requests -/

/-- A computation that keeps names and does not tell a zero from an absent number. -/
inductive Dialogue.IgnoresZeros : Dialogue Step Step.Answer β → Prop where
  | done (x : β) : IgnoresZeros (.done x)
  | ask {r : Request} {next : Except Error r.Reply → Dialogue Step Step.Answer β}
      (keeps : ∀ scope, r ≠ .clear scope)
      (alike : ∀ a b, r.Alike a b → next (.ok a) = next (.ok b))
      (h : ∀ reply, IgnoresZeros (next reply)) : IgnoresZeros (.ask (.request r) next)

/-- Computations that do not tell zero from absent compose: what one of them makes of alike replies
is the same, and so is what follows. -/
theorem Dialogue.IgnoresZeros.bind {d : Dialogue Step Step.Answer β}
    {f : β → Dialogue Step Step.Answer γ} (h : IgnoresZeros d) (hf : ∀ x, IgnoresZeros (f x)) :
    IgnoresZeros (d >>= f) := by
  induction h with
  | done x => exact hf x
  | ask keeps alike _ ih => exact .ask keeps (fun a b hab => congrArg (· >>= f) (alike a b hab)) ih

/-- A computation that ignores zeros makes requests and does not touch the lock. -/
theorem Dialogue.IgnoresZeros.onlyRequests {d : Dialogue Step Step.Answer β}
    (h : IgnoresZeros d) : OnlyRequests d := by
  induction h with
  | done x => exact .done x
  | @ask r _ _ _ _ ih => exact .ask r ih

/-! ### Programs -/

namespace Program

/-- A program that keeps names and does not tell a zero from an absent number. -/
def IgnoresZeros (program : Program β) : Prop := Dialogue.IgnoresZeros (ExceptT.run program)

/-- A program that is done has no reply to look at. -/
theorem ignoresZeros_pure (x : β) : (pure x : Program β).IgnoresZeros :=
  Dialogue.IgnoresZeros.done (Except.ok x)

/-- A program without requests has no reply to look at. -/
theorem ignoresZeros_ofExcept (result : Except Error β) : (ofExcept result).IgnoresZeros :=
  .done result

/-- Programs that do not tell zero from absent compose. -/
theorem IgnoresZeros.bind {program : Program β} {f : β → Program γ} (h : program.IgnoresZeros)
    (hf : ∀ x, (f x).IgnoresZeros) : (program >>= f).IgnoresZeros := by
  rw [IgnoresZeros, ExceptT.run_bind]
  refine Dialogue.IgnoresZeros.bind h fun result => ?_
  -- An error ends the program, and asks for nothing more.
  cases result with
  | ok x => exact hf x
  | error e => exact ignoresZeros_ofExcept (.error e)

/-- Setting a number has one reply, so there is nothing to tell. -/
theorem ignoresZeros_set (key : String) (value : Int) : (set key value).IgnoresZeros :=
  .ask (by simp) (fun _ _ _ => rfl) .done

/-- An addition replies with a sum, which is a number in any case. -/
theorem ignoresZeros_increment (key : String) (delta : Int) : (increment key delta).IgnoresZeros :=
  .ask (by simp) (fun _ _ same => by rw [show _ = _ from same]) .done

/-- Looking a number up, and going on in a way that only depends on how much it counts. -/
theorem ignoresZeros_get {key : String} {f : Option Int → Program β}
    (alike : ∀ a b : Option Int, a.getD 0 = b.getD 0 → f a = f b) (h : ∀ a, (f a).IgnoresZeros) :
    (get key >>= f).IgnoresZeros := by
  refine .ask (by simp) (fun a b hab => congrArg ExceptT.run (alike a b hab)) fun reply => ?_
  cases reply with
  | ok a => exact h a
  | error e => exact ignoresZeros_ofExcept (.error e)

/-- Looking numbers up, and going on in a way that only depends on how much they count. -/
theorem ignoresZeros_getMany {keys : List String} {f : Entries Int → Program β}
    (alike : ∀ a b, replied a = replied b → f a = f b) (h : ∀ a, (f a).IgnoresZeros) :
    (getMany keys >>= f).IgnoresZeros := by
  refine .ask (by simp) (fun a b hab => congrArg ExceptT.run (alike a b hab)) fun reply => ?_
  cases reply with
  | ok a => exact h a
  | error e => exact ignoresZeros_ofExcept (.error e)

end Program

/-! ### Stores -/

/-- Two stores never fail, and answer alike up to zeros in states that are alike. -/
structure Interchangeable (answer : (r : Request) → Act σ r.Reply)
    (answer' : (r : Request) → Act τ r.Reply) (alike : σ → τ → Prop) : Prop where
  answers : ∀ (r : Request) state state', (∀ scope, r ≠ .clear scope) → alike state state' →
    ∃ reply reply' after after', (answer r).outcome state = (.ok reply, after)
      ∧ (answer' r).outcome state' = (.ok reply', after')
      ∧ r.Alike reply reply' ∧ alike after after'

/-- A program has the same result on two stores in states that are alike, and these are alike
afterwards. -/
def Program.Agrees (answer : (r : Request) → Act σ r.Reply) (answer' : (r : Request) → Act τ r.Reply)
    (alike : σ → τ → Prop) (program : Program β) : Prop :=
  ∀ state state', alike state state' →
    ((program.run answer).outcome state).1 = ((program.run answer').outcome state').1
      ∧ alike ((program.run answer).outcome state).2 ((program.run answer').outcome state').2

variable {answer : (r : Request) → Act σ r.Reply} {answer' : (r : Request) → Act τ r.Reply}
  {alike : σ → τ → Prop}

/-- A request is answered, and the computation goes on with the reply. -/
theorem run_request (answer : (r : Request) → Act σ r.Reply) {r : Request}
    (next : Except Error r.Reply → Dialogue Step Step.Answer β) {reply : Except Error r.Reply}
    {state after : σ} (served : (answer r).outcome state = (reply, after)) :
    (Dialogue.ask (.request r) next).run (Program.answerAlone answer) state
      = (next reply).run (Program.answerAlone answer) after := by
  show (next ((answer r).outcome state).1).run (Program.answerAlone answer)
    ((answer r).outcome state).2 = _
  rw [served]

/-- Stores that answer alike up to zeros give a computation that ignores zeros one result. -/
theorem Dialogue.IgnoresZeros.run (both : Interchangeable answer answer' alike)
    {d : Dialogue Step Step.Answer β} (h : IgnoresZeros d) {state : σ} {state' : τ}
    (same : alike state state') :
    (d.run (Program.answerAlone answer) state).1 = (d.run (Program.answerAlone answer') state').1
      ∧ alike (d.run (Program.answerAlone answer) state).2
        (d.run (Program.answerAlone answer') state').2 := by
  -- The two stores go on from states that are alike again.
  induction h generalizing state state' with
  | done x => exact ⟨rfl, same⟩
  | @ask r next keeps hnext _ ih =>
    -- The two replies may differ in zeros, and the computation goes on alike after both.
    obtain ⟨reply, reply', after, after', served, served', hreply, hafter⟩ :=
      both.answers r state state' keeps same
    rw [run_request answer next served, run_request answer' next served',
      ← hnext reply reply' hreply]
    exact ih (.ok reply) hafter

namespace Program

/-- A program that does not tell zero from absent agrees on stores that differ in nothing else. -/
theorem IgnoresZeros.agrees (both : Interchangeable answer answer' alike) {program : Program β}
    (h : program.IgnoresZeros) : program.Agrees answer answer' alike :=
  fun _ _ same => Dialogue.IgnoresZeros.run both h same

/-- A program that runs alone finds the lock free. -/
theorem run_exclusively (answer : (r : Request) → Act σ r.Reply) (program : Program β) :
    (exclusively program).run answer = program.run answer := by
  show ExceptT.mk (Dialogue.run (answerAlone answer)
    (ExceptT.run program >>= fun result => .ask .unlock fun _ => .done result)) = _
  exact congrArg ExceptT.mk (Dialogue.run_bind_ask _ _ rfl)

/-- A program that agrees on two stores agrees on them behind the lock. -/
theorem Agrees.exclusively {program : Program β} (h : program.Agrees answer answer' alike) :
    (exclusively program).Agrees answer answer' alike := by
  intro state state' same
  rw [run_exclusively, run_exclusively]
  exact h state state' same

end Program

end Moderation.Store
