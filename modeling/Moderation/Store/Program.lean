import Moderation.Act
import Moderation.Dialogue
import Moderation.Store.Request

/-!
# `Moderation.Store.Program`: computations over a store

A learner reads and changes its counters in several round trips. Its writers take turns: a
program takes the lock before its first round trip and gives it back after the last, also when
it fails in between. Each question of a program is one step that other programs may come before
or after.

* `Program.run` runs a program alone, so that the lock is always free.
-/

set_option autoImplicit false

namespace Moderation.Store

/-- A step of a program: a round trip to the store, or taking or giving back the lock. -/
inductive Step where
  | request (request : Request)
  | lock
  | unlock
  deriving DecidableEq, Repr

/-- What a step answers. A round trip may fail. -/
abbrev Step.Answer : Step → Type
  | request r => Except Error r.Reply
  | lock => Unit
  | unlock => Unit

/-- A computation over a store, which may fail. -/
abbrev Program (β : Type) := ExceptT Error (Dialogue Step Step.Answer) β

namespace Program

variable {σ β : Type}

/-- One round trip. -/
def ask (request : Request) : Program request.Reply :=
  ExceptT.mk (Dialogue.question (Step.request request))

/-- The number under `key`. -/
def get (key : String) : Program (Option Int) := ask (.get key)

/-- The numbers under `keys`. -/
def getMany (keys : List String) : Program (Entries Int) := ask (.getMany keys)

/-- Sets the number under `key`. -/
def set (key : String) (value : Int) : Program Unit := ask (.set key value)

/-- Adds to the number under `key`, and gives the sum. -/
def increment (key : String) (delta : Int) : Program Int := ask (.increment key delta)

/-- Removes the names that begin with `scope`, and gives their count. -/
def clear (scope : String) : Program Number := ask (.clear scope)

/-- Holds the lock during a program, whether it succeeds or fails. -/
def exclusively (program : Program β) : Program β :=
  ExceptT.mk do
    let _ ← Dialogue.question Step.lock
    let result ← program.run
    let _ ← Dialogue.question Step.unlock
    return result

/-- Gives a result that is known, or fails at once. -/
def ofExcept (result : Except Error β) : Program β := ExceptT.mk (pure result)

/-- Lets an arithmetic fault fail the program. -/
def ofArithmetic (result : Except ArithmeticFault β) : Program β :=
  ofExcept (result.mapError Error.ofArithmetic)

/-- Answers a step of a program that runs alone. -/
def answerAlone (answer : (request : Request) → Act σ request.Reply) :
    (step : Step) → StateM σ step.Answer
  | .request r => (answer r).run
  | .lock => pure ()
  | .unlock => pure ()

/-- Runs a program alone. -/
def run (answer : (request : Request) → Act σ request.Reply) (program : Program β) : Act σ β :=
  ExceptT.mk (Dialogue.run (answerAlone answer) (ExceptT.run program))

end Program

end Moderation.Store
