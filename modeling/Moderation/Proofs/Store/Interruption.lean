import Mathlib.Order.Interval.Set.UnorderedInterval
import Moderation.Proofs.Bayes.Balance
import Moderation.Proofs.Store.Watched
import Moderation.Proofs.Store.Zeros

/-!
# `Moderation.Proofs.Store.Interruption`: programs that a store cuts short

A store fails at one request of a program, and the program ends there with the error of the store.
What the store then holds is one of the contents that the complete program passes through. If all of
these lie on one course, each of them stands between the first and the last.

* `Dialogue.Relays` says that a program ends with the error of the first request that fails.
* `Course` is a relation between contents that the admitted requests follow, and on which every
  content in between is `Halfway`. Numbers that move in one direction are a course
  (`Direction.course`), and the removal of a scope is one (`course_clear`).
* `Program.Ensures.interrupted` is the induction over programs: on a course, a program that is cut at
  any request leaves a content on the way from the first content to the last.
-/

set_option autoImplicit false

namespace Moderation.Store

open Bayes (replied)

variable {σ β γ : Type}

/-! ### Programs that end at a failure -/

/-- A computation of requests that ends with the error of the first of them that fails. -/
inductive Dialogue.Relays : Dialogue Step Step.Answer (Except Error β) → Prop where
  | done (result : Except Error β) : Relays (.done result)
  | ask {r : Request} {next : Except Error r.Reply → Dialogue Step Step.Answer (Except Error β)}
      (ends : ∀ e, next (.error e) = .done (.error e)) (h : ∀ reply, Relays (next (.ok reply))) :
      Relays (.ask (.request r) next)

/-- Computations that end at a failure compose, if the second ends at once after an error of the
first. -/
theorem Dialogue.Relays.bind {d : Dialogue Step Step.Answer (Except Error β)}
    {f : Except Error β → Dialogue Step Step.Answer (Except Error γ)} (h : Relays d)
    (ends : ∀ e, f (.error e) = .done (.error e)) (hf : ∀ x, Relays (f (.ok x))) :
    Relays (d >>= f) := by
  induction h with
  | done result =>
    -- The second computation begins at the result of the first, an error included.
    cases result with
    | ok x => exact hf x
    | error e =>
      rw [Dialogue.done_bind, ends]
      exact .done _
  | ask relay _ ih => exact .ask (fun e => (congrArg (· >>= f) (relay e)).trans (ends e)) ih

namespace Program

/-- A program of requests that ends with the error of the first of them that fails. -/
def Relays (program : Program β) : Prop := Dialogue.Relays (ExceptT.run program)

/-- A program that is done cannot be cut. -/
theorem relays_pure (x : β) : (pure x : Program β).Relays := .done (.ok x)

/-- A single request ends with its error. -/
theorem relays_ask (r : Request) : (ask r).Relays := .ask (fun _ => rfl) fun _ => .done _

/-- Programs that end at a failure compose: an error ends the whole program. -/
theorem Relays.bind {program : Program β} {f : β → Program γ} (h : program.Relays)
    (hf : ∀ x, (f x).Relays) : (program >>= f).Relays := by
  rw [Relays, ExceptT.run_bind]
  exact Dialogue.Relays.bind h (fun _ => rfl) hf

end Program

/-! ### Courses -/

/-- A content stands between two others: each number lies between the two numbers, and names that
are the same on both sides are the same in between. -/
structure Halfway (first last between : Entries Int) : Prop where
  mem_uIcc : ∀ key, replied between key ∈ Set.uIcc (replied first key) (replied last key)
  unchanged : ∀ key, last.get? key = first.get? key → between.get? key = first.get? key

/-- A relation between contents that admitted requests follow, so that every content on the way
stands between the first and the last. -/
structure Course (admits : Request → Prop) (leads : Entries Int → Entries Int → Prop) : Prop where
  refl : ∀ content, leads content content
  trans : ∀ {first between last}, leads first between → leads between last → leads first last
  step : ∀ {r} content, admits r → leads content (Memory.answer content r).2
  halfway : ∀ {first between last}, leads first between → leads between last →
    Halfway first last between

/-- The direction in which numbers move. -/
inductive Direction where
  | up
  | down

namespace Direction

/-- Whether a number comes before another in a direction, or is the same. -/
def le : Direction → Int → Int → Prop
  | up, m, n => m ≤ n
  | down, m, n => n ≤ m

/-- A request that moves numbers in a direction only, and sets none. -/
def Admits (direction : Direction) : Request → Prop
  | .increment _ delta => direction.le 0 delta
  | .get _ | .getMany _ => True
  | .set .. | .clear _ => False

/-- Every number has moved in a direction, and no zero has been stored. -/
def Leads (direction : Direction) (before after : Entries Int) : Prop :=
  ∀ key, direction.le (replied before key) (replied after key)
    ∧ (after.get? key = some 0 → before.get? key = some 0)

variable (direction : Direction)

/-- No number moves against a direction by staying where it is. -/
theorem le_refl (n : Int) : direction.le n n := by
  cases direction <;> exact Int.le_refl n

variable {direction}

/-- Moves in one direction add up. -/
theorem le_trans {l m n : Int} (h : direction.le l m) (h' : direction.le m n) :
    direction.le l n := by
  cases direction <;> simp only [le] at * <;> omega

/-- A difference in a direction moves every number in this direction. -/
theorem le_add {delta : Int} (h : direction.le 0 delta) (n : Int) : direction.le n (n + delta) := by
  cases direction <;> simp only [le] at * <;> omega

/-- A number that comes back has never moved. -/
theorem le_antisymm {m n : Int} (h : direction.le m n) (h' : direction.le n m) : m = n := by
  cases direction <;> simp only [le] at * <;> omega

/-- What a number passes through on its way lies between the ends of the way. -/
theorem mem_uIcc {l m n : Int} (h : direction.le l m) (h' : direction.le m n) :
    m ∈ Set.uIcc l n := by
  cases direction with
  | up => exact Set.mem_uIcc_of_le h h'
  | down => exact Set.mem_uIcc_of_ge h' h

/-- A content that stays as it is has moved in both directions. -/
theorem Leads.refl (content : Entries Int) : direction.Leads content content :=
  fun _ => ⟨direction.le_refl _, fun zero => zero⟩

/-- An addition moves one number, and removes a number that it brings to zero. -/
theorem leads_increment {delta : Int} (h : direction.le 0 delta) (content : Entries Int)
    (key : String) : direction.Leads content (Memory.increment content key delta).2 := by
  intro other
  rw [replied, replied, Memory.get?_increment, Memory.get?_increment_eq]
  -- Only the number under the key moves.
  by_cases same : key = other
  · subst same
    rw [if_pos rfl, if_pos rfl]
    refine ⟨le_add h _, fun zero => ?_⟩
    split at zero
    · cases zero
    · next nonzero => exact absurd (Option.some.inj zero) nonzero
  · rw [if_neg same, if_neg same, add_zero]
    exact ⟨direction.le_refl _, fun zero => zero⟩

/-- Names that are the same on both sides are the same in between: a number that has moved does not
come back, and a zero is neither stored nor removed. -/
theorem Leads.get?_between {first between last : Entries Int} (h : direction.Leads first between)
    (h' : direction.Leads between last) {key : String} (same : last.get? key = first.get? key) :
    between.get? key = first.get? key := by
  have back : direction.le (replied between key) (replied first key) := by
    have := (h' key).1
    rwa [show replied last key = replied first key by rw [replied, same, replied]] at this
  have value : replied between key = replied first key := (le_antisymm (h key).1 back).symm
  have kept := (h key).2
  have kept' := (h' key).2
  rw [same] at kept'
  rw [replied, replied] at value
  -- The numbers are equal, so only a zero and an absent number could differ, and no zero is stored
  -- or removed.
  cases found : between.get? key <;> cases found' : first.get? key <;> simp_all

/-- Requests that move numbers in one direction keep to a course. -/
theorem course (direction : Direction) : Course direction.Admits direction.Leads where
  refl := Leads.refl
  trans h h' key := ⟨le_trans (h key).1 (h' key).1, (h key).2 ∘ (h' key).2⟩
  step {r} content admitted := by
    -- Look-ups change nothing, additions move one number, and the others are not admitted.
    cases r with
    | get key => exact Leads.refl content
    | getMany keys => exact Leads.refl content
    | set key value => exact admitted.elim
    | increment key delta => exact leads_increment admitted content key
    | clear scope => exact admitted.elim
  halfway h h' := ⟨fun key => mem_uIcc (h key).1 (h' key).1, fun _ same => h.get?_between h' same⟩

end Direction

/-- Removing a scope keeps to a course: it is removed at once, or not at all. -/
theorem course_clear (scope : String) :
    Course (· = .clear scope) fun before after => after = before ∨ after = Memory.clear before scope where
  refl _ := Or.inl rfl
  trans := by
    rintro first between last (rfl | rfl) (rfl | rfl)
    · exact Or.inl rfl
    · exact Or.inr rfl
    · exact Or.inr rfl
    · exact Or.inr (by simp [Memory.clear])
  step := by
    rintro r content rfl
    exact Or.inr rfl
  halfway := by
    rintro first between last (rfl | rfl) h
    · exact ⟨fun _ => Set.left_mem_uIcc, fun _ _ => rfl⟩
    · -- What is removed already is not removed again.
      obtain rfl : last = Memory.clear first scope := by
        rcases h with rfl | rfl
        · rfl
        · simp [Memory.clear]
      exact ⟨fun _ => Set.right_mem_uIcc, fun _ same => same⟩

/-! ### A store that fails at one request -/

/-- The plan of a store that fails at the request that comes after `k` others. -/
def outageAfter (k : ℕ) (outage : Outage) : List Request → Request → Option Outage :=
  fun record _ => if record.length = k then some outage else none

/-- The terms between a store that never fails and a program that makes admitted requests only. -/
def Terms.confined (admits : Request → Prop) : Terms where
  admits := admits
  serves _ := True
  fails _ _ := False

/-- A store that never fails grants all requests that are admitted. -/
theorem Terms.confined_grants {admits : Request → Prop} {r : Request} (h : admits r) :
    (confined admits).Grants r := ⟨h, fun _ => not_false⟩

variable {admits : Request → Prop} {leads : Entries Int → Entries Int → Prop} {id : Nat}
  {shelf : Shelf} (outage : Outage) {content : Entries Int}

/-- A computation that is cut at the request after `k` others leaves a content on the way from the
first to the last, and has made the requests of the complete one up to this. -/
theorem Dialogue.Ensures.interrupted (course : Course admits leads) (hid : id < shelf.length)
    {d : Dialogue Step Step.Answer (Except Error β)} {post : Except Error β → Entries Int → Prop}
    (relays : Dialogue.Relays d) (h : Dialogue.Ensures (.confined admits) d post content)
    (record : List Request) {k : ℕ} (hk : record.length ≤ k) :
    let run (plan : List Request → Request → Option Outage) :=
      d.run (Program.answerAlone (watched plan (Memory.store id)).answer)
        (record, shelf.set id content)
    let attempt := run (outageAfter k outage)
    ∃ cut last rest, leads content cut ∧ leads cut last
      ∧ (run steady).2 = (record ++ rest, shelf.set id last)
      ∧ attempt.2.2 = shelf.set id cut
      ∧ (k < (record ++ rest).length → attempt.1 = .error (.storeUnavailable outage)
          ∧ attempt.2.1 = (record ++ rest).take (k + 1)) := by
  -- The content and the record grow with each request, and the cut comes when the record is long
  -- enough.
  induction relays generalizing content record k with
  | done result =>
    refine ⟨content, content, [], course.refl _, course.refl _, ?_, rfl, fun reached => ?_⟩
    · rw [List.append_nil]
      rfl
    · rw [List.append_nil] at reached
      omega
  | @ask r next ends _ ih =>
    obtain ⟨admitted, served, -⟩ := h
    have first := course.step content admitted
    have goesOn := served trivial
    -- A request that is served is recorded, and the rest of the computation follows it.
    have step (plan : List Request → Request → Option Outage) :
        (Dialogue.ask (.request r) next).run
            (Program.answerAlone (watched plan (Memory.store id)).answer)
            (record, shelf.set id content)
          = let served := ((watched plan (Memory.store id)).answer r).outcome
              (record, shelf.set id content)
            (next served.1).run (Program.answerAlone (watched plan (Memory.store id)).answer)
              served.2 := rfl
    have length : (record ++ [r]).length = record.length + 1 := by simp
    simp only [step, outcome_watched hid, steady, outageAfter]
    by_cases here : record.length = k
    · -- The store fails here. The complete computation still leads on from the content.
      obtain ⟨cut, last, rest, toCut, toLast, complete, -, -⟩ :=
        ih _ goesOn (record ++ [r]) (k := k + 1) (by omega)
      rw [List.append_assoc] at complete
      have failed : (next (.error (.storeUnavailable outage))).run
          (Program.answerAlone (watched (outageAfter k outage) (Memory.store id)).answer)
          (record ++ [r], shelf.set id content)
        = (.error (.storeUnavailable outage), record ++ [r], shelf.set id content) := by
        rw [ends]
        rfl
      refine ⟨content, last, [r] ++ rest, course.refl _,
        course.trans first (course.trans toCut toLast), complete, ?_⟩
      simp only [if_pos here]
      refine ⟨congrArg (·.2.2) failed, fun _ => ⟨congrArg (·.1) failed, ?_⟩⟩
      rw [← List.append_assoc, List.take_append_of_le_length (by omega),
        List.take_of_length_le (by omega)]
      exact congrArg (·.2.1) failed
    · -- The cut comes later, so this request is served in both runs.
      obtain ⟨cut, last, rest, toCut, toLast, complete, left, ended⟩ :=
        ih _ goesOn (record ++ [r]) (k := k) (by omega)
      rw [List.append_assoc] at complete ended
      rw [if_neg here]
      exact ⟨cut, last, [r] ++ rest, course.trans first toCut, toLast, complete, left, ended⟩

/-- A program that keeps to a course inside the lock and is cut at the request after `k` others leaves
a content that stands between the one before it and the one after the complete program. -/
theorem Program.Ensures.interrupted (course : Course admits leads) (hid : id < shelf.length)
    {program : Program β} {post : Except Error β → Entries Int → Prop} (relays : program.Relays)
    (h : program.Ensures (.confined admits) post content) (k : ℕ) :
    let complete := ((exclusively program).run (watched steady (Memory.store id)).answer).outcome
      ([], shelf.set id content)
    let attempt := ((exclusively program).run
      (watched (outageAfter k outage) (Memory.store id)).answer).outcome ([], shelf.set id content)
    ∃ cut last, complete.2.2 = shelf.set id last ∧ attempt.2.2 = shelf.set id cut
      ∧ Halfway content last cut
      ∧ (k < complete.2.1.length → attempt.1 = .error (.storeUnavailable outage)
          ∧ attempt.2.1 = complete.2.1.take (k + 1)) := by
  -- The program runs alone, so the lock makes no request and is always free.
  simp only [run_exclusively]
  obtain ⟨cut, last, rest, toCut, toLast, complete, left, ended⟩ :=
    Dialogue.Ensures.interrupted outage course hid relays h [] (Nat.zero_le k)
  have requests := congrArg Prod.fst complete
  refine ⟨cut, last, congrArg Prod.snd complete, left, course.halfway toCut toLast,
    fun reached => ?_⟩
  have made : ((program.run (watched steady (Memory.store id)).answer).outcome
      ([], shelf.set id content)).2.1 = [] ++ rest := requests
  rw [made] at reached ⊢
  exact ended reached

end Moderation.Store
