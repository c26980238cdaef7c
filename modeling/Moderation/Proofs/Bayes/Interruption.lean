import Moderation.Proofs.Bayes.Call
import Moderation.Proofs.Store.Interruption

/-!
# `Moderation.Proofs.Bayes.Interruption`: a call that is cut short does not overshoot

Learning raises counters, forgetting lowers them, and starting over removes them at once. So the
numbers of a call move in one direction, and a call that a store cuts short leaves each number
between what it was and what the complete call would have made of it (`halfway_of_outage`).

That forgetting only lowers counters depends on what was learned before: no total is mended, and no
more tokens are taken off than there are. This is what the balance of a stock says
(`ensures_forget_lowering`), and every run of complete calls keeps to one.
-/

set_option autoImplicit false

namespace Moderation.Bayes

open Store Program

variable {α : Type} {scope category : String} {rest content : Entries Int} {stock : Stock}

/-! ### The programs end at a failure -/

section

variable (scope category)

/-- An addition is one request, and its failure is the failure of the program. -/
theorem relays_addTo (counter : Counter) (delta : Int) : (addTo scope counter delta).Relays :=
  relays_ask _

/-- So learning a token ends at the first addition that fails. -/
theorem relays_learnToken (token : String) (count : Nat) :
    (learnToken scope category token count).Relays := by
  refine (relays_addTo ..).bind fun _ => (relays_addTo ..).bind fun total => ?_
  split
  · exact (relays_addTo ..).bind fun _ => relays_pure ()
  · exact relays_pure ()

/-- Learning tokens ends at the first token that is not learned. -/
theorem relays_learnTokens (counts : Entries Nat) : (learnTokens scope category counts).Relays := by
  induction counts with
  | nil => exact relays_pure ()
  | cons entry counts ih => exact (relays_learnToken ..).bind fun _ => ih

/-- Forgetting a token ends at the first request that fails. -/
theorem relays_forgetToken (token : String) (count : Nat) (held : Int) :
    (forgetToken scope category token count held).Relays := by
  rw [forgetToken]
  split
  · exact relays_pure _
  · refine (relays_addTo ..).bind fun _ => (relays_addTo ..).bind fun total => ?_
    split
    · split
      · exact (relays_ask _).bind fun _ => (relays_addTo ..).bind fun _ => relays_pure _
      · exact (relays_addTo ..).bind fun _ => relays_pure _
    · exact relays_pure _

/-- Forgetting tokens ends at the first token that is not forgotten. -/
theorem relays_forgetTokens (reply : Entries Int) (counts : Entries Nat) :
    (forgetTokens scope category reply counts).Relays := by
  induction counts with
  | nil => exact relays_pure _
  | cons entry counts ih =>
    exact (relays_forgetToken ..).bind fun _ => ih.bind fun _ => relays_pure _

end

/-! ### The programs keep to a course -/

/-- A program takes a course from a content: inside the lock, and ending at the first failure, it
makes requests that a course admits. -/
def TakesCourse (program : Program Unit) (content : Entries Int) : Prop :=
  ∃ body admits leads, program = exclusively body ∧ body.Relays ∧ Course admits leads
    ∧ body.Ensures (.confined admits) (fun _ _ => True) content

/-- Learning a lesson raises numbers. -/
theorem takesCourse_learn (lesson : Lesson) (keeps : Keeps scope rest stock.balance content) :
    TakesCourse (learn scope lesson.category lesson.counts) content := by
  have raises (key : String) (delta : Int) (h : 0 ≤ delta) :
      (Terms.confined Direction.up.Admits).Grants (.increment key delta) :=
    Terms.confined_grants h
  refine ⟨_, _, _, rfl, ?_, Direction.up.course, ?_⟩
  · exact (relays_addTo ..).bind fun _ => (relays_addTo ..).bind fun _ => relays_learnTokens ..
  · have ensures := ensures_learn_raising lesson raises keeps
    rw [learn, ensures_exclusively] at ensures
    exact ensures.mono fun _ _ _ => trivial

/-- Forgetting a lesson lowers numbers, if what it is taken from is the balance of a stock. -/
theorem takesCourse_forget (lesson : Lesson) (keeps : Keeps scope rest stock.balance content) :
    TakesCourse (forget scope lesson.category lesson.counts) content := by
  have lowers (key : String) (delta : Int) (h : delta ≤ 0) :
      (Terms.confined Direction.down.Admits).Grants (.increment key delta) :=
    Terms.confined_grants h
  have reads (keys : List String) :
      (Terms.confined Direction.down.Admits).Grants (.getMany keys) :=
    Terms.confined_grants trivial
  refine ⟨_, _, _, rfl, ?_, Direction.down.course, ?_⟩
  · -- Request after request, up to the two branches: is there something to remove, and is the text
    -- counted?
    refine (relays_ask _).bind fun reply => (relays_forgetTokens ..).bind fun removed => ?_
    split
    · exact relays_pure ()
    · refine (relays_addTo ..).bind fun _ => ?_
      split
      · exact (relays_addTo ..).bind fun _ => relays_pure ()
      · exact relays_pure ()
  · have ensures := ensures_forget_lowering lesson lowers reads keeps
    rw [forget, ensures_exclusively] at ensures
    exact ensures.mono fun _ _ _ => trivial

/-- Starting over removes the scope. -/
theorem takesCourse_reset (scope : String) (content : Entries Int) :
    TakesCourse (reset scope) content := by
  refine ⟨_, _, _, rfl, (relays_ask _).bind fun _ => relays_pure (),
    course_clear (scopeStart scope), ?_⟩
  rw [ensures_bind]
  exact Ensures.of_grants (Terms.confined_grants rfl) trivial

/-- A call is done without a request, or takes a course. -/
theorem takesCourse_call {classifier : Classifier α} (call : Call)
    (keeps : Keeps classifier.scope rest stock.balance content) :
    (∃ result, ExceptT.run (call.program classifier) = .done result)
      ∨ TakesCourse (call.program classifier) content := by
  -- Learning and forgetting either have a lesson or make no request at all.
  cases call with
  | train category text =>
    rcases classifier.teach_eq category text learn with ⟨lesson, -, same⟩ | ⟨-, idle⟩
    · refine Or.inr ?_
      show TakesCourse (classifier.teach category text learn) content
      rw [same]
      exact takesCourse_learn lesson keeps
    · exact Or.inl idle
  | untrain category text =>
    rcases classifier.teach_eq category text forget with ⟨lesson, -, same⟩ | ⟨-, idle⟩
    · refine Or.inr ?_
      show TakesCourse (classifier.teach category text forget) content
      rw [same]
      exact takesCourse_forget lesson keeps
    · exact Or.inl idle
  | reset => exact Or.inr (takesCourse_reset _ _)

/-! ### A call that is cut short -/

/-- After any run, a call is cut short by a store that fails at one of its requests. It fails with the
error of the store, having made the requests of the complete call up to this one. Each number lies
between what it was before the call and what the complete call makes of it, and names that the
complete call leaves alone are left alone. -/
theorem halfway_of_outage [Arithmetic α] (classifier : Classifier α) {id : Nat} {shelf : Shelf}
    (hid : id < shelf.length)
    (fresh : ∀ key, Memory.inScope (scopeStart classifier.scope) key = true →
      (Memory.contentOf id shelf).get? key = none)
    (calls : List Call) (call : Call) {k : ℕ} (outage : Outage)
    (reached : k < (Call.requests classifier (Memory.store id) [call]
      (Call.runAll (classifier.strategy (Memory.store id)) calls shelf)).length) :
    let store : Store Shelf := Memory.store id
    let start := Call.runAll (classifier.strategy store) calls shelf
    let complete := (call.act (classifier.strategy store)).outcome start
    let attempt := (call.act (classifier.strategy (watched (outageAfter k outage) store))).outcome
      ([], start)
    attempt.1 = .error (.storeUnavailable outage)
      ∧ attempt.2.1 = (Call.requests classifier store [call] start).take (k + 1)
      ∧ Halfway (Memory.contentOf id start) (Memory.contentOf id complete.2)
        (Memory.contentOf id attempt.2.2) := by
  intro store start complete attempt
  obtain ⟨content, left, keeps⟩ := exists_runAll_eq_set hid fresh calls
  have hstart : start = shelf.set id content := left
  have before : Memory.contentOf id start = content := by
    rw [hstart, Memory.contentOf_set hid]
  -- The complete call, with a record of its requests.
  have watch : ∃ record, ((call.program classifier).run (watched steady store).answer).outcome
      ([], start) = (complete.1, record, complete.2) := by
    obtain ⟨record, same⟩ := outcome_run_steady store (call.program classifier) [] start
    refine ⟨record, ?_⟩
    rw [same, ← Call.act_strategy]
  obtain ⟨record, watch⟩ := watch
  have made : Call.requests classifier store [call] start = record := by
    show ((call.act _).outcome ([], start)).2.1 = record
    rw [Call.act_strategy, watch]
  have tried : attempt = ((call.program classifier).run
      (watched (outageAfter k outage) store).answer).outcome ([], start) := by
    rw [← Call.act_strategy]
  rw [made] at reached ⊢
  rcases takesCourse_call call keeps with ⟨result, idle⟩ | ⟨body, admits, leads, inside, relays,
    course, ensures⟩
  · -- Without a request there is none to fail at.
    have quiet : ((call.program classifier).run (watched steady store).answer).outcome ([], start)
        = (result, [], start) := by
      show (ExceptT.run (call.program classifier)).run (answerAlone (watched steady store).answer)
        ([], start) = _
      rw [idle]
      rfl
    have none : record = [] := congrArg (·.2.1) (watch.symm.trans quiet)
    rw [none] at reached
    cases reached
  · obtain ⟨cut, last, completed, stopped, halfway, ended⟩ :=
      ensures.interrupted outage course hid relays k
    rw [← inside, ← hstart] at completed stopped ended
    rw [watch] at completed ended
    rw [← tried] at stopped ended
    obtain ⟨failed, asked⟩ := ended reached
    refine ⟨failed, asked, ?_⟩
    rw [before, show complete.2 = shelf.set id last from completed, stopped,
      Memory.contentOf_set hid, Memory.contentOf_set hid]
    exact halfway

/-- A text is forgotten until the store fails at the fourth request, by which the size of the
vocabulary would fall. What was taken off by then is a part of what the complete call takes off. -/
theorem halfway_spamFilter_of_outage :
    let calls : List Call :=
      [.train (.text "spam") (.text "cheap pills"), .train (.text "ham") (.text "pills")]
    let call : Call := .untrain (.text "spam") (.text "cheap pills")
    let store : Store Shelf := Memory.store 0
    let start : Shelf := Call.runAll (spamFilter.strategy store) calls ([[]] : Shelf)
    let complete := (call.act (spamFilter.strategy store)).outcome start
    let lost : Outage := .stated "connection lost"
    let attempt := (call.act (spamFilter.strategy (watched (outageAfter 3 lost) store))).outcome
      ([], start)
    Memory.contentOf 0 start = [("mail:msg:spam", 1), ("mail:tok:spam", 2),
        ("mail:cnt:spam:cheap", 1), ("mail:voc:cheap", 1), ("mail:vocsize", 2),
        ("mail:cnt:spam:pills", 1), ("mail:voc:pills", 2), ("mail:msg:ham", 1),
        ("mail:tok:ham", 1), ("mail:cnt:ham:pills", 1)]
      ∧ Memory.contentOf 0 attempt.2.2 = [("mail:msg:spam", 1), ("mail:tok:spam", 2),
        ("mail:vocsize", 2), ("mail:cnt:spam:pills", 1), ("mail:voc:pills", 2),
        ("mail:msg:ham", 1), ("mail:tok:ham", 1), ("mail:cnt:ham:pills", 1)]
      ∧ Memory.contentOf 0 complete.2 = [("mail:vocsize", 1), ("mail:voc:pills", 1),
        ("mail:msg:ham", 1), ("mail:tok:ham", 1), ("mail:cnt:ham:pills", 1)]
      ∧ attempt.1 = .error (.storeUnavailable lost)
      ∧ Halfway (Memory.contentOf 0 start) (Memory.contentOf 0 complete.2)
        (Memory.contentOf 0 attempt.2.2) := by
  intro calls call store start complete lost attempt
  have fresh (key : String) (_ : Memory.inScope (scopeStart spamFilter.scope) key = true) :
      (Memory.contentOf 0 ([[]] : Shelf)).get? key = none := rfl
  -- The complete call makes more than three requests, so the fourth is reached.
  have reached : 3 < (Call.requests spamFilter (Memory.store 0) [call]
      (Call.runAll (spamFilter.strategy (Memory.store 0)) calls ([[]] : Shelf))).length := by
    decide +kernel
  obtain ⟨failed, -, halfway⟩ :=
    halfway_of_outage spamFilter (by decide) fresh calls call lost reached
  refine ⟨?_, ?_, ?_, failed, halfway⟩
  · decide +kernel
  · decide +kernel
  · decide +kernel

end Moderation.Bayes
