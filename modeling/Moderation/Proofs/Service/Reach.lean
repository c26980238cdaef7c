import Moderation.Proofs.Bayes.Call
import Moderation.Proofs.Store.Blackout
import Moderation.Service.Training

/-!
# `Moderation.Proofs.Service.Reach`: teaching a classifier whose store may be out of reach

A classifier is taught a text in a category that it knows. If its store can be reached, it succeeds,
and what it has learned follows the call as on a store that never fails. If the store cannot be
reached, the first request fails and nothing changes; only a text without tokens asks nothing of the
store, and is taught all the same.

`outcome_apply` puts both into one form: whoever succeeds has followed the call, and whoever fails
has done nothing.
-/

set_option autoImplicit false

namespace Moderation

open Store Bayes Tokenizer

variable {σ α β : Type} {content : Entries Int}

/-- A program that starts with a request ends there if the store fails at all of them. -/
theorem Store.Program.ensures_cut (r : Request) (f : r.Reply → Program β) (outage : Error) :
    (exclusively (ask r >>= f)).Ensures (.cut outage)
      (fun result after => result = .error outage ∧ after = content) content := by
  rw [ensures_exclusively, ensures_bind, ensures_ask]
  refine ⟨trivial, False.elim, ?_⟩
  rintro e rfl
  exact ⟨rfl, rfl⟩

namespace Service

/-- The call that an operation makes to a strategy. -/
def Operation.call : Operation → (category text : Value) → Call
  | train, category, text => .train category text
  | untrain, category, text => .untrain category text

/-- To apply an operation to a strategy is to make the call that it stands for. -/
theorem Operation.apply_eq (operation : Operation) (strategy : Strategy σ α)
    (category text : Value) :
    operation.apply strategy category text = (operation.call category text).act strategy := by
  cases operation <;> rfl

/-- What the program of an operation ensures, if the change that it makes to a lesson does. -/
theorem Operation.ensures_call {terms : Terms} (operation : Operation) {classifier : Classifier α}
    {category : Value} {text : String} (known : classifier.knows category = true)
    {post : Except Error Unit → Entries Int → Prop}
    (idle : classifier.lesson? category (.text text) = none → post (.ok ()) content)
    (learns : ∀ lesson, classifier.lesson? category (.text text) = some lesson →
      operation = train →
      (learn classifier.scope lesson.category lesson.counts).Ensures terms post content)
    (forgets : ∀ lesson, classifier.lesson? category (.text text) = some lesson →
      operation = untrain →
      (forget classifier.scope lesson.category lesson.counts).Ensures terms post content) :
    ((operation.call category (.text text)).program classifier).Ensures terms post content := by
  cases operation with
  | train => exact Classifier.ensures_teach_text known idle fun lesson h => learns lesson h rfl
  | untrain => exact Classifier.ensures_teach_text known idle fun lesson h => forgets lesson h rfl

variable {operation : Operation} {classifier : Classifier α} {category : Value} {text : String}

/-- On a store that never fails, an operation succeeds and what was learned follows the call. -/
theorem ensures_call_orderly {stock : Stock} (known : classifier.knows category = true)
    (keeps : Keeps classifier.scope [] stock.balance content) :
    ((operation.call category (.text text)).program classifier).Ensures .orderly
      (fun result after => result = .ok () ∧ Keeps classifier.scope []
        (stock.follow classifier (operation.call category (.text text))).balance after)
      content := by
  have granted (key : String) (delta : Int) : Terms.orderly.Grants (.increment key delta) :=
    Terms.orderly_grants (by simp)
  -- A call without a lesson makes no request, and the stock does not follow it either.
  refine operation.ensures_call known (fun idle => ⟨rfl, ?_⟩) (fun lesson some same => ?_)
    fun lesson some same => ?_
  · cases operation <;> rwa [Operation.call, Stock.follow, idle]
  · rw [same, Operation.call, Stock.follow, some]
    exact ensures_learn lesson granted keeps
  · rw [same, Operation.call, Stock.follow, some]
    exact ensures_forget lesson granted (fun _ => Terms.orderly_grants (by simp)) keeps

/-- On a store that fails at every request, an operation fails or had nothing to do. -/
theorem ensures_call_cut (outage : Error) (content : Entries Int)
    (known : classifier.knows category = true) :
    ((operation.call category (.text text)).program classifier).Ensures (.cut outage)
      (fun result after => (result = .error outage
          ∨ result = .ok () ∧ classifier.lesson? category (.text text) = none) ∧ after = content)
      content := by
  refine operation.ensures_call known (fun idle => ⟨Or.inr ⟨rfl, idle⟩, rfl⟩)
    (fun _ _ _ => ?_) fun _ _ _ => ?_
  · exact (Program.ensures_cut _ _ outage).mono fun _ _ h => ⟨Or.inl h.1, h.2⟩
  · exact (Program.ensures_cut _ _ outage).mono fun _ _ h => ⟨Or.inl h.1, h.2⟩

variable [Arithmetic α]

/-- An operation on a classifier whose store may be out of reach changes the content of the store and
nothing else. If it succeeds, what was learned follows the call. If it fails, the store is out of
reach and nothing was done. -/
theorem outcome_apply (operation : Operation) (text : String) {id : Nat} {world : Blackout}
    {stock : Stock} (h : id < world.shelf.length) (known : classifier.knows category = true)
    (keeps : Keeps classifier.scope [] stock.balance (Memory.contentOf id world)) :
    let done := (operation.apply (classifier.strategy (Blackout.store id)) category
      (.text text)).outcome world
    ∃ after, done.2 = { world with shelf := world.shelf.set id after }
      ∧ (done.1 = .ok () ∧ Keeps classifier.scope []
          (stock.follow classifier (operation.call category (.text text))).balance after
        ∨ done.1 = .error Blackout.outage ∧ after = Memory.contentOf id world
          ∧ world.down id = true) := by
  intro done
  have unchanged : world = { world with
      shelf := world.shelf.set id (Memory.contentOf id world) } := by
    rw [show world.shelf.set id (Memory.contentOf id world) = world.shelf from
      Memory.set_contentOf h]
  have applied : done = (((operation.call category (.text text)).program classifier).run
      (Blackout.store id).answer).outcome world := by
    rw [← Call.act_strategy, ← Operation.apply_eq]
  rw [applied]
  -- A store that cannot be reached fails at the first request, if the operation makes one.
  cases reach : world.down id with
  | false =>
    obtain ⟨after, shown, result, follows⟩ :=
      (ensures_call_orderly known keeps).run (Blackout.honours_up h reach) world unchanged
    exact ⟨after, shown, Or.inl ⟨result, follows⟩⟩
  | true =>
    obtain ⟨after, shown, result, same⟩ :=
      (ensures_call_cut Blackout.outage (Memory.contentOf id world) known).run
        (Blackout.honours_down reach) world rfl
    refine ⟨Memory.contentOf id world, shown.trans unchanged, ?_⟩
    rcases result with failed | ⟨succeeded, idle⟩
    · exact Or.inr ⟨failed, rfl, rfl⟩
    · refine Or.inl ⟨succeeded, ?_⟩
      cases operation <;> rwa [Operation.call, Stock.follow, idle]

end Service

end Moderation
