import Moderation.Store.Memory
import Moderation.Store.Program

/-!
# `Moderation.Proofs.Store.Ensures`: what a program over a store brings about

A program is a tree of requests, so what it brings about can be said request by request.
`Program.Ensures terms program post content` is the weakest precondition: a store with `content`
that keeps to `terms` ends the program in a result and a content for which `post` holds. The terms
name the requests that the program is allowed to make, those that the store may serve, and those
that it may fail at. A request that fails changes nothing.

One calculus therefore serves for a store that never fails, for one that may fail at any request,
and for one that always fails at a given request.

* `ensures_bind`, `ensures_ask` and `ensures_exclusively` take a program apart.
* `Ensures.mono` weakens a postcondition.
* `Ensures.of_grants` is the case of a request that does not fail. `Terms.orderly` are the terms on
  which none does, `Terms.failing` and `Terms.failingAt` those on which some may and one must.
* `Ensures.run` is the soundness: a store that honours the terms runs the program to an end for
  which the postcondition holds.
-/

set_option autoImplicit false

namespace Moderation.Store

/-- The terms between a program and its store. -/
structure Terms where
  /-- What the program is allowed to ask. -/
  admits : Request → Prop
  /-- What the store may serve. -/
  serves : Request → Prop
  /-- What the store may fail at, and with which error. -/
  fails : Request → Error → Prop

/-- The terms grant a request: it is allowed, and the store does not fail at it. -/
def Terms.Grants (terms : Terms) (r : Request) : Prop :=
  terms.admits r ∧ ∀ e, ¬ terms.fails r e

/-- The terms between a store that never fails and a program that never sets a number, and adds to
numbers instead. -/
def Terms.orderly : Terms where
  admits r := ∀ key value, r ≠ .set key value
  serves _ := True
  fails _ _ := False

/-- A store that never fails grants all requests but those that set a number. -/
theorem Terms.orderly_grants {r : Request} (h : ∀ key value, r ≠ .set key value) :
    orderly.Grants r := ⟨h, fun _ => not_false⟩

/-- The terms of a store that may fail at some requests, whatever the program asks. -/
def Terms.failing (fails : Request → Prop) : Terms where
  admits _ := True
  serves _ := True
  fails r _ := fails r

/-- The terms of a store that always fails at one request, and at no other. -/
def Terms.failingAt (request : Request) : Terms where
  admits _ := True
  serves r := r ≠ request
  fails r _ := r = request

/-- A store that fails at one request grants all others. -/
theorem Terms.failingAt_grants {request r : Request} (h : r ≠ request) :
    (failingAt request).Grants r := ⟨trivial, fun _ => h⟩

variable {terms : Terms} {σ β γ : Type}

/-- What one step of a program ensures. A request is allowed, and holds good both where it is
served and where it fails. The lock is free, since the program runs alone. -/
def Step.Ensures (terms : Terms) :
    (step : Step) → (step.Answer → Entries Int → Prop) → Entries Int → Prop
  | .request r, post, content =>
    terms.admits r
      ∧ (terms.serves r → post (.ok (Memory.answer content r).1) (Memory.answer content r).2)
      ∧ ∀ e, terms.fails r e → post (.error e) content
  | .lock, post, content => post () content
  | .unlock, post, content => post () content

/-- What a tree of steps ensures. -/
def Dialogue.Ensures (terms : Terms) :
    Dialogue Step Step.Answer β → (β → Entries Int → Prop) → Entries Int → Prop
  | .done x, post, content => post x content
  | .ask step next, post, content =>
    step.Ensures terms (fun answer after => Dialogue.Ensures terms (next answer) post after) content

/-- What a step ensures can be weakened. -/
theorem Step.Ensures.mono {step : Step} {post post' : step.Answer → Entries Int → Prop}
    {content : Entries Int} (h : step.Ensures terms post content)
    (imp : ∀ answer after, post answer after → post' answer after) :
    step.Ensures terms post' content := by
  cases step with
  | request r => exact ⟨h.1, fun hr => imp _ _ (h.2.1 hr), fun e he => imp _ _ (h.2.2 e he)⟩
  | lock => exact imp _ _ h
  | unlock => exact imp _ _ h

/-- What a tree of steps ensures can be weakened. -/
theorem Dialogue.Ensures.mono {d : Dialogue Step Step.Answer β} {post post' : β → Entries Int → Prop}
    {content : Entries Int} (h : Dialogue.Ensures terms d post content)
    (imp : ∀ x after, post x after → post' x after) : Dialogue.Ensures terms d post' content := by
  -- The content changes with each step, so the induction is about any content.
  induction d generalizing content with
  | done x => exact imp _ _ h
  | ask step next ih => exact Step.Ensures.mono h fun answer after h' => ih answer h'

/-- What a computation and the next one ensure is ensured by the first, for each of its results. -/
theorem Dialogue.ensures_bind (d : Dialogue Step Step.Answer β)
    (f : β → Dialogue Step Step.Answer γ) (post : γ → Entries Int → Prop) (content : Entries Int) :
    Dialogue.Ensures terms (d >>= f) post content
      ↔ Dialogue.Ensures terms d (fun x after => Dialogue.Ensures terms (f x) post after) content := by
  induction d generalizing content with
  | done x => exact Iff.rfl
  | ask step next ih =>
    constructor
    · exact fun h => Step.Ensures.mono h fun answer after h' => (ih answer after).mp h'
    · exact fun h => Step.Ensures.mono h fun answer after h' => (ih answer after).mpr h'

namespace Program

/-- The weakest precondition of a program on terms. -/
def Ensures (terms : Terms) (program : Program β) (post : Except Error β → Entries Int → Prop)
    (content : Entries Int) : Prop :=
  Dialogue.Ensures terms (ExceptT.run program) post content

/-- A postcondition for what comes before `next`: an error ends the program. -/
def andThen (next : β → Entries Int → Prop) (post : Except Error γ → Entries Int → Prop) :
    Except Error β → Entries Int → Prop
  | .ok x, after => next x after
  | .error e, after => post (.error e) after

/-- After a success, the next computation goes on. -/
@[simp]
theorem andThen_ok (next : β → Entries Int → Prop) (post : Except Error γ → Entries Int → Prop)
    (x : β) (after : Entries Int) : andThen next post (.ok x) after = next x after := rfl

variable {post : Except Error β → Entries Int → Prop} {content : Entries Int}

/-- What a program ensures can be weakened. -/
theorem Ensures.mono {program : Program β} {post' : Except Error β → Entries Int → Prop}
    (h : program.Ensures terms post content)
    (imp : ∀ result after, post result after → post' result after) :
    program.Ensures terms post' content :=
  Dialogue.Ensures.mono h imp

/-- A program that is done ensures what holds of its result. -/
@[simp]
theorem ensures_pure (x : β) : (pure x : Program β).Ensures terms post content ↔ post (.ok x) content :=
  Iff.rfl

/-- A program that raises an error ensures what holds of the error. -/
@[simp]
theorem ensures_throw (e : Error) :
    (throw e : Program β).Ensures terms post content ↔ post (.error e) content := Iff.rfl

/-- A program that makes no request ensures what holds of its result. -/
@[simp]
theorem ensures_ofExcept (result : Except Error β) :
    (ofExcept result).Ensures terms post content ↔ post result content := Iff.rfl

/-- A program goes on where the one before it has succeeded. -/
theorem ensures_bind (program : Program γ) (f : γ → Program β) :
    (program >>= f).Ensures terms post content
      ↔ program.Ensures terms (andThen (fun x after => (f x).Ensures terms post after) post)
          content := by
  rw [Ensures, ExceptT.run_bind, Dialogue.ensures_bind]
  constructor
  · intro h
    refine Dialogue.Ensures.mono h fun result after h' => ?_
    cases result <;> exact h'
  · intro h
    refine Dialogue.Ensures.mono h fun result after h' => ?_
    cases result <;> exact h'

/-- One round trip is allowed, and holds good where it is served and where it fails. -/
theorem ensures_ask (r : Request) (post : Except Error r.Reply → Entries Int → Prop) :
    (ask r).Ensures terms post content
      ↔ terms.admits r
        ∧ (terms.serves r → post (.ok (Memory.answer content r).1) (Memory.answer content r).2)
        ∧ ∀ e, terms.fails r e → post (.error e) content := Iff.rfl

/-- A granted request holds good if what it is served holds good. -/
theorem Ensures.of_grants {r : Request} {post : Except Error r.Reply → Entries Int → Prop}
    (granted : terms.Grants r)
    (h : post (.ok (Memory.answer content r).1) (Memory.answer content r).2) :
    (ask r).Ensures terms post content :=
  (ensures_ask r post).mpr ⟨granted.1, fun _ => h, fun e he => absurd he (granted.2 e)⟩

/-- A look-up replies the numbers that there are, or fails, and changes nothing. -/
theorem ensures_getMany_iff (keys : List String)
    (post : Except Error (Entries Int) → Entries Int → Prop) :
    (getMany keys).Ensures terms post content
      ↔ terms.admits (.getMany keys)
        ∧ (terms.serves (.getMany keys) → post (.ok (Memory.getMany content keys)) content)
        ∧ ∀ e, terms.fails (.getMany keys) e → post (.error e) content := Iff.rfl

/-- A granted look-up replies the numbers that there are. -/
theorem ensures_getMany {keys : List String}
    {post : Except Error (Entries Int) → Entries Int → Prop}
    (granted : terms.Grants (.getMany keys)) (h : post (.ok (Memory.getMany content keys)) content) :
    (getMany keys).Ensures terms post content :=
  Ensures.of_grants granted h

/-- Holding the lock changes nothing for a program that runs alone. -/
@[simp]
theorem ensures_exclusively (program : Program β) :
    (exclusively program).Ensures terms post content ↔ program.Ensures terms post content := by
  have run : ExceptT.run (exclusively program) = Dialogue.ask Step.lock fun _ =>
      ExceptT.run program >>= fun result => Dialogue.ask Step.unlock fun _ => .done result := rfl
  rw [Ensures, run]
  exact Dialogue.ensures_bind (ExceptT.run program) _ post content

end Program

/-! ### Stores that honour the terms -/

/-- A store honours the terms: as long as its state shows a content, it serves what it may serve
as a store in memory does, or fails where it may fail and shows the same content. -/
structure Honours (terms : Terms) (answer : (r : Request) → Act σ r.Reply)
    (shows : σ → Entries Int → Prop) : Prop where
  answers : ∀ (r : Request) (state : σ) (content : Entries Int), terms.admits r →
    shows state content →
    (terms.serves r
        ∧ ((answer r).outcome state).1 = .ok (Memory.answer content r).1
        ∧ shows ((answer r).outcome state).2 (Memory.answer content r).2)
      ∨ ∃ e, terms.fails r e
        ∧ ((answer r).outcome state).1 = .error e
        ∧ shows ((answer r).outcome state).2 content

variable {answer : (r : Request) → Act σ r.Reply} {shows : σ → Entries Int → Prop}

/-- A tree of steps ends as it ensures, over a store that honours the terms. Nobody else is there,
so the lock is free whenever it is wanted. -/
theorem Dialogue.Ensures.run (honours : Honours terms answer shows)
    {d : Dialogue Step Step.Answer β} {post : β → Entries Int → Prop} {content : Entries Int}
    {state : σ} (h : Dialogue.Ensures terms d post content) (shown : shows state content) :
    ∃ after, shows (d.run (Program.answerAlone answer) state).2 after
      ∧ post (d.run (Program.answerAlone answer) state).1 after := by
  induction d generalizing content state with
  | done x => exact ⟨content, shown, h⟩
  | ask step next ih =>
    cases step with
    | request r =>
      obtain ⟨admitted, served, failed⟩ := h
      -- Served, the state shows what a store in memory makes of the content. Failing, it shows the
      -- content as it was.
      rcases honours.answers r state content admitted shown with
        ⟨hr, hreply, hafter⟩ | ⟨e, he, hreply, hafter⟩
      · have := ih _ (served hr) hafter
        rw [← hreply] at this
        exact this
      · have := ih _ (failed e he) hafter
        rw [← hreply] at this
        exact this
    | lock => exact ih () h shown
    | unlock => exact ih () h shown

/-- A store that honours the terms runs a program to an end for which the postcondition holds. -/
theorem Program.Ensures.run (honours : Honours terms answer shows) {program : Program β}
    {post : Except Error β → Entries Int → Prop} {content : Entries Int}
    (h : program.Ensures terms post content) (state : σ) (shown : shows state content) :
    ∃ after, shows ((program.run answer).outcome state).2 after
      ∧ post ((program.run answer).outcome state).1 after :=
  Dialogue.Ensures.run honours h shown

end Moderation.Store
