import Moderation.Bayes.Classifier
import Moderation.Proofs.Bayes.Learning
import Moderation.Proofs.Store.Watched
import Moderation.Proofs.Tokenizer.Frequencies

/-!
# `Moderation.Proofs.Bayes.Call`: runs of a classifier

A run is a list of calls, each of which learns a text, forgets one or starts over. A call that
fails ends there, and the next call goes on from what it has left (`Call.runAll`).

What a call is about is decided before the first request: a known category and a text with tokens
make a lesson (`Classifier.lesson?`), and without a lesson nothing is asked of the store.
`Call.shows_runAll` is the induction over runs: if every call takes what holds of the content to
what holds after it, a store that honours the terms shows such a content at the end of every run.

`keeps_runAll` is its main use. On a store that never fails, the content keeps the balance of a
stock throughout, and the stock is what the calls make of it one by one (`Stock.follow`).
-/

set_option autoImplicit false

namespace Moderation.Bayes

open Store Tokenizer

/-- A call that changes what a classifier has learned. -/
inductive Call where
  | train (category text : Value)
  | untrain (category text : Value)
  | reset

variable {σ α : Type}

namespace Call

/-- What a call does with a strategy. -/
def act (strategy : Strategy σ α) : Call → Act σ Unit
  | train category text => strategy.train category text
  | untrain category text => strategy.untrain category text
  | reset => strategy.reset

/-- The state after a run. -/
def runAll (strategy : Strategy σ α) (calls : List Call) (state : σ) : σ :=
  calls.foldl (fun state call => ((call.act strategy).outcome state).2) state

/-- What a call asks of the store. -/
def program (classifier : Classifier α) : Call → Program Unit
  | train category text => classifier.train category text
  | untrain category text => classifier.untrain category text
  | reset => classifier.reset

/-- What a call does with a strategy is to run its program against the store. -/
theorem act_strategy [Arithmetic α] (classifier : Classifier α) (store : Store σ) (call : Call) :
    call.act (classifier.strategy store) = (call.program classifier).run store.answer := by
  cases call <;> rfl

/-- A run of two parts is the second run after the first. -/
theorem runAll_append (strategy : Strategy σ α) (calls calls' : List Call) (state : σ) :
    runAll strategy (calls ++ calls') state = runAll strategy calls' (runAll strategy calls state) :=
  List.foldl_append

/-- Watching a store that never fails does not change a run. -/
theorem runAll_steady [Arithmetic α] (classifier : Classifier α) (store : Store σ)
    (calls : List Call) (record : List Request) (state : σ) :
    (runAll (classifier.strategy (watched steady store)) calls (record, state)).2
      = runAll (classifier.strategy store) calls state := by
  -- The record grows with each call, so the induction is about any record.
  induction calls generalizing record state with
  | nil => rfl
  | cons call calls ih =>
    obtain ⟨record', outcome⟩ :=
      outcome_run_steady store (call.program classifier) record state
    show (runAll _ calls (((call.act _).outcome (record, state)).2)).2
      = runAll _ calls ((call.act _).outcome state).2
    rw [act_strategy, act_strategy, outcome]
    exact ih record' _

/-- The requests that a run makes to a store. -/
def requests [Arithmetic α] (classifier : Classifier α) (store : Store σ) (calls : List Call)
    (state : σ) : List Request :=
  (runAll (classifier.strategy (watched steady store)) calls ([], state)).1

/-- What every call takes from one content to the next holds at the end of every run, if the store
honours the terms. -/
theorem shows_runAll [Arithmetic α] {ι : Type} {classifier : Classifier α} {store : Store σ}
    {terms : Terms} {shows : σ → Entries Int → Prop} (honours : Honours terms store.answer shows)
    (holds : ι → Entries Int → Prop) (next : ι → Call → ι)
    (step : ∀ i (call : Call) content, holds i content →
      (call.program classifier).Ensures terms (fun _ after => holds (next i call) after) content)
    (calls : List Call) (i : ι) (state : σ) {content : Entries Int}
    (shown : shows state content) (h : holds i content) :
    ∃ after, shows (runAll (classifier.strategy store) calls state) after
      ∧ holds (calls.foldl next i) after := by
  induction calls generalizing i state content with
  | nil => exact ⟨content, shown, h⟩
  | cons call calls ih =>
    obtain ⟨after, shownAfter, hafter⟩ := (step i call content h).run honours state shown
    rw [← act_strategy] at shownAfter
    exact ih _ _ shownAfter hafter

end Call

/-! ### The lesson of a call -/

namespace Classifier

/-- The text that a classifier is given is the text whose tokens it looks at. -/
theorem tokens_text {classifier : Classifier α} (text : String) :
    classifier.tokens (.text text) = .ok (tokenize classifier.settings.tokenizer text) := by
  rw [Classifier.tokens, Value.toTextIfSet]
  by_cases empty : text = ""
  · subst empty; rfl
  · rw [if_pos (by simpa [Value.isSet] using empty)]
    rfl

/-- The tokens that a classifier finds are tokens. -/
theorem isToken_of_mem_tokens {classifier : Classifier α} {text : Value} {tokens : List String}
    (h : classifier.tokens text = .ok tokens) {token : String} (hmem : token ∈ tokens) :
    IsToken token := by
  rw [Classifier.tokens] at h
  cases htext : text.toTextIfSet with
  | error e =>
    rw [htext] at h
    cases h
  | ok s =>
    rw [htext] at h
    cases h
    exact isToken_of_mem hmem

/-- The lesson of a category and a text, if the category is known and the text has tokens. -/
def lesson? (classifier : Classifier α) (category text : Value) : Option Lesson :=
  if classifier.knows category then
    match h : classifier.tokens text with
    | .ok tokens =>
      if nonempty : frequencies tokens = [] then none
      else some
        { category := category.display
          counts := frequencies tokens
          isToken := fun entry hentry =>
            isToken_of_mem_tokens h ((mem_frequencies_iff tokens entry.1 entry.2).mp hentry).1
          pos := fun entry hentry => by
            obtain ⟨hmem, hcount⟩ := (mem_frequencies_iff tokens entry.1 entry.2).mp hentry
            rw [hcount]
            exact List.count_pos_iff.mpr hmem
          nodup := nodup_keys_frequencies tokens
          nonempty }
    | .error _ => none
  else none

/-- A known category and a text with tokens make a lesson. -/
theorem lesson?_eq_some {classifier : Classifier α} {category text : Value} {tokens : List String}
    (known : classifier.knows category = true) (h : classifier.tokens text = .ok tokens)
    (nonempty : frequencies tokens ≠ []) :
    ∃ lesson, classifier.lesson? category text = some lesson
      ∧ lesson.category = category.display ∧ lesson.counts = frequencies tokens := by
  rw [lesson?, if_pos known]
  split
  · next tokens' h' =>
    obtain rfl : tokens' = tokens := Except.ok.inj (h'.symm.trans h)
    rw [dif_neg nonempty]
    exact ⟨_, rfl, rfl, rfl⟩
  · next e h' => cases h'.symm.trans h

/-- A lesson is about a category that the classifier knows. -/
theorem category_of_lesson? {classifier : Classifier α} {category text : Value} {lesson : Lesson}
    (h : classifier.lesson? category text = some lesson) :
    classifier.knows category = true ∧ lesson.category = category.display := by
  rw [lesson?] at h
  split at h
  · next known =>
    split at h
    · split at h
      · cases h
      · cases h
        exact ⟨known, rfl⟩
    · cases h
  · cases h

/-- With a lesson, a call is the change on its token counts. Without one it is done at once. -/
theorem teach_eq (classifier : Classifier α) (category text : Value)
    (change : (scope category : String) → Entries Nat → Program Unit) :
    (∃ lesson, classifier.lesson? category text = some lesson
      ∧ classifier.teach category text change
        = change classifier.scope lesson.category lesson.counts)
    ∨ classifier.lesson? category text = none
      ∧ ∃ result, ExceptT.run (classifier.teach category text change) = .done result := by
  -- The case analysis of `lesson?` is that of `teach`, step by step.
  rw [teach]
  by_cases known : classifier.knows category = true
  · rw [if_pos known]
    cases h : classifier.tokens text with
    | error e =>
      refine Or.inr ⟨?_, _, rfl⟩
      rw [lesson?, if_pos known]
      split
      · next tokens h' => cases h'.symm.trans h
      · rfl
    | ok tokens =>
      by_cases empty : frequencies tokens = []
      · refine Or.inr ⟨?_, .ok (), ?_⟩
        · rw [lesson?, if_pos known]
          split
          · next tokens' h' =>
            obtain rfl : tokens' = tokens := Except.ok.inj (h'.symm.trans h)
            rw [dif_pos empty]
          · rfl
        · show ExceptT.run (if (frequencies tokens).isEmpty = true then _ else _) = _
          rw [if_pos (List.isEmpty_iff.mpr empty)]
          rfl
      · obtain ⟨lesson, some, hcategory, hcounts⟩ := lesson?_eq_some known h empty
        refine Or.inl ⟨lesson, some, ?_⟩
        show (if (frequencies tokens).isEmpty = true then _ else _) = _
        rw [if_neg (by rwa [List.isEmpty_iff]), ← hcategory, ← hcounts]
  · rw [if_neg known]
    refine Or.inr ⟨?_, _, rfl⟩
    rw [lesson?, if_neg known]

/-- A text in a known category makes a lesson of its tokens, if it has any. -/
theorem lesson?_text {classifier : Classifier α} {category : Value} (text : String)
    (known : classifier.knows category = true) :
    tokenize classifier.settings.tokenizer text = [] ∧ classifier.lesson? category (.text text) = none
      ∨ tokenize classifier.settings.tokenizer text ≠ []
        ∧ ∃ lesson, classifier.lesson? category (.text text) = some lesson
          ∧ lesson.category = category.display
          ∧ lesson.counts = frequencies (tokenize classifier.settings.tokenizer text) := by
  by_cases empty : tokenize classifier.settings.tokenizer text = []
  · refine Or.inl ⟨empty, ?_⟩
    -- The tokens are matched together with the proof of where they come from, so they cannot be
    -- rewritten in place.
    have none : classifier.tokens (.text text) = .ok [] := by rw [tokens_text, empty]
    rw [lesson?, if_pos known]
    split
    · next tokens h =>
      obtain rfl : tokens = [] := Except.ok.inj (h.symm.trans none)
      rfl
    · rfl
  · obtain ⟨token, htoken⟩ := List.exists_mem_of_ne_nil _ empty
    have nonempty : frequencies (tokenize classifier.settings.tokenizer text) ≠ [] := by
      intro none
      have listed := (mem_keys_frequencies _ token).mpr htoken
      rw [none] at listed
      cases listed
    exact Or.inr ⟨empty, lesson?_eq_some known (tokens_text text) nonempty⟩

/-- A text without tokens is done at once, and without an error. -/
theorem teach_of_idle {classifier : Classifier α} {category : Value} {text : String}
    (known : classifier.knows category = true)
    (idle : classifier.lesson? category (.text text) = none)
    (change : (scope category : String) → Entries Nat → Program Unit) :
    classifier.teach category (.text text) change = pure () := by
  rcases lesson?_text text known with ⟨empty, -⟩ | ⟨-, lesson, some, -⟩
  · rw [teach, if_pos known, tokens_text, empty]
    rfl
  · rw [idle] at some
    cases some

/-- Without a lesson nothing is asked of the store. With one, the change is carried out on its
token counts. -/
theorem ensures_teach {terms : Terms} {classifier : Classifier α} {category text : Value}
    {change : (scope category : String) → Entries Nat → Program Unit}
    {post : Except Error Unit → Entries Int → Prop} {content : Entries Int}
    (idle : classifier.lesson? category text = none → ∀ result, post result content)
    (busy : ∀ lesson, classifier.lesson? category text = some lesson →
      (change classifier.scope lesson.category lesson.counts).Ensures terms post content) :
    (classifier.teach category text change).Ensures terms post content := by
  rcases classifier.teach_eq category text change with ⟨lesson, some, eq⟩ | ⟨none, result, eq⟩
  · rw [eq]
    exact busy lesson some
  · rw [Program.Ensures, eq]
    exact idle none result

/-- A call with a lesson carries the change out on it. -/
theorem ensures_teach_lesson {terms : Terms} {classifier : Classifier α} {category text : Value}
    {lesson : Lesson} (hlesson : classifier.lesson? category text = some lesson)
    {change : (scope category : String) → Entries Nat → Program Unit}
    {post : Except Error Unit → Entries Int → Prop} {content : Entries Int}
    (busy : (change classifier.scope lesson.category lesson.counts).Ensures terms post content) :
    (classifier.teach category text change).Ensures terms post content := by
  refine ensures_teach (fun none => ?_) fun lesson' hlesson' => ?_
  · rw [hlesson] at none
    cases none
  · obtain rfl := Option.some.inj (hlesson.symm.trans hlesson')
    exact busy

/-- Teaching a text in a known category succeeds at once if the text has no tokens. -/
theorem ensures_teach_text {terms : Terms} {classifier : Classifier α} {category : Value}
    {text : String} (known : classifier.knows category = true)
    {change : (scope category : String) → Entries Nat → Program Unit}
    {post : Except Error Unit → Entries Int → Prop} {content : Entries Int}
    (idle : classifier.lesson? category (.text text) = none → post (.ok ()) content)
    (busy : ∀ lesson, classifier.lesson? category (.text text) = some lesson →
      (change classifier.scope lesson.category lesson.counts).Ensures terms post content) :
    (classifier.teach category (.text text) change).Ensures terms post content := by
  -- In a known category a text fails to be a lesson only by having no tokens.
  cases h : classifier.lesson? category (.text text) with
  | none =>
    rw [teach_of_idle known h]
    exact idle h
  | some lesson => exact ensures_teach_lesson h (busy lesson h)

end Classifier

/-- A classifier of spam with the settings of one that is told of none. -/
def spamFilter : Classifier Number := ⟨"mail", defaultSettings, "mail"⟩

/-! ### The stock of a run -/

open Classifier

/-- The stock after a call. -/
noncomputable def Stock.follow (classifier : Classifier α) (stock : Stock) : Call → Stock
  | .train category text => (classifier.lesson? category text).elim stock stock.learn
  | .untrain category text => (classifier.lesson? category text).elim stock stock.forget
  | .reset => 0

/-- On a store that never fails, a call takes the balance of a stock to that of the next. -/
theorem ensures_call {classifier : Classifier α} {rest : Entries Int}
    (outside : ∀ key, Memory.inScope (scopeStart classifier.scope) key = true →
      rest.get? key = none)
    (stock : Stock) (call : Call) (content : Entries Int)
    (keeps : Keeps classifier.scope rest stock.balance content) :
    (call.program classifier).Ensures .orderly
      (fun _ after => Keeps classifier.scope rest (stock.follow classifier call).balance after)
      content := by
  have granted (key : String) (delta : Int) : Terms.orderly.Grants (.increment key delta) :=
    Terms.orderly_grants (by simp)
  -- Without a lesson the stock stays as it is, and so does the content. With one the change on it
  -- keeps the balance.
  cases call with
  | train category text =>
    refine ensures_teach (fun none _ => ?_) fun lesson some => ?_
    · rw [Stock.follow, none]
      exact keeps
    · rw [Stock.follow, some]
      exact (ensures_learn lesson granted keeps).mono fun _ _ h => h.2
  | untrain category text =>
    refine ensures_teach (fun none _ => ?_) fun lesson some => ?_
    · rw [Stock.follow, none]
      exact keeps
    · rw [Stock.follow, some]
      exact (ensures_forget lesson granted
        (fun _ => Terms.orderly_grants (by simp)) keeps).mono fun _ _ h => h.2
  | reset =>
    exact (ensures_reset (Terms.orderly_grants (by simp)) outside keeps).mono fun _ _ h => h.2

/-- Every run keeps to the balance of the stock that its calls make, if it starts from a content
without a name of the scope. It adds to numbers, and sets none. -/
theorem keeps_runAll [Arithmetic α] {classifier : Classifier α} {id : Nat} {shelf : Shelf}
    (hid : id < shelf.length)
    (fresh : ∀ key, Memory.inScope (scopeStart classifier.scope) key = true →
      (Memory.contentOf id shelf).get? key = none)
    (calls : List Call) :
    Keeps classifier.scope (Memory.contentOf id shelf)
        (calls.foldl (Stock.follow classifier) 0).balance
        (Memory.contentOf id (Call.runAll (classifier.strategy (Memory.store id)) calls shelf))
      ∧ ∀ r ∈ Call.requests classifier (Memory.store id) calls shelf,
        ∀ key value, r ≠ .set key value := by
  have honours : Honours .orderly (watched steady (Memory.store id)).answer fun state content =>
      state.2 = shelf.set id content ∧ ∀ r ∈ state.1, Terms.orderly.admits r :=
    honours_watched hid (fun _ _ _ => trivial) (fun _ _ _ h => by simp [steady] at h)
  obtain ⟨after, ⟨shown, admitted⟩, keeps⟩ := Call.shows_runAll honours
    (fun stock content => Keeps classifier.scope (Memory.contentOf id shelf) stock.balance content)
    (Stock.follow classifier) (ensures_call fresh) calls 0 ([], shelf)
    ⟨(Memory.set_contentOf hid).symm, by simp⟩ (Keeps.of_nothing fresh)
  -- The record was only kept to say what was asked.
  rw [Call.runAll_steady] at shown
  rw [shown, Memory.contentOf_set hid]
  exact ⟨keeps, admitted⟩

/-- A run changes one content of the shelf. -/
theorem exists_runAll_eq_set [Arithmetic α] {classifier : Classifier α} {id : Nat} {shelf : Shelf}
    (hid : id < shelf.length)
    (fresh : ∀ key, Memory.inScope (scopeStart classifier.scope) key = true →
      (Memory.contentOf id shelf).get? key = none)
    (calls : List Call) :
    ∃ content, Call.runAll (classifier.strategy (Memory.store id)) calls shelf = shelf.set id content
      ∧ Keeps classifier.scope (Memory.contentOf id shelf)
        (calls.foldl (Stock.follow classifier) 0).balance content :=
  Call.shows_runAll (honours_memory hid fun _ => trivial)
    (fun stock content => Keeps classifier.scope (Memory.contentOf id shelf) stock.balance content)
    (Stock.follow classifier) (ensures_call fresh) calls 0 shelf (Memory.set_contentOf hid).symm
    (Keeps.of_nothing fresh)

/-- A run takes no content from the shelf. -/
theorem lt_length_runAll [Arithmetic α] {classifier : Classifier α} {id : Nat} {shelf : Shelf}
    (hid : id < shelf.length)
    (fresh : ∀ key, Memory.inScope (scopeStart classifier.scope) key = true →
      (Memory.contentOf id shelf).get? key = none)
    (calls : List Call) :
    id < (Call.runAll (classifier.strategy (Memory.store id)) calls shelf).length := by
  obtain ⟨content, left, -⟩ := exists_runAll_eq_set hid fresh calls
  rwa [left, List.length_set]

end Moderation.Bayes
