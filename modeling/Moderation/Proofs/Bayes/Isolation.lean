import Moderation.Proofs.Bayes.Concurrency
import Moderation.Proofs.Bayes.Consistency
import Moderation.Proofs.Bayes.Interchange
import Moderation.Proofs.Bayes.Names

/-!
# `Moderation.Proofs.Bayes.Isolation`: classifiers that share a store

Several classifiers keep what they have learned in one store, each in the scope of its analyzer. They
are `Isolated` if what comes of an errand is the same with the errands of the others as without them,
whatever all of them are asked and in whatever order their steps come.

* `isolated_iff`: classifiers with scopes of their own are isolated if and only if the name of none is
  the name of another, a colon and more.
* `not_isolated_nested`: an analyzer and one of its extensions, which forgets everything when the first
  starts over.

That such names are enough is `Moderation.Proofs.Store.Sharing`. That they are needed takes three
errands, one after the other: something is learned, the classifier with the shorter name starts over,
and the one with the longer name is asked what it has learned.
-/

set_option autoImplicit false

namespace Moderation.Bayes

open Store Program Dialogue

variable {α ι : Type}

/-! ### Errands -/

/-- What can be asked of a classifier: an operation, or to start over. -/
inductive Errand where
  | operation (op : Operation)
  | reset

namespace Errand

/-- What an errand gives. -/
abbrev Result (α : Type) : Errand → Type
  | operation op => op.Result α
  | reset => Unit

variable [Arithmetic α]

/-- What an errand asks of the store. -/
def program (classifier : Classifier α) : (errand : Errand) → Program (errand.Result α)
  | operation op => op.program classifier
  | reset => classifier.reset

/-- The outcome of some errand. -/
abbrev Outcome (α : Type) := (errand : Errand) × Except Error (errand.Result α)

/-- The steps of an errand, which end in its outcome. -/
def task (classifier : Classifier α) (errand : Errand) :
    Dialogue Step Step.Answer (Outcome α) :=
  ExceptT.run (errand.program classifier) >>= fun result => .done ⟨errand, result⟩

/-- An errand asks for names in the scope of its classifier, whatever it is. -/
theorem within_program (classifier : Classifier α) (errand : Errand) :
    (errand.program classifier).Within (scopeStart classifier.scope) := by
  cases errand with
  | reset => exact within_reset classifier.scope
  | operation op =>
    cases op with
    | train category text => exact classifier.within_teach category text within_learn
    | untrain category text => exact classifier.within_teach category text within_forget
    | classify text => exact classifier.within_classify text
    | survey => exact classifier.within_survey
    | tokenStats tokens => exact classifier.within_tokenStats tokens

/-- Some errands, the one at each place being for the classifier of its owner. -/
def tasks (classifiers : ι → Classifier α) (owner : Nat → ι) (errands : List Errand) :
    List (Dialogue Step Step.Answer (Outcome α)) :=
  errands.mapIdx fun place errand => errand.task (classifiers (owner place))

/-- What becomes of errands whose steps come in the order of a schedule. -/
def sideBySide [DecidableEq ι] (classifiers : ι → Classifier α) (owner : Nat → ι)
    (errands : List Errand) (id : Nat) (shelf : Shelf) (schedule : List Nat) :
    Interleaving Step Step.Answer (Outcome α) (Shared ι Shelf) :=
  (side ι (tasks classifiers owner errands) shelf).run
    (Shared.serve (Memory.store id).answer owner) schedule

/-- So the errands of each owner keep to the scope of its classifier. -/
theorem separate_tasks (classifiers : ι → Classifier α) (owner : Nat → ι) (errands : List Errand)
    (shelf : Shelf) :
    Separate owner (fun i => scopeStart (classifiers i).scope)
      (side ι (tasks classifiers owner errands) shelf) := by
  intro place task htask
  have found : (errands[place]?).map (fun e => e.task (classifiers (owner place))) = some task := by
    rw [← htask, side, tasks, List.getElem?_mapIdx]
  obtain ⟨errand, -, rfl⟩ := Option.map_eq_some_iff.mp found
  exact Store.Dialogue.Within.bind (errand.within_program (classifiers (owner place))) fun _ =>
    .done _

end Errand

/-- At every time, each errand stands where it would stand had no other classifier been asked
anything. -/
def Isolated [Arithmetic α] [DecidableEq ι] (classifiers : ι → Classifier α) : Prop :=
  ∀ owner errands id (shelf : Shelf) schedule place, id < shelf.length →
    (Errand.sideBySide classifiers owner errands id shelf schedule).tasks[place]?
      = (Errand.sideBySide classifiers owner errands id shelf
          (schedule.filter fun p => owner p = owner place)).tasks[place]?

/-- Classifiers without common names are isolated. -/
theorem isolated_of_disjoint [Arithmetic α] [DecidableEq ι] {classifiers : ι → Classifier α}
    (disjoint : ∀ i j, j ≠ i →
      Memory.Disjoint (scopeStart (classifiers i).scope) (scopeStart (classifiers j).scope)) :
    Isolated classifiers := by
  intro owner errands id shelf schedule place hid
  exact tasks_run_eq_own hid (Errand.separate_tasks classifiers owner errands shelf)
    (disjoint (owner place)) schedule rfl

/-! ### Errands one after the other -/

namespace Errand

variable [Arithmetic α]

/-- The outcome of an errand that is run alone, and the store after it. -/
def outcome (classifier : Classifier α) (errand : Errand) (id : Nat) (shelf : Shelf) :
    Except Error (errand.Result α) × Shelf :=
  ((errand.program classifier).run (Memory.store id).answer).outcome shelf

/-- An errand that makes its requests without the lock, or all of them inside it. -/
def Orderly (classifier : Classifier α) (errand : Errand) : Prop :=
  OnlyRequests (ExceptT.run (errand.program classifier))
    ∨ ∃ body, OnlyRequests body ∧ ExceptT.run (errand.program classifier) = exclusive body

/-- What there is once the errand at a place has been carried out, the others waiting meanwhile. -/
def carriedOut (classifier : Classifier α) (errand : Errand) (id place : Nat)
    (all : Interleaving Step Step.Answer (Outcome α) (Shared ι Shelf)) :
    Interleaving Step Step.Answer (Outcome α) (Shared ι Shelf) where
  state := { all.state with store := (errand.outcome classifier id all.state.store).2 }
  tasks := all.tasks.set place (.done ⟨errand, (errand.outcome classifier id all.state.store).1⟩)

/-- Enough turns in a row carry an errand out, if it finds its lock free. -/
theorem exists_run [DecidableEq ι] {classifier : Classifier α} {errand : Errand}
    (orderly : errand.Orderly classifier) (owner : Nat → ι) (id place : Nat)
    (all : Interleaving Step Step.Answer (Outcome α) (Shared ι Shelf))
    (h : all.tasks[place]? = some (errand.task classifier))
    (free : all.state.holder (owner place) = none) :
    ∃ n, ∀ m, all.run (Shared.serve (Memory.store id).answer owner) (List.replicate (n + m) place)
      = errand.carriedOut classifier id place all := by
  -- Once the errand is done, more turns of it change nothing.
  suffices once : ∃ n,
      all.run (Shared.serve (Memory.store id).answer owner) (List.replicate n place)
        = errand.carriedOut classifier id place all by
    obtain ⟨n, ran⟩ := once
    refine ⟨n, fun m => ?_⟩
    rw [List.replicate_add, Interleaving.run_append, ran]
    exact run_replicate_of_done
      (List.getElem?_set_self (List.getElem?_eq_some_iff.mp h).1) m
  rcases orderly with plain | ⟨body, plain, locked⟩
  · exact exists_run_of_onlyRequests plain h
  · -- Inside the lock the requests are answered as without it, since nobody else holds it.
    have alone : (exclusive body).run (answerAlone (Memory.store (σ := Shelf) id).answer)
        = body.run (answerAlone (Memory.store id).answer) :=
      run_bind_ask (answerAlone (Memory.store id).answer) body rfl
    rw [task, locked] at h
    obtain ⟨n, ran⟩ : ∃ n, all.run (Shared.serve (Memory.store id).answer owner)
      (List.replicate n place) = _ := exists_run_exclusive plain h free
    refine ⟨n, ?_⟩
    rw [ran, left, ← alone, ← locked]
    rfl

end Errand

/-! ### A scope within a scope -/

/-- A survey reports the size of the vocabulary that is stored. -/
theorem survey_vocabularySize (classifier : Classifier α) (id : Nat) (shelf : Shelf) :
    ∃ stats, ((classifier.survey.run (Memory.store id).answer).outcome shelf).1 = .ok stats
      ∧ stats.vocabularySize = .int
        (((Memory.contentOf id shelf).get? (Counter.vocabularySize.key classifier.scope)).getD 0) := by
  refine ⟨_, rfl, ?_⟩
  show Value.int (((Memory.contentOf id (shelf.set id (Memory.contentOf id shelf))).get?
    (Counter.vocabularySize.key classifier.scope)).getD 0) = _
  by_cases hid : id < shelf.length
  · rw [Memory.contentOf_set hid]
  · rw [List.set_eq_of_length_le (Nat.le_of_not_lt hid)]

/-- Once a classifier has started over, there is nothing under the names that begin with its scope. -/
theorem get?_reset {classifier : Classifier α} {id : Nat} {shelf : Shelf} {key : String}
    (h : Memory.inScope (scopeStart classifier.scope) key = true) :
    (Memory.contentOf id
      ((classifier.reset.run (Memory.store id).answer).outcome shelf).2).get? key = none := by
  show (Memory.contentOf id (shelf.set id
    (Memory.clear (Memory.contentOf id shelf) (scopeStart classifier.scope)))).get? key = none
  by_cases hid : id < shelf.length
  · rw [Memory.contentOf_set hid, Memory.get?_clear, if_pos h]
  · rw [List.set_eq_of_length_le (Nat.le_of_not_lt hid)]
    simp [Memory.contentOf, HasShelf.shelf, List.getElem?_eq_none (Nat.le_of_not_lt hid)]

/-- A lesson has tokens, so the vocabulary has a size once it is learned. -/
theorem vocabularySize_train_pos [Arithmetic α] {classifier : Classifier α} {category text : Value}
    {lesson : Lesson} (hlesson : classifier.lesson? category text = some lesson) :
    0 < ((Memory.contentOf 0 (((classifier.train category text).run (Memory.store 0).answer).outcome
      ([[]] : Shelf)).2).get? (Counter.vocabularySize.key classifier.scope)).getD 0 := by
  have zero_lt : 0 < ([[]] : Shelf).length := Nat.zero_lt_one
  have keeps : Keeps classifier.scope _ _ (Memory.contentOf 0
      (((classifier.train category text).run (Memory.store 0).answer).outcome ([[]] : Shelf)).2) :=
    (keeps_runAll zero_lt (fun _ _ => rfl) [.train category text]).1
  -- What is stored under the size is the number of tokens of the stock, and the lesson has some.
  have size := keeps.amount_eq .vocabularySize trivial
  rw [amount, replied] at size
  rw [size, List.foldl_cons, List.foldl_nil, Stock.follow, hlesson]
  show (0 : Int) < (Finset.card _ : ℕ)
  rw [Int.natCast_pos, Finset.card_pos, Finset.image_nonempty, Finsupp.support_nonempty_iff]
  simpa [Stock.learn] using Stock.ofLesson_snd_ne_zero lesson

section Nested

variable [Arithmetic α] [DecidableEq ι] {classifiers : ι → Classifier α} {shorter longer : ι}

/-- If classifiers are isolated, then one that has learned a text answers the same whether another one
has started over since or not. -/
theorem Isolated.survey_eq (isolated : Isolated classifiers) (different : shorter ≠ longer)
    {category text : Value} {lesson : Lesson}
    (hlesson : (classifiers longer).lesson? category text = some lesson) :
    let learned := ((Errand.operation (.train category text)).outcome (classifiers longer) 0 [[]]).2
    let cleared := (Errand.reset.outcome (classifiers shorter) 0 learned).2
    ((Errand.operation .survey).outcome (classifiers longer) 0 cleared).1
      = ((Errand.operation .survey).outcome (classifiers longer) 0 learned).1 := by
  intro learned cleared
  let owner (place : Nat) : ι := if place = 1 then shorter else longer
  let learning : Errand := .operation (.train category text)
  let asking : Errand := .operation .survey
  let host := Shared.serve (Memory.store (σ := Shelf) 0).answer owner
  let start := side ι (Errand.tasks classifiers owner [learning, .reset, asking]) ([[]] : Shelf)
  -- The longer one learns.
  have locks : (Call.train category text).takesLock (classifiers longer) = true := by
    rw [Call.takesLock, hlesson, Option.isSome_some]
  have learns : learning.Orderly (classifiers longer) := by
    rcases (Call.train category text).task_cases (classifiers longer) with ⟨-, h⟩ | ⟨h, -⟩
    · exact Or.inr h
    · rw [locks] at h
      cases h
  obtain ⟨n₀, first⟩ := Errand.exists_run learns owner 0 0 start rfl rfl
  let afterFirst := learning.carriedOut (classifiers longer) 0 0 start
  -- The shorter one starts over.
  have starts : Errand.reset.Orderly (classifiers shorter) := Or.inr (isExclusive_reset _)
  obtain ⟨n₁, second⟩ := Errand.exists_run starts owner 0 1 afterFirst rfl rfl
  let afterSecond := Errand.reset.carriedOut (classifiers shorter) 0 1 afterFirst
  -- The longer one is asked, and it is asked in the run without the other, too.
  have asks : asking.Orderly (classifiers longer) :=
    Or.inl (classifiers longer).ignoresZeros_survey.onlyRequests
  obtain ⟨n₂, third⟩ := Errand.exists_run asks owner 0 2 afterSecond rfl rfl
  obtain ⟨n₃, alone⟩ := Errand.exists_run asks owner 0 2 afterFirst rfl rfl
  -- The two runs end in two answers.
  have same := isolated owner [learning, .reset, asking] 0 [[]]
    (List.replicate (n₀ + 0) 0 ++ List.replicate (n₁ + 0) 1 ++ List.replicate (n₂ + n₃) 2) 2
    Nat.zero_lt_one
  have own : (List.replicate (n₀ + 0) 0 ++ List.replicate (n₁ + 0) 1
      ++ List.replicate (n₂ + n₃) 2).filter (fun p => owner p = owner 2)
        = List.replicate (n₀ + 0) 0 ++ List.replicate (n₃ + n₂) 2 := by
    simp [owner, different, Nat.add_comm]
  rw [own, Errand.sideBySide, Errand.sideBySide, Interleaving.run_append, Interleaving.run_append,
    Interleaving.run_append, first, second, third, alone] at same
  simpa [Errand.carriedOut, afterSecond, afterFirst, start, side, Errand.tasks] using same

/-- What an analyzer has learned is gone once another one starts over whose scope it is within. -/
theorem not_isolated_of_prefix (different : shorter ≠ longer)
    (nested : (scopeStart (classifiers shorter).scope).toList
      <+: (scopeStart (classifiers longer).scope).toList)
    {category text : Value} {lesson : Lesson}
    (hlesson : (classifiers longer).lesson? category text = some lesson) :
    ¬ Isolated classifiers := by
  intro isolated
  let size := Counter.vocabularySize.key (classifiers longer).scope
  let learned := ((Errand.operation (.train category text)).outcome (classifiers longer) 0 [[]]).2
  let cleared := (Errand.reset.outcome (classifiers shorter) 0 learned).2
  have within : Memory.inScope (scopeStart (classifiers shorter).scope) size = true :=
    (inScope_iff_begins _ _).mpr (nested.trans ((inScope_iff_begins _ _).mp (Counter.inScope_key ..)))
  have forgotten : (Memory.contentOf 0 cleared).get? size = none := get?_reset within
  have counted : 0 < ((Memory.contentOf 0 learned).get? size).getD 0 :=
    vocabularySize_train_pos hlesson
  -- The surveys are the same, and they report the size of the vocabulary.
  have answers := isolated.survey_eq different hlesson
  obtain ⟨stats, reply, reported⟩ := survey_vocabularySize (classifiers longer) 0 cleared
  obtain ⟨stats', reply', reported'⟩ := survey_vocabularySize (classifiers longer) 0 learned
  have agree : stats = stats' := Except.ok.inj (reply.symm.trans (answers.trans reply'))
  rw [← agree, reported, forgotten] at reported'
  have nothing : (0 : Int) = ((Memory.contentOf 0 learned).get? size).getD 0 := by
    simpa [Value.int] using reported'
  exact counted.ne nothing

end Nested

/-! ### Scopes by name -/

/-- Classifiers of different names, in the scopes that they get when they are given none, are isolated
if and only if the name of none is the name of another, a colon and more. -/
theorem isolated_iff [Arithmetic α] [DecidableEq ι] {classifiers : ι → Classifier α}
    (unscoped : ∀ i, (classifiers i).scope = defaultScope (classifiers i).name)
    (different : ∀ i j, i ≠ j → (classifiers i).name ≠ (classifiers j).name)
    (learns : ∀ i, ∃ category text, ((classifiers i).lesson? category text).isSome = true) :
    Isolated classifiers ↔ ∀ i j, i ≠ j →
      Memory.inScope ((classifiers i).name ++ ":") (classifiers j).name = false := by
  constructor
  · -- A longer name has its scope within the scope of the shorter one, and whatever it learns there
    -- shows.
    intro isolated i j hij
    by_contra longer
    rw [Bool.not_eq_false] at longer
    obtain ⟨category, text, some⟩ := learns j
    obtain ⟨lesson, hlesson⟩ := Option.isSome_iff_exists.mp some
    refine not_isolated_of_prefix hij ?_ hlesson isolated
    rw [unscoped i, unscoped j]
    exact (prefix_scopeStart_default _ _).mpr (Or.inr longer)
  · -- Otherwise no key begins with both scopes.
    intro unextended
    refine isolated_of_disjoint fun i j hji => ?_
    rw [unscoped i, unscoped j]
    exact disjoint_scopeStart_default (different i j hji.symm) (unextended i j hji.symm)
      (unextended j i hji)

/-- Two spam filters in one store: the name of neither is the name of the other, a colon and more. -/
theorem isolated_bayes_other :
    Isolated fun other : Bool =>
      let name := if other then "other" else "bayes"
      (⟨name, defaultSettings, defaultScope name⟩ : Classifier Number) := by
  refine (isolated_iff (fun _ => rfl) (by decide) fun other => ?_).mpr (by decide)
  exact ⟨.text "spam", .text "cheap", by cases other <;> decide +kernel⟩

/-- An analyzer and an extension of it: of what the second has learned, nothing is left once the first
starts over. -/
theorem not_isolated_nested :
    ¬ Isolated fun longer : Bool =>
      let name := if longer then "a:b" else "a"
      (⟨name, defaultSettings, defaultScope name⟩ : Classifier Number) := by
  obtain ⟨lesson, hlesson⟩ : ∃ lesson, Classifier.lesson?
      (⟨"a:b", defaultSettings, defaultScope "a:b"⟩ : Classifier Number)
      (.text "spam") (.text "cheap") = some lesson :=
    Option.isSome_iff_exists.mp (by decide +kernel)
  exact not_isolated_of_prefix Bool.false_ne_true (by decide) hlesson

end Moderation.Bayes
