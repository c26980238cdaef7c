import Moderation.Proofs.Bayes.Call

/-!
# `Moderation.Proofs.Bayes.Reversal`: learning is reversible and its order does not matter

A run may take back what it has learned itself: a call that forgets is matched with an earlier call
that learned the same example. `Leaves run pending` says that `run` is made of such calls, and
that the examples `pending` are those not taken back. The matched calls may be nested or crossed in
any way.

Stocks are added and lessons are taken back (`Stock.follow_untrain`), so such a run adds the stock
of what it leaves: `Leaves.foldl_follow`, by induction over the run. Addition has no order, and a
balance decides a content. Hence the main statement `get?_runAll_of_leaves`: whatever was learned
and forgotten before, the content after the run is the content after learning what the run leaves,
in any order.
-/

set_option autoImplicit false

namespace Moderation.Bayes

open Store

variable {α : Type}

/-- The calls of a run learn examples, and forget examples that the run has learned and not yet
forgotten. The examples that it leaves are listed in the order in which they were learned. -/
inductive Leaves : List Call → List (Value × Value) → Prop where
  | nil : Leaves [] []
  | train {run : List Call} {pending : List (Value × Value)} (category text : Value)
      (h : Leaves run pending) :
      Leaves (run ++ [.train category text]) (pending ++ [(category, text)])
  | untrain {run : List Call} {before behind : List (Value × Value)} (category text : Value)
      (h : Leaves run (before ++ (category, text) :: behind)) :
      Leaves (run ++ [.untrain category text]) (before ++ behind)

/-- The calls that learn some examples. -/
def learning (examples : List (Value × Value)) : List Call :=
  examples.map fun (category, text) => .train category text

/-- Calls that learn examples leave all of them. -/
theorem leaves_learning (examples : List (Value × Value)) :
    Leaves (learning examples) examples := by
  induction examples using List.reverseRecOn with
  | nil => exact .nil
  | append_singleton examples entry ih =>
    rw [learning, List.map_append]
    exact .train entry.1 entry.2 ih

namespace Stock

/-- The stock of an example: that of its lesson, if there is one. -/
noncomputable def ofExample (classifier : Classifier α) (entry : Value × Value) : Stock :=
  (classifier.lesson? entry.1 entry.2).elim 0 ofLesson

/-- Learning an example adds its stock, which is nothing if there is no lesson. -/
theorem follow_train (classifier : Classifier α) (stock : Stock) (category text : Value) :
    stock.follow classifier (.train category text)
      = stock + ofExample classifier (category, text) := by
  rw [follow, ofExample]
  cases classifier.lesson? category text with
  | none => exact (add_zero stock).symm
  | some lesson => rfl

/-- Forgetting an example takes back what learning it has added. -/
theorem follow_untrain (classifier : Classifier α) (stock : Stock) (category text : Value) :
    (stock + ofExample classifier (category, text)).follow classifier (.untrain category text)
      = stock := by
  rw [follow, ofExample]
  cases classifier.lesson? category text with
  | none => exact add_zero stock
  | some lesson => exact forget_learn stock lesson

end Stock

/-- A run adds the stock of the examples that it leaves. -/
theorem Leaves.foldl_follow {classifier : Classifier α} {run : List Call}
    {pending : List (Value × Value)} (h : Leaves run pending) (stock : Stock) :
    run.foldl (Stock.follow classifier) stock
      = stock + (pending.map (Stock.ofExample classifier)).sum := by
  induction h with
  | nil => exact (add_zero stock).symm
  | train category text _ ih =>
    rw [List.foldl_append, ih, List.map_append, List.sum_append, ← add_assoc]
    show Stock.follow classifier _ (.train category text) = _
    rw [Stock.follow_train, List.map_singleton, List.sum_singleton]
  | @untrain run before behind category text _ ih =>
    -- The example that is forgotten may stand anywhere among those that are left.
    have moved : (List.map (Stock.ofExample classifier)
          (before ++ (category, text) :: behind)).sum
        = ((before ++ behind).map (Stock.ofExample classifier)).sum
          + Stock.ofExample classifier (category, text) := by
      simp only [List.map_append, List.map_cons, List.sum_append, List.sum_cons]
      abel
    rw [List.foldl_append, ih, moved, ← add_assoc]
    exact Stock.follow_untrain classifier _ category text

/-- The content after a run is the content after learning what the run leaves, in any order. -/
theorem get?_runAll_of_leaves [Arithmetic α] (classifier : Classifier α) {id : Nat} {shelf : Shelf}
    (hid : id < shelf.length)
    (fresh : ∀ key, Memory.inScope (scopeStart classifier.scope) key = true →
      (Memory.contentOf id shelf).get? key = none)
    (earlier : List Call) {run : List Call} {pending order : List (Value × Value)}
    (leaves : Leaves run pending) (perm : order.Perm pending) (key : String) :
    let strategy := classifier.strategy (Memory.store id)
    let start := Call.runAll strategy earlier shelf
    (Memory.contentOf id (Call.runAll strategy run start)).get? key
      = (Memory.contentOf id (Call.runAll strategy (learning order) start)).get? key := by
  intro strategy start
  -- Both runs lead to the same stock, and a content that keeps a stock is known key by key.
  have keepsRun := (keeps_runAll hid fresh (earlier ++ run)).1
  have keepsOrder := (keeps_runAll hid fresh (earlier ++ learning order)).1
  rw [Call.runAll_append, List.foldl_append, leaves.foldl_follow] at keepsRun
  rw [Call.runAll_append, List.foldl_append, (leaves_learning order).foldl_follow,
    (perm.map (Stock.ofExample classifier)).sum_eq] at keepsOrder
  exact keepsRun.get?_eq keepsOrder key

/-- Three examples that share tokens are learned, and the first is taken back. -/
theorem get?_spamFilter_of_leaves :
    let spam : Value := .text "spam"
    let ham : Value := .text "ham"
    let left := [(ham, Value.text "pills for mum"), (spam, Value.text "pills")]
    let earlier : List Call :=
      [.train ham (.text "cheap talk"), .untrain ham (.text "talk show")]
    let run : List Call :=
      learning ((spam, .text "cheap pills") :: left) ++ [.untrain spam (.text "cheap pills")]
    let strategy := spamFilter.strategy (Memory.store 0)
    let start : Shelf := Call.runAll strategy earlier ([[]] : Shelf)
    start = [[("mail:tok:ham", 1), ("mail:cnt:ham:cheap", 1), ("mail:voc:cheap", 1),
        ("mail:vocsize", 1)]]
      ∧ Leaves run left
      ∧ ∀ key, (Memory.contentOf 0 (Call.runAll strategy run start)).get? key
        = (Memory.contentOf 0 (Call.runAll strategy (learning left.reverse) start)).get? key := by
  intro spam ham left earlier run strategy start
  -- All three are learned, and then the first is taken off again.
  have learned : Leaves (learning ((spam, .text "cheap pills") :: left))
      ([] ++ (spam, .text "cheap pills") :: left) := leaves_learning _
  have leaves : Leaves run left := learned.untrain
  exact ⟨by decide +kernel, leaves, get?_runAll_of_leaves spamFilter (by decide) (fun _ _ => rfl)
    earlier leaves (List.reverse_perm left)⟩

end Moderation.Bayes
