import Mathlib.Data.List.Basic
import Moderation.Bayes.Counter
import Moderation.Proofs.Tokenizer.Frequencies
import Moderation.Store.Memory

/-!
# `Moderation.Proofs.Bayes.CounterKey`: no two counters share a name

The name of a counter is its scope, the word for its kind, and its category and token between
colons. A category may hold colons of its own, so a name can be cut in several places. A token
holds none, so only the last colon of a name can stand before a token.

* `Counter.key_eq_key_iff`: which counters have one name if tokens are any texts.
* `Counter.key_inj`: two proper counters with one name are one counter. `Counter.key_eq_iff_of_occurs`
  says it of the tokens that occur in texts.
* `Counter.inScope_key`: every name begins with the start of the scope, so clearing the scope
  reaches every counter.
-/

set_option autoImplicit false

namespace Moderation.Bayes

open Store Tokenizer

/-- Whether the token of a counter, if it has one, is a token. -/
def Counter.IsProper : Counter → Prop
  | messages _ => True
  | tokens _ => True
  | count _ token => IsToken token
  | vocabulary token => IsToken token
  | vocabularySize => True

/-- A text is cut at its last colon in one way. -/
theorem append_colon_inj {before before' after after' : List Char} (h : ':' ∉ after)
    (h' : ':' ∉ after') (heq : before ++ ':' :: after = before' ++ ':' :: after') :
    before = before' ∧ after = after' := by
  rcases List.append_eq_append_iff.mp heq with ⟨between, hbefore, hafter⟩ | ⟨between, hbefore, hafter⟩
  · cases between with
    | nil => simpa [eq_comm] using And.intro hbefore hafter
    | cons c rest =>
      -- The second colon would stand inside the first token.
      simp only [List.cons_append, List.cons.injEq] at hafter
      exact absurd (by simp [hafter.2]) h
  · cases between with
    | nil => simpa [eq_comm] using And.intro hbefore hafter
    | cons c rest =>
      simp only [List.cons_append, List.cons.injEq] at hafter
      exact absurd (by simp [hafter.2]) h'

/-- The part of a name after the scope and its colon. -/
def Counter.label : Counter → List Char
  | messages category => ['m', 's', 'g', ':'] ++ category.toList
  | tokens category => ['t', 'o', 'k', ':'] ++ category.toList
  | count category token => ['c', 'n', 't', ':'] ++ category.toList ++ ':' :: token.toList
  | vocabulary token => ['v', 'o', 'c', ':'] ++ token.toList
  | vocabularySize => ['v', 'o', 'c', 's', 'i', 'z', 'e']

/-- A name is the scope, a colon and the label. -/
theorem Counter.toList_key (scope : String) (counter : Counter) :
    (counter.key scope).toList = scope.toList ++ ':' :: counter.label := by
  cases counter <;> simp [key, label]

/-- Whether two counters both count a token in a category, and the categories and tokens read the
same with a colon between them. -/
def Counter.ReadsAs : Counter → Counter → Prop
  | count category token, count category' token' =>
    category ++ ":" ++ token = category' ++ ":" ++ token'
  | _, _ => False

/-- The kinds of counters differ in the first letters of their labels, and what follows these is the
category or the token, or both. -/
theorem Counter.label_eq_label_iff (a b : Counter) : a.label = b.label ↔ a = b ∨ a.ReadsAs b := by
  cases a <;> cases b
  case count.count category token category' token' =>
    have reads : (count category token).label = (count category' token').label
        ↔ category ++ ":" ++ token = category' ++ ":" ++ token' := by
      simp [label, ← String.toList_inj]
    rw [reads]
    constructor
    · exact Or.inr
    · rintro (same | same)
      · cases same
        rfl
      · exact same
  -- A counter of one kind has no label of another: not even `voc:` begins `vocsize`.
  all_goals simp [label, ReadsAs, String.toList_inj]

/-- Two names within a scope are one name iff the counters are one, or both count a token in a
category and only the place of the colon between the two is open. -/
theorem Counter.key_eq_key_iff (scope : String) (a b : Counter) :
    a.key scope = b.key scope ↔ a = b ∨ a.ReadsAs b := by
  rw [← label_eq_label_iff, ← String.toList_inj, toList_key, toList_key,
    List.append_cancel_left_eq, List.cons_inj_right]

/-- A category may hold colons and a token none, so the last colon divides the two. -/
theorem Counter.ReadsAs.eq {a b : Counter} (h : a.ReadsAs b) (ha : a.IsProper)
    (hb : b.IsProper) : a = b := by
  cases a <;> cases b
  case count.count category token category' token' =>
    have hlist : category.toList ++ ':' :: token.toList
        = category'.toList ++ ':' :: token'.toList := by
      simpa using congrArg String.toList h
    obtain ⟨hcategory, htoken⟩ := append_colon_inj ha.colon_notMem hb.colon_notMem hlist
    rw [String.toList_inj.mp hcategory, String.toList_inj.mp htoken]
  all_goals exact h.elim

/-- Two proper counters with one name within a scope are one counter. -/
theorem Counter.key_inj {scope : String} {a b : Counter} (ha : a.IsProper) (hb : b.IsProper)
    (h : a.key scope = b.key scope) : a = b := by
  rcases (key_eq_key_iff scope a b).mp h with same | reads
  · exact same
  · exact reads.eq ha hb

/-! ### Counters of texts -/

/-- Whether the token of a counter, if it has one, is a token of some text. Which settings make it
one is left open. -/
def Counter.Occurs : Counter → Prop
  | count _ token | vocabulary token =>
    ∃ (settings : Settings) (text : String), token ∈ tokenize settings text
  | messages _ | tokens _ | vocabularySize => True

/-- What occurs in a text is a token, whatever the settings. -/
theorem Counter.Occurs.isProper {counter : Counter} (h : counter.Occurs) : counter.IsProper := by
  cases counter with
  | count category token =>
    obtain ⟨settings, text, found⟩ := h
    exact isToken_of_mem found
  | vocabulary token =>
    obtain ⟨settings, text, found⟩ := h
    exact isToken_of_mem found
  | _ => trivial

/-- Whatever the scope and the categories, two counters of texts have one name iff they are one
counter. -/
theorem Counter.key_eq_iff_of_occurs (scope : String) {a b : Counter} (ha : a.Occurs)
    (hb : b.Occurs) : a.key scope = b.key scope ↔ a = b := by
  constructor
  · intro h
    exact key_inj ha.isProper hb.isProper h
  · intro h
    rw [h]

/-- In the categories `spam` and `spam:cheap`, the pair of two words and the second of them have
counters whose names differ in nothing but a colon for a low line. -/
theorem Counter.key_ne_of_colon :
    (count "spam:cheap" "pills").Occurs ∧ (count "spam" "cheap_pills").Occurs
      ∧ (count "spam:cheap" "pills").key "decidim_ai:bayes"
        ≠ (count "spam" "cheap_pills").key "decidim_ai:bayes" := by
  have word : (count "spam:cheap" "pills").Occurs :=
    ⟨{ pairs := true }, "Cheap pills", by decide +kernel⟩
  have pair : (count "spam" "cheap_pills").Occurs :=
    ⟨{ pairs := true }, "Cheap pills", by decide +kernel⟩
  refine ⟨word, pair, fun same => ?_⟩
  exact absurd ((key_eq_iff_of_occurs "decidim_ai:bayes" word pair).mp same) (by decide)

/-! ### Scopes -/

/-- The names of the counters begin with the start of the scope. -/
theorem Counter.inScope_key (scope : String) (counter : Counter) :
    Memory.inScope (scopeStart scope) (counter.key scope) = true := by
  simp [Memory.inScope, scopeStart, toList_key, List.isPrefixOf_iff_prefix]

end Moderation.Bayes
