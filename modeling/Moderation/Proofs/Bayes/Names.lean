import Moderation.Proofs.Bayes.Call
import Moderation.Proofs.Store.Sharing

/-!
# `Moderation.Proofs.Bayes.Names`: the names that a classifier asks for

All that a classifier asks of its store is about its own counters, whose names begin with the start of
its scope (`Program.Within`). There is one lemma for each of its programs.

A scope is a text of its own, but it can be a part of another. `disjoint_scopeStart_default` says when
two analyzers that are given no scope have names in common: when the name of one is the name of the
other, a colon and more. Then the one scope lies within the other (`prefix_scopeStart_default`).
-/

set_option autoImplicit false

namespace Moderation.Bayes

open Store Program

variable {α : Type}

/-! ### Learning and forgetting -/

section

variable (scope category : String)

/-- A counter is named after the scope that it is added to. -/
theorem within_addTo (counter : Counter) (delta : Int) :
    (addTo scope counter delta).Within (scopeStart scope) :=
  within_increment (counter.inScope_key scope) delta

/-- The counters of one token: its count in the category, its total and the size of the vocabulary.
-/
theorem within_learnToken (token : String) (count : Nat) :
    (learnToken scope category token count).Within (scopeStart scope) := by
  refine (within_addTo ..).bind fun _ => (within_addTo ..).bind fun total => ?_
  split
  · exact (within_addTo ..).bind fun _ => within_pure ()
  · exact within_pure ()

/-- By induction on the tokens. -/
theorem within_learnTokens (counts : Entries Nat) :
    (learnTokens scope category counts).Within (scopeStart scope) := by
  induction counts with
  | nil => exact within_pure ()
  | cons entry counts ih => exact (within_learnToken ..).bind fun _ => ih

/-- Learning asks for the counters of the category and of the tokens, and the lock has no name. -/
theorem within_learn (counts : Entries Nat) :
    (learn scope category counts).Within (scopeStart scope) :=
  ((within_addTo ..).bind fun _ => (within_addTo ..).bind fun _ => within_learnTokens ..).exclusively

/-- The same three counters as in learning, the total perhaps set as well. -/
theorem within_forgetToken (token : String) (count : Nat) (held : Int) :
    (forgetToken scope category token count held).Within (scopeStart scope) := by
  unfold forgetToken
  dsimp only
  -- Only the size of the vocabulary is lowered in both cases; a total below zero is set before.
  split
  · exact within_pure _
  · refine (within_addTo ..).bind fun _ => (within_addTo ..).bind fun total => ?_
    have leave : (addTo scope .vocabularySize (-1) >>= fun _ =>
        (pure (removable count held) : Program Int)).Within (scopeStart scope) :=
      (within_addTo ..).bind fun _ => within_pure _
    split
    · split
      · exact (within_set (Counter.inScope_key ..) _).bind fun _ => leave
      · exact leave
    · exact within_pure _

/-- By induction on the tokens. -/
theorem within_forgetTokens (reply : Entries Int) (counts : Entries Nat) :
    (forgetTokens scope category reply counts).Within (scopeStart scope) := by
  induction counts with
  | nil => exact within_pure _
  | cons entry counts ih =>
    exact (within_forgetToken ..).bind fun _ => ih.bind fun _ => within_pure _

/-- The counters that are asked for at once have names of the scope, and so have those that are
lowered. -/
theorem within_forget (counts : Entries Nat) :
    (forget scope category counts).Within (scopeStart scope) := by
  refine Within.exclusively ?_
  refine (within_getMany fun key hkey => ?_).bind fun reply =>
    (within_forgetTokens ..).bind fun removed => ?_
  · -- The names are those of the counts in the category and of its two totals.
    unfold forgetKeys at hkey
    simp only [List.mem_append, List.mem_map, List.mem_cons, List.not_mem_nil, or_false] at hkey
    rcases hkey with ⟨entry, -, rfl⟩ | rfl | rfl <;> exact Counter.inScope_key ..
  · -- What follows is a test of how much was removed.
    split
    · exact within_pure ()
    · refine (within_addTo ..).bind fun _ => ?_
      split
      · exact (within_addTo ..).bind fun _ => within_pure ()
      · exact within_pure ()

/-- A reset clears the names that begin with the start of the scope, and nothing else. -/
theorem within_reset : (reset scope).Within (scopeStart scope) :=
  ((within_clear _).bind fun _ => within_pure ()).exclusively

end

namespace Classifier

variable (classifier : Classifier α)

/-- What is taught asks for names of the scope if what the lesson becomes does. A text that is no
lesson asks for nothing. -/
theorem within_teach (category text : Value)
    {change : (scope category : String) → Entries Nat → Program Unit}
    (h : ∀ scope category counts, (change scope category counts).Within (scopeStart scope)) :
    (classifier.teach category text change).Within (scopeStart classifier.scope) := by
  rcases classifier.teach_eq category text change with ⟨lesson, -, eq⟩ | ⟨-, result, eq⟩
  · rw [eq]
    exact h ..
  · rw [Program.Within, eq]
    exact .done result

/-- Two totals for each category. -/
theorem within_standings : classifier.standings.Within (scopeStart classifier.scope) := by
  refine (within_getMany fun key hkey => ?_).bind fun _ => within_pure _
  obtain ⟨category, -, hkey⟩ := List.mem_flatMap.mp hkey
  simp only [List.mem_cons, List.not_mem_nil, or_false] at hkey
  rcases hkey with rfl | rfl <;> exact Counter.inScope_key ..

/-- A count for each token in each category. -/
theorem within_tokenCounts (tokens : List String) :
    (classifier.tokenCounts tokens).Within (scopeStart classifier.scope) := by
  refine (within_getMany fun key hkey => ?_).bind fun _ => within_pure _
  obtain ⟨token, -, hkey⟩ := List.mem_flatMap.mp hkey
  obtain ⟨category, -, rfl⟩ := List.mem_map.mp hkey
  exact Counter.inScope_key ..

/-- One counter of the scope. -/
theorem within_vocabularySize : classifier.vocabularySize.Within (scopeStart classifier.scope) :=
  (within_get (Counter.inScope_key ..)).bind fun _ => within_pure _

/-- The totals of the categories, and the size of the vocabulary. -/
theorem within_survey : classifier.survey.Within (scopeStart classifier.scope) :=
  classifier.within_standings.bind fun _ => classifier.within_vocabularySize.bind fun _ =>
    within_pure _

/-- The counts of some tokens. -/
theorem within_tokenStats (tokens : List String) :
    (classifier.tokenStats tokens).Within (scopeStart classifier.scope) :=
  (classifier.within_tokenCounts tokens).bind fun _ => within_pure _

/-- Classifying asks for the totals, the counts of the tokens of the text and the size of the
vocabulary. -/
theorem within_classify [Arithmetic α] (text : Value) :
    (classifier.classify text).Within (scopeStart classifier.scope) := by
  -- Where it stops early, it has asked for less.
  refine (within_ofExcept _).bind fun tokens => ?_
  split
  · exact within_pure _
  refine (within_ofExcept _).bind fun _ => classifier.within_standings.bind fun _ => ?_
  split
  · exact within_pure _
  exact (classifier.within_tokenCounts _).bind fun _ =>
    classifier.within_vocabularySize.bind fun _ => (within_ofExcept _).bind fun _ => within_pure _

end Classifier

/-! ### Scopes of analyzers that are given none -/

/-- A store finds a key in a scope if the text of the scope begins the key. -/
theorem inScope_iff_begins (scope key : String) :
    Memory.inScope scope key = true ↔ scope.toList <+: key.toList := by
  rw [Memory.inScope, List.isPrefixOf_iff_prefix]

/-- Where the scope of an analyzer that is given none starts: the name of the engine, its own name,
and a colon. -/
theorem toList_scopeStart_default (analyzer : String) :
    (scopeStart (defaultScope analyzer)).toList
      = "decidim_ai:".toList ++ (analyzer.toList ++ [':']) := by
  simp [scopeStart, defaultScope]

/-- The scope of an analyzer is part of that of another iff its name and a colon begin the name of the
other, or the two names are one. -/
theorem prefix_scopeStart_default (analyzer other : String) :
    (scopeStart (defaultScope analyzer)).toList <+: (scopeStart (defaultScope other)).toList
      ↔ analyzer = other ∨ Memory.inScope (analyzer ++ ":") other = true := by
  rw [toList_scopeStart_default, toList_scopeStart_default, List.prefix_append_right_inj,
    List.prefix_concat_iff, List.append_cancel_right_eq, String.toList_inj, inScope_iff_begins,
    String.toList_append]
  rfl

/-- Two analyzers have no names in common, unless the name of one is that of the other, a colon and
more. -/
theorem disjoint_scopeStart_default {analyzer other : String} (different : analyzer ≠ other)
    (h : Memory.inScope (analyzer ++ ":") other = false)
    (h' : Memory.inScope (other ++ ":") analyzer = false) :
    Memory.Disjoint (scopeStart (defaultScope analyzer)) (scopeStart (defaultScope other)) := by
  intro key hother
  by_contra hanalyzer
  rw [Bool.not_eq_false, inScope_iff_begins] at hanalyzer
  rw [inScope_iff_begins] at hother
  -- Two beginnings of one name are beginnings of each other.
  rcases List.prefix_or_prefix_of_prefix hanalyzer hother with part | part
  · rcases (prefix_scopeStart_default _ _).mp part with same | longer
    · exact different same
    · rw [h] at longer
      cases longer
  · rcases (prefix_scopeStart_default _ _).mp part with same | longer
    · exact different same.symm
    · rw [h'] at longer
      cases longer

end Moderation.Bayes
