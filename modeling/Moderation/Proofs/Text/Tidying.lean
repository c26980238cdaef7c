import Mathlib.Data.List.Chain
import Mathlib.Data.List.DropRight
import Moderation.Proofs.Text.Passages

/-!
# `Moderation.Proofs.Text.Tidying`: texts without superfluous blanks

Blanks around a text are taken off by trimming, whatever the text is (`trimBoth_surrounded`). A tidy text
has none at its ends, and between its words there are single spaces (`IsTidy`). Squeezing and trimming
make a text tidy (`isTidy_trim_squeeze`). Tidy texts that are not empty can be put together with a space
between each two of them (`isTidy_intercalate`).
-/

set_option autoImplicit false

namespace Moderation.Text

variable {p : Char → Bool} {text : List Char}

/-! ### Trimming -/

/-- Characters of the class at the end of a text are trimmed with those before them. -/
theorem trimEnd_append (h : ∀ c ∈ text, p c = true) (before : List Char) :
    trimEnd p (before ++ text) = trimEnd p before := by
  rw [trimEnd, List.reverse_append,
    List.dropWhile_append_of_pos fun c hc => h c (List.mem_reverse.mp hc), trimEnd]

/-- A character outside the class stays, and so does all before it. -/
theorem trimEnd_cons_of_not {c : Char} (h : p c = false) (text : List Char) :
    trimEnd p (c :: text) = c :: trimEnd p text := by
  have kept : [c].dropWhile p = [c] := List.dropWhile_cons_of_neg (by rw [h]; exact Bool.false_ne_true)
  rw [trimEnd, List.reverse_cons, List.dropWhile_append, kept, trimEnd]
  split
  · next none => rw [List.isEmpty_iff.mp none]; rfl
  · rw [List.reverse_concat]

/-- Characters of the class around a text are trimmed. -/
theorem trimBoth_surrounded {before after : List Char} (hbefore : ∀ c ∈ before, p c = true)
    (hafter : ∀ c ∈ after, p c = true) (text : List Char) :
    trimBoth p (before ++ text ++ after) = trimBoth p text := by
  rw [trimBoth, List.append_assoc, List.dropWhile_append_of_pos hbefore, List.dropWhile_append, trimBoth]
  split
  · next none =>
    -- The text has no other characters, and neither has what is behind it.
    have gone : after.dropWhile p = [] := List.dropWhile_eq_nil_iff.mpr hafter
    rw [gone, List.isEmpty_iff.mp none]
  · exact trimEnd_append hafter _

/-- What is left is a passage of the text. -/
theorem trimBoth_within (p : Char → Bool) (text : List Char) : trimBoth p text <:+: text :=
  (List.rdropWhile_prefix p _).isInfix.trans (List.dropWhile_suffix p).isInfix

/-- A trimmed text stays as it is when it is trimmed again. -/
theorem trimBoth_trimBoth (p : Char → Bool) (text : List Char) :
    trimBoth p (trimBoth p text) = trimBoth p text := by
  rw [trimBoth_eq_self_iff]
  constructor
  · intro c first
    -- The first character that is left is the first one that is not dropped from the beginning.
    obtain ⟨rest, same⟩ : ∃ rest, trimBoth p text = c :: rest := List.head?_eq_some_iff.mp first
    obtain ⟨after, whole⟩ := List.rdropWhile_prefix p (text.dropWhile p)
    rw [show (text.dropWhile p).rdropWhile p = c :: rest from same] at whole
    have kept := List.head?_dropWhile_not p text
    rwa [← whole] at kept
  · intro c last
    have nonempty : trimBoth p text ≠ [] := by
      rintro none
      rw [none] at last
      cases last
    have kept := List.rdropWhile_last_not p (text.dropWhile p) nonempty
    rw [List.getLast?_eq_getLast_of_ne_nil nonempty] at last
    cases last
    exact Bool.not_eq_true _ ▸ kept

/-! ### Tidy texts -/

/-- A text without blanks at its ends, and with no others in it than single spaces. -/
structure IsTidy (text : List Char) : Prop where
  trimmed : trim text = text
  spaces : ∀ c ∈ text, isBlank c = true → c = ' '
  single : text.IsChain fun a b => ¬ (a = ' ' ∧ b = ' ')

/-- The empty text is tidy. -/
theorem isTidy_nil : IsTidy [] := ⟨rfl, nofun, List.isChain_nil⟩

/-- There are no ends of lines in a tidy text. -/
theorem IsTidy.not_mem {c : Char} (h : IsTidy text) (blank : isBlank c = true) (other : c ≠ ' ') :
    c ∉ text :=
  fun hc => other (h.spaces c hc blank)

/-- Squeezing leaves no two spaces beside each other, and none behind a run that has its space. -/
theorem isChain_squeezeFrom (space : p ' ' = true) (inRun : Bool) (text : List Char) :
    (squeezeFrom p inRun text).IsChain (fun a b => ¬ (a = ' ' ∧ b = ' '))
      ∧ (inRun = true → (squeezeFrom p inRun text).head? ≠ some ' ') := by
  -- Whether a run has its space already changes from character to character.
  induction text generalizing inRun with
  | nil => exact ⟨List.isChain_nil, fun _ first => Option.some_ne_none _ first.symm⟩
  | cons c text ih =>
    rw [squeezeFrom]
    split
    · cases inRun with
      | true => exact ih true
      | false =>
        obtain ⟨single, behind⟩ := ih true
        refine ⟨List.isChain_cons.mpr ⟨fun d first => ?_, single⟩, fun h => Bool.noConfusion h⟩
        rintro ⟨-, rfl⟩
        exact behind rfl first
    · next outside =>
      have other : c ≠ ' ' := fun same => outside (same ▸ space)
      refine ⟨List.isChain_cons.mpr ⟨fun _ _ both => other both.1, (ih false).1⟩, fun _ first => ?_⟩
      exact other (Option.some.inj first)

/-- Squeezing and trimming make a text tidy. -/
theorem isTidy_trim_squeeze (text : List Char) : IsTidy (trim (squeeze isBlank text)) where
  trimmed := trimBoth_trimBoth isBlank _
  spaces c hc blank := by
    refine (mem_squeezeFrom ((trimBoth_within isBlank _).subset hc)).resolve_right fun outside => ?_
    rw [blank] at outside
    cases outside
  single :=
    List.IsChain.infix (isChain_squeezeFrom (by decide) false text).1 (trimBoth_within isBlank _)

/-! ### Tidy texts together -/

/-- Two tidy texts with a space between them. -/
theorem IsTidy.append_space {other : List Char} (h : IsTidy text) (nonempty : text ≠ [])
    (hother : IsTidy other) (nonempty' : other ≠ []) : IsTidy (text ++ [' '] ++ other) := by
  obtain ⟨first, last⟩ := (trim_eq_self_iff text).mp h.trimmed
  obtain ⟨first', last'⟩ := (trim_eq_self_iff other).mp hother.trimmed
  have blank : isBlank ' ' = true := by decide
  constructor
  · rw [trim_eq_self_iff, List.append_assoc, List.head?_append_of_ne_nil _ nonempty,
      ← List.append_assoc, List.getLast?_append_of_ne_nil _ nonempty']
    exact ⟨first, last'⟩
  · intro c hc hblank
    rcases List.mem_append.mp hc with hc | hc
    · rcases List.mem_append.mp hc with hc | hc
      · exact h.spaces c hc hblank
      · exact List.mem_singleton.mp hc
    · exact hother.spaces c hc hblank
  · -- Beside the space stand an end of the one text and the beginning of the other.
    rw [List.isChain_append, List.isChain_append]
    refine ⟨⟨h.single, List.isChain_singleton _, fun c hc d hd both => ?_⟩, hother.single,
      fun c hc d hd both => ?_⟩
    · have := last c hc
      rw [both.1, blank] at this
      cases this
    · have := first' d hd
      rw [both.2, blank] at this
      cases this

/-- Any number of tidy texts with spaces between them. -/
theorem isTidy_intercalate {texts : List (List Char)} (h : ∀ text ∈ texts, IsTidy text ∧ text ≠ []) :
    IsTidy ([' '].intercalate texts) ∧ (texts ≠ [] → [' '].intercalate texts ≠ []) := by
  induction texts with
  | nil => exact ⟨isTidy_nil, fun none => absurd rfl none⟩
  | cons text texts ih =>
    obtain ⟨⟨tidy, nonempty⟩, behind⟩ := List.forall_mem_cons.mp h
    cases texts with
    | nil =>
      rw [List.intercalate_singleton]
      exact ⟨tidy, fun _ => nonempty⟩
    | cons next texts =>
      -- A space is tidy between two texts that are not empty, so that is carried along as well.
      obtain ⟨rest, given⟩ := ih behind
      rw [List.intercalate_cons_cons]
      exact ⟨tidy.append_space nonempty rest (given (List.cons_ne_nil _ _)), by simp [nonempty]⟩

end Moderation.Text
