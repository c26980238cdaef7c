import Moderation.Text.Ranges

/-!
# `Moderation.Text.Blank`: blanks and what is done with them

`isBlank` holds of the white space of Unicode 14.0: spaces, line ends, tabs and the four
separator controls. A name, a line of a file or a number is read without the blanks around it,
and a flattened text has single spaces only.

* `squeezeFrom_append` says how runs are replaced in a text that is given in two parts.
* `trim_eq_self_iff` says which texts are trimmed.
-/

set_option autoImplicit false

namespace Moderation.Text

/-- The code points of the blanks. -/
def blankRanges : Ranges := [
  (0x9, 0xd), (0x1c, 0x20), (0x85, 0x85), (0xa0, 0xa0), (0x1680, 0x1680), (0x2000, 0x200a),
  (0x2028, 0x2029), (0x202f, 0x202f), (0x205f, 0x205f), (0x3000, 0x3000)]

/-- White space of any kind. -/
def isBlank (c : Char) : Bool := blankRanges.has c.toNat

/-- The text without the characters of a class at its end. -/
def trimEnd (p : Char → Bool) (text : List Char) : List Char :=
  (text.reverse.dropWhile p).reverse

/-- The text without the characters of a class at its two ends. -/
def trimBoth (p : Char → Bool) (text : List Char) : List Char :=
  trimEnd p (text.dropWhile p)

/-- The text without the blanks at its two ends. -/
def trim (text : List Char) : List Char := trimBoth isBlank text

/-- Replaces each maximal run of a class by one space; `inRun` says that the character before
`text` belongs to a run that has its space already. -/
def squeezeFrom (p : Char → Bool) (inRun : Bool) : List Char → List Char
  | [] => []
  | c :: rest =>
    if p c then
      if inRun then squeezeFrom p true rest else ' ' :: squeezeFrom p true rest
    else c :: squeezeFrom p false rest

/-- Replaces each maximal run of a class by one space. -/
def squeeze (p : Char → Bool) (text : List Char) : List Char :=
  squeezeFrom p false text

/-- A text is squeezed behind another one, which ends within a run or not. -/
theorem squeezeFrom_append (p : Char → Bool) (inRun : Bool) (before after : List Char) :
    squeezeFrom p inRun (before ++ after) =
      squeezeFrom p inRun before ++ squeezeFrom p ((before.getLast?.map p).getD inRun) after := by
  induction before generalizing inRun with
  | nil => simp [squeezeFrom]
  | cons c rest ih =>
    have last : ((c :: rest).getLast?.map p).getD inRun = (rest.getLast?.map p).getD (p c) := by
      cases rest with
      | nil => simp
      | cons d rest => simp [List.getLast?_cons]
    by_cases h : p c <;> cases inRun <;> simp_all [squeezeFrom]

/-! ### Trimmed texts -/

/-- Nothing is dropped from a text if and only if it does not begin with the class. -/
theorem dropWhile_eq_self_iff (p : Char → Bool) (text : List Char) :
    text.dropWhile p = text ↔ ∀ c ∈ text.head?, p c = false := by
  cases text with
  | nil => simp
  | cons c rest =>
    by_cases h : p c
    · have := (rest.dropWhile_sublist p).length_le
      simp only [h, List.dropWhile_cons_of_pos, List.head?_cons, Option.mem_def,
        Option.some.injEq, forall_eq', Bool.true_eq_false, iff_false]
      intro same
      rw [same, List.length_cons] at this
      omega
    · simp [h]

/-- Nothing is trimmed from the end of a text if and only if it does not end with the class. -/
theorem trimEnd_eq_self_iff (p : Char → Bool) (text : List Char) :
    trimEnd p text = text ↔ ∀ c ∈ text.getLast?, p c = false := by
  rw [trimEnd, ← List.reverse_inj, List.reverse_reverse, ← List.head?_reverse,
    dropWhile_eq_self_iff]

/-- Trimming makes no text longer. -/
theorem length_trimEnd_le (p : Char → Bool) (text : List Char) :
    (trimEnd p text).length ≤ text.length := by
  simpa [trimEnd] using (text.reverse.dropWhile_sublist p).length_le

/-- Nothing is trimmed from a text if and only if it neither begins nor ends with the class. -/
theorem trimBoth_eq_self_iff (p : Char → Bool) (text : List Char) :
    trimBoth p text = text ↔
      (∀ c ∈ text.head?, p c = false) ∧ ∀ c ∈ text.getLast?, p c = false := by
  rw [← dropWhile_eq_self_iff, ← trimEnd_eq_self_iff, trimBoth]
  constructor
  · intro same
    have start : text.dropWhile p = text := by
      refine (text.dropWhile_sublist p).eq_of_length_le ?_
      have := length_trimEnd_le p (text.dropWhile p)
      rwa [same] at this
    exact ⟨start, by rwa [start] at same⟩
  · rintro ⟨start, finish⟩
    rw [start, finish]

/-- A text is trimmed if and only if it neither begins nor ends with a blank. -/
theorem trim_eq_self_iff (text : List Char) :
    trim text = text ↔
      (∀ c ∈ text.head?, isBlank c = false) ∧ ∀ c ∈ text.getLast?, isBlank c = false :=
  trimBoth_eq_self_iff isBlank text

/-! ### Strings -/

/-- The text without the blanks at its two ends. -/
def trimmed (text : String) : String := String.ofList (trim text.toList)

/-- Whether the text has no character but blanks. -/
def isAllBlank (text : String) : Bool := text.toList.all isBlank

end Moderation.Text
