/-!
# `Moderation.Text.Passage`: passages replaced in a text

Links, mentions of users, numbers and markup are passages without meaning for the words around
them, and a placeholder is a passage that stands for another text. A passage is described by the
function that measures it at the start of a text; a scan from the left puts the image of each
passage that it meets in its place, and does not look at the image again.

* `replaceEach_cons_of_zero` and `replaceEach_of_pos` are the two steps of the scan, `passages`
  are what it meets.
-/

set_option autoImplicit false

namespace Moderation.Text

/-- Replaces each passage by its image. `passage` is the length of the passage that begins a
text, and zero if none does. -/
def replaceEach (passage : List Char → Nat) (image : List Char → List Char) : List Char → List Char
  | [] => []
  | c :: rest =>
    match passage (c :: rest) with
    | 0 => c :: replaceEach passage image rest
    | n + 1 => image (c :: rest.take n) ++ replaceEach passage image (rest.drop n)
termination_by text => text.length
decreasing_by
  · exact Nat.lt_succ_self _
  · simp only [List.length_drop, List.length_cons]
    omega

/-- There is no passage in the empty text. -/
@[simp]
theorem replaceEach_nil (passage : List Char → Nat) (image : List Char → List Char) :
    replaceEach passage image [] = [] := by
  rw [replaceEach]

/-- A character at which no passage begins stays. -/
theorem replaceEach_cons_of_zero {passage : List Char → Nat} {image : List Char → List Char}
    {c : Char} {rest : List Char} (h : passage (c :: rest) = 0) :
    replaceEach passage image (c :: rest) = c :: replaceEach passage image rest := by
  rw [replaceEach, h]

/-- A passage is replaced, and the scan goes on behind it. -/
theorem replaceEach_of_pos {passage : List Char → Nat} {image : List Char → List Char}
    {text : List Char} (nonempty : text ≠ []) (h : 0 < passage text) :
    replaceEach passage image text =
      image (text.take (passage text)) ++ replaceEach passage image (text.drop (passage text)) := by
  cases text with
  | nil => exact absurd rfl nonempty
  | cons c rest =>
    obtain ⟨n, hn⟩ : ∃ n, passage (c :: rest) = n + 1 := ⟨_, (Nat.succ_pred_eq_of_pos h).symm⟩
    rw [replaceEach, hn]
    rfl

/-- The passages that the scan meets, in order. -/
def passages (passage : List Char → Nat) : List Char → List (List Char)
  | [] => []
  | c :: rest =>
    match passage (c :: rest) with
    | 0 => passages passage rest
    | n + 1 => (c :: rest.take n) :: passages passage (rest.drop n)
termination_by text => text.length
decreasing_by
  · exact Nat.lt_succ_self _
  · simp only [List.length_drop, List.length_cons]
    omega

/-- Replaces each passage by one space. -/
def blankOut (passage : List Char → Nat) : List Char → List Char :=
  replaceEach passage fun _ => [' ']

/-- The length of the run of a class that begins a text. -/
def runLength (p : Char → Bool) (text : List Char) : Nat := (text.takeWhile p).length

/-- The length of a passage that is one of some leads and, after it, one or more characters of a
class. -/
def ledLength (leads : List (List Char)) (p : Char → Bool) (text : List Char) : Nat :=
  match leads.find? (·.isPrefixOf text) with
  | none => 0
  | some lead =>
    match runLength p (text.drop lead.length) with
    | 0 => 0
    | n + 1 => lead.length + (n + 1)

end Moderation.Text
