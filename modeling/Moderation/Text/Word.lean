import Moderation.Text.Letter
import Moderation.Text.Digit

/-!
# `Moderation.Text.Word`: words

A word is a maximal run of word characters: letters, numerals and the low line. Combining marks
are none, so a mark ends the word that it modifies.

* `runs_append_of_not` says that a character outside the class separates the runs before it from
  the runs after it.
-/

set_option autoImplicit false

namespace Moderation.Text

/-- A letter, a numeral or the low line. -/
def isWord (c : Char) : Bool := isLetter c || isNumeral c || c == '_'

/-- The maximal runs of a class, in order. -/
def runs (p : Char → Bool) : List Char → List (List Char)
  | [] => []
  | c :: rest =>
    if p c then (c :: rest.takeWhile p) :: runs p (rest.dropWhile p)
    else runs p rest
termination_by text => text.length
decreasing_by
  · exact Nat.lt_succ_of_le (rest.dropWhile_sublist p).length_le
  · exact Nat.lt_succ_self _

/-- The words of a text, in order. -/
def words (text : List Char) : List (List Char) := runs isWord text

/-- A character outside the class is skipped. -/
theorem runs_cons_of_not {p : Char → Bool} {c : Char} {rest : List Char} (h : p c = false) :
    runs p (c :: rest) = runs p rest := by
  rw [runs]
  simp [h]

/-- A character of the class begins a run, which goes as far as the class does. -/
theorem runs_cons_of_pos {p : Char → Bool} {c : Char} {rest : List Char} (h : p c = true) :
    runs p (c :: rest) = (c :: rest.takeWhile p) :: runs p (rest.dropWhile p) := by
  rw [runs]
  simp [h]

/-- The run at the start of a text ends before a character outside the class. -/
theorem takeWhile_append_of_not {p : Char → Bool} {c : Char} (h : p c = false)
    (before after : List Char) : (before ++ c :: after).takeWhile p = before.takeWhile p := by
  induction before with
  | nil => simp [h]
  | cons d rest ih => by_cases hd : p d <;> simp [hd, ih]

/-- What comes behind the run at the start of a text begins no later than a character outside the
class. -/
theorem dropWhile_append_of_not {p : Char → Bool} {c : Char} (h : p c = false)
    (before after : List Char) :
    (before ++ c :: after).dropWhile p = before.dropWhile p ++ c :: after := by
  induction before with
  | nil => simp [h]
  | cons d rest ih => by_cases hd : p d <;> simp [hd, ih]

/-- The runs of a text are those before a character outside the class and those behind it. -/
theorem runs_append_of_not {p : Char → Bool} {c : Char} (h : p c = false)
    (before after : List Char) : runs p (before ++ c :: after) = runs p before ++ runs p after := by
  fun_induction runs p before with
  | case1 => simp [runs_cons_of_not h]
  | case2 d rest hd ih =>
    rw [List.cons_append, runs_cons_of_pos hd, takeWhile_append_of_not h,
      dropWhile_append_of_not h, ih, List.cons_append]
  | case3 d rest hd ih => rw [List.cons_append, runs_cons_of_not (by simpa using hd), ih]

end Moderation.Text
