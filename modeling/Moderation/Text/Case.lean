import Moderation.Text.Case.Lower
import Moderation.Text.Case.Upper
import Moderation.Text.Case.Fold
import Moderation.Text.Case.Context

/-!
# `Moderation.Text.Case`: lower case, upper case and case folding of texts

Case folding and upper case go character by character. Lower case does too, with one exception:
a capital sigma becomes `ς` at the end of a word.

* `foldCase_append` says that folding knows no context.
-/

set_option autoImplicit false

namespace Moderation.Text

/-- The text with the case of its letters removed. -/
def foldCase (text : List Char) : List Char := text.flatMap foldChar

/-- The text in upper case. -/
def upperCase (text : List Char) : List Char := text.flatMap upperChar

/-- The lower case of `c` between the reversed text `before` and the text `after`. -/
def lowerBetween (before : List Char) (c : Char) (after : List Char) : List Char :=
  if c = 'Σ' then
    if beginsCased before && !beginsCased after then ['ς'] else ['σ']
  else lowerChar c

/-- The text in lower case, `before` being the reversed text that precedes it. -/
def lowerCaseAfter (before : List Char) : List Char → List Char
  | [] => []
  | c :: rest => lowerBetween before c rest ++ lowerCaseAfter (c :: before) rest

/-- The text in lower case. -/
def lowerCase (text : List Char) : List Char := lowerCaseAfter [] text

/-- The empty text is folded. -/
@[simp]
theorem foldCase_nil : foldCase [] = [] := rfl

/-- A text is folded character by character. -/
theorem foldCase_cons (c : Char) (text : List Char) :
    foldCase (c :: text) = foldChar c ++ foldCase text := rfl

/-- Two texts are folded apart. -/
theorem foldCase_append (a b : List Char) : foldCase (a ++ b) = foldCase a ++ foldCase b :=
  List.flatMap_append

/-- The text in lower case. -/
def lowered (text : String) : String := String.ofList (lowerCase text.toList)

/-- The text in upper case. -/
def raised (text : String) : String := String.ofList (upperCase text.toList)

end Moderation.Text
