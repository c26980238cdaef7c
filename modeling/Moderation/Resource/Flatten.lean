import Moderation.Error
import Moderation.Html.CharacterReference
import Moderation.Text.Blank

/-!
# `Moderation.Resource.Flatten`: one clean text from a field

A field of a resource is a text or a table of texts by locale, which may nest. Flattening joins
the texts in the order of their locales, takes markup and entities out and leaves single spaces
between words.

* `cleanText` is the flattening of a text, `flatten` that of any field.
-/

set_option autoImplicit false

namespace Moderation.Resource

open Text

/-- The length of the tag that begins a text: an angle bracket, one or more characters and the
closing bracket. -/
def tagLength : List Char → Nat
  | '<' :: rest =>
    match runLength (· != '>') rest with
    | 0 => 0
    | n + 1 => if (rest.drop (n + 1)).isEmpty then 0 else n + 3
  | _ => 0

/-- A text without markup, with characters for entities and with single spaces only. -/
def cleanText (text : List Char) : Except Error (List Char) :=
  match Html.unescape (blankOut tagLength text) with
  | .ok unescaped => .ok (trim (squeeze isBlank unescaped))
  | .error digits => .error (.invalid (.tooManyDigits digits))

/-- The parts that are not empty, joined by `separator`. -/
def joinGiven (separator : List Char) (parts : List (List Char)) : List Char :=
  separator.intercalate (parts.filter (!·.isEmpty))

mutual

/-- The clean text of a field. -/
def flattenValue : Value → Except Error (List Char)
  | .null => .ok []
  | .table entries =>
    joinGiven [' '] <$>
      ((flattenEntries entries).mergeSort (fun a b => a.1 ≤ b.1)).mapM (·.2)
  | .text s => cleanText s.toList
  | .number n => cleanText (Value.number n).display.toList
  | .moment m => cleanText (Value.moment m).display.toList
  | .list items => cleanText (Value.list items).display.toList

/-- The clean texts of a table, by locale. -/
def flattenEntries : List (String × Value) → List (String × Except Error (List Char))
  | [] => []
  | (locale, value) :: entries => (locale, flattenValue value) :: flattenEntries entries

end

/-- The clean text of a field. -/
def flatten (field : Value) : Except Error String := String.ofList <$> flattenValue field

end Moderation.Resource
