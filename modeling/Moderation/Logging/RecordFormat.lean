import Moderation.Error
import Moderation.Text.Word

/-!
# `Moderation.Logging.RecordFormat`: how records are written

The format of a record is a text with named fields such as `%(message)s`: a per cent sign, the
name of the field in parentheses, and a conversion. A conversion may have flags, a width and a
precision, and ends in the letter of its kind. A format has to have a field.

* `ofValue?` reads a format.
-/

set_option autoImplicit false

namespace Moderation.Logging.RecordFormat

open Text

/-- Whether a character changes how a conversion fills its width. -/
def isFlag (c : Char) : Bool := ['#', '0', '+', ' ', '-'].contains c

/-- The letters of the kinds of conversions in both cases, the letters that differ from one of
them only in case, and the per cent sign. -/
def kinds : List Char := "diouxefgcrsa%DIOUXEFGCRSA\u0130\u0131\u017f".toList

/-- What follows on a width or a precision: a star or some digits, if there are any. -/
def afterCount : List Char → List Char
  | '*' :: rest => rest
  | text => text.dropWhile isDecimal

/-- Whether a text begins with a conversion. -/
def startsConversion (text : List Char) : Bool :=
  match afterCount (text.dropWhile isFlag) with
  | '.' :: precision =>
    let rest := afterCount precision
    rest.length < precision.length && rest.head?.any kinds.contains
  | rest => rest.head?.any kinds.contains

/-- Whether a text begins with a field, its per cent sign left out. -/
def startsField : List Char → Bool
  | '(' :: text =>
    match text.dropWhile isWord with
    | ')' :: rest => text.head?.any isWord && startsConversion rest
    | _ => false
  | _ => false

/-- Whether there is a field in a text. -/
def hasField : List Char → Bool
  | [] => false
  | c :: rest => (c == '%' && startsField rest) || hasField rest

/-- The format that only writes the message. -/
def bare : String := "%(message)s"

/-- The format of records, unless another is given. -/
def default : String := "%(asctime)s - %(name)s - %(levelname)s - %(message)s"

/-- The format that a value gives. Without one, only the message is written. -/
def ofValue? (format : Value) : Except Error String :=
  if format.isSet then
    match format with
    | .text s => if hasField s.toList then .ok s else .error (.invalid (.recordFormat s))
    | _ => .error .wrongKind
  else .ok bare

end Moderation.Logging.RecordFormat
