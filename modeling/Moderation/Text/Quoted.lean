import Moderation.Text.Visible

/-!
# `Moderation.Text.Quoted`: text between quotes

Messages show a text between quotes so that its ends and its unusual characters can be seen.
The quote is an apostrophe, or a double quote if that saves an escape: the text has an
apostrophe and no double quote. Inside, the quote and the backslash follow a backslash, line
feed, carriage return and tab have letters, and each other hidden character is written by its
number in two, four or eight hexadecimal digits, the shortest that holds it.
-/

set_option autoImplicit false

namespace Moderation.Text.Quoted

/-- The hexadecimal digit of a value below sixteen. -/
def hexDigit (n : Nat) : Char :=
  if n < 10 then Char.ofNat (0x30 + n) else Char.ofNat (0x61 + (n - 10))

/-- The last `width` hexadecimal digits of `n`. -/
def hex : (width : Nat) → (n : Nat) → List Char
  | 0, _ => []
  | width + 1, n => hex width (n / 16) ++ [hexDigit (n % 16)]

/-- The quote that a text takes. -/
def quoteFor (text : List Char) : Char :=
  if text.contains '\'' && !text.contains '"' then '"' else '\''

/-- One character between the quotes `quote`. -/
def encodeChar (quote c : Char) : List Char :=
  if c = quote || c = '\\' then ['\\', c]
  else if c = '\n' then ['\\', 'n']
  else if c = '\r' then ['\\', 'r']
  else if c = '\t' then ['\\', 't']
  else if isVisible c then [c]
  else if c.toNat < 0x100 then '\\' :: 'x' :: hex 2 c.toNat
  else if c.toNat < 0x10000 then '\\' :: 'u' :: hex 4 c.toNat
  else '\\' :: 'U' :: hex 8 c.toNat

/-- The text between quotes. -/
def encode (text : List Char) : List Char :=
  let quote := quoteFor text
  quote :: text.flatMap (encodeChar quote) ++ [quote]

end Moderation.Text.Quoted

namespace Moderation.Text

/-- The text between quotes, as messages show it. -/
def quoted (text : String) : String := String.ofList (Quoted.encode text.toList)

end Moderation.Text
