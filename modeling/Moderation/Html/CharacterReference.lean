import Moderation.Html.Entity.CapitalAToL
import Moderation.Html.Entity.CapitalMToZ
import Moderation.Html.Entity.SmallAToD
import Moderation.Html.Entity.SmallEToK
import Moderation.Html.Entity.SmallLToN
import Moderation.Html.Entity.SmallOToR
import Moderation.Html.Entity.SmallSToZ
import Moderation.Numeral
import Moderation.Text.Passage

/-!
# `Moderation.Html.CharacterReference`: characters given by name or number

In HTML a character can be written as an ampersand and its name or number. Numbers of control
characters that old pages use stand for the characters of their code page, and numbers of no
character for the replacement character or for nothing. A name ends with a semicolon, which the
oldest names may lack; of a longer unknown name the longest known beginning is taken.

* `referenceLength` measures a reference, `referenceImage` is what it stands for.
* `unescape` replaces the references of a text.
-/

set_option autoImplicit false

namespace Moderation.Html

open Text

/-! ### Names -/

/-- The entities, by their names without the semicolon. -/
def entities : List (List (String × List Nat)) := [
  Entity.capitalAToL, Entity.capitalMToZ, Entity.smallAToD, Entity.smallEToK, Entity.smallLToN,
  Entity.smallOToR, Entity.smallSToZ]

/-- Names that may lack the semicolon. -/
def bareNames : List String := [
  "AElig", "AMP", "Aacute", "Acirc", "Agrave", "Aring", "Atilde", "Auml", "COPY", "Ccedil", "ETH",
  "Eacute", "Ecirc", "Egrave", "Euml", "GT", "Iacute", "Icirc", "Igrave", "Iuml", "LT", "Ntilde",
  "Oacute", "Ocirc", "Ograve", "Oslash", "Otilde", "Ouml", "QUOT", "REG", "THORN", "Uacute",
  "Ucirc", "Ugrave", "Uuml", "Yacute", "aacute", "acirc", "acute", "aelig", "agrave", "amp",
  "aring", "atilde", "auml", "brvbar", "ccedil", "cedil", "cent", "copy", "curren", "deg",
  "divide", "eacute", "ecirc", "egrave", "eth", "euml", "frac12", "frac14", "frac34", "gt",
  "iacute", "icirc", "iexcl", "igrave", "iquest", "iuml", "laquo", "lt", "macr", "micro", "middot",
  "nbsp", "not", "ntilde", "oacute", "ocirc", "ograve", "ordf", "ordm", "oslash", "otilde", "ouml",
  "para", "plusmn", "pound", "quot", "raquo", "reg", "sect", "shy", "sup1", "sup2", "sup3",
  "szlig", "thorn", "times", "uacute", "ucirc", "ugrave", "uml", "uuml", "yacute", "yen", "yuml"]

/-- The characters of an entity, by its name without the semicolon. -/
def entity? (name : String) : Option (List Char) :=
  (entities.findSome? (·.lookup name)).map (·.map Char.ofNat)

/-- The characters of a name as it is written, with or without the semicolon. -/
def named? (name : List Char) : Option (List Char) :=
  if name.getLast? == some ';' then entity? (String.ofList name.dropLast)
  else if bareNames.contains (String.ofList name) then entity? (String.ofList name)
  else none

/-- The characters of the longest known beginning of `name` with `length` characters or fewer,
and the rest of the name after it. No name has fewer than two characters. -/
def longestNamed? (name : List Char) : (length : Nat) → Option (List Char)
  | 0 | 1 => none
  | length + 2 =>
    match named? (name.take (length + 2)) with
    | some characters => some (characters ++ name.drop (length + 2))
    | none => longestNamed? name (length + 1)

/-! ### Numbers -/

/-- The characters that the numbers from 0x80 to 0x9f stand for. -/
def codePage : List Nat := [
  0x20ac, 0x81, 0x201a, 0x192, 0x201e, 0x2026, 0x2020, 0x2021, 0x2c6, 0x2030, 0x160, 0x2039,
  0x152, 0x8d, 0x17d, 0x8f, 0x90, 0x2018, 0x2019, 0x201c, 0x201d, 0x2022, 0x2013, 0x2014, 0x2dc,
  0x2122, 0x161, 0x203a, 0x153, 0x9d, 0x17e, 0x178]

/-- Whether a number belongs to no character: a control character, or one of the code points that
are set apart. -/
def isNoncharacter (n : Nat) : Bool :=
  (1 ≤ n && n ≤ 8) || n = 0xb || (0xe ≤ n && n ≤ 0x1f) || n = 0x7f ||
    (0xfdd0 ≤ n && n ≤ 0xfdef) || n % 0x10000 = 0xfffe || n % 0x10000 = 0xffff

/-- The characters that a number stands for. -/
def numbered (n : Nat) : List Char :=
  if n = 0 then ['\ufffd']
  else if 0x80 ≤ n && n ≤ 0x9f then [Char.ofNat (codePage[n - 0x80]?.getD n)]
  else if (0xd800 ≤ n && n ≤ 0xdfff) || 0x10ffff < n then ['\ufffd']
  else if isNoncharacter n then []
  else [Char.ofNat n]

/-- A hexadecimal digit. -/
def isHex (c : Char) : Bool := (Numeral.hexValue? c).isSome

/-- The number with the digits `digits` in a base. -/
def numberIn (base : Nat) (digits : List Char) : Nat :=
  Numeral.ofDigitsIn base (digits.filterMap Numeral.hexValue?)

/-! ### References -/

/-- A character that may stand in a name. -/
def isNamePart (c : Char) : Bool :=
  !(c = '\t' || c = '\n' || c = '\x0c' || c = ' ' || c = '<' || c = '&' || c = '#' || c = ';')

/-- The length that a name may have without the semicolon. -/
def longestName : Nat := 32

/-- The length of a run with the semicolon that may follow it; zero for an empty run. -/
def terminated (text : List Char) (length : Nat) : Nat :=
  if length = 0 then 0
  else if (text.drop length).head? == some ';' then length + 1 else length

/-- The length of the reference that begins a text, and zero if none does. -/
def referenceLength : List Char → Nat
  | '&' :: '#' :: mark :: rest =>
    if mark = 'x' || mark = 'X' then
      match terminated rest (runLength isHex rest) with
      | 0 => 0
      | n + 1 => n + 4
    else
      match terminated (mark :: rest) (runLength Char.isDigit (mark :: rest)) with
      | 0 => 0
      | n + 1 => n + 3
  | '&' :: rest =>
    match terminated rest (min longestName (runLength isNamePart rest)) with
    | 0 => 0
    | n + 1 => n + 2
  | _ => 0

/-- What a reference stands for. -/
def referenceImage : List Char → List Char
  | '&' :: '#' :: mark :: rest =>
    if mark = 'x' || mark = 'X' then numbered (numberIn 16 (rest.takeWhile isHex))
    else numbered (numberIn 10 ((mark :: rest).takeWhile Char.isDigit))
  | '&' :: name =>
    match named? name with
    | some characters => characters
    | none => (longestNamed? name (name.length - 1)).getD ('&' :: name)
  | text => text

/-- The number of digits of a decimal reference, leading zeros included; zero for any other. -/
def decimalLength : List Char → Nat
  | '&' :: '#' :: rest => runLength Char.isDigit rest
  | _ => 0

/-- The text with characters in the place of references. A decimal number that has too many digits
to be read is an error, which is their number. -/
def unescape (text : List Char) : Except Nat (List Char) :=
  match ((passages referenceLength text).map decimalLength).find? (Decimal.digitLimit < ·) with
  | some digits => .error digits
  | none => .ok (replaceEach referenceLength referenceImage text)

end Moderation.Html
