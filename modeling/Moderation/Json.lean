import Moderation.Decimal.Scientific
import Moderation.Numeral
import Moderation.Value.Basic

/-!
# `Moderation.Json`: values as JSON

Values come and go as JSON. A number without a point and an exponent is whole and of any size, any
other is a float; the words `NaN` and `Infinity` are floats too. Written text is ASCII only. A
written float is an object with its digits, so that it stays apart from a whole number, and a
written moment is an object with its sort.

* `read?` reads a value, `write` writes one.
-/

set_option autoImplicit false

namespace Moderation.Json

/-! ### Reading texts and numbers -/

/-- A text without the blanks that it begins with. -/
def skip (text : List Char) : List Char := text.dropWhile [' ', '\t', '\n', '\r'].contains

/-- The number with some hexadecimal digits. -/
def hexNumber (digits : List Char) : Nat :=
  Numeral.ofDigitsIn 16 (digits.filterMap Numeral.hexValue?)

/-- Whether a number is the first half of a pair that stands for one character. -/
def isHigh (n : Nat) : Bool := 0xd800 ≤ n && n < 0xdc00

/-- Whether a number is the second half of such a pair. -/
def isLow (n : Nat) : Bool := 0xdc00 ≤ n && n < 0xe000

/-- The character that a pair of halves stands for. -/
def joined (high low : Nat) : Char :=
  Char.ofNat (0x10000 + (high - 0xd800) * 0x400 + (low - 0xdc00))

/-- The character that a letter stands for after a backslash. -/
def escaped : Char → Char
  | 'n' => '\n'
  | 't' => '\t'
  | 'r' => '\r'
  | 'b' => '\x08'
  | 'f' => '\x0c'
  | other => other

/-- Reads on in a string, up to the quote that ends it; `read` holds the characters so far, the
last one first. -/
def readString (read : List Char) : List Char → Option (String × List Char)
  | [] => none
  | '"' :: rest => some (String.ofList read.reverse, rest)
  | '\\' :: 'u' :: a :: b :: c :: d :: '\\' :: 'u' :: a' :: b' :: c' :: d' :: rest =>
    let high := hexNumber [a, b, c, d]
    let low := hexNumber [a', b', c', d']
    if isHigh high && isLow low then readString (joined high low :: read) rest
    else readString (Char.ofNat high :: read) ('\\' :: 'u' :: a' :: b' :: c' :: d' :: rest)
  | '\\' :: 'u' :: a :: b :: c :: d :: rest =>
    readString (Char.ofNat (hexNumber [a, b, c, d]) :: read) rest
  | '\\' :: c :: rest => readString (escaped c :: read) rest
  | c :: rest => readString (c :: read) rest
termination_by text => text.length

/-- A character of a number. -/
def isNumberPart (c : Char) : Bool := c.isDigit || ['-', '+', '.', 'e', 'E'].contains c

/-- The value of a number. -/
def number? (literal : List Char) : Option Value :=
  let text := String.ofList literal
  if literal.any ['.', 'e', 'E'].contains then .float <$> Numeral.readReal text
  else .int <$> text.toInt?

/-- The words that stand for a value. -/
def words : List (List Char × Value) := [
  ("true".toList, .switch true), ("false".toList, .switch false), ("null".toList, .null),
  ("NaN".toList, .float Binary64.notANumber), ("Infinity".toList, .float (Binary64.infinity false)),
  ("-Infinity".toList, .float (Binary64.infinity true))]

/-- Reads a word or a number. -/
def readPlain (text : List Char) : Option (Value × List Char) :=
  match words.find? (·.1.isPrefixOf text) with
  | some (word, value) => some (value, text.drop word.length)
  | none => (number? (text.takeWhile isNumberPart)).map (·, text.dropWhile isNumberPart)

/-! ### Reading values -/

mutual

/-- Reads a value. Each step takes a character, so their number is bounded by `fuel`. -/
def readValue : (fuel : Nat) → List Char → Option (Value × List Char)
  | 0, _ => none
  | fuel + 1, text =>
    match skip text with
    | '"' :: rest => (readString [] rest).map fun (s, rest) => (.text s, rest)
    | '[' :: rest =>
      match skip rest with
      | ']' :: rest => some (.list [], rest)
      | rest => readItems fuel [] rest
    | '\x7b' :: rest =>
      match skip rest with
      | '\x7d' :: rest => some (.table [], rest)
      | rest => readEntries fuel [] rest
    | rest => readPlain rest

/-- Reads the items of a list; `read` holds those so far, the last one first. -/
def readItems : (fuel : Nat) → (read : List Value) → List Char → Option (Value × List Char)
  | 0, _, _ => none
  | fuel + 1, read, text => do
    let (item, rest) ← readValue fuel text
    match skip rest with
    | ',' :: rest => readItems fuel (item :: read) rest
    | ']' :: rest => return (.list (item :: read).reverse, rest)
    | _ => none

/-- Reads the entries of an object; `read` holds those so far, the last one first. -/
def readEntries : (fuel : Nat) → (read : Entries Value) → List Char →
    Option (Value × List Char)
  | 0, _, _ => none
  | fuel + 1, read, text => do
    let '"' :: rest := skip text | none
    let (name, rest) ← readString [] rest
    let ':' :: rest := skip rest | none
    let (value, rest) ← readValue fuel rest
    match skip rest with
    | ',' :: rest => readEntries fuel ((name, value) :: read) rest
    | '\x7d' :: rest => return (.table ((name, value) :: read).reverse, rest)
    | _ => none

end

/-- The value that a text begins with. -/
def read? (text : String) : Option Value :=
  (readValue (text.length + 1) text.toList).map (·.1)

/-! ### Writing -/

/-- A number in four hexadecimal digits, as a string has it. -/
def escape (n : Nat) : String := "\\u" ++ String.ofList (Text.Quoted.hex 4 n)

/-- A character in a string. -/
def writeChar (c : Char) : String :=
  if c = '"' then "\\\""
  else if c = '\\' then "\\\\"
  else if 0x20 ≤ c.toNat && c.toNat < 0x7f then c.toString
  else if c.toNat < 0x10000 then escape c.toNat
  else
    let n := c.toNat - 0x10000
    escape (0xd800 + n / 0x400) ++ escape (0xdc00 + n % 0x400)

/-- A text as a string. -/
def writeText (s : String) : String := "\"" ++ String.join (s.toList.map writeChar) ++ "\""

/-- An object with some written entries. -/
def object (entries : List (String × String)) : String :=
  "\x7b" ++ ",".intercalate (entries.map fun e => writeText e.1 ++ ":" ++ e.2) ++ "\x7d"

mutual

/-- A value as JSON. -/
def write : Value → String
  | .null => "null"
  | .number (.whole n) => toString n
  | .number (.switch on) => if on then "true" else "false"
  | .number (.binary x) => object [("f", writeText (Decimal.scientific 9 x))]
  | .text s => writeText s
  | .moment m => object [("type", writeText m.sort)]
  | .list items => "[" ++ ",".intercalate (writeItems items) ++ "]"
  | .table entries => object (writeEntries entries)

/-- The items of a list as JSON. -/
def writeItems : List Value → List String
  | [] => []
  | item :: items => write item :: writeItems items

/-- The entries of a table, each value as JSON. -/
def writeEntries : List (String × Value) → List (String × String)
  | [] => []
  | (name, value) :: entries => (name, write value) :: writeEntries entries

end

end Moderation.Json
