import Moderation.Numeral
import Moderation.Toml.Scan

/-!
# `Moderation.Toml.Text`: the four forms of a text

A text stands between apostrophes as it is, or between double quotes with escapes. Either quote
taken three times lets it run over several lines, and a line feed right after the opening quotes
does not count.
-/

set_option autoImplicit false

namespace Moderation.Toml

open Scan

/-- A control character that may not stand in a text of several lines. -/
def isControlInLines (c : Char) : Bool := isControl c && c != '\n'

/-! ### Escapes -/

/-- A character given by `width` hexadecimal digits. -/
def scanCode (width : Nat) : Scan Char := do
  let digits := ((← get).take width).filterMap Numeral.hexValue?
  if digits.length ≠ width then reject
  skip width
  let code := Numeral.ofDigitsIn 16 digits
  if code.isValidChar then return Char.ofNat code else reject

/-- The rest of a line break behind a backslash: blanks, the line feed, and all blanks and line
feeds after it. At the end of the document the line feed may be missing. -/
def scanJoin : Scan Unit := do
  skipBlanks
  match ← peek? with
  | none => return
  | some '\n' => skipRun isSpace
  | some _ => reject

/-- What an escape stands for. -/
def scanEscape (lines : Bool) : Scan (List Char) := do
  skip 1
  match ← peek? with
  | some 'u' => skip 1; return [← scanCode 4]
  | some 'U' => skip 1; return [← scanCode 8]
  | some 'b' => skip 1; return ['\x08']
  | some 't' => skip 1; return ['\t']
  | some 'n' => skip 1; return ['\n']
  | some 'f' => skip 1; return ['\x0c']
  | some 'r' => skip 1; return ['\r']
  | some '"' => skip 1; return ['"']
  | some '\\' => skip 1; return ['\\']
  | some c =>
    if lines && isSpace c then
      scanJoin
      return []
    else reject
  | none => reject

/-! ### Texts -/

/-- The rest of a text with escapes, up to its closing quotes. -/
def scanEscaped (lines : Bool) : Scan (List Char) :=
  repeatStep (fun (taken : List Char) => do
    match ← peek? with
    | none => reject
    | some '"' =>
      if !lines then
        skip 1
        return .inr taken.reverse
      else if ← accept "\"\"\"" then return .inr taken.reverse
      else
        skip 1
        return .inl ('"' :: taken)
    | some '\\' => return .inl ((← scanEscape lines).reverse ++ taken)
    | some c =>
      if if lines then isControlInLines c else isControl c then reject
      skip 1
      return .inl (c :: taken)) []

/-- A text of one line with escapes. -/
def scanBasic : Scan (List Char) := do
  skip 1
  scanEscaped false

/-- A text of one line without escapes. -/
def scanLiteral : Scan (List Char) := do
  skip 1
  let text ← takeRun (· != '\'')
  expect "'"
  if text.any isControl then reject
  return text

/-- The rest of a text of several lines without escapes, up to its closing quotes. -/
def scanLiteralLines : Scan (List Char) :=
  repeatStep (fun (taken : List Char) => do
    if ← accept "'''" then return .inr taken.reverse
    match ← peek? with
    | none => reject
    | some c =>
      if isControlInLines c then reject
      skip 1
      return .inl (c :: taken)) []

/-- A text of several lines. One or two quotes right before the closing ones belong to it. -/
def scanLines (quote : Char) (rest : Scan (List Char)) : Scan (List Char) := do
  skip 3
  let _ ← accept "\n"
  let text ← rest
  let mark := quote.toString
  if ← accept mark then
    if ← accept mark then return text ++ [quote, quote] else return text ++ [quote]
  return text

/-- A text that begins with a double quote. -/
def scanQuoted : Scan (List Char) := do
  if ← comes "\"\"\"" then scanLines '"' (scanEscaped true) else scanBasic

/-- A text that begins with an apostrophe. -/
def scanApostrophed : Scan (List Char) := do
  if ← comes "'''" then scanLines '\'' scanLiteralLines else scanLiteral

/-! ### Keys -/

/-- A character of a key without quotes. -/
def isBare (c : Char) : Bool := c.isAlphanum || c = '-' || c = '_'

/-- A character that a key can begin with. -/
def beginsKey (c : Char) : Bool := isBare c || c = '"' || c = '\''

/-- One part of a key. -/
def scanKeyPart : Scan String := do
  match ← peek? with
  | some '"' => return String.ofList (← scanBasic)
  | some '\'' => return String.ofList (← scanLiteral)
  | some c => if isBare c then return String.ofList (← takeRun isBare) else reject
  | none => reject

/-- A key: parts joined by points. -/
def scanKey : Scan (List String) := do
  let first ← scanKeyPart
  skipBlanks
  repeatStep (fun (parts : List String) => do
    if ← accept "." then
      skipBlanks
      let part ← scanKeyPart
      skipBlanks
      return .inl (parts ++ [part])
    return .inr parts) [first]

end Moderation.Toml
