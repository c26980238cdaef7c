import Moderation.Toml.Reader

/-!
# `Moderation.Toml.Scan`: reading a document from left to right

A scanner reads from the characters that remain and fails on what is no TOML. Loops are bounded
by the number of characters that remain, since each round of a loop takes at least one.
-/

set_option autoImplicit false

namespace Moderation.Toml

/-- Reads an `α` from the characters that remain. -/
abbrev Scan (α : Type) := StateT (List Char) (Except Fault) α

namespace Scan

variable {α σ : Type}

/-- What stands here is not allowed. -/
def reject : Scan α := throw .malformed

/-- The next character. -/
def peek? : Scan (Option Char) := return (← get).head?

/-- Whether `lead` comes next. -/
def comes (lead : String) : Scan Bool := return lead.toList.isPrefixOf (← get)

/-- Passes `n` characters over. -/
def skip (n : Nat) : Scan Unit := modify (·.drop n)

/-- Passes `lead` over if it comes next, and says whether it did. -/
def accept (lead : String) : Scan Bool := do
  if ← comes lead then
    skip lead.length
    return true
  return false

/-- Passes `lead` over, which has to come next. -/
def expect (lead : String) : Scan Unit := do
  unless ← accept lead do reject

/-- Takes the characters of a class that come next. -/
def takeRun (p : Char → Bool) : Scan (List Char) := do
  let text ← get
  set (text.dropWhile p)
  return text.takeWhile p

/-- Passes the characters of a class over that come next. -/
def skipRun (p : Char → Bool) : Scan Unit := modify (·.dropWhile p)

/-- Repeats `step` at most `bound` times, until it gives a result. -/
def repeatUpTo (step : σ → Scan (σ ⊕ α)) : (bound : Nat) → σ → Scan α
  | 0, _ => reject
  | bound + 1, state => do
    match ← step state with
    | .inl state => repeatUpTo step bound state
    | .inr result => return result

/-- Repeats a step that takes at least one character, until it gives a result. -/
def repeatStep (step : σ → Scan (σ ⊕ α)) (state : σ) : Scan α := do
  repeatUpTo step ((← get).length + 1) state

/-! ### Blanks and comments -/

/-- A space or a tab. -/
def isBlank (c : Char) : Bool := c = ' ' || c = '\t'

/-- A space, a tab or a line feed. -/
def isSpace (c : Char) : Bool := isBlank c || c = '\n'

/-- A control character that may stand nowhere. The line feed is one of them where a line may not
end. -/
def isControl (c : Char) : Bool := (c.toNat < 0x20 || c.toNat = 0x7f) && c != '\t'

/-- Passes blanks over. -/
def skipBlanks : Scan Unit := skipRun isBlank

/-- Passes a comment over, if one comes next; the line feed after it stays. -/
def skipComment : Scan Unit := do
  if ← accept "#" then
    let comment ← takeRun (· != '\n')
    if comment.any isControl then reject

/-- Passes blanks, line feeds and comments over. -/
def skipGaps : Scan Unit :=
  repeatStep (fun _ => do
    let before := (← get).length
    skipRun isSpace
    skipComment
    return if (← get).length = before then .inr () else .inl ()) ()

end Scan

end Moderation.Toml
