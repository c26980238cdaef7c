import Moderation.Text.Case
import Moderation.Value.Conversion

/-!
# `Moderation.Logging.Level`: how severe a record is

A logger lets a record pass if the record is at least as severe as the level of the logger. Levels
go by names, in any case of their letters, two of which are shorter or older forms of another.

* `Level.ofValue?` reads a level; `Level.number` orders the levels.
-/

set_option autoImplicit false

namespace Moderation.Logging

/-- A level; `unset` stands for that of the logger above. -/
inductive Level where
  | unset
  | debug
  | info
  | warning
  | error
  | critical
  deriving DecidableEq, Repr

namespace Level

/-- The number of a level, which is larger for what is more severe. -/
def number : Level → Nat
  | unset => 0
  | debug => 10
  | info => 20
  | warning => 30
  | error => 40
  | critical => 50

/-- The level with an upper-case name. -/
def ofName? : String → Option Level
  | "NOTSET" => some unset
  | "DEBUG" => some debug
  | "INFO" => some info
  | "WARNING" | "WARN" => some warning
  | "ERROR" => some error
  | "CRITICAL" | "FATAL" => some critical
  | _ => none

/-- The level that a value names, if it names one. -/
def ofValue? (name : Value) : Except Error (Option Level) := do
  return ofName? (Text.raised (← name.toDisplay))

end Level

end Moderation.Logging
