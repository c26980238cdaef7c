import Moderation.Config.Environment
import Moderation.Files

/-!
# `Moderation.Config.Room`: how deep the engine can go

Directories lie in directories, and tables and lists in one another. To go through all of them takes a
call within a call for each level, and there is room for so many calls and no more. How many there are
depends on the machine and on the calls that are open already, so the engine is told (`Room`). What is
nested deeper is an error.

* `Room.ofLevels` is room for a number of levels, which `overlap` and `depth` count.
-/

set_option autoImplicit false

namespace Moderation

/-! ### Levels -/

namespace Value

mutual

/-- How many lists and tables lie inside one another in a value. -/
def depth : Value → Nat
  | .list items => depthOfItems items + 1
  | .table entries => depthOfEntries entries + 1
  | _ => 0

/-- The depth of the deepest item. -/
def depthOfItems : List Value → Nat
  | [] => 0
  | item :: items => max item.depth (depthOfItems items)

/-- The depth of the deepest entry. -/
def depthOfEntries : List (String × Value) → Nat
  | [] => 0
  | (_, value) :: entries => max value.depth (depthOfEntries entries)

end

mutual

/-- How many tables lie inside one another in both of two values. -/
def overlap : (new old : Value) → Nat
  | .table new, .table old => overlapOfEntries new old + 1
  | _, _ => 0

/-- The overlap of the entries with those of the same name. -/
def overlapOfEntries : (new old : List (String × Value)) → Nat
  | [], _ => 0
  | (name, value) :: new, old =>
    max (match Entries.get? old name with
      | some previous => overlap value previous
      | none => 0) (overlapOfEntries new old)

end

end Value

/-! ### Room -/

namespace Config

/-- The room that there is for calls. -/
structure Room where
  /-- Whether there is room to look through all directories below a place. -/
  forDirectories : Files → Location → Bool
  /-- Whether there is room to put a table on top of another. -/
  forMerging : (old new : Entries Value) → Bool
  /-- Whether there is room to look for placeholders everywhere in a table. -/
  forPlaceholders : Environment → Entries Value → Bool

/-- Room for so many levels of directories, of tables to be merged, and of values. -/
def Room.ofLevels (directories tables values : Nat) : Room where
  forDirectories tree place := tree.levelsBelow place ≤ directories
  forMerging old new := Value.overlap (.table new) (.table old) ≤ tables
  forPlaceholders _ table := (Value.table table).depth ≤ values

end Config

end Moderation
