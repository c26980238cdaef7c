import Moderation.Entries
import Moderation.Number

/-!
# `Moderation.Store.Request`: what is asked of a store of counters

A store keeps whole numbers under names. All that learners persist are counters, so adding to a
number is a request of its own, which the store carries out at once. A name without a number
counts as zero.
-/

set_option autoImplicit false

namespace Moderation.Store

/-- One round trip to a store. -/
inductive Request where
  | get (key : String)
  | getMany (keys : List String)
  | set (key : String) (value : Int)
  | increment (key : String) (delta : Int)
  /-- Removes all names that begin with `scope`. -/
  | clear (scope : String)
  deriving DecidableEq, Repr

/-- What a store replies: the number, the numbers that there are, the number after the addition
and the count of the removed names, which a server may give as any number. -/
abbrev Request.Reply : Request → Type
  | get _ => Option Int
  | getMany _ => Entries Int
  | set .. => Unit
  | increment .. => Int
  | clear _ => Number

end Moderation.Store
