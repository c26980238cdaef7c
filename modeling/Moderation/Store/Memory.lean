import Moderation.Store.Request

/-!
# `Moderation.Store.Memory`: a store in memory

The content is a table of numbers. A number that an addition brings to zero is removed, since
zero and absent mean the same to a counter; a number that is set to zero is kept.

* `get?_increment` and `get?_clear` say what the two writes do to the content.
-/

set_option autoImplicit false

namespace Moderation.Store.Memory

/-- Adds to the number under `key`, and gives the sum. -/
def increment (content : Entries Int) (key : String) (delta : Int) : Int × Entries Int :=
  let total := (content.get? key).getD 0 + delta
  (total, if total = 0 then content.erase key else content.set key total)

/-- Whether a name begins with `scope`. -/
def inScope (scope key : String) : Bool := scope.toList.isPrefixOf key.toList

/-- Removes the names that begin with `scope`. -/
def clear (content : Entries Int) (scope : String) : Entries Int :=
  content.filter (!inScope scope ·.1)

/-- The numbers under the names that have one, each name once. -/
def getMany (content : Entries Int) (keys : List String) : Entries Int :=
  Entries.ofPairs (keys.filterMap fun key => (content.get? key).map (key, ·))

/-- The reply to a request, and the content after it. -/
def answer (content : Entries Int) : (request : Request) → request.Reply × Entries Int
  | .get key => (content.get? key, content)
  | .getMany keys => (getMany content keys, content)
  | .set key value => ((), content.set key value)
  | .increment key delta => increment content key delta
  | .clear scope => (.whole (content.length - (clear content scope).length), clear content scope)

/-- An addition changes one number, whether the name stays or is removed at zero. -/
theorem get?_increment (content : Entries Int) (key : String) (delta : Int) (other : String) :
    ((increment content key delta).2.get? other).getD 0 =
      (content.get? other).getD 0 + if key = other then delta else 0 := by
  simp only [increment]
  split
  · next h => by_cases same : key = other <;> simp_all [Entries.get?_erase]
  · next h => by_cases same : key = other <;> simp_all [Entries.get?_set]

/-- Clearing a scope removes the names in it and no others. -/
theorem get?_clear (content : Entries Int) (scope other : String) :
    (clear content scope).get? other =
      if inScope scope other then none else content.get? other := by
  induction content with
  | nil => simp [clear]
  | cons head rest ih =>
    obtain ⟨k, v⟩ := head
    rw [clear] at ih
    by_cases h : inScope scope k <;> by_cases same : k = other <;>
      simp_all [clear, Entries.get?_cons]

end Moderation.Store.Memory
