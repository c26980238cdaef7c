import Moderation.Store.Memory
import Moderation.Store.Program
import Moderation.Value.Conversion

/-!
# `Moderation.Store.Basic`: stores

A store answers requests and can be closed. It is given by what it does to a state `σ` that
holds the contents of all stores, so that several stores may share one content.

* `Shelf` is such a state: the contents of stores in memory, by number.
-/

set_option autoImplicit false

namespace Moderation

/-- A store of counters over the state `σ`. -/
structure Store (σ : Type) where
  /-- The number by which the store is told from others. -/
  id : Nat
  answer : (request : Store.Request) → Act σ request.Reply
  close : Act σ Unit
  /-- The numbers that the store holds. -/
  content : σ → Entries Int

namespace Store

/-- The request that sets a number to a value, which is read as a whole number. -/
def Request.setting (key : String) (value : Value) : Except Error Request :=
  (.set key ·) <$> value.toWhole

/-- The contents of the stores in memory, by number. -/
abbrev Shelf := List (Entries Int)

/-- A state that has a shelf. -/
class HasShelf (σ : Type) where
  shelf : σ → Shelf
  setShelf : Shelf → σ → σ

instance : HasShelf Shelf := ⟨fun shelf => shelf, fun shelf _ => shelf⟩

namespace Memory

variable {σ : Type} [HasShelf σ]

/-- The content of the store with the number `id`. -/
def contentOf (id : Nat) (state : σ) : Entries Int := (HasShelf.shelf state)[id]?.getD []

/-- The store in memory with the number `id`. Closing it keeps its content. -/
def store (id : Nat) : Store σ where
  id := id
  answer request := ExceptT.mk fun state =>
    let (reply, content) := answer (contentOf id state) request
    (.ok reply, HasShelf.setShelf ((HasShelf.shelf state).set id content) state)
  close := pure ()
  content := contentOf id

/-- Takes the next number of a store, under which the shelf has an empty content. -/
def takeNumber : Act σ Nat := ExceptT.mk fun state =>
  let shelf := HasShelf.shelf state
  (.ok shelf.length, HasShelf.setShelf (shelf ++ [[]]) state)

/-- Opens an empty store in memory. -/
def fresh : Act σ (Store σ) := store <$> takeNumber

end Memory

end Store

end Moderation
