import Moderation.Proofs.Store.Watched

/-!
# `Moderation.Proofs.Store.Blackout`: stores that cannot be reached for a while

Stores in memory, some of which cannot be reached. A store that cannot be reached refuses to open, or
opens and then fails at every request without doing anything. Which stores these are does not change
during an operation, only from one to the next.

A store goes by its number on the shelf, and each opening is that of a new store, also when it is
refused. So every pattern of outages is the pattern of some sets of numbers.

* `honours_up`: a store that can be reached is a store in memory.
* `honours_down`: one that cannot is on the terms on which every request fails.
-/

set_option autoImplicit false

namespace Moderation.Store

/-- The terms of a store that fails at every request, with one error. -/
def Terms.cut (outage : Error) : Terms where
  admits _ := True
  serves _ := False
  fails _ e := e = outage

/-- Stores in memory, some of which cannot be reached. -/
structure Blackout where
  /-- The contents of the stores. -/
  shelf : Shelf
  /-- The stores that refuse to open. -/
  refuses : Nat → Bool
  /-- The stores that fail at every request. -/
  down : Nat → Bool

namespace Blackout

instance : HasShelf Blackout where
  shelf := Blackout.shelf
  setShelf shelf world := { world with shelf }

/-- What is said about a store that cannot be reached. -/
def outage : Error := .storeUnavailable (.stated "out of reach")

/-- The store with a number. -/
def store (id : Nat) : Store Blackout where
  id := id
  answer request := do
    if (← get).down id then throw outage
    (Memory.store id).answer request
  close := pure ()
  content := Memory.contentOf id

/-- Opens an empty store under the next number. -/
def openStore : Act Blackout (Store Blackout) := do
  let id ← Memory.takeNumber
  if (← get).refuses id then throw outage
  return store id

variable {world : Blackout}

/-- A store that refuses to open takes a place on the shelf all the same. -/
theorem outcome_openStore (world : Blackout) :
    openStore.outcome world
      = (if world.refuses world.shelf.length then .error outage else .ok (store world.shelf.length),
        { world with shelf := world.shelf ++ [[]] }) := by
  show (if world.refuses world.shelf.length = true then (throw outage : Act Blackout (Store Blackout))
    else pure (store world.shelf.length)).outcome { world with shelf := world.shelf ++ [[]] } = _
  split <;> rfl

/-- A store that cannot be reached says so and changes nothing. Another one answers as a store in
memory does. -/
theorem outcome_answer (id : Nat) (r : Request) (world : Blackout) :
    ((store id).answer r).outcome world
      = if world.down id then (.error outage, world)
        else (.ok (Memory.answer (Memory.contentOf id world) r).1, { world with
          shelf := world.shelf.set id (Memory.answer (Memory.contentOf id world) r).2 }) := by
  show (do if world.down id = true then throw outage
           (Memory.store id).answer r : Act Blackout r.Reply).outcome world = _
  split <;> rfl

/-- A store that can be reached honours the terms of a store that never fails. It shows its content on
the shelf, the other contents being as they were. -/
theorem honours_up {id : Nat} (h : id < world.shelf.length) (up : world.down id = false) :
    Honours .orderly (store id).answer fun state content =>
      state = { world with shelf := world.shelf.set id content } where
  answers r state content _ shown := by
    subst shown
    have shows : Memory.contentOf id { world with shelf := world.shelf.set id content } = content :=
      Memory.contentOf_set h content
    rw [outcome_answer, up, shows]
    refine Or.inl ⟨trivial, rfl, ?_⟩
    simp

/-- A store that cannot be reached honours the terms on which every request fails, and nothing
changes. -/
theorem honours_down {id : Nat} (down : world.down id = true) :
    Honours (.cut outage) (store id).answer fun state _ => state = world where
  answers r state _ _ shown := by
    subst shown
    rw [outcome_answer, down]
    exact Or.inr ⟨outage, rfl, rfl, rfl⟩

end Blackout

end Moderation.Store
