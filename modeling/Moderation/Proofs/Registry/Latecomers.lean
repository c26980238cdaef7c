import Moderation.Proofs.Registry.Intents
import Moderation.Proofs.Registry.Single

/-!
# `Moderation.Proofs.Registry.Latecomers`: strategies that come into use while others are closed

A call to close takes the strategies that are in use, asks the store of each to close, one after the
other, and then takes all strategies out of use that are in use by then. While it waits for a store to
be closed, resolutions go on and may take further strategies into use. Nobody asks the stores of these
latecomers to close.

* `Doomed` are the stores that somebody has asked to close, or is going to. `Kept` is the invariant of a
  run: the store of a strategy that has come into use since a certain time is not doomed, if no call to
  close is made in the meantime (`Kept.move`, `Kept.run`).
* `Owes`: who was going to ask a store to close has asked it, or still is going to.
* `openStores_of_close`: what a call to close leaves open.
-/

set_option autoImplicit false

namespace Moderation.Registry

open Dialogue Custody

variable {σ : Type} {adapters : Adapters σ}

/-! ### The invariant of a run -/

/-- Who has a call to close under way at a place waits for something there. -/
theorem exists_waits {all : Traffic (Custody σ) Number} {place : Nat}
    (underWay : all.calls[place]?.any isClosing = true) :
    ∃ step next, all.calls[place]? = some (.close, .ask step next) := by
  -- A call that is done is not under way.
  cases h : all.calls[place]? with
  | none =>
    rw [h] at underWay
    cases underWay
  | some entry =>
    rw [h] at underWay
    obtain ⟨call, task⟩ := entry
    cases call with
    | resolve name => cases underWay
    | close =>
      cases task with
      | done result => cases underWay
      | ask step next => exact ⟨step, next, rfl⟩

/-- Somebody has asked a store to close, or is going to. The `intents` are the stores that the calls are
going to ask, by their places. -/
def Doomed (intents : Nat → List Nat) (all : Traffic (Custody σ) Number) (id : Nat) : Prop :=
  id ∈ all.desk.stores.closings ∨ ∃ place, id ∈ intents place

/-- A deed dooms no store but one that it has opened. -/
theorem Deed.doomed {intents : Nat → List Nat} {all : Traffic (Custody σ) Number} {place : Nat}
    {calls : List (Call × Task (Custody σ) Number)} {after : Desk (Custody σ) Number}
    {ids ids' : List Nat} (deed : Deed all.desk ids after ids')
    (within : ∀ id ∈ ids, id ∈ intents place) {id : Nat}
    (doomed : Doomed (Function.update intents place ids') { desk := after, calls } id) :
    Doomed intents all id
      ∨ id = all.desk.stores.opened ∧ id < after.stores.opened ∧ id ∈ ids' := by
  rcases doomed with asked | ⟨p, intended⟩
  · rcases deed.closings id asked with before | now
    · exact Or.inl (Or.inl before)
    · exact Or.inl (Or.inr ⟨place, within id now⟩)
  · -- The intents of the others are as they were.
    by_cases same : p = place
    · subst same
      rw [Function.update_self] at intended
      rcases deed.intents id intended with before | ⟨new, bound⟩
      · exact Or.inl (Or.inr ⟨p, within id before⟩)
      · exact Or.inr ⟨new, bound, intended⟩
    · rw [Function.update_of_ne same] at intended
      exact Or.inl (Or.inr ⟨p, intended⟩)

/-- What holds at every time. A strategy in use closes its store when it is closed. Unless it was in use
in the `past`, its store is not doomed. -/
structure Kept (adapters : Adapters σ) (past : String × Instance (Custody σ) Number → Prop)
    (intents : Nat → List Nat) (all : Traffic (Custody σ) Number) : Prop where
  calls : ∀ place call task, all.calls[place]? = some (call, task) →
    Intends adapters call task (intents place)
  bound : ∀ id, Doomed intents all id → id < all.desk.stores.opened
  inUse : ∀ entry ∈ all.desk.registry.instances,
    Closes entry.2.strategy.close entry.2.store.id ∧ entry.2.store.id < all.desk.stores.opened
  spared : ∀ entry ∈ all.desk.registry.instances,
    past entry ∨ ¬ Doomed intents all entry.2.store.id

/-- What calls that have been made were going to ask to close has been asked, or still is to be. -/
def Owes (intents intents' : Nat → List Nat) (before after : Traffic (Custody σ) Number) : Prop :=
  before.calls.length ≤ after.calls.length ∧ ∀ place < before.calls.length, ∀ id,
    id ∈ before.desk.stores.closings ∨ id ∈ intents place →
    id ∈ after.desk.stores.closings ∨ id ∈ intents' place

/-- Nothing happens to what is owed while nothing is done. -/
theorem Owes.refl (intents : Nat → List Nat) (all : Traffic (Custody σ) Number) :
    Owes intents intents all all := ⟨Nat.le_refl _, fun _ _ _ h => h⟩

/-- What is still owed after one stretch is owed at the beginning of the next. -/
theorem Owes.trans {intents intents' intents'' : Nat → List Nat}
    {before between after : Traffic (Custody σ) Number} (h : Owes intents intents' before between)
    (h' : Owes intents' intents'' between after) : Owes intents intents'' before after :=
  ⟨Nat.le_trans h.1 h'.1, fun place bound id owed =>
    h'.2 place (Nat.lt_of_lt_of_le bound h.1) id (h.2 place bound id owed)⟩

namespace Kept

variable {past : String × Instance (Custody σ) Number → Prop} {intents : Nat → List Nat}
  {all : Traffic (Custody σ) Number}

/-- A registry at its start has nothing in use. -/
theorem start (adapters : Adapters σ) (past : String × Instance (Custody σ) Number → Prop) (stores : σ) :
    Kept adapters past (fun _ => []) (Traffic.start (.blank stores)) where
  calls := nofun
  bound id doomed := by simp [Doomed, Traffic.start, blank] at doomed
  inUse := nofun
  spared := nofun

/-- A deed of the call at a place, which had no more intents than these. -/
theorem deed (kept : Kept adapters past intents all) {place : Nat} {call : Call}
    {task : Task (Custody σ) Number} {calls : List (Call × Task (Custody σ) Number)}
    {after : Desk (Custody σ) Number} {ids ids' : List Nat} (within : ∀ id ∈ ids, id ∈ intents place)
    (intends : Intends adapters call task ids') (deed : Deed all.desk ids after ids')
    (here : calls[place]? = some (call, task))
    (elsewhere : ∀ p, p ≠ place → calls[p]? = all.calls[p]?) :
    Kept adapters past (Function.update intents place ids') { desk := after, calls } where
  calls p other rest h := by
    by_cases same : p = place
    · subst same
      rw [here, Option.some_inj, Prod.mk.injEq] at h
      obtain ⟨rfl, rfl⟩ := h
      simpa using intends
    · rw [elsewhere p same] at h
      rw [Function.update_of_ne same]
      exact kept.calls p other rest h
  bound id doomed := by
    rcases deed.doomed within doomed with before | ⟨-, bound, -⟩
    · exact Nat.lt_of_lt_of_le (kept.bound id before) deed.opened_le
    · exact bound
  inUse entry member := by
    rcases deed.inUse entry member with before | ⟨number, bound, closes, -⟩
    · exact ⟨(kept.inUse entry before).1,
        Nat.lt_of_lt_of_le (kept.inUse entry before).2 deed.opened_le⟩
    · exact ⟨closes, number ▸ bound⟩
  spared entry member := by
    rcases deed.inUse entry member with before | ⟨number, -, -, none⟩
    · refine (kept.spared entry before).imp_right fun spared doomed => ?_
      rcases deed.doomed within doomed with already | ⟨new, -⟩
      · exact spared already
      · exact Nat.ne_of_lt (kept.inUse entry before).2 new
    · -- Its store has just been opened, so its number is beyond all that have been named.
      refine Or.inr fun doomed => ?_
      rcases deed.doomed within doomed with already | ⟨-, -, back⟩
      · exact Nat.ne_of_lt (kept.bound _ already) number
      · rw [none] at back
        exact List.not_mem_nil back

/-- Registering an analyzer neither takes a strategy into use nor dooms a store. -/
theorem register (kept : Kept adapters past intents all) (config : AnalyzerConfig) :
    Kept adapters past intents (all.register config)
      ∧ Owes intents intents all (all.register config) := by
  rcases all.register_cases config with ⟨-, same⟩ | ⟨-, replaced⟩
  · rw [same]
    exact ⟨kept, .refl intents all⟩
  · rw [replaced]
    exact ⟨⟨kept.calls, kept.bound, kept.inUse, kept.spared⟩, .refl intents all⟩

/-- Taking all strategies out of use dooms no store. -/
theorem reset (kept : Kept adapters past intents all) :
    Kept adapters past intents { all with desk := all.desk.reset }
      ∧ Owes intents intents all { all with desk := all.desk.reset } :=
  ⟨⟨kept.calls, kept.bound, fun _ h => absurd h List.not_mem_nil,
    fun _ h => absurd h List.not_mem_nil⟩, .refl intents all⟩

/-- At its turn a call does one of its deeds. -/
theorem turn (dependable : Dependable adapters) (kept : Kept adapters past intents all) (place : Nat) :
    ∃ intents', Kept adapters past intents' (all.turn place)
      ∧ Owes intents intents' all (all.turn place) := by
  rcases all.turn_cases place with same | ⟨call, step, next, reply, desk, h, served⟩
  · rw [same]
    exact ⟨intents, kept, .refl intents all⟩
  · -- The intents change at the place of the call, and nowhere else.
    obtain ⟨ids, intends, deed⟩ := (kept.calls place call _ h).turn dependable served
    rw [Traffic.turn_of_served h served]
    refine ⟨_, kept.deed (fun _ member => member) intends deed ?_ ?_, by simp, fun p _ id owed => ?_⟩
    · exact List.getElem?_set_self (List.getElem?_eq_some_iff.mp h).1
    · exact fun p hp => List.getElem?_set_ne (Ne.symm hp)
    · by_cases same : p = place
      · subst same
        rw [Function.update_self]
        exact deed.owed id owed
      · rw [Function.update_of_ne same]
        exact owed.imp_left (deed.closings_mono id)

/-- A resolution that is called waits for its lock, or has its strategy already. -/
theorem resolve (kept : Kept adapters past intents all) (name : String) :
    ∃ intents', Kept adapters past intents' (all.call (custodial adapters) (.resolve name))
      ∧ Owes intents intents' all (all.call (custodial adapters) (.resolve name)) := by
  let went := Desk.goOn all.calls.length ((Call.resolve name).task (custodial adapters)) all.desk
  -- A resolution that does not end at once waits for the lock: nothing is opened yet.
  have waits : Intends adapters (.resolve name) went.1 [] ∧ went.2 = all.desk := by
    unfold went
    cases registered : all.desk.registry.configs.get? name with
    | none =>
      rw [goOn_resolve]
      simp only [registered]
      exact ⟨.over, rfl⟩
    | some config =>
      cases inUse : all.desk.registry.instances.get? name with
      | some inst =>
        rw [goOn_resolve]
        simp only [registered, inUse]
        exact ⟨.over, rfl⟩
      | none =>
        rw [goOn_resolve_of_unused registered inUse]
        exact ⟨.queued, rfl⟩
  have deed : Deed all.desk [] (went.2.noteResult (.resolve name) went.1) [] := by
    rw [waits.2]
    exact (Deed.nothing rfl rfl rfl).noteResult _ _
  refine ⟨_, kept.deed (fun _ h => absurd h List.not_mem_nil) waits.1 deed ?_
    (fun p hp => getElem?_concat_of_ne _ _ hp), by simp [Traffic.call], ?_⟩
  · exact List.getElem?_concat_length
  · intro p bound id owed
    rw [Function.update_of_ne (Nat.ne_of_lt bound)]
    exact owed.imp_left (deed.closings_mono id)

/-- A call to close intends to close what is in use. -/
theorem close (kept : Kept adapters past intents all)
    (old : ∀ entry ∈ all.desk.registry.instances, past entry) :
    let intents' := Function.update intents all.calls.length
      (all.desk.registry.instances.map (·.2.store.id))
    Kept adapters past intents' (all.call (custodial adapters) .close)
      ∧ Owes intents intents' all (all.call (custodial adapters) .close) := by
  intro intents'
  let insts := all.desk.registry.instances.map (·.2)
  let went := Desk.goOn all.calls.length (closing insts) all.desk
  have called : all.call (custodial adapters) .close
      = { desk := went.2.noteResult .close went.1, calls := all.calls ++ [(.close, went.1)] } := rfl
  have here : intents' all.calls.length = insts.map (·.store.id) := by simp [intents', insts]
  have elsewhere (p : Nat) (hp : p ≠ all.calls.length) : intents' p = intents p :=
    Function.update_of_ne hp ..
  have intends : Intends adapters .close went.1 (intents' all.calls.length) := by
    rw [here]
    exact intends_closing (List.forall_mem_map.mpr fun entry member => (kept.inUse entry member).1)
  obtain ⟨stores, instances⟩ := desk_goOn_closing all.calls.length all.desk insts
  rw [← Desk.stores_noteResult _ .close went.1] at stores
  rw [← Desk.registry_noteResult _ .close went.1] at instances
  rw [called]
  -- The calls made before have their intents, and this one has those of the strategies in use. All
  -- of them are strategies of the past.
  refine ⟨⟨fun p other rest h => ?_, fun id doomed => ?_, fun entry member => ?_,
    fun entry member => Or.inl (old entry (instances entry member))⟩, by simp, fun p bound id owed => ?_⟩
  · by_cases same : p = all.calls.length
    · subst same
      rw [List.getElem?_concat_length, Option.some_inj, Prod.mk.injEq] at h
      obtain ⟨rfl, rfl⟩ := h
      exact intends
    · rw [getElem?_concat_of_ne _ _ same] at h
      rw [elsewhere p same]
      exact kept.calls p other rest h
  · rw [Doomed, stores] at doomed
    rw [stores]
    rcases doomed with asked | ⟨p, intended⟩
    · exact kept.bound id (Or.inl asked)
    · by_cases same : p = all.calls.length
      · rw [same, here, List.map_map, List.mem_map] at intended
        obtain ⟨entry, inUse, rfl⟩ := intended
        exact (kept.inUse entry inUse).2
      · rw [elsewhere p same] at intended
        exact kept.bound id (Or.inr ⟨p, intended⟩)
  · rw [stores]
    exact kept.inUse entry (instances entry member)
  · rw [stores, elsewhere p (Nat.ne_of_lt bound)]
    exact owed

/-- Whatever comes next, except for a call to close what has come into use since. -/
theorem move (dependable : Dependable adapters) (kept : Kept adapters past intents all) (next : Move)
    (calm : next = .call .close → ∀ entry, past entry) :
    ∃ intents', Kept adapters past intents' (all.move (custodial adapters) next)
      ∧ Owes intents intents' all (all.move (custodial adapters) next) := by
  cases next with
  | register config => exact ⟨intents, kept.register config⟩
  | reset => exact ⟨intents, kept.reset⟩
  | turn place => exact kept.turn dependable place
  | call call =>
    cases call with
    | resolve name => exact kept.resolve name
    | close => exact ⟨_, kept.close fun entry _ => calm rfl entry⟩

/-- By induction on the moves. The intents change with each of them. -/
theorem run (dependable : Dependable adapters) (kept : Kept adapters past intents all)
    (moves : List Move) (calm : .call .close ∈ moves → ∀ entry, past entry) :
    ∃ intents', Kept adapters past intents' (all.run (custodial adapters) moves)
      ∧ Owes intents intents' all (all.run (custodial adapters) moves) := by
  induction moves generalizing all intents with
  | nil => exact ⟨intents, kept, .refl intents all⟩
  | cons next moves ih =>
    obtain ⟨_, kept', owes⟩ := kept.move dependable next fun same =>
      calm (same ▸ List.mem_cons_self)
    obtain ⟨_, kept'', owes'⟩ := ih kept' fun member => calm (List.mem_cons_of_mem _ member)
    exact ⟨_, kept'', owes.trans owes'⟩

/-- The turn at which a call to close ends is that of the last store that it was going to ask to close.
Then everything is out of use. -/
theorem turn_of_ended (kept : Kept adapters past intents all) {place : Nat}
    (underWay : all.calls[place]?.any isClosing = true)
    (ended : (all.turn place).calls[place]?.any isClosing = false) :
    (all.turn place).calls[place]? = some (.close, .done (.ok none))
      ∧ (all.turn place).desk.registry.instances = []
      ∧ (all.turn place).desk.stores.opened = all.desk.stores.opened
      ∧ (all.turn place).desk.stores.closings = all.desk.stores.closings ++ intents place := by
  obtain ⟨step, next, waits⟩ := exists_waits underWay
  have intends := kept.calls place .close _ waits
  generalize intents place = ids at intends ⊢
  cases intends with
  | @closing inst rest closes =>
    rw [List.forall_mem_cons] at closes
    obtain ⟨reply, stores, outage, asked⟩ := closes.1 all.desk.stores
    let served : Desk (Custody σ) Number := { all.desk with stores := { all.desk.stores with
      stores, closings := all.desk.stores.closings ++ [inst.store.id] } }
    have answered : all.desk.serve place (.close inst.strategy.close) = some (reply, served) := by
      simp only [Desk.serve, asked]
      rfl
    have bound := (List.getElem?_eq_some_iff.mp waits).1
    rw [Traffic.turn_of_served waits answered, closed_of_isOutage outage, goOn_closing] at ended ⊢
    cases rest with
    | nil => exact ⟨List.getElem?_set_self bound, rfl, rfl, rfl⟩
    | cons other rest =>
      -- The call waits for the next store then, so it has not ended.
      rw [List.getElem?_set_self bound] at ended
      cases ended

end Kept

/-! ### What a call to close leaves open -/

/-- A store is open if it was opened and nobody has asked it to close. -/
theorem mem_openStores {custody : Custody σ} {id : Nat} :
    id ∈ custody.openStores ↔ id < custody.opened ∧ id ∉ custody.closings := by
  simp [openStores]

/-- A call to close that has to wait, whatever else happens before it and meanwhile, is not refused. When
it ends, the stores of all strategies have been asked to close that were in use when it was made, and
nothing is in use any more. Of the strategies that it takes out of use, the stores of those are open that
were not in use when it was made. -/
theorem openStores_of_close (dependable : Dependable adapters) (stores : σ) (earlier later : List Move)
    (alone : .call .close ∉ later) :
    let before := (Traffic.start (.blank stores)).run (custodial adapters) earlier
    let place := before.calls.length
    let during := (before.call (custodial adapters) .close).run (custodial adapters) later
    let after := during.turn place
    during.calls[place]?.any isClosing = true → after.calls[place]?.any isClosing = false →
      after.calls[place]? = some (.close, .done (.ok none)) ∧ after.desk.registry.instances = []
        ∧ (∀ entry ∈ before.desk.registry.instances,
          entry.2.store.id ∈ after.desk.stores.closings)
        ∧ ∀ entry ∈ during.desk.registry.instances,
          (entry.2.store.id ∈ after.desk.stores.openStores
            ↔ entry ∉ before.desk.registry.instances) := by
  intro before place during after underWay ended
  -- Up to the call anything may be closed. The time to look back to is that of the call.
  obtain ⟨intents, kept, -⟩ := (Kept.start adapters (fun _ => True) stores).run dependable earlier
    fun _ _ => trivial
  have marked : Kept adapters (· ∈ before.desk.registry.instances) intents before :=
    { kept with spared := fun entry member => Or.inl member }
  obtain ⟨called, -⟩ := marked.close fun _ member => member
  obtain ⟨intents', kept', -, owes⟩ := called.run dependable later fun member => absurd member alone
  obtain ⟨ok, none, opened, closings⟩ := kept'.turn_of_ended underWay ended
  have made : (before.call (custodial adapters) .close).calls.length = place + 1 := by
    simp [Traffic.call, place]
  have closed : ∀ entry ∈ before.desk.registry.instances,
      entry.2.store.id ∈ after.desk.stores.closings := by
    intro entry member
    rw [closings, List.mem_append]
    refine owes place (by omega) _ (Or.inr ?_)
    rw [Function.update_self]
    exact List.mem_map_of_mem member
  refine ⟨ok, none, closed, fun entry member => ?_⟩
  rw [mem_openStores]
  constructor
  · rintro ⟨-, unasked⟩ old
    exact unasked (closed entry old)
  · intro new
    -- A latecomer is not doomed, so it is not among the intents of the call either.
    have spared := (kept'.spared entry member).resolve_left new
    refine ⟨Nat.lt_of_lt_of_eq (kept'.inUse entry member).2 opened.symm, ?_⟩
    rw [closings, List.mem_append]
    exact fun asked => spared (asked.imp_right fun intended => ⟨place, intended⟩)

/-- An analyzer beside `mail`. -/
def post : AnalyzerConfig := { mail with name := "post" }

/-- The strategy of one of them comes into use. -/
def earlierMoves : List Move :=
  [.register mail, .register post, .call (.resolve "mail"), .turn 0, .turn 0]

/-- The strategy of the other comes into use. -/
def laterMoves : List Move := [.call (.resolve "post"), .turn 2, .turn 2]

/-- Before a call to close. -/
def early : Traffic (Custody Store.Shelf) Number :=
  (Traffic.start (.blank [])).run (custodial shelved) earlierMoves

/-- While the call waits for the store of `mail` to be closed. -/
def meanwhile : Traffic (Custody Store.Shelf) Number :=
  (early.call (custodial shelved) .close).run (custodial shelved) laterMoves

/-- When it ends, the store of a strategy is open if and only if the strategy was not in use before. -/
theorem openStores_of_close_meanwhile :
    .call .close ∉ laterMoves ∧ meanwhile.calls[early.calls.length]?.any isClosing = true
      ∧ (meanwhile.turn early.calls.length).calls[early.calls.length]?.any isClosing = false
      ∧ ∀ entry ∈ meanwhile.desk.registry.instances,
        (entry.2.store.id ∈ (meanwhile.turn early.calls.length).desk.stores.openStores
          ↔ entry ∉ early.desk.registry.instances) := by
  have alone : .call .close ∉ laterMoves := by simp [laterMoves]
  have underWay : meanwhile.calls[early.calls.length]?.any isClosing = true := by decide +kernel
  have ended : (meanwhile.turn early.calls.length).calls[early.calls.length]?.any isClosing = false := by
    decide +kernel
  exact ⟨alone, underWay, ended, (openStores_of_close dependable_shelved [] earlierMoves laterMoves
    alone underWay ended).2.2.2⟩

/-- The call to close has ended, nothing is in use any more, and the store of `post` is open. -/
theorem latecomer_meanwhile :
    (meanwhile.turn early.calls.length).calls[early.calls.length]?.any isClosing = false
      ∧ (meanwhile.turn early.calls.length).desk.registry.instances.keys = []
      ∧ meanwhile.desk.registry.instances.map (fun entry => (entry.1, entry.2.store.id))
        = [("mail", 0), ("post", 1)]
      ∧ (meanwhile.turn early.calls.length).desk.stores.openStores = [1] := by
  decide +kernel

end Moderation.Registry
