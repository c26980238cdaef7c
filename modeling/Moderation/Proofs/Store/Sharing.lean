import Mathlib.Data.List.Basic
import Mathlib.Logic.Function.Basic
import Moderation.Proofs.Store.Exclusion
import Moderation.Proofs.Store.Watched

/-!
# `Moderation.Proofs.Store.Sharing`: owners that share a store

Several owners keep their numbers in one store, each under names that begin with a text of its own.
Here is what they notice of each other.

A request is `Within` the text of its owner if it is about such names only. Then its reply depends on
the owner's `part` of the content, and nothing else changes (`Memory.answer_part`,
`Memory.part_answer_of_disjoint`). So a request within one text leaves the parts of all texts that no
name has in common with it.

`Shared` is a store with a lock for each owner, on which programs take their steps in any order. The
main statement is `tasks_run_eq_own`: if no name begins with an owner's text and with that of another,
then at every time the programs of that owner stand where they would stand had nobody else taken a
step. It compares two runs, so its invariant `SamePart` is a relation: a step of the owner is taken in
both runs, a step of another in the first only.
-/

set_option autoImplicit false

namespace Moderation

variable {β γ : Type}

/-! ### Entries under some names -/

namespace Entries

variable {among : String → Bool} {key : String}

/-- A look-up under a name that is kept does not see which others are left out. -/
theorem get?_filter (h : among key = true) (entries : Entries β) :
    get? (entries.filter (among ·.1)) key = entries.get? key := by
  induction entries with
  | nil => rfl
  | cons head rest ih =>
    obtain ⟨k, v⟩ := head
    by_cases hk : among k = true
    · simp [get?_cons, hk, ih]
    · -- An entry that is left out has another name.
      have other : k ≠ key := by
        rintro rfl
        exact hk h
      simp [get?_cons, hk, other, ih]

/-- Setting a number under a name that is kept, before or after the others are left out. -/
theorem filter_set_of_pos (h : among key = true) (entries : Entries β) (value : β) :
    (entries.set key value).filter (among ·.1) = set (entries.filter (among ·.1)) key value := by
  -- A value is set where its name is found, so the induction follows the entries up to there.
  induction entries with
  | nil => simp [set, h]
  | cons head rest ih =>
    obtain ⟨k, v⟩ := head
    by_cases same : k = key
    · subst same
      simp [set, h]
    · by_cases hk : among k = true <;> simp [set, same, hk, ih]

/-- A number that is set under a name that is left out does not show. -/
theorem filter_set_of_neg (h : among key = false) (entries : Entries β) (value : β) :
    (entries.set key value).filter (among ·.1) = entries.filter (among ·.1) := by
  induction entries with
  | nil => simp [set, h]
  | cons head rest ih =>
    obtain ⟨k, v⟩ := head
    by_cases same : k = key
    · subst same
      simp [set, h]
    · by_cases hk : among k = true <;> simp [set, same, hk, ih]

/-- Removing a name and leaving names out can change places. -/
theorem filter_erase (among : String → Bool) (entries : Entries β) (key : String) :
    (entries.erase key).filter (among ·.1) = erase (entries.filter (among ·.1)) key := by
  unfold erase
  rw [List.filter_filter, List.filter_filter]
  exact List.filter_congr fun entry _ => Bool.and_comm ..

/-- A name that is left out need not be removed. -/
theorem erase_filter_of_neg (h : among key = false) (entries : Entries β) :
    erase (entries.filter (among ·.1)) key = entries.filter (among ·.1) := by
  refine List.filter_eq_self.mpr fun entry hentry => ?_
  have kept := (List.mem_filter.mp hentry).2
  by_contra same
  rw [bne_iff_ne, not_not] at same
  rw [same, h] at kept
  cases kept

end Entries

namespace Store

/-! ### Requests about names of one kind -/

/-- Whether a request is about names that begin with `start`, and about no others. -/
def Request.Within (start : String) : Request → Prop
  | .get key => Memory.inScope start key = true
  | .getMany keys => ∀ key ∈ keys, Memory.inScope start key = true
  | .set key _ => Memory.inScope start key = true
  | .increment key _ => Memory.inScope start key = true
  | .clear scope => scope = start

namespace Memory

variable {start other : String}

/-- What a content holds under the names that begin with `start`. -/
def part (start : String) (content : Entries Int) : Entries Int :=
  content.filter (inScope start ·.1)

/-- Names of a part are looked up in the part. -/
theorem get?_part {key : String} (h : inScope start key = true) (content : Entries Int) :
    (part start content).get? key = content.get? key :=
  Entries.get?_filter h content

/-- Several names of a part are looked up in the part. -/
theorem getMany_part {keys : List String} (h : ∀ key ∈ keys, inScope start key = true)
    (content : Entries Int) : getMany (part start content) keys = getMany content keys := by
  unfold getMany
  congr 1
  refine List.filterMap_congr fun key hkey => ?_
  rw [get?_part (h key hkey)]

/-- A number of a part is added to within the part, and removed from it at zero. -/
theorem part_increment {key : String} (h : inScope start key = true) (content : Entries Int)
    (delta : Int) :
    increment (part start content) key delta
      = ((increment content key delta).1, part start (increment content key delta).2) := by
  unfold increment
  rw [get?_part h]
  dsimp only
  split
  · rw [part, part, Entries.filter_erase]
  · rw [part, part, Entries.filter_set_of_pos h]

/-- Removing all names of a part counts what was in it, and leaves nothing of it. -/
theorem part_clear (start : String) (content : Entries Int) :
    (((part start content).length : Int) - (clear (part start content) start).length,
        clear (part start content) start)
      = ((content.length : Int) - (clear content start).length, part start (clear content start)) := by
  have none (entries : Entries Int) : clear (part start entries) start = [] := by
    refine List.filter_eq_nil_iff.mpr fun entry hentry => ?_
    simpa using (List.mem_filter.mp hentry).2
  have nothing : part start (clear content start) = [] := by
    rw [← none content, part, clear, clear, part, List.filter_filter, List.filter_filter]
    exact List.filter_congr fun entry _ => Bool.and_comm ..
  -- The entries in the scope and those outside make up the content.
  have count := List.length_eq_length_filter_add (l := content) (inScope start ·.1)
  rw [none, nothing, Prod.mk.injEq]
  refine ⟨?_, rfl⟩
  show ((content.filter (inScope start ·.1)).length : Int) - ((0 : Nat) : Int)
    = content.length - ((content.filter (!inScope start ·.1)).length : Int)
  omega

/-- A request about names of a part is answered from that part. -/
theorem answer_part {r : Request} (h : r.Within start) (content : Entries Int) :
    answer (part start content) r = ((answer content r).1, part start (answer content r).2) := by
  -- Each request reads and writes under its own names, and these are in the part.
  cases r with
  | get key =>
    show (_, _) = _
    rw [get?_part h]
    rfl
  | getMany keys =>
    show (_, _) = _
    rw [getMany_part h]
    rfl
  | set key value => exact congrArg (Prod.mk ()) (Entries.filter_set_of_pos h content value).symm
  | increment key delta => exact part_increment h content delta
  | clear scope =>
    obtain rfl : scope = start := h
    obtain ⟨count, left⟩ := Prod.mk.inj (part_clear scope content)
    exact Prod.ext (congrArg Number.whole count) left

/-- No name begins with both of two texts. -/
def Disjoint (start other : String) : Prop :=
  ∀ key, inScope other key = true → inScope start key = false

/-- A request leaves the parts whose names it is not about. -/
theorem part_answer_of_disjoint {r : Request} (h : r.Within other)
    (disjoint : Disjoint start other) (content : Entries Int) :
    part start (answer content r).2 = part start content := by
  -- What a request writes or removes has a name of the other text.
  cases r with
  | get key => rfl
  | getMany keys => rfl
  | set key value => exact Entries.filter_set_of_neg (disjoint key h) content value
  | increment key delta =>
    show part start (increment content key delta).2 = _
    unfold increment
    dsimp only
    split
    · rw [part, part, Entries.filter_erase, Entries.erase_filter_of_neg (disjoint key h)]
    · exact Entries.filter_set_of_neg (disjoint key h) content _
  | clear scope =>
    obtain rfl : scope = other := h
    show (content.filter (!inScope scope ·.1)).filter (inScope start ·.1) = _
    rw [List.filter_filter]
    refine List.filter_congr fun entry _ => ?_
    cases hscope : inScope scope entry.1 with
    | true => simp [disjoint entry.1 hscope]
    | false => simp

end Memory

/-! ### Programs about names of one kind -/

/-- Whether the requests of a step are about names that begin with `start`. -/
def Step.Within (start : String) : Step → Prop
  | .request r => r.Within start
  | .lock => True
  | .unlock => True

/-- A computation all of whose requests are about names that begin with `start`, whatever the
replies. -/
inductive Dialogue.Within (start : String) : Dialogue Step Step.Answer β → Prop where
  | done (x : β) : Within start (.done x)
  | ask {step : Step} {next : step.Answer → Dialogue Step Step.Answer β} (h : step.Within start)
      (hnext : ∀ reply, Within start (next reply)) : Within start (.ask step next)

/-- Computations about the names of one owner compose. -/
theorem Dialogue.Within.bind {start : String} {d : Dialogue Step Step.Answer β}
    {f : β → Dialogue Step Step.Answer γ} (h : Within start d) (hf : ∀ x, Within start (f x)) :
    Within start (d >>= f) := by
  induction h with
  | done x => exact hf x
  | ask h _ ih => exact .ask h ih

namespace Program

variable {start : String}

/-- A program all of whose requests are about names that begin with `start`. -/
def Within (start : String) (program : Program β) : Prop :=
  Dialogue.Within start (ExceptT.run program)

/-- A program that is done is about no names. -/
theorem within_pure (x : β) : (pure x : Program β).Within start :=
  Dialogue.Within.done (Except.ok x)

/-- A program without requests is about no names. -/
theorem within_ofExcept (result : Except Error β) : (ofExcept result).Within start := .done result

/-- A program of one request is about the names of the request. -/
theorem within_ask {r : Request} (h : r.Within start) : (ask r).Within start := .ask h .done

/-- A look-up is about its name. -/
theorem within_get {key : String} (h : Memory.inScope start key = true) :
    (get key).Within start := within_ask h

/-- A look-up of several names is about these. -/
theorem within_getMany {keys : List String} (h : ∀ key ∈ keys, Memory.inScope start key = true) :
    (getMany keys).Within start := within_ask h

/-- Setting a number is about its name. -/
theorem within_set {key : String} (h : Memory.inScope start key = true) (value : Int) :
    (set key value).Within start := within_ask h

/-- An addition is about its name. -/
theorem within_increment {key : String} (h : Memory.inScope start key = true) (delta : Int) :
    (increment key delta).Within start := within_ask h

/-- Clearing a scope is about the names in it. -/
theorem within_clear (start : String) : (clear start).Within start := within_ask rfl

/-- Programs about the names of one owner compose. -/
theorem Within.bind {program : Program β} {f : β → Program γ} (h : program.Within start)
    (hf : ∀ x, (f x).Within start) : (program >>= f).Within start := by
  rw [Within, ExceptT.run_bind]
  refine Dialogue.Within.bind h fun result => ?_
  -- An error ends the program without a request.
  cases result with
  | ok x => exact hf x
  | error e => exact within_ofExcept (.error e)

/-- The lock is nobody's name, so a program may take it. -/
theorem Within.exclusively {program : Program β} (h : program.Within start) :
    (exclusively program).Within start := by
  have locked : ExceptT.run (Program.exclusively program) = Dialogue.ask Step.lock fun _ =>
      ExceptT.run program >>= fun result => Dialogue.ask Step.unlock fun _ => .done result := rfl
  rw [Within, locked]
  refine .ask trivial fun _ => Dialogue.Within.bind h fun result => ?_
  exact .ask trivial fun _ => .done result

end Program

/-! ### A store with several owners -/

open Moderation.Dialogue

/-- A store that several owners share, each with a lock of its own. -/
structure Shared (ι σ : Type) where
  store : σ
  /-- Who holds the lock of each owner. -/
  holder : ι → Option Nat

variable {ι σ : Type}

/-- Answers a step of the program at a place. It may have to wait for the lock of its owner. -/
def Shared.serve [DecidableEq ι] (answer : (r : Request) → Act σ r.Reply) (owner : Nat → ι) :
    Host Step Step.Answer (Shared ι σ)
  | _, .request r, shared =>
    let (reply, store) := (answer r).outcome shared.store
    some (reply, { shared with store })
  | place, .lock, shared =>
    match shared.holder (owner place) with
    | none =>
      some ((), { shared with holder := Function.update shared.holder (owner place) (some place) })
    | some _ => none
  | place, .unlock, shared =>
    some ((), { shared with holder := Function.update shared.holder (owner place) none })

/-- A store in memory is always ready to answer. -/
theorem Shared.serve_request [DecidableEq ι] (owner : Nat → ι) (id place : Nat) (r : Request)
    (shared : Shared ι Shelf) :
    Shared.serve (Memory.store id).answer owner place (.request r) shared
      = some (.ok (Memory.answer (Memory.contentOf id shared.store) r).1,
          { shared with
            store := shared.store.set id (Memory.answer (Memory.contentOf id shared.store) r).2 }) :=
  rfl

/-- Programs that have not begun, and a store all of whose locks are free. -/
def side (ι : Type) (programs : List (Dialogue Step Step.Answer β)) (store : σ) :
    Interleaving Step Step.Answer β (Shared ι σ) :=
  { state := { store, holder := fun _ => none }, tasks := programs }

section Invariant

variable {owner : Nat → ι} {mine : ι} {starts : ι → String} {id : Nat}
  {all alone : Interleaving Step Step.Answer β (Shared ι Shelf)}

/-- Every program is about the names of its owner. -/
def Separate (owner : Nat → ι) (starts : ι → String)
    (all : Interleaving Step Step.Answer β (Shared ι Shelf)) : Prop :=
  ∀ place task, all.tasks[place]? = some task → Dialogue.Within (starts (owner place)) task

/-- In two states the programs of one owner stand alike, and find its lock and its part of the
content alike. -/
structure SamePart (owner : Nat → ι) (mine : ι) (start : String) (id : Nat)
    (all alone : Interleaving Step Step.Answer β (Shared ι Shelf)) : Prop where
  tasks : ∀ place, owner place = mine → all.tasks[place]? = alone.tasks[place]?
  holder : all.state.holder mine = alone.state.holder mine
  part : Memory.part start (Memory.contentOf id all.state.store)
    = Memory.part start (Memory.contentOf id alone.state.store)
  bound : id < all.state.store.length
  bound' : id < alone.state.store.length

/-- A program that goes on in both runs, from states that are alike. -/
theorem SamePart.set {start : String} (same : SamePart owner mine start id all alone) (place : Nat)
    (task : Dialogue Step Step.Answer β) {state state' : Shared ι Shelf}
    (holder : state.holder mine = state'.holder mine)
    (part : Memory.part start (Memory.contentOf id state.store)
      = Memory.part start (Memory.contentOf id state'.store))
    (bound : id < state.store.length) (bound' : id < state'.store.length) :
    SamePart owner mine start id { state, tasks := all.tasks.set place task }
      { state := state', tasks := alone.tasks.set place task } where
  tasks other own := by
    have before := same.tasks other own
    -- The program goes on alike in both runs, and the others stand as they did.
    by_cases here : place = other
    · subst here
      rw [List.getElem?_set_self', List.getElem?_set_self', before]
    · rw [List.getElem?_set_ne here, List.getElem?_set_ne here, before]
  holder := holder
  part := part
  bound := bound
  bound' := bound'

/-- A step of the owner, taken in both runs: it asks the same and is answered the same. -/
theorem SamePart.advance_own [DecidableEq ι] (same : SamePart owner mine (starts mine) id all alone)
    (separate : Separate owner starts all) {place : Nat} (own : owner place = mine) :
    SamePart owner mine (starts mine) id
      (all.advance (Shared.serve (Memory.store id).answer owner) place)
      (alone.advance (Shared.serve (Memory.store id).answer owner) place) := by
  have task := same.tasks place own
  unfold Interleaving.advance
  rw [← task]
  -- The program stands alike in both runs, so both do the same: nothing, if there is no program
  -- here or if it is done, and one step otherwise.
  cases htask : all.tasks[place]? with
  | none => exact same
  | some d =>
    cases d with
    | done x => exact same
    | ask step next =>
      cases separate place _ htask with
      | ask within _ =>
        cases step with
        | request r =>
          rw [own] at within
          have answered := Memory.answer_part within (Memory.contentOf id all.state.store)
          rw [same.part, Memory.answer_part within, Prod.mk.injEq] at answered
          obtain ⟨reply, changed⟩ := answered
          dsimp only
          rw [Shared.serve_request, Shared.serve_request, reply]
          refine same.set place _ same.holder ?_ ?_ ?_
          · rw [Memory.contentOf_set same.bound, Memory.contentOf_set same.bound']
            exact changed.symm
          · simpa using same.bound
          · simpa using same.bound'
        | lock =>
          dsimp only [Shared.serve]
          rw [own, same.holder]
          cases alone.state.holder mine with
          | some _ => exact same
          | none => exact same.set place _ (by simp) same.part same.bound same.bound'
        | unlock =>
          exact same.set place _ (by simp [own]) same.part same.bound same.bound'

/-- A step of another owner, taken in the first run only. -/
theorem SamePart.advance_other [DecidableEq ι] (same : SamePart owner mine (starts mine) id all alone)
    (separate : Separate owner starts all) {place : Nat} (other : owner place ≠ mine)
    (disjoint : Memory.Disjoint (starts mine) (starts (owner place))) :
    SamePart owner mine (starts mine) id
      (all.advance (Shared.serve (Memory.store id).answer owner) place) alone := by
  -- The programs of the owner stand elsewhere, so what they are about to do is as before.
  have elsewhere (task : Dialogue Step Step.Answer β) :
      ∀ p, owner p = mine → (all.tasks.set place task)[p]? = alone.tasks[p]? := by
    intro p own
    have here : place ≠ p := by
      rintro rfl
      exact other own
    rw [List.getElem?_set_ne here]
    exact same.tasks p own
  rcases all.advance_cases (Shared.serve (Memory.store id).answer owner) place with
    idle | ⟨step, next, reply, state, htask, served, turned⟩
  · rw [idle]
    exact same
  rw [turned]
  -- The lock that is taken or given back is that of the other owner, and a request changes another
  -- part.
  cases separate place _ htask with
  | ask within _ =>
    cases step with
    | request r =>
      rw [Shared.serve_request, Option.some_inj, Prod.mk.injEq] at served
      obtain ⟨rfl, rfl⟩ := served
      refine ⟨elsewhere _, same.holder, ?_, ?_, same.bound'⟩
      · rw [Memory.contentOf_set same.bound, ← same.part]
        exact Memory.part_answer_of_disjoint within disjoint _
      · simpa using same.bound
    | lock =>
      dsimp only [Shared.serve] at served
      split at served
      · cases served
        refine ⟨elsewhere _, ?_, same.part, same.bound, same.bound'⟩
        rw [← same.holder]
        exact Function.update_of_ne (Ne.symm other) _ _
      · cases served
    | unlock =>
      cases served
      refine ⟨elsewhere _, ?_, same.part, same.bound, same.bound'⟩
      rw [← same.holder]
      exact Function.update_of_ne (Ne.symm other) _ _

/-- Every program stays with the names of its owner, whatever it is answered. -/
theorem Separate.advance [DecidableEq ι] (separate : Separate owner starts all) (place : Nat) :
    Separate owner starts (all.advance (Shared.serve (Memory.store id).answer owner) place) := by
  rcases all.advance_cases (Shared.serve (Memory.store id).answer owner) place with
    same | ⟨step, next, reply, state, htask, served, turned⟩
  · rw [same]
    exact separate
  · rw [turned]
    intro other task hother
    -- The program whose turn it was goes on with one of its continuations, and the others wait.
    by_cases here : place = other
    · subst here
      rw [List.getElem?_set_self (List.getElem?_eq_some_iff.mp htask).1] at hother
      cases hother
      cases separate place _ htask with
      | ask _ hnext => exact hnext reply
    · rw [List.getElem?_set_ne here] at hother
      exact separate other task hother

/-- The programs of one owner stand where they would stand had nobody else taken a step, if no name
begins with the text of the owner and with that of another. -/
theorem tasks_run_eq_own [DecidableEq ι] {programs : List (Dialogue Step Step.Answer β)} {shelf : Shelf}
    (hid : id < shelf.length) (separate : Separate owner starts (side ι programs shelf))
    (disjoint : ∀ other, other ≠ mine → Memory.Disjoint (starts mine) (starts other))
    (schedule : List Nat) {place : Nat} (own : owner place = mine) :
    ((side ι programs shelf).run (Shared.serve (Memory.store id).answer owner) schedule).tasks[place]?
      = ((side ι programs shelf).run (Shared.serve (Memory.store id).answer owner)
          (schedule.filter fun p => owner p = mine)).tasks[place]? := by
  have start : SamePart owner mine (starts mine) id (side ι programs shelf)
      (side ι programs shelf) := ⟨fun _ _ => rfl, rfl, rfl, hid, hid⟩
  -- The two runs begin alike and then take turns of their own, so the induction is about two
  -- states.
  suffices kept : ∀ all alone : Interleaving Step Step.Answer β (Shared ι Shelf),
      Separate owner starts all → SamePart owner mine (starts mine) id all alone →
      SamePart owner mine (starts mine) id
        (all.run (Shared.serve (Memory.store id).answer owner) schedule)
        (alone.run (Shared.serve (Memory.store id).answer owner)
          (schedule.filter fun p => owner p = mine)) from
    (kept _ _ separate start).tasks place own
  clear separate start
  induction schedule with
  | nil => exact fun _ _ _ same => same
  | cons p schedule ih =>
    intro all alone separate same
    by_cases hp : owner p = mine
    · rw [List.filter_cons_of_pos (by simpa using hp)]
      exact ih _ _ (separate.advance p) (same.advance_own separate hp)
    · rw [List.filter_cons_of_neg (by simpa using hp)]
      exact ih _ _ (separate.advance p) (same.advance_other separate hp (disjoint _ hp))

end Invariant

/-! ### Turns in a row -/

section Alone

variable {owner : Nat → ι} {answer : (r : Request) → Act σ r.Reply} {place : Nat}
  {all : Interleaving Step Step.Answer γ (Shared ι σ)}

/-- A turn of a program that is not made to wait. -/
theorem advance_of_ask {step : Step} {next : step.Answer → Dialogue Step Step.Answer γ}
    {host : Host Step Step.Answer (Shared ι σ)} {reply : step.Answer} {state : Shared ι σ}
    (h : all.tasks[place]? = some (.ask step next))
    (served : host place step all.state = some (reply, state)) :
    all.advance host place = { state, tasks := all.tasks.set place (next reply) } := by
  simp [Interleaving.advance, h, served]

/-- Turns in a row take a program that makes requests to its end. -/
theorem exists_run_of_onlyRequests [DecidableEq ι] {d : Dialogue Step Step.Answer β}
    (plain : OnlyRequests d) {k : β → Dialogue Step Step.Answer γ}
    (h : all.tasks[place]? = some (d >>= k)) :
    ∃ n, all.run (Shared.serve answer owner) (List.replicate n place)
      = { state := { all.state with store := left answer d all.state.store }
          tasks := all.tasks.set place
            (k (d.run (Program.answerAlone answer) all.state.store).1) } := by
  -- One turn answers one request, and the rest of the program follows it.
  induction plain generalizing all with
  | done x =>
    refine ⟨0, ?_⟩
    obtain ⟨bound, task⟩ := List.getElem?_eq_some_iff.mp h
    show all = { state := all.state, tasks := all.tasks.set place (k x) }
    rw [show k x = all.tasks[place] from task.symm, List.set_getElem_self]
  | ask r _ ih =>
    have turn : all.advance (Shared.serve answer owner) place = _ := advance_of_ask h rfl
    have bound := (List.getElem?_eq_some_iff.mp h).1
    obtain ⟨n, ran⟩ : ∃ n, Interleaving.run (Shared.serve answer owner) (List.replicate n place)
        (all.advance (Shared.serve answer owner) place) = _ := by
      refine ih ((answer r).outcome all.state.store).1 ?_
      rw [turn]
      exact List.getElem?_set_self bound
    refine ⟨n + 1, ?_⟩
    rw [List.replicate_succ]
    show Interleaving.run _ (List.replicate n place) (all.advance _ place) = _
    rw [ran, turn]
    simp only [List.set_set]
    rfl

/-- Turns in a row take a program with a lock to its end, if it finds the lock free. -/
theorem exists_run_exclusive [DecidableEq ι] {body : Dialogue Step Step.Answer β}
    (plain : OnlyRequests body) {k : β → Dialogue Step Step.Answer γ}
    (h : all.tasks[place]? = some (exclusive body >>= k))
    (free : all.state.holder (owner place) = none) :
    ∃ n, all.run (Shared.serve answer owner) (List.replicate n place)
      = { state := { all.state with store := left answer body all.state.store }
          tasks := all.tasks.set place
            (k (body.run (Program.answerAlone answer) all.state.store).1) } := by
  have bound := (List.getElem?_eq_some_iff.mp h).1
  -- First it takes the lock.
  let inside : Shared ι σ :=
    { all.state with holder := Function.update all.state.holder (owner place) (some place) }
  have locked : all.advance (Shared.serve answer owner) place
      = { state := inside, tasks := all.tasks.set place (untilRelease body >>= k) } := by
    have served : Shared.serve answer owner place .lock all.state = some ((), inside) := by
      dsimp only [Shared.serve]
      rw [free]
    exact advance_of_ask h served
  have entered : (all.tasks.set place (untilRelease body >>= k))[place]?
      = some (body >>= fun x => .ask .unlock fun _ => k x) := by
    rw [List.getElem?_set_self bound, untilRelease, bind_assoc]
    rfl
  -- Then it makes its requests.
  obtain ⟨n, ran⟩ : ∃ n, Interleaving.run (Shared.serve answer owner) (List.replicate n place)
      { state := inside, tasks := all.tasks.set place (untilRelease body >>= k) } = _ :=
    exists_run_of_onlyRequests plain entered
  refine ⟨n + 1 + 1, ?_⟩
  rw [List.replicate_succ, List.replicate_succ']
  show Interleaving.run _ (List.replicate n place ++ [place]) (all.advance _ place) = _
  rw [locked, Interleaving.run_append, ran]
  -- And then it gives the lock back, which is free again.
  refine (advance_of_ask (List.getElem?_set_self (by simpa using bound)) rfl).trans ?_
  simp [inside, free]

/-- Turns of a program that is done change nothing. -/
theorem run_replicate_of_done {host : Host Step Step.Answer (Shared ι σ)} {x : γ}
    (h : all.tasks[place]? = some (.done x)) (n : Nat) :
    all.run host (List.replicate n place) = all := by
  have idle : all.advance host place = all := by simp [Interleaving.advance, h]
  induction n with
  | zero => rfl
  | succ n ih =>
    show Interleaving.run host (List.replicate n place) (all.advance host place) = all
    rw [idle, ih]

end Alone

end Store

end Moderation
