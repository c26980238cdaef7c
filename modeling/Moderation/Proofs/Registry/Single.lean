import Moderation.Proofs.Registry.Progress
import Moderation.Registry.Standard

/-!
# `Moderation.Proofs.Registry.Single`: at most one strategy for each name

However many calls resolve a name at once, one of them builds its strategy and all get that one, until
the strategies are taken out of use.

* `Recorded` ties the journal to the instances in use: a name has been built as often as everything was
  cleared, and once more if it is in use, and what was given since is what is in use.
* `Sound` is the invariant of a run. Whoever builds a strategy holds the lock of its name, and nothing
  is in use under this name as long as it does (`Stands`).
* `single_of_run`: what follows for every run.

A call changes the registry in four ways only (`Change`), so the journal is followed event by event:
`Recorded.note` is the one induction over it.
-/

set_option autoImplicit false

namespace Moderation.Registry

open Dialogue

variable {σ α : Type}

/-! ### The journal -/

namespace Event

/-- Whether a strategy is built for a name. -/
def isBuilt (name : String) : Event σ α → Bool
  | built inst => decide (inst.config.name = name)
  | _ => false

/-- Whether all strategies are taken out of use. -/
def isCleared : Event σ α → Bool
  | cleared => true
  | _ => false

end Event

/-- What a journal says of the instances in use. -/
structure Recorded (journal : List (Event σ α)) (instances : Entries (Instance σ α)) : Prop where
  counted : ∀ name, journal.countP (Event.isBuilt name)
    ≤ journal.countP Event.isCleared + if (instances.get? name).isSome then 1 else 0
  /-- What was given since the strategies were last taken out of use is in use. -/
  current : ∀ name inst before after, journal = before ++ .returned name inst :: after →
    (∀ event ∈ after, event.isCleared = false) → instances.get? name = some inst
  agree : ∀ name x y before between after,
    journal = before ++ .returned name x :: (between ++ .returned name y :: after) →
    (∀ event ∈ between, event.isCleared = false) → x = y

/-- An entry of a list with one more at its end is that one, or stands before it. -/
theorem eq_or_exists_of_concat_eq {β : Type} {l before after : List β} {x last : β}
    (h : l ++ [last] = before ++ x :: after) :
    (after = [] ∧ l = before ∧ last = x)
      ∨ ∃ rest, after = rest ++ [last] ∧ l = before ++ x :: rest := by
  rcases List.eq_nil_or_concat after with rfl | ⟨rest, y, rfl⟩
  · obtain ⟨hl, hx⟩ := List.append_inj' h rfl
    exact Or.inl ⟨rfl, hl, List.singleton_inj.mp hx⟩
  · rw [List.concat_eq_append, ← List.cons_append, ← List.append_assoc] at h
    obtain ⟨hl, hx⟩ := List.append_inj' h rfl
    obtain rfl := List.singleton_inj.mp hx
    exact Or.inr ⟨rest, List.concat_eq_append, hl⟩

namespace Recorded

variable {journal : List (Event σ α)} {instances instances' : Entries (Instance σ α)}

/-- At the start nothing has been recorded, and nothing is in use. -/
theorem start : Recorded ([] : List (Event σ α)) [] where
  counted _ := by simp
  current _ _ _ _ h := by simp at h
  agree _ _ _ _ _ _ h := by simp at h

/-- One more event. What it builds was not in use before, what it gives is in use, and it takes
nothing out of use unless it clears all. -/
theorem note (recorded : Recorded journal instances) {event : Event σ α}
    (count : ∀ name,
      (if event.isBuilt name then 1 else 0) + (if (instances.get? name).isSome then 1 else 0)
        ≤ (if event.isCleared then 1 else 0) + if (instances'.get? name).isSome then 1 else 0)
    (kept : event.isCleared = false → ∀ name inst, instances.get? name = some inst →
      instances'.get? name = some inst)
    (given : ∀ name inst, event = .returned name inst → instances.get? name = some inst) :
    Recorded (journal ++ [event]) instances' where
  counted name := by
    have before := recorded.counted name
    have step := count name
    rw [List.countP_append, List.countP_append, List.countP_singleton, List.countP_singleton]
    omega
  current name inst before after h untouched := by
    rcases eq_or_exists_of_concat_eq h with ⟨-, -, rfl⟩ | ⟨rest, rfl, hl⟩
    · exact kept rfl name inst (given name inst rfl)
    · refine kept (untouched event (by simp)) name inst (recorded.current name inst before rest hl ?_)
      exact fun e he => untouched e (by simp [he])
  agree name x y before between after h untouched := by
    rw [← List.cons_append, ← List.append_assoc] at h
    rcases eq_or_exists_of_concat_eq h with ⟨-, hl, rfl⟩ | ⟨rest, rfl, hl⟩
    · -- What is given now is in use, and so is what was given before.
      have inUse := recorded.current name x before between hl untouched
      rw [given name y rfl] at inUse
      exact (Option.some.inj inUse).symm
    · refine recorded.agree name x y before between rest ?_ untouched
      rw [hl, ← List.cons_append, ← List.append_assoc]

/-- What is given is what is in use. -/
theorem returned (recorded : Recorded journal instances) {name : String} {inst : Instance σ α}
    (inUse : instances.get? name = some inst) :
    Recorded (journal ++ [.returned name inst]) instances :=
  recorded.note (fun _ => by simp [Event.isBuilt]) (fun _ _ _ h => h)
    (fun _ _ h => by cases h; exact inUse)

/-- What is built was not in use, and is in use now. -/
theorem built (recorded : Recorded journal instances) {inst : Instance σ α}
    (unused : instances.get? inst.config.name = none) :
    Recorded (journal ++ [.built inst]) (instances.set inst.config.name inst) := by
  refine recorded.note (fun name => ?_) (fun _ name other h => ?_) (fun _ _ h => by cases h)
  · -- Under its name there is one more construction, and one more strategy in use.
    by_cases same : inst.config.name = name
    · subst same
      simp [Event.isBuilt, Entries.get?_set, unused]
    · simp [Event.isBuilt, Entries.get?_set, same]
  · have different : inst.config.name ≠ name := by
      rintro rfl
      rw [unused] at h
      cases h
    rw [Entries.get?_set, if_neg different]
    exact h

/-- Once everything is taken out of use, each name may be built once more. -/
theorem cleared (recorded : Recorded journal instances) : Recorded (journal ++ [.cleared]) [] := by
  refine recorded.note (fun name => ?_) nofun nofun
  have once : (if (instances.get? name).isSome then 1 else 0) ≤ 1 := by split <;> omega
  simpa [Event.isBuilt, Event.isCleared] using once

end Recorded

/-! ### What a change keeps -/

section

variable {factories : Factories σ α} {fits fits' : AnalyzerConfig → Prop} {before after : Desk σ α}
  {place : Nat} {call : Call} {task : Task σ α}

namespace Change

/-- A call registers nothing. -/
theorem configs (change : Change fits before place call task after) :
    after.registry.configs = before.registry.configs := by
  cases change with
  | idle _ registry _ => rw [registry]
  | found _ registry _ => rw [registry]
  | built _ _ _ registry _ => rw [registry, Registry.adopt]
  | cleared registry _ => rw [registry, Registry.reset]

/-- So the journal goes on to say what is in use. -/
theorem recorded (change : Change fits before place call task after)
    (recorded : Recorded before.journal before.registry.instances) :
    Recorded after.journal after.registry.instances := by
  cases change with
  | idle _ registry journal =>
    rw [registry, journal]
    exact recorded
  | found inUse registry journal =>
    rw [registry, journal]
    exact recorded.returned inUse
  -- Two events at once: the strategy is built, and then given to the call that has built it.
  | @built config store strategy _ _ _ unused registry journal =>
    rw [registry, journal, List.append_cons]
    have built : Recorded (before.journal ++ [.built (before.registry.adopt config store strategy).1])
        (before.registry.adopt config store strategy).2.instances := recorded.built unused
    exact built.returned (by simp [Registry.adopt, Entries.get?_set])
  | cleared registry journal =>
    rw [registry, journal]
    exact recorded.cleared

/-- An instance in use was in use before, or has been built from a configuration that fits. -/
theorem used (change : Change fits before place call task after)
    (used : ∀ name inst, before.registry.instances.get? name = some inst →
      inst.config.name = name ∧ fits inst.config)
    (name : String) (inst : Instance σ α) (h : after.registry.instances.get? name = some inst) :
    inst.config.name = name ∧ fits inst.config := by
  -- Only a construction puts an instance into use.
  cases change with
  | idle _ registry _ =>
    rw [registry] at h
    exact used name inst h
  | found _ registry _ =>
    rw [registry] at h
    exact used name inst h
  | @built config store strategy _ fit _ _ registry _ =>
    rw [registry, Registry.adopt] at h
    dsimp only at h
    rw [Entries.get?_set] at h
    split at h
    · next same =>
      cases h
      exact ⟨same, fit⟩
    · exact used name inst h
  | cleared registry _ =>
    rw [registry] at h
    cases h

/-- A name whose lock somebody else holds does not come into use. -/
theorem unused (change : Change fits before place call task after) {name : String} {p : Nat}
    (hp : p ≠ place) (holds : before.holder name = some p)
    (unused : before.registry.instances.get? name = none) :
    after.registry.instances.get? name = none := by
  -- A construction is under the name whose lock its call holds, which is another one.
  cases change with
  | idle _ registry _ =>
    rw [registry]
    exact unused
  | found _ registry _ =>
    rw [registry]
    exact unused
  | @built config _ _ _ _ own _ registry _ =>
    have different : config.name ≠ name := by
      rintro rfl
      rw [own] at holds
      exact hp (Option.some.inj holds).symm
    rw [registry, Registry.adopt]
    dsimp only
    rw [Entries.get?_set, if_neg different]
    exact unused
  | cleared registry _ =>
    rw [registry]
    rfl

end Change

/-- A call stands where it stood when others have proceeded. -/
theorem Stands.frame (stands : Stands factories fits before place call task)
    (holder : ∀ name, after.holder name = some place ↔ before.holder name = some place)
    (unused : ∀ name, before.holder name = some place →
      before.registry.instances.get? name = none → after.registry.instances.get? name = none)
    (fit : ∀ name config, call = .resolve name → (∃ step next, task = .ask step next) →
      config.name = name → fits config → fits' config) :
    Stands factories fits' after place call task := by
  have apart (h : ∀ other, before.holder other ≠ some place) (other : String) :
      after.holder other ≠ some place := fun hother => h other ((holder other).mp hother)
  -- What a call relies on is its own locks, and that nothing is in use under a name that it has
  -- locked.
  cases stands with
  | queued named suits free =>
    exact .queued named (fit _ _ rfl ⟨_, _, rfl⟩ named suits) (apart free)
  | opening named suits holds idle =>
    exact .opening named (fit _ _ rfl ⟨_, _, rfl⟩ named suits)
      (fun other => (holder other).trans (holds other)) (unused _ ((holds _).mpr rfl) idle)
  | abandoning holds idle =>
    exact .abandoning (fun other => (holder other).trans (holds other))
      (unused _ ((holds _).mpr rfl) idle)
  | closing free => exact .closing (apart free)
  | finished free => exact .finished (apart free)

/-- A resolution that fails at its turn has found nothing in use under the name. -/
theorem Stands.unused_of_failed {desk served : Desk σ α} {name : String} {step : Step σ α}
    {next : step.Answer → Task σ α} {reply : step.Answer} {e : Error}
    (stands : Stands factories fits desk place (.resolve name) (.ask step next))
    (h : desk.serve place step = some (reply, served))
    (failed : (Desk.goOn place (next reply) served).1 = .done (.error e)) :
    desk.registry.instances.get? name = none := by
  cases stands with
  | opening _ _ _ unused => exact unused
  | abandoning _ unused => exact unused
  | @queued _ config _ _ _ =>
    obtain ⟨-, rfl⟩ := Desk.serve_lock h
    cases inUse : desk.registry.instances.get? name with
    | none => rfl
    | some inst =>
      -- It would have given what is in use.
      have gives : Desk.goOn place (inside factories name config) (desk.hand name (some place))
          = (.done (.ok (some inst)), _) :=
        goOn_inside_of_inUse inUse
      simp only [gives] at failed
      cases failed

/-- A resolution that comes to its end at its turn leaves the lock of the name free. -/
theorem Stands.free_of_finished {desk served : Desk σ α} {name : String} {step : Step σ α}
    {next : step.Answer → Task σ α} {reply : step.Answer} {result : Result σ α}
    (stands : Stands factories fits desk place (.resolve name) (.ask step next))
    (h : desk.serve place step = some (reply, served))
    (finished : Stands factories fits after place (.resolve name) (.done result))
    (others : ∀ name p, p ≠ place → (after.holder name = some p ↔ desk.holder name = some p)) :
    after.holder name = none := by
  cases finished with
  | finished apart =>
    cases hp : after.holder name with
    | none => rfl
    | some p =>
      -- Whoever has the lock now had it before, when it was free or the lock of the resolution.
      have different : p ≠ place := by
        rintro rfl
        exact apart name hp
      rw [others name p different] at hp
      cases stands with
      | queued _ _ _ =>
        rw [(Desk.serve_lock h).1] at hp
        cases hp
      | opening _ _ holds _ =>
        rw [(holds name).mpr rfl] at hp
        exact absurd (Option.some.inj hp).symm different
      | abandoning holds _ =>
        rw [(holds name).mpr rfl] at hp
        exact absurd (Option.some.inj hp).symm different

end

/-- Registering an analyzer changes nothing, or replaces a configuration that is not in use. -/
theorem Traffic.register_cases (config : AnalyzerConfig) (all : Traffic σ α) :
    (∃ inst, all.desk.registry.instances.get? config.name = some inst) ∧ all.register config = all
      ∨ all.desk.registry.instances.get? config.name = none
        ∧ all.register config = { all with desk := { all.desk with
          registry := { all.desk.registry with
            configs := all.desk.registry.configs.set config.name config } } } := by
  unfold Traffic.register Registry.register Registry.isResolved Entries.has
  cases h : all.desk.registry.instances.get? config.name with
  | some inst => exact Or.inl ⟨⟨inst, rfl⟩, rfl⟩
  | none => exact Or.inr ⟨rfl, rfl⟩

/-- A call that is served goes on to its next wait. -/
theorem Traffic.turn_of_served {all : Traffic σ α} {place : Nat} {call : Call} {step : Step σ α}
    {next : step.Answer → Task σ α} {reply : step.Answer} {desk : Desk σ α}
    (h : all.calls[place]? = some (call, .ask step next))
    (served : all.desk.serve place step = some (reply, desk)) :
    all.turn place = { desk := (Desk.goOn place (next reply) desk).2.noteResult call
                         (Desk.goOn place (next reply) desk).1
                       calls := all.calls.set place (call, (Desk.goOn place (next reply) desk).1) } := by
  simp only [Traffic.turn, h, served]

/-- A call that has to wait changes nothing. -/
theorem Traffic.turn_of_unserved {all : Traffic σ α} {place : Nat} {call : Call} {step : Step σ α}
    {next : step.Answer → Task σ α} (h : all.calls[place]? = some (call, .ask step next))
    (waits : all.desk.serve place step = none) : all.turn place = all := by
  simp only [Traffic.turn, h, waits]

/-- A turn changes nothing, or the call at its place is served. -/
theorem Traffic.turn_cases (all : Traffic σ α) (place : Nat) :
    all.turn place = all ∨ ∃ (call : Call) (step : Step σ α) (next : step.Answer → Task σ α)
      (reply : step.Answer) (desk : Desk σ α), all.calls[place]? = some (call, .ask step next)
        ∧ all.desk.serve place step = some (reply, desk) := by
  -- There is no call at the place, it is done, it has to wait, or it is served.
  cases h : all.calls[place]? with
  | none => exact Or.inl (by simp only [Traffic.turn, h])
  | some entry =>
    obtain ⟨call, task⟩ := entry
    cases task with
    | done result => exact Or.inl (by simp only [Traffic.turn, h])
    | ask step next =>
      cases served : all.desk.serve place step with
      | none => exact Or.inl (Traffic.turn_of_unserved h served)
      | some answer => exact Or.inr ⟨call, step, next, answer.1, answer.2, rfl, served⟩

/-- A call that has just been made has its place behind all others. -/
theorem getElem?_concat_of_ne {β : Type} (xs : List β) (x : β) {p : Nat} (h : p ≠ xs.length) :
    (xs ++ [x])[p]? = xs[p]? := by
  rcases Nat.lt_or_gt_of_ne h with less | greater
  · rw [List.getElem?_append_left less]
  · rw [List.getElem?_eq_none (by simp; omega), List.getElem?_eq_none (by omega)]

/-! ### The invariant of a run -/

/-- What holds at every time: every configuration that is registered, wanted by a call or in use fits,
every call stands where it can stand, and the journal is right. -/
structure Sound (factories : Factories σ α) (fits : AnalyzerConfig → Prop) (all : Traffic σ α) :
    Prop where
  registered : ∀ name config, all.desk.registry.configs.get? name = some config →
    config.name = name ∧ fits config
  used : ∀ name inst, all.desk.registry.instances.get? name = some inst →
    inst.config.name = name ∧ fits inst.config
  stands : ∀ place call task, all.calls[place]? = some (call, task) →
    Stands factories fits all.desk place call task
  bound : ∀ name p, all.desk.holder name = some p → p < all.calls.length
  recorded : Recorded all.desk.journal all.desk.registry.instances

namespace Sound

variable {factories : Factories σ α} {fits fits' : AnalyzerConfig → Prop} {all : Traffic σ α}

/-- A run is sound before its first move. -/
theorem start (factories : Factories σ α) (fits : AnalyzerConfig → Prop) (stores : σ) :
    Sound factories fits (Traffic.start stores) where
  registered := nofun
  used := nofun
  stands := nofun
  bound := nofun
  recorded := .start

/-- When a call has proceeded, the others stand where they stood. -/
theorem proceed (sound : Sound factories fits all) {place : Nat} {call : Call} {task : Task σ α}
    {after : Desk σ α} {calls : List (Call × Task σ α)}
    (proceeds : Proceeds factories fits all.desk place call task after)
    (here : calls[place]? = some (call, task))
    (elsewhere : ∀ p, p ≠ place → calls[p]? = all.calls[p]?)
    (grown : all.calls.length ≤ calls.length) :
    Sound factories fits { desk := after, calls } where
  registered := by
    rw [proceeds.change.configs]
    exact sound.registered
  used := proceeds.change.used sound.used
  -- The call whose turn it was has moved, and the others find what they rely on.
  stands p other rest h := by
    by_cases same : p = place
    · subst same
      rw [here, Option.some_inj, Prod.mk.injEq] at h
      obtain ⟨rfl, rfl⟩ := h
      exact proceeds.stands
    · rw [elsewhere p same] at h
      exact (sound.stands p other rest h).frame (fun name => proceeds.others name p same)
        (fun name => proceeds.change.unused same) (fun _ _ _ _ _ fit => fit)
  bound name p h := by
    by_cases same : p = place
    · rw [same]
      exact (List.getElem?_eq_some_iff.mp here).1
    · exact Nat.lt_of_lt_of_le (sound.bound name p ((proceeds.others name p same).mp h)) grown
  recorded := proceeds.change.recorded sound.recorded

/-- A place where no call has been made has no lock. -/
theorem apart_length (sound : Sound factories fits all) (name : String) :
    all.desk.holder name ≠ some all.calls.length := by
  intro h
  exact absurd (sound.bound name _ h) (Nat.lt_irrefl _)

/-- A call that is made proceeds at once. -/
theorem call (sound : Sound factories fits all) (call : Call) :
    Sound factories fits (all.call factories call) := by
  refine sound.proceed (proceeds_call factories sound.registered sound.apart_length call)
    ?_ (fun p hp => getElem?_concat_of_ne _ _ hp) (by simp)
  simp

/-- A turn changes nothing, or the call proceeds. -/
theorem turn_cases (sound : Sound factories fits all) (place : Nat) :
    all.turn place = all ∨ ∃ call step next task after,
      all.calls[place]? = some (call, .ask step next)
        ∧ Proceeds factories fits all.desk place call task after
        ∧ all.turn place = { desk := after, calls := all.calls.set place (call, task) } := by
  rcases all.turn_cases place with same | ⟨call, step, next, reply, desk, h, served⟩
  · exact Or.inl same
  · exact Or.inr ⟨call, step, next, _, _, h, (sound.stands place call _ h).proceeds served,
      Traffic.turn_of_served h served⟩

/-- A run stays sound over a turn. -/
theorem turn (sound : Sound factories fits all) (place : Nat) :
    Sound factories fits (all.turn place) := by
  rcases sound.turn_cases place with same | ⟨call, step, next, task, after, h, proceeds, eq⟩
  · rw [same]
    exact sound
  · rw [eq]
    refine sound.proceed proceeds ?_ (fun p hp => ?_) (by simp)
    · exact List.getElem?_set_self (List.getElem?_eq_some_iff.mp h).1
    · exact List.getElem?_set_ne (Ne.symm hp)

/-- It stays sound when all strategies are taken out of use. -/
theorem reset (sound : Sound factories fits all) :
    Sound factories fits { all with desk := all.desk.reset } where
  registered := sound.registered
  used := nofun
  stands place call task h := (sound.stands place call task h).frame (fun _ => .rfl)
    (fun _ _ _ => rfl) (fun _ _ _ _ _ fit => fit)
  bound := sound.bound
  recorded := sound.recorded.cleared

/-- An analyzer is registered whose strategy is not in use. No call may want to build it from the
configuration that is replaced, unless that one still fits. -/
theorem replace (sound : Sound factories fits all) {config : AnalyzerConfig} (fit : fits' config)
    (unused : all.desk.registry.instances.get? config.name = none)
    (keeps : ∀ other, other.name ≠ config.name → fits other → fits' other)
    (calm : (∀ other, fits other → fits' other) ∨ ¬ all.Resolves config.name) :
    Sound factories fits' { all with desk := { all.desk with
      registry := { all.desk.registry with
        configs := all.desk.registry.configs.set config.name config } } } where
  registered name other h := by
    dsimp only at h
    rw [Entries.get?_set] at h
    split at h
    · next same =>
      cases h
      exact ⟨same, fit⟩
    · next different =>
      obtain ⟨named, fits⟩ := sound.registered name other h
      exact ⟨named, keeps other (by rw [named]; exact Ne.symm different) fits⟩
  used name inst h := by
    obtain ⟨named, fits⟩ := sound.used name inst h
    refine ⟨named, keeps inst.config ?_ fits⟩
    rintro same
    rw [← same, named, h] at unused
    cases unused
  stands place call task h := by
    refine (sound.stands place call task h).frame (fun _ => .rfl) (fun _ _ unused => unused) ?_
    rintro name other rfl ⟨step, next, rfl⟩ named fits
    -- A call that is about to build the strategy holds the configuration that was replaced.
    rcases calm with still | calm
    · exact still other fits
    · refine keeps other ?_ fits
      rintro same
      rw [← same, named] at calm
      exact calm ⟨place, step, next, h⟩
  bound := sound.bound
  recorded := sound.recorded

/-- Whatever comes next, a run stays sound if any configuration fits. -/
theorem move (sound : Sound factories (fun _ => True) all) (next : Move) :
    Sound factories (fun _ => True) (all.move factories next) := by
  -- Any configuration fits, so nothing is asked of the one that is registered.
  cases next with
  | register config =>
    show Sound factories _ (all.register config)
    rcases all.register_cases config with ⟨-, same⟩ | ⟨unused, replaced⟩
    · rw [same]
      exact sound
    · rw [replaced]
      exact sound.replace trivial unused (fun _ _ fit => fit) (Or.inl fun _ fit => fit)
  | reset => exact sound.reset
  | call call => exact sound.call call
  | turn place => exact sound.turn place

/-- So it does over all moves, by induction on them. -/
theorem run (sound : Sound factories (fun _ => True) all) (moves : List Move) :
    Sound factories (fun _ => True) (all.run factories moves) := by
  induction moves generalizing all with
  | nil => exact sound
  | cons next moves ih => exact ih (sound.move next)

/-! ### One strategy for each name -/

/-- Whoever builds a strategy holds the lock of its name, and nothing is in use under this name. -/
theorem holds_of_builds (sound : Sound factories fits all) {place : Nat} {name : String}
    (builds : all.Builds place name) :
    all.desk.holder name = some place ∧ all.desk.registry.instances.get? name = none := by
  obtain ⟨step, next, h, unlocked⟩ := builds
  cases sound.stands place _ _ h with
  | queued => exact absurd rfl (unlocked _)
  | opening _ _ holds unused => exact ⟨(holds name).mpr rfl, unused⟩
  | abandoning holds unused => exact ⟨(holds name).mpr rfl, unused⟩

/-- When a resolution fails at its turn, the registry is as it was, nothing is in use under the name,
and its lock is free. -/
theorem turn_of_failed (sound : Sound factories fits all) {place : Nat} {name : String}
    {step : Step σ α} {next : step.Answer → Task σ α} {e : Error}
    (h : all.calls[place]? = some (.resolve name, .ask step next))
    (failed : (all.turn place).calls[place]? = some (.resolve name, .done (.error e))) :
    (all.turn place).desk.registry = all.desk.registry
      ∧ all.desk.registry.instances.get? name = none
      ∧ (all.turn place).desk.holder name = none := by
  have stands := sound.stands place _ _ h
  -- A call that has to wait has not failed at its turn.
  cases served : all.desk.serve place step with
  | none =>
    rw [Traffic.turn_of_unserved h served, h] at failed
    cases failed
  | some answer =>
    obtain ⟨reply, desk⟩ := answer
    have proceeds := stands.proceeds served
    rw [Traffic.turn_of_served h served] at failed ⊢
    dsimp only at failed proceeds ⊢
    rw [List.getElem?_set_self (List.getElem?_eq_some_iff.mp h).1, Option.some_inj,
      Prod.mk.injEq] at failed
    rw [failed.2] at proceeds ⊢
    refine ⟨?_, stands.unused_of_failed served failed.2, ?_⟩
    · cases proceeds.change with
      | idle _ registry _ => exact registry
    · exact stands.free_of_finished served proceeds.stands proceeds.others

end Sound

/-- A resolution that finds nothing in use, and then the lock free, opens a store. -/
theorem Traffic.builds_of_call {factories : Factories σ α} {all : Traffic σ α} {name : String}
    {config : AnalyzerConfig} {make : MakeStrategy σ α}
    {openStore : (params : Value.Map Value) → Act σ (Store σ)}
    (registered : all.desk.registry.configs.get? name = some config)
    (hmake : factories.strategies.lookup config.strategy = some make)
    (hopen : factories.stores.lookup config.adapter = some openStore)
    (unused : all.desk.registry.instances.get? name = none) (free : all.desk.holder name = none) :
    ((all.call factories (.resolve name)).turn all.calls.length).Builds all.calls.length name := by
  let place := all.calls.length
  let locked := all.desk.hand name (some place)
  let queued : Traffic σ α := { desk := all.desk, calls := all.calls
    ++ [(.resolve name, .ask (.lock name) fun _ => inside factories name config)] }
  -- The call finds nothing in use and waits for the lock, gets it at its turn, and looks again.
  have called : all.call factories (.resolve name) = queued := by
    simp only [Traffic.call, goOn_resolve_of_unused registered unused]
    rfl
  have here : queued.calls[place]?
      = some (.resolve name, .ask (.lock name) fun _ => inside factories name config) :=
    List.getElem?_concat_length
  have served : queued.desk.serve place (.lock name) = some ((), locked) := by
    simp only [queued, Desk.serve, free]
    rfl
  have opens : Desk.goOn place (inside factories name config) locked
      = (.ask (.openStore (openStore config.params)) fun reply => opened make config reply
          >>= releasing name, locked) := by
    have looked : Desk.goOn place (inside factories name config) locked
        = Desk.goOn place (constructing factories name config) locked := goOn_inside_of_unused unused
    rw [looked, constructing, construct_eq hmake hopen, ask_bind, Desk.goOn_of_waits rfl]
  rw [called, Traffic.turn_of_served here served, opens]
  exact ⟨_, _, List.getElem?_set_self (by simp [queued, place]), by simp⟩

/-! ### How often everything is taken out of use -/

/-- Whether a move takes all strategies out of use, or makes a call that will. -/
def Move.clears : Move → Bool
  | reset => true
  | call .close => true
  | _ => false

/-- Whether a call to close is under way. -/
def isClosing : Call × Task σ α → Bool
  | (.close, .ask ..) => true
  | _ => false

/-- A call clears everything once at most, and then it is over. -/
theorem Change.count_cleared {fits : AnalyzerConfig → Prop} {before after : Desk σ α} {place : Nat}
    {call : Call} {task : Task σ α} (change : Change fits before place call task after) :
    after.journal.countP Event.isCleared + (if isClosing (call, task) then 1 else 0)
      ≤ before.journal.countP Event.isCleared + if (Move.call call).clears then 1 else 0 := by
  cases change with
  | idle _ _ journal =>
    rw [journal]
    cases call <;> cases task <;> simp [isClosing, Move.clears]
  | found _ _ journal => simp [journal, isClosing, Move.clears, Event.isCleared]
  | built _ _ _ _ journal => simp [journal, isClosing, Move.clears, Event.isCleared]
  | cleared _ journal => simp [journal, isClosing, Move.clears, Event.isCleared]

namespace Sound

variable {factories : Factories σ α} {fits : AnalyzerConfig → Prop} {all : Traffic σ α}

/-- What is cleared, and what a call under way is still going to clear, was brought about by a move.
-/
theorem count_cleared_move (sound : Sound factories fits all) (next : Move) :
    (all.move factories next).desk.journal.countP Event.isCleared
        + (all.move factories next).calls.countP isClosing
      ≤ all.desk.journal.countP Event.isCleared + all.calls.countP isClosing
        + if next.clears then 1 else 0 := by
  cases next with
  | register config =>
    show (all.register config).desk.journal.countP _ + (all.register config).calls.countP _ ≤ _
    rcases all.register_cases config with ⟨-, same⟩ | ⟨-, replaced⟩
    · rw [same]
      exact Nat.le_add_right ..
    · rw [replaced]
      exact Nat.le_add_right ..
  | reset =>
    show (all.desk.journal ++ [Event.cleared]).countP Event.isCleared + all.calls.countP isClosing ≤ _
    rw [List.countP_append, List.countP_singleton]
    simp only [Event.isCleared, Move.clears]
    omega
  | call call =>
    have counted :=
      (proceeds_call factories sound.registered sound.apart_length call).change.count_cleared
    show (Desk.noteResult _ _ _).journal.countP _ + (all.calls ++ [_]).countP _ ≤ _
    rw [List.countP_append, List.countP_singleton]
    omega
  | turn place =>
    show (all.turn place).desk.journal.countP _ + (all.turn place).calls.countP _ ≤ _
    rcases sound.turn_cases place with same | ⟨call, step, next, task, after, h, proceeds, eq⟩
    · rw [same]
      exact Nat.le_add_right ..
    · -- The call is counted before its turn if it is to close, and afterwards only if it still
      -- waits.
      obtain ⟨bound, entry⟩ := List.getElem?_eq_some_iff.mp h
      have counted := proceeds.change.count_cleared
      have among := List.boole_getElem_le_countP (p := isClosing) bound
      rw [eq]
      dsimp only
      rw [List.countP_set bound]
      rw [entry] at among ⊢
      -- A call to close that is over now was under way before.
      have closing : isClosing (call, .ask step next) = (Move.call call).clears := by
        cases call <;> rfl
      rw [closing] at among ⊢
      omega

/-- So a run clears everything at most as often as its moves say. -/
theorem count_cleared (sound : Sound factories (fun _ => True) all) (moves : List Move) :
    (all.run factories moves).desk.journal.countP Event.isCleared
        + (all.run factories moves).calls.countP isClosing
      ≤ all.desk.journal.countP Event.isCleared + all.calls.countP isClosing
        + moves.countP Move.clears := by
  -- The first move counts at most once, and the rest of the run goes on from there.
  induction moves generalizing all with
  | nil => exact Nat.le_refl _
  | cons next moves ih =>
    have later := ih (sound.move next)
    have now := sound.count_cleared_move next
    rw [List.countP_cons]
    show ((all.move factories next).run factories moves).desk.journal.countP _
      + ((all.move factories next).run factories moves).calls.countP _ ≤ _
    omega

end Sound

/-! ### One strategy for each name -/

/-- Of a name, at every time of every run:

* one call at most is building its strategy;
* it has been built once at most, and once more for each time that everything was taken out of use;
* two resolutions give the same instance, unless everything was taken out of use in between;
* a resolution that fails leaves the registry as it was, and nothing is in use under the name;
* then and whenever nothing is in use and nobody is building, the next resolution tries again. -/
theorem single_of_run (factories : Factories σ α) (stores : σ) (moves : List Move) (name : String) :
    let all := (Traffic.start stores).run factories moves
    (∀ p q, all.Builds p name → all.Builds q name → p = q)
      ∧ all.desk.journal.countP (Event.isBuilt name) ≤ 1 + moves.countP Move.clears
      ∧ (∀ x y before between after,
        all.desk.journal = before ++ .returned name x :: (between ++ .returned name y :: after) →
        (∀ event ∈ between, event.isCleared = false) → x = y)
      ∧ (∀ place step next e, all.calls[place]? = some (.resolve name, .ask step next) →
        (all.turn place).calls[place]? = some (.resolve name, .done (.error e)) →
        (all.turn place).desk.registry = all.desk.registry
          ∧ all.desk.registry.instances.get? name = none
          ∧ (all.turn place).desk.holder name = none)
      ∧ ∀ config make openStore, all.desk.registry.configs.get? name = some config →
        factories.strategies.lookup config.strategy = some make →
        factories.stores.lookup config.adapter = some openStore →
        all.desk.registry.instances.get? name = none → all.desk.holder name = none →
        ((all.call factories (.resolve name)).turn all.calls.length).Builds all.calls.length name := by
  intro all
  have began := Sound.start factories (fun _ => True) stores
  have sound : Sound factories (fun _ => True) all := began.run moves
  refine ⟨?_, ?_, ?_, ?_, ?_⟩
  · intro p q hp hq
    have holder := (sound.holds_of_builds hp).1
    rw [(sound.holds_of_builds hq).1] at holder
    exact (Option.some.inj holder).symm
  · -- A name has been built once for each time that everything was cleared, and once more if it is
    -- in use.
    have counted := sound.recorded.counted name
    have cleared : all.desk.journal.countP Event.isCleared + all.calls.countP isClosing
        ≤ 0 + 0 + moves.countP Move.clears := began.count_cleared moves
    have once : (if (all.desk.registry.instances.get? name).isSome then 1 else 0) ≤ 1 := by
      split <;> omega
    omega
  · exact sound.recorded.agree name
  · exact fun place step next e h failed => sound.turn_of_failed h failed
  · intro config make openStore registered hmake hopen unused free
    exact Traffic.builds_of_call registered hmake hopen unused free

/-- Bayes classifiers over stores in memory. -/
def inMemory : Factories Store.Shelf Number where
  stores := [("memory", Store.Memory.openWith)]
  strategies := [("bayes", makeBayes)]

/-- An analyzer of mail. -/
def mail : AnalyzerConfig := ⟨"mail", "bayes", "memory", [], .whole 1, []⟩

/-- Two resolutions at once: the second waits for the lock in vain while the first opens a store, and
then gets what the first has built. -/
theorem single_mail :
    let moves : List Move := [.register mail, .call (.resolve "mail"), .call (.resolve "mail"),
      .turn 0, .turn 1, .turn 0, .turn 1]
    let all := (Traffic.start []).run inMemory moves
    (∃ x, all.desk.journal = [.built x, .returned "mail" x, .returned "mail" x])
      ∧ moves.countP Move.clears = 0
      ∧ all.desk.journal.countP (Event.isBuilt "mail") ≤ 1 + moves.countP Move.clears := by
  intro moves all
  exact ⟨⟨_, rfl⟩, rfl, (single_of_run inMemory [] moves "mail").2.1⟩

end Moderation.Registry
