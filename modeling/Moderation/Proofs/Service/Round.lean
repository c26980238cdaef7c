import Mathlib.Data.List.Perm.Basic
import Moderation.Service.Training

/-!
# `Moderation.Proofs.Service.Round`: asking analyzers one after the other

The service goes round its analyzers three times: to resolve them, to teach them and to have them
classify a text. At each stop something is done that may fail. An outage is noted, and the round goes
on from what the failed action has left.

`Act.round` is such a round with nothing decided about the failures: the result at each stop, and the
state after the last. If all failures are outages (`OnlyOutages`), the items divide into those that
were reached and those that were not, and each of these is in the order of the round
(`reached_append_outages_perm`, `reached_sublist`).

* `Act.round_induction`: what each stop keeps is kept by the round.
* `all_failed_iff`: when nobody was reached, told by the names.
* `outcome_resolveAll`, `outcome_teachEach`: the loops of a training are rounds.
-/

set_option autoImplicit false

namespace Moderation

variable {ι σ α β : Type}

/-! ### Rounds -/

namespace Act

/-- Carries out an action for each of some items, one after the other, whether it fails for some of
them or not. Gives all results, and the state after the last. -/
def round (act : ι → Act σ β) : List ι → σ → List (ι × Except Error β) × σ
  | [], state => ([], state)
  | item :: rest, state =>
    let stop := (act item).outcome state
    let others := round act rest stop.2
    ((item, stop.1) :: others.1, others.2)

/-- There is one result for each item, in their order. -/
theorem map_fst_round (act : ι → Act σ β) (items : List ι) (state : σ) :
    (round act items state).1.map (·.1) = items := by
  -- Each stop starts from the state that the one before it has left.
  induction items generalizing state with
  | nil => rfl
  | cons item rest ih =>
    rw [round, List.map_cons, ih]

/-- What the results of a round are about is what its items are about. -/
theorem map_round {γ : Type} (act : ι → Act σ β) (f : ι → γ) (items : List ι) (state : σ) :
    (round act items state).1.map (fun entry => f entry.1) = items.map f := by
  rw [← map_fst_round act items state, List.map_map, map_fst_round]
  rfl

/-- The action is carried out once for each item, in their order. -/
theorem round_snd (act : ι → Act σ β) (items : List ι) (state : σ) :
    (round act items state).2
      = items.foldl (fun state item => ((act item).outcome state).2) state := by
  induction items generalizing state with
  | nil => rfl
  | cons item rest ih =>
    rw [List.foldl_cons, ← ih]
    rfl

/-- What each stop keeps is kept by the round, and what it then gives is among the results. -/
theorem round_induction (act : ι → Act σ β) (holds : σ → Prop) (gives : ι → Except Error β → Prop)
    (stop : ∀ item state, holds state →
      gives item ((act item).outcome state).1 ∧ holds ((act item).outcome state).2)
    (items : List ι) (state : σ) (h : holds state) :
    (∀ entry ∈ (round act items state).1, gives entry.1 entry.2)
      ∧ holds (round act items state).2 := by
  -- The invariant of the states carries the induction, and each stop adds one result.
  induction items generalizing state with
  | nil => exact ⟨fun _ h => absurd h List.not_mem_nil, h⟩
  | cons item rest ih =>
    obtain ⟨given, after⟩ := stop item state h
    obtain ⟨results, final⟩ := ih _ after
    refine ⟨fun entry hentry => ?_, final⟩
    rcases List.mem_cons.mp hentry with rfl | hentry
    · exact given
    · exact results entry hentry

end Act

/-! ### Results of a round -/

namespace Service

/-- The results of a round hold no failures but outages. -/
def OnlyOutages (results : List (ι × Except Error β)) : Prop :=
  ∀ item e, (item, Except.error e) ∈ results → ∃ outage, e = .storeUnavailable outage

instance (results : List (ι × Except Error β)) : Decidable (OnlyOutages results) :=
  decidable_of_iff (results.all fun entry =>
    match entry.2 with
    | .ok _ => true
    | .error (.storeUnavailable _) => true
    | .error _ => false) <| by
    rw [List.all_eq_true]
    constructor
    · intro all item e hmem
      have := all _ hmem
      cases e with
      | storeUnavailable outage => exact ⟨outage, rfl⟩
      | _ => cases this
    · rintro only ⟨item, result⟩ hmem
      cases result with
      | ok x => rfl
      | error e =>
        obtain ⟨outage, rfl⟩ := only item e hmem
        rfl

/-- The items that were reached, with what they gave. -/
def reached (results : List (ι × Except Error β)) : List (ι × β) :=
  results.filterMap fun entry => entry.2.toOption.map (entry.1, ·)

/-- The names of the items that were not reached, with what was said about the outage. -/
def outages (name : ι → String) (results : List (ι × Except Error β)) : Entries String :=
  results.filterMap fun entry =>
    match entry.2 with
    | .error (.storeUnavailable outage) => some (name entry.1, outage.message)
    | _ => none

section

variable {results : List (ι × Except Error β)} {item : ι} {name : ι → String}

/-- If all failures are outages, the first result is a success or an outage. -/
theorem OnlyOutages.head {result : Except Error β} (h : OnlyOutages ((item, result) :: results)) :
    (∃ x, result = .ok x) ∨ ∃ outage, result = .error (.storeUnavailable outage) := by
  cases result with
  | ok x => exact Or.inl ⟨x, rfl⟩
  | error e =>
    obtain ⟨outage, rfl⟩ := h item e List.mem_cons_self
    exact Or.inr ⟨outage, rfl⟩

/-- If all failures are outages, those behind the first result are. -/
theorem OnlyOutages.tail {entry : ι × Except Error β} (h : OnlyOutages (entry :: results)) :
    OnlyOutages results :=
  fun item e hmem => h item e (List.mem_cons_of_mem _ hmem)

/-- A success is among what was reached. -/
@[simp]
theorem reached_ok (x : β) : reached ((item, .ok x) :: results) = (item, x) :: reached results := rfl

/-- A failure is not among what was reached. -/
@[simp]
theorem reached_error (e : Error) : reached ((item, .error e) :: results) = reached results := rfl

/-- A success is not among the outages. -/
@[simp]
theorem outages_ok (x : β) : outages name ((item, .ok x) :: results) = outages name results := rfl

/-- An outage is among the outages, under the name of its item. -/
@[simp]
theorem outages_error (outage : Outage) :
    outages name ((item, .error (.storeUnavailable outage)) :: results)
      = (name item, outage.message) :: outages name results := rfl

/-- What was reached are the successes. -/
theorem mem_reached_iff {x : β} : (item, x) ∈ reached results ↔ (item, .ok x) ∈ results := by
  induction results with
  | nil => simp [reached]
  | cons entry results ih =>
    obtain ⟨other, result⟩ := entry
    cases result <;> simp [ih]

/-- Each item was reached or not. -/
theorem reached_append_outages_perm (name : ι → String) (only : OnlyOutages results) :
    ((reached results).map (name ·.1) ++ (outages name results).keys).Perm
      (results.map (name ·.1)) := by
  -- The first item goes to one of the two lists, whichever its result is.
  induction results with
  | nil => rfl
  | cons entry results ih =>
    obtain ⟨item, result⟩ := entry
    rcases only.head with ⟨x, rfl⟩ | ⟨outage, rfl⟩
    · simpa [Entries.keys] using ih only.tail
    · -- The name comes first among the outages, behind all that were reached.
      simp only [reached_error, outages_error, Entries.keys, List.map_cons]
      exact List.perm_middle.trans ((ih only.tail).cons _)

/-- A round without failures has reached everything. -/
theorem reached_of_ok (name : ι → String) (h : ∀ entry ∈ results, ∃ x, entry.2 = .ok x) :
    (reached results).map (name ·.1) = results.map (name ·.1) ∧ outages name results = [] := by
  induction results with
  | nil => exact ⟨rfl, rfl⟩
  | cons entry results ih =>
    obtain ⟨item, result⟩ := entry
    obtain ⟨x, rfl⟩ := h _ List.mem_cons_self
    obtain ⟨all, none⟩ := ih fun other hother => h other (List.mem_cons_of_mem _ hother)
    exact ⟨congrArg (name item :: ·) all, none⟩

/-- Those that were reached are in the order of the round. -/
theorem reached_sublist (name : ι → String) (results : List (ι × Except Error β)) :
    ((reached results).map (name ·.1)).Sublist (results.map (name ·.1)) := by
  induction results with
  | nil => rfl
  | cons entry results ih =>
    obtain ⟨item, result⟩ := entry
    cases result with
    | ok x => exact ih.cons_cons _
    | error e => exact ih.cons _

end

/-- If the names are those of the successes and of the failures, each once, there are only failures if
and only if every name is one. -/
theorem all_failed_iff {names succeeded : List String} {failed : Entries String}
    (perm : (succeeded ++ failed.keys).Perm names) (distinct : names.Nodup) :
    failed ≠ [] ∧ succeeded = [] ↔ names ≠ [] ∧ ∀ name ∈ names, name ∈ failed.keys := by
  constructor
  · -- Without successes, the names are those of the failures.
    rintro ⟨some, rfl⟩
    rw [List.nil_append] at perm
    refine ⟨fun none => some ?_, fun name hname => perm.mem_iff.mpr hname⟩
    rw [none] at perm
    exact List.map_eq_nil_iff.mp perm.eq_nil
  · rintro ⟨nonempty, lost⟩
    obtain ⟨name, hname⟩ := List.exists_mem_of_ne_nil names nonempty
    refine ⟨fun none => ?_, List.eq_nil_iff_forall_not_mem.mpr fun other hother => ?_⟩
    · have := lost name hname
      rw [none] at this
      exact List.not_mem_nil this
    · -- A success would be a failure as well.
      have apart := (List.nodup_append.mp (perm.nodup_iff.mpr distinct)).2.2
      exact apart other hother other
        (lost other (perm.mem_iff.mp (List.mem_append_left _ hother))) rfl

/-! ### The rounds of a training -/

variable {act : Act (Deployment σ α) β} {deployment after : Deployment σ α}

/-- What succeeds is reachable. -/
theorem outcome_reachable_ok {x : β} (h : act.outcome deployment = (.ok x, after)) :
    (reachable act).outcome deployment = (.ok (.ok x), after) := by
  rw [reachable, Act.outcome_bind_ok (Act.outcome_attempt _ _), h]
  rfl

/-- An outage is caught, and what is said about it is kept. -/
theorem outcome_reachable_outage {outage : Outage}
    (h : act.outcome deployment = (.error (.storeUnavailable outage), after)) :
    (reachable act).outcome deployment = (.ok (.error outage.message), after) := by
  rw [reachable, Act.outcome_bind_ok (Act.outcome_attempt _ _), h]
  rfl

/-- A loop that collects what it has reached and notes the outages is a round. -/
theorem outcome_collect {γ : Type} (act : ι → Act (Deployment σ α) β) (name : ι → String)
    (keep : ι → β → γ) (loop : List ι → Act (Deployment σ α) (List γ × Entries String))
    (nil : loop [] = pure ([], []))
    (cons : ∀ item rest, loop (item :: rest) = do
      let outcome ← reachable (act item)
      let (kept, failed) ← loop rest
      match outcome with
      | .ok x => return (keep item x :: kept, failed)
      | .error reason => return (kept, (name item, reason) :: failed))
    (items : List ι) (deployment : Deployment σ α)
    (only : OnlyOutages (Act.round act items deployment).1) :
    (loop items).outcome deployment
      = (.ok ((reached (Act.round act items deployment).1).map fun entry => keep entry.1 entry.2,
          outages name (Act.round act items deployment).1),
        (Act.round act items deployment).2) := by
  -- The loop is given by its equations, so one induction serves for all loops of this form.
  induction items generalizing deployment with
  | nil =>
    rw [nil]
    rfl
  | cons item items ih =>
    have rest := ih _ only.tail
    cases h : (act item).outcome deployment with
    | mk result after =>
    rw [Act.round, h] at only ⊢
    rw [h] at rest
    rw [cons]
    -- The loop looks at the result of a stop after the rest of the round.
    rcases only.head with ⟨x, rfl⟩ | ⟨outage, rfl⟩
    · rw [Act.outcome_bind_ok (outcome_reachable_ok h), Act.outcome_bind_ok rest]
      rfl
    · rw [Act.outcome_bind_ok (outcome_reachable_outage h), Act.outcome_bind_ok rest]
      rfl

/-- Resolving analyzers is a round of them. -/
theorem outcome_resolveAll (factories : Registry.Factories σ α) (names : List String)
    (deployment : Deployment σ α)
    (only : OnlyOutages (Act.round (Deployment.resolve factories) names deployment).1) :
    (resolveAll factories names).outcome deployment
      = (.ok (reached (Act.round (Deployment.resolve factories) names deployment).1,
          outages id (Act.round (Deployment.resolve factories) names deployment).1),
        (Act.round (Deployment.resolve factories) names deployment).2) := by
  -- What is left is to see the loop as a round that collects: name by name, an outage is noted and
  -- any other error ends it.
  have collected := outcome_collect (Deployment.resolve factories) id Prod.mk (resolveAll factories)
    rfl ?_ names deployment only
  · rwa [List.map_id'] at collected
  · intro name names
    rw [resolveAll]
    congr 1
    funext outcome
    cases outcome <;> rfl

/-- Teaches the strategy of one analyzer. -/
def teachOne (operation : Operation) (category text : Value) (entry : String × Instance σ α) :
    Act (Deployment σ α) Unit :=
  Deployment.onStores (operation.apply entry.2.strategy category text)

/-- Teaching strategies is a round of them. -/
theorem outcome_teachEach (operation : Operation) (category text : Value)
    (resolved : List (String × Instance σ α)) (deployment : Deployment σ α)
    (only : OnlyOutages (Act.round (teachOne operation category text) resolved deployment).1) :
    (teachEach operation category text resolved).outcome deployment
      = (.ok ((reached (Act.round (teachOne operation category text) resolved deployment).1).map
            (·.1.1),
          outages (·.1) (Act.round (teachOne operation category text) resolved deployment).1),
        (Act.round (teachOne operation category text) resolved deployment).2) := by
  refine outcome_collect (teachOne operation category text) (·.1) (fun entry _ => entry.1)
    (teachEach operation category text) rfl ?_ resolved deployment only
  intro entry resolved
  rw [teachEach]
  congr 1
  funext outcome
  cases outcome <;> rfl

end Service

end Moderation
