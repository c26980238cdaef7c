import Moderation.Proofs.Entries
import Moderation.Proofs.Redis.Batches
import Moderation.Proofs.Redis.Glob
import Moderation.Proofs.Redis.SteadyServer

/-!
# `Moderation.Proofs.Redis.Clearing`: what the removal of a scope removes

A store on a server removes a scope in batches. It asks the server for the names that fit a pattern,
the scope and a star, and deletes them as they come. The server is any whose client keeps each name
once (`Client.KeepsNames`): it finds the names that fit a pattern in any order, and counts what it
deletes.

* `outcome_sweep`: all names that were found are deleted and counted, whatever the size of a batch. The
  induction is on the batches to come, and the invariant is that their names are still held.
* `outcome_clear`: so a scope is removed with the names that fit its pattern, and all others are kept.
* `clears_scope` compares this with a store in memory, which removes the names that begin with the
  scope. The two agree if and only if each name that is held fits the pattern exactly if it begins with
  the scope. They agree on all names if and only if the scope has none of the characters that mean
  something in a pattern (`Glob.fits_scope_iff`).
-/

set_option autoImplicit false

namespace Moderation.Redis

open Store Session

variable {σ : Type}

/-- The client of a server that keeps each name once. A scan finds the names that fit its pattern, in
any order, and a deletion removes its names and counts those that were there. -/
structure Client.KeepsNames (client : Client σ) : Prop where
  scan : ∀ state pattern batch, (client.content state).keys.Nodup →
    ∃ (names : List String) (after : σ), (client.answer (.scan pattern batch)).run state
        = (some (names.map fun name => .ok (.text name)), after)
      ∧ names.Perm ((client.content state).keys.filter (Glob.fits pattern))
      ∧ client.content after = client.content state
  delete : ∀ state (names : List String), (client.content state).keys.Nodup → ∃ after : σ,
    (client.answer (.command (.delete (names.map .text)))).run state
        = (.ok (.int (names.dedup.countP (client.content state).has)), after)
      ∧ client.content after = (client.content state).without names

/-! ### Batches -/

/-- A session is given the names that the client finds. -/
theorem Client.outcome_scan {client : Client σ} {pattern : String} {batch : Value} {state after : σ}
    {names : List (Except Failure Value)}
    (h : (client.answer (.scan pattern batch)).run state = (some names, after)) :
    (client.run (Session.scan pattern batch)).outcome state = (.ok names, after) := by
  have found : ((client.answer (.scan pattern batch)).run state).1 = some names :=
    congrArg Prod.fst h
  have next : ((client.answer (.scan pattern batch)).run state).2 = after := congrArg Prod.snd h
  -- A scan is one question, and its answer is passed on.
  have asked : (client.run (ExceptT.lift (Dialogue.question (Question.scan pattern batch)))).outcome
      state = (.ok (some names), after) := by
    rw [← found, ← next]
    rfl
  rw [Session.scan, Client.run_bind, Act.outcome_bind_ok asked]
  rfl

namespace Client.KeepsNames

variable {client : Client σ} (h : client.KeepsNames)
include h

/-- A batch of names that are held is removed and counted in full. -/
theorem outcome_deleteBatch (removed : Int) (names : List String) (state : σ)
    (distinct : (client.content state).keys.Nodup) (once : names.Nodup)
    (held : ∀ name ∈ names, (client.content state).has name = true) : ∃ after,
      (client.run (deleteBatch (.whole removed) (names.map .text))).outcome state
          = (.ok (.whole (removed + names.length)), after)
        ∧ client.content after = (client.content state).without names := by
  obtain ⟨after, answered, left⟩ := h.delete state names distinct
  refine ⟨after, ?_, left⟩
  -- The client counts the names that it holds, each once: these are all of them.
  rw [once.dedup, List.countP_eq_length.mpr held] at answered
  have told : client.told state (.delete (names.map .text)) = .ok (.int names.length) :=
    congrArg Prod.fst answered
  have next : client.after state (.delete (names.map .text)) = after := congrArg Prod.snd answered
  rw [deleteBatch, send, bind_assoc, Client.outcome_attempt_bind, told, next]
  rfl

/-- All names of some batches are removed and counted. -/
theorem outcome_deleteBatches (removed : Int) (parts : List (List String)) (state : σ)
    (distinct : (client.content state).keys.Nodup) (once : parts.flatten.Nodup)
    (held : ∀ name ∈ parts.flatten, (client.content state).has name = true) : ∃ after,
      (client.run ((parts.map (·.map .text)).foldlM deleteBatch (.whole removed))).outcome state
          = (.ok (.whole (removed + parts.flatten.length)), after)
        ∧ client.content after = (client.content state).without parts.flatten := by
  -- The count and the content change from one batch to the next. The names to come are still held.
  induction parts generalizing removed state with
  | nil =>
    refine ⟨state, ?_, by simp [Entries.without]⟩
    rw [List.flatten_nil, List.length_nil, Int.natCast_zero, Int.add_zero]
    rfl
  | cons part parts ih =>
    rw [List.flatten_cons] at once held ⊢
    obtain ⟨oncePart, onceParts, apart⟩ := List.nodup_append.mp once
    obtain ⟨heldPart, heldParts⟩ := List.forall_mem_append.mp held
    obtain ⟨between, deleted, left⟩ :=
      h.outcome_deleteBatch removed part state distinct oncePart heldPart
    have distinct' : (client.content between).keys.Nodup :=
      left ▸ Entries.nodup_keys_without distinct _
    have held' : ∀ name ∈ parts.flatten, (client.content between).has name = true := by
      intro name member
      rw [left, Entries.has_without _ fun earlier => apart name earlier name member rfl]
      exact heldParts name member
    obtain ⟨after, others, left'⟩ := ih (removed + part.length) between distinct' onceParts held'
    refine ⟨after, ?_, ?_⟩
    · rw [List.map_cons, List.foldlM_cons, Client.run_bind, Act.outcome_bind_ok deleted, others,
        Int.add_assoc, ← Int.natCast_add, ← List.length_append]
    · rw [left', left, ← Entries.without_append]

/-- All names of a scan are removed and counted, whatever the size of a batch. -/
theorem outcome_sweep (size : Int) (names : List String) (state : σ)
    (distinct : (client.content state).keys.Nodup) (once : names.Nodup)
    (held : ∀ name ∈ names, (client.content state).has name = true) :
    ∃ after, (client.run (sweep (.int size) [] (.whole 0)
          (names.map fun name => .ok (.text name)))).outcome state = (.ok (.whole names.length), after)
      ∧ client.content after = (client.content state).without names := by
  have whole := (inBatches_batches (capacity_pos size) names).flatten
  obtain ⟨after, deleted, left⟩ := h.outcome_deleteBatches 0 (batches (capacity size) names) state
    distinct (whole.symm ▸ once) (whole.symm ▸ held)
  rw [whole] at deleted left
  refine ⟨after, ?_, left⟩
  rw [sweep_names, deleted, Int.zero_add]

/-- A scope is removed with the names that fit its pattern. -/
theorem outcome_clear (id : Nat) (size : Int) (scope : String) (state : σ)
    (distinct : (client.content state).keys.Nodup) : ∃ after,
      ((store id client (.int size)).answer (.clear scope)).outcome state
          = (.ok (.whole ((client.content state).keys.countP (Glob.fits (scope ++ "*")))), after)
        ∧ client.content after
          = (client.content state).filter fun entry => !Glob.fits (scope ++ "*") entry.1 := by
  obtain ⟨names, between, answered, found, same⟩ :=
    h.scan state (scope ++ "*") (.int size) distinct
  have member (name : String) : name ∈ names
      ↔ name ∈ (client.content state).keys ∧ Glob.fits (scope ++ "*") name = true :=
    found.mem_iff.trans List.mem_filter
  -- The names that were scanned are all there, each once, so each of them counts as deleted.
  obtain ⟨after, swept, left⟩ := h.outcome_sweep size names between (same ▸ distinct)
    (found.nodup_iff.mpr (distinct.filter _)) fun name hname => by
      rw [same, Entries.has_iff]
      exact ((member name).mp hname).1
  refine ⟨after, ?_, ?_⟩
  · rw [found.length_eq, ← List.countP_eq_length_filter] at swept
    show (client.run (Session.scan (scope ++ "*") (.int size)
      >>= sweep (.int size) [] (.whole 0))).outcome state = _
    rw [Client.run_bind, Act.outcome_bind_ok (Client.outcome_scan answered)]
    exact swept
  · rw [left, same, Entries.without]
    refine List.filter_congr fun entry hentry => ?_
    have listed : entry.1 ∈ (client.content state).keys := List.mem_map.mpr ⟨entry, hentry, rfl⟩
    simp [member, listed]

end Client.KeepsNames

/-! ### Beside a store in memory -/

/-- The removal of a scope has the reply and leaves the content that it has and leaves in memory. -/
def Client.ClearsAsMemory (client : Client σ) (id : Nat) (size : Int) (scope : String) (state : σ) :
    Prop :=
  (((store id client (.int size)).answer (.clear scope)).outcome state).1
      = .ok (Memory.answer (client.content state) (.clear scope)).1
    ∧ client.content (((store id client (.int size)).answer (.clear scope)).outcome state).2
      = (Memory.answer (client.content state) (.clear scope)).2

/-- The removal is that of a store in memory if and only if it meets the same names. Both leave a
part of the content, so the names that are left tell the ones that were met. -/
theorem Client.KeepsNames.clearsAsMemory_iff {client : Client σ} (h : client.KeepsNames) (id : Nat)
    (size : Int) (scope : String) (state : σ) (distinct : (client.content state).keys.Nodup) :
    client.ClearsAsMemory id size scope state ↔ ∀ name ∈ (client.content state).keys,
      Glob.fits (scope ++ "*") name = Memory.inScope scope name := by
  obtain ⟨after, cleared, left⟩ := h.outcome_clear id size scope state distinct
  rw [ClearsAsMemory, cleared, left]
  constructor
  · rintro ⟨-, same⟩ name member
    obtain ⟨entry, hentry, rfl⟩ := List.mem_map.mp member
    have kept := congrArg (entry ∈ ·) same
    simp only [Memory.answer, Memory.clear, List.mem_filter, hentry, true_and, eq_iff_iff] at kept
    exact Bool.not_inj (Bool.eq_iff_iff.mpr kept)
  · intro exact
    have same : ((client.content state).filter fun entry => !Glob.fits (scope ++ "*") entry.1)
        = Memory.clear (client.content state) scope :=
      List.filter_congr fun entry hentry => by rw [exact _ (List.mem_map.mpr ⟨entry, hentry, rfl⟩)]
    refine ⟨?_, same⟩
    -- The names that fit and those that are kept are all that there are.
    have parts := List.length_eq_length_filter_add (l := client.content state)
      fun entry => Glob.fits (scope ++ "*") entry.1
    rw [same, ← List.countP_eq_length_filter] at parts
    show (Except.ok (Number.whole _) : Except Error Number) = .ok (.whole (_ - _))
    rw [parts, Entries.keys, List.countP_map, Int.natCast_add, Int.add_sub_cancel]
    rfl

/-- Removing a scope removes the names that fit its pattern and tells their number. That is what a
store in memory does if and only if no name is held that fits without beginning with the scope, or
begins with it without fitting; and it is so for all names if and only if the scope has no character
that means something in a pattern. -/
theorem clears_scope {client : Client σ} (h : client.KeepsNames) (id : Nat) (size : Int)
    (scope : String) :
    (∀ state, (client.content state).keys.Nodup →
      (∃ after, ((store id client (.int size)).answer (.clear scope)).outcome state
            = (.ok (.whole ((client.content state).keys.countP (Glob.fits (scope ++ "*")))), after)
          ∧ client.content after
            = (client.content state).filter fun entry => !Glob.fits (scope ++ "*") entry.1)
        ∧ (client.ClearsAsMemory id size scope state ↔ ∀ name ∈ (client.content state).keys,
            Glob.fits (scope ++ "*") name = Memory.inScope scope name))
      ∧ ((∀ name, Glob.fits (scope ++ "*") name = Memory.inScope scope name)
        ↔ ∀ c ∈ Glob.special, c ∉ scope.toList) :=
  ⟨fun state distinct => ⟨h.outcome_clear id size scope state distinct,
    h.clearsAsMemory_iff id size scope state distinct⟩, Glob.fits_scope_iff scope⟩

/-! ### A server -/

/-- A server that never fails and knows patterns. -/
def SteadyServer.searching : SteadyServer := { SteadyServer.inDecimal with fits := Glob.fits }

/-- Such a server keeps each name once: its content is a table. -/
theorem SteadyServer.keepsNames_searching : searching.client.KeepsNames where
  scan content pattern _ _ :=
    ⟨content.keys.filter (Glob.fits pattern), content, rfl, List.Perm.refl _, rfl⟩
  delete content names distinct := by
    -- Names are compared by the texts that are sent.
    have left : (content.filter fun entry => !(names.map Value.text).any (·.display = entry.1))
        = content.without names := by
      refine List.filter_congr fun entry _ => ?_
      rw [List.any_map, Bool.eq_iff_iff, Bool.not_eq_true', List.any_eq_false, decide_eq_true_iff]
      constructor
      · exact fun none member => none _ member (decide_eq_true rfl)
      · exact fun none name member same => none (of_decide_eq_true same ▸ member)
    refine ⟨content.without names, ?_, rfl⟩
    show (Except.ok (Value.int (content.length - (content.filter _).length)), content.filter _) = _
    rw [left, ← Entries.countP_has content distinct]
    rfl

/-- Of two analyzers on one server, one is reset. -/
theorem clears_scope_bayes :
    SteadyServer.searching.client.ClearsAsMemory 0 500 "decidim_ai:bayes:"
      [("decidim_ai:bayes:vocsize", 1), ("decidim_ai:mail:vocsize", 2)] := by
  obtain ⟨states, names⟩ :=
    clears_scope SteadyServer.keepsNames_searching 0 500 "decidim_ai:bayes:"
  exact (states _ (by decide)).2.mpr fun name _ => names.mpr (by simp [Glob.special]) name

/-- An analyzer whose name has a star takes the counters of others with it. -/
theorem not_clears_scope_star : ¬ ∀ client : Client (Entries Int), client.KeepsNames →
    ∀ (id : Nat) (size : Int), 1 ≤ size → ∀ scope state, (client.content state).keys.Nodup →
      client.ClearsAsMemory id size scope state := by
  intro clears
  have wrong := clears _ SteadyServer.keepsNames_searching 0 500 (by decide) "decidim_ai:a*:"
    [("decidim_ai:a*:vocsize", 1), ("decidim_ai:ab:vocsize", 2)] (by decide)
  rw [SteadyServer.keepsNames_searching.clearsAsMemory_iff _ _ _ _ (by decide)] at wrong
  have other := wrong "decidim_ai:ab:vocsize" (by decide)
  revert other
  decide +kernel

end Moderation.Redis
