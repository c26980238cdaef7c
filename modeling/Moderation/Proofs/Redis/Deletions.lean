import Mathlib.Algebra.Ring.Int.Defs
import Moderation.Proofs.Redis.Batches
import Moderation.Rehearsal.Client

/-!
# `Moderation.Proofs.Redis.Deletions`: what is asked of a server while a scope is removed

The removal of a scope is followed through a script. The script can hold any replies, so it stands for
any client, and it records what was asked. `Plays` says which replies a session takes, what it asks and
how it ends. It has one rule for each way to make a session.

* `plays_deletions`: a batch for each reply, and the counts in the replies are added up.
* `plays_deletions_failed`: the first reply that is a failure ends the deletions.
* `clears_in_batches`: which batches are deleted if the scan and all deletions succeed, if the scan fails,
  and if a deletion fails. The removal is a fold over the batches that are due (`sweep_eq`), so the three
  cases only differ in the replies.
-/

set_option autoImplicit false

namespace Moderation.Redis

open Store Session Rehearsal

variable {β γ : Type}

/-! ### Sessions with a script -/

/-- Given the replies, a session asks the questions, in this order and no others, and comes to the
result. -/
def Plays (session : Session β) (replies : List Reply) (questions : List Question)
    (result : Except Error β) : Prop :=
  ∀ (later : List Reply) (asked : List Question),
    (client.run session).outcome ⟨replies ++ later, asked⟩ = (result, ⟨later, asked ++ questions⟩)

/-- What is given at once asks nothing. -/
theorem plays_pure (x : β) : Plays (pure x) [] [] (.ok x) := by
  intro later asked
  rw [List.append_nil]
  rfl

/-- A session that has succeeded is followed by another. -/
theorem Plays.bind {session : Session β} {f : β → Session γ} {replies replies' : List Reply}
    {questions questions' : List Question} {x : β} {result : Except Error γ}
    (h : Plays session replies questions (.ok x)) (h' : Plays (f x) replies' questions' result) :
    Plays (session >>= f) (replies ++ replies') (questions ++ questions') result := by
  intro later asked
  have first := h (replies' ++ later) asked
  have second := h' later (asked ++ questions)
  rw [List.append_assoc] at second ⊢
  rw [Client.run_bind]
  exact (Act.outcome_bind_ok first).trans second

/-- What asks nothing more changes nothing but the result. -/
theorem Plays.bind_silent {session : Session β} {f : β → Session γ} {replies : List Reply}
    {questions : List Question} {x : β} {result : Except Error γ}
    (h : Plays session replies questions (.ok x)) (silent : Plays (f x) [] [] result) :
    Plays (session >>= f) replies questions result := by
  have both := h.bind silent
  rwa [List.append_nil, List.append_nil] at both

/-- A session that has failed is the last. -/
theorem Plays.bind_error {session : Session β} {f : β → Session γ} {replies : List Reply}
    {questions : List Question} {e : Error} (h : Plays session replies questions (.error e)) :
    Plays (session >>= f) replies questions (.error e) := by
  intro later asked
  rw [Client.run_bind]
  exact Act.outcome_bind_error (h later asked)

/-! ### Replies and questions -/

/-- The reply to a scan. -/
def scanned (names : List Value) (failure? : Option Failure) : Reply :=
  ⟨.ok .null, some (finding names failure?)⟩

/-- The reply to a deletion: how many names it has removed, or how it has failed. -/
def answered (answer : Except Failure Int) : Reply := ⟨answer.map .int, none⟩

/-- The replies to deletions that have removed these numbers of names. -/
def counted (counts : List Int) : List Reply := counts.map fun n => answered (.ok n)

/-- The deletions of some batches, one after the other. -/
def deletions (parts : List (List Value)) : List Question :=
  parts.map fun part => .command (.delete part)

/-- A scan takes one reply, and finds what the reply holds. -/
theorem plays_scan (pattern : String) (batch : Value) (names : List Value)
    (failure? : Option Failure) :
    Plays (Session.scan pattern batch) [scanned names failure?] [.scan pattern batch]
      (.ok (finding names failure?)) :=
  fun _ _ => rfl

/-- A deletion takes one reply. Its count is added, or its failure is turned into an error. -/
theorem plays_deleteBatch (removed : Int) (part : List Value) (answer : Except Failure Int) :
    Plays (deleteBatch (.whole removed) part) [answered answer] (deletions [part])
      ((answer.map fun n => Number.whole (removed + n)).mapError (errorOf "DEL")) := by
  intro later asked
  cases answer <;> rfl

/-! ### Deletions -/

/-- All deletions are counted. -/
theorem plays_deletions {parts : List (List Value)} {counts : List Int}
    (each : counts.length = parts.length) (removed : Int) :
    Plays (parts.foldlM deleteBatch (.whole removed)) (counted counts) (deletions parts)
      (.ok (.whole (removed + counts.sum))) := by
  -- Each deletion has one reply, whose number is added to those before it.
  induction parts generalizing counts removed with
  | nil =>
    obtain rfl : counts = [] := List.length_eq_zero_iff.mp each
    rw [List.sum_nil, Int.add_zero]
    exact plays_pure _
  | cons part parts ih =>
    obtain ⟨n, counts, rfl⟩ := List.exists_cons_of_length_eq_add_one each
    rw [List.foldlM_cons, List.sum_cons, ← Int.add_assoc]
    exact (plays_deleteBatch removed part (.ok n)).bind (ih (Nat.succ.inj each) (removed + n))

/-- The first deletion that fails is the last. -/
theorem plays_deletions_failed {parts : List (List Value)} {counts : List Int}
    (more : counts.length < parts.length) (removed : Int) (failure : Failure) :
    Plays (parts.foldlM deleteBatch (.whole removed)) (counted counts ++ [answered (.error failure)])
      (deletions (parts.take (counts.length + 1))) (.error (errorOf "DEL" failure)) := by
  have before : counts.length = (parts.take counts.length).length := by
    rw [List.length_take]
    omega
  -- The deletions that are counted, the one that fails, and those that are not made.
  have cut : parts.foldlM deleteBatch (.whole removed)
      = (parts.take counts.length).foldlM deleteBatch (.whole removed) >>= fun sum =>
          deleteBatch sum parts[counts.length] >>= fun sum =>
            (parts.drop (counts.length + 1)).foldlM deleteBatch sum := by
    simp only [← List.foldlM_cons, ← List.foldlM_append, ← List.drop_eq_getElem_cons,
      List.take_append_drop]
  rw [cut, ← List.take_append_getElem more, deletions, List.map_append]
  exact (plays_deletions before removed).bind (plays_deleteBatch _ _ (.error failure)).bind_error

/-! ### The removal of a scope -/

/-- A scan that ends is done. -/
theorem plays_conclude_end (removed : Number) : Plays (conclude removed none) [] [] (.ok removed) :=
  plays_pure removed

/-- A connection problem or a timeout makes the store unavailable. -/
theorem errorOf_of_isOutage (operation : String) {failure : Failure}
    (outage : failure.kind.isOutage = true) :
    errorOf operation failure = .storeUnavailable (.command operation failure) :=
  if_pos outage

/-- A scan that fails so ends in the unavailable store. -/
theorem plays_conclude_failure (removed : Number) {failure : Failure}
    (outage : failure.kind.isOutage = true) :
    Plays (conclude removed (some failure)) [] []
      (.error (.storeUnavailable (.command "DEL" failure))) := by
  intro later asked
  rw [List.append_nil, ← errorOf_of_isOutage "DEL" outage]
  rfl

/-- After the scan, the batches that are due are deleted. -/
theorem plays_clear {size : Int} {scope : String} {names : List Value} {failure? : Option Failure}
    {replies : List Reply} {questions : List Question} {result : Except Error Number}
    (h : Plays ((due (capacity size) names failure?).foldlM deleteBatch (.whole 0)
      >>= (conclude · failure?)) replies questions result) :
    Plays (serve (.int size) (.clear scope)) (scanned names failure? :: replies)
      (.scan (scope ++ "*") (.int size) :: questions) result := by
  have swept := sweep_eq size names [] (.whole 0) failure? (capacity_pos size)
  rw [List.nil_append] at swept
  rw [← swept] at h
  exact (plays_scan (scope ++ "*") (.int size) names failure?).bind h

/-- Removing a scope deletes the scanned names in batches, of which all but the last are complete, and
counts what is removed. If the scan fails, the complete batches have been deleted, as many as the names
make. If a deletion fails, those before it have been made and none after it, whatever the scan would
still have found. In both cases the store is unavailable. -/
theorem clears_in_batches (size : Int) (scope : String) (names : List Value) :
    InBatches (capacity size) names (batches (capacity size) names)
    ∧ (∀ counts : List Int, counts.length = (batches (capacity size) names).length →
      Plays (serve (.int size) (.clear scope)) (scanned names none :: counted counts)
        (.scan (scope ++ "*") (.int size) :: deletions (batches (capacity size) names))
        (.ok (.whole counts.sum)))
    ∧ (∀ (counts : List Int) (failure : Failure), failure.kind.isOutage = true →
      counts.length = names.length / capacity size →
      ∃ complete, complete <+: batches (capacity size) names
        ∧ complete.length = names.length / capacity size
        ∧ (∀ part ∈ complete, part.length = capacity size)
        ∧ Plays (serve (.int size) (.clear scope)) (scanned names (some failure) :: counted counts)
          (.scan (scope ++ "*") (.int size) :: deletions complete)
          (.error (.storeUnavailable (.command "DEL" failure))))
    ∧ ∀ (ending : Option Failure) (counts : List Int) (failure : Failure),
      failure.kind.isOutage = true → counts.length < (due (capacity size) names ending).length →
      Plays (serve (.int size) (.clear scope))
        (scanned names ending :: (counted counts ++ [answered (.error failure)]))
        (.scan (scope ++ "*") (.int size)
          :: deletions ((batches (capacity size) names).take (counts.length + 1)))
        (.error (.storeUnavailable (.command "DEL" failure))) := by
  have pos := capacity_pos size
  -- The three cases differ in the replies: all deletions succeed and the scan ends, the scan fails
  -- behind its complete batches, or a deletion fails.
  refine ⟨inBatches_batches pos names, ?_, ?_, ?_⟩
  · intro counts each
    have deleted := plays_deletions each 0
    rw [Int.zero_add] at deleted
    exact plays_clear (deleted.bind_silent (plays_conclude_end _))
  · intro counts failure outage each
    have number := length_complete pos names
    refine ⟨_, List.take_prefix _ _, number, length_of_mem_complete pos names, ?_⟩
    have deleted := plays_deletions (each.trans number.symm) 0
    exact plays_clear (deleted.bind_silent (plays_conclude_failure _ outage))
  · intro ending counts failure outage more
    have failed := plays_deletions_failed more 0 failure
    rw [take_due more, errorOf_of_isOutage "DEL" outage] at failed
    exact plays_clear failed.bind_error

/-- Some names that a scan finds. -/
def fiveNames : List Value := ["p:a", "p:b", "p:c", "p:d", "p:e"].map .text

/-- A server that does not answer in time. -/
def tooSlow : Failure := ⟨.timeout, "Timeout reading from socket"⟩

/-- Five names are deleted in batches of two. Then the scan fails after the fifth name, and then the
second deletion fails. -/
theorem clears_in_batches_five :
    Plays (serve (.int 2) (.clear "p:")) (scanned fiveNames none :: counted [2, 2, 1])
        [.scan "p:*" (.int 2), .command (.delete [.text "p:a", .text "p:b"]),
          .command (.delete [.text "p:c", .text "p:d"]), .command (.delete [.text "p:e"])]
        (.ok (.whole 5))
      ∧ (∃ complete, complete.length = 2
        ∧ Plays (serve (.int 2) (.clear "p:")) (scanned fiveNames (some tooSlow) :: counted [2, 2])
          (.scan "p:*" (.int 2) :: deletions complete)
          (.error (.storeUnavailable (.command "DEL" tooSlow))))
      ∧ Plays (serve (.int 2) (.clear "p:"))
        [scanned fiveNames none, answered (.ok 2), answered (.error tooSlow)]
        [.scan "p:*" (.int 2), .command (.delete [.text "p:a", .text "p:b"]),
          .command (.delete [.text "p:c", .text "p:d"])]
        (.error (.storeUnavailable (.command "DEL" tooSlow))) := by
  obtain ⟨-, deleted, missed, refused⟩ := clears_in_batches 2 "p:" fiveNames
  -- Of five names two batches are complete when the scan fails.
  obtain ⟨complete, -, two, -, cut⟩ := missed [2, 2] tooSlow rfl rfl
  exact ⟨deleted [2, 2, 1] rfl, ⟨complete, two, cut⟩, refused none [2] tooSlow rfl (by decide)⟩

end Moderation.Redis
