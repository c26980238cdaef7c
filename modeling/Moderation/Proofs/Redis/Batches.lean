import Moderation.Proofs.Redis.Shielding

/-!
# `Moderation.Proofs.Redis.Batches`: a scan deletes its names in batches

A scan goes from name to name and keeps those that it has not deleted yet. This is the same as first
cutting all names into batches (`batches`) and then deleting batch after batch. The cut is said in one
line, and `InBatches` says what is expected of it.

* `inBatches_batches`: the batches are the names in order, and all but the last are complete.
* `length_complete` and `length_of_mem_complete`: how many of the batches are complete.
* `sweep_eq`: a scan is a fold over the batches that are due, for every client. If the scan fails, the
  names of a batch that is not complete are not deleted, so it is due only if the scan ends (`due`).
-/

set_option autoImplicit false

namespace Moderation.Redis

open Session

/-! ### Batches -/

section

variable {α : Type} {size : Nat}

/-- A list in batches of `size`. The last may be smaller. -/
def batches (size : Nat) (names : List α) : List (List α) :=
  (List.range ((names.length + size - 1) / size)).map fun i => (names.drop (i * size)).take size

/-- The parts, one after the other, are the list. None of them is empty or larger than `size`, and
none but the last is smaller. -/
structure InBatches (size : Nat) (names : List α) (parts : List (List α)) : Prop where
  flatten : parts.flatten = names
  nonempty : ∀ part ∈ parts, part ≠ []
  full : ∀ part ∈ parts.dropLast, part.length = size
  atMost : ∀ part ∈ parts, part.length ≤ size

/-- No names make no batch. -/
theorem batches_nil (pos : 0 < size) : batches size ([] : List α) = [] := by
  have none : (0 + size - 1) / size = 0 := Nat.div_eq_of_lt (by omega)
  rw [batches, List.length_nil, none]
  rfl

/-- The cut does not look at the names. -/
theorem batches_map {β : Type} (f : α → β) (names : List α) :
    batches size (names.map f) = (batches size names).map (·.map f) := by
  simp [batches, List.map_drop, List.map_take]

/-- A complete batch stands in front of the others. -/
theorem batches_append {batch : List α} (pos : 0 < size) (complete : batch.length = size)
    (names : List α) : batches size (batch ++ names) = batch :: batches size names := by
  -- The number of batches is rounded up, so one name more than `size` begins another.
  have count : ((batch ++ names).length + size - 1) / size = (names.length + size - 1) / size + 1 := by
    rw [← Nat.add_div_right _ pos, List.length_append, complete]
    congr 1
    omega
  have later (i : Nat) : (batch ++ names).drop ((i + 1) * size) = names.drop (i * size) := by
    rw [Nat.succ_mul, Nat.add_comm, ← List.drop_drop, List.drop_left' complete]
  rw [batches, count, List.range_succ_eq_map, List.map_cons, List.map_map]
  congr 1
  · rw [Nat.zero_mul, List.drop_zero, List.take_left' complete]
  · refine List.map_congr_left fun i _ => ?_
    rw [Function.comp_apply, Nat.succ_eq_add_one, later]

/-- What fits into one batch is one batch. -/
theorem batches_of_le {batch : List α} (nonempty : batch ≠ []) (fits : batch.length ≤ size) :
    batches size batch = [batch] := by
  have pos : 0 < batch.length := List.length_pos_iff.mpr nonempty
  have one : (batch.length + size - 1) / size = 1 := by
    rw [Nat.div_eq_iff (by omega)]
    omega
  simp [batches, one, List.take_of_length_le fits]

/-- A complete batch may be put in front. -/
theorem InBatches.cons {batch names : List α} {parts : List (List α)} (pos : 0 < size)
    (complete : batch.length = size) (h : InBatches size names parts) :
    InBatches size (batch ++ names) (batch :: parts) where
  flatten := by rw [List.flatten_cons, h.flatten]
  nonempty := by
    rw [List.forall_mem_cons]
    refine ⟨?_, h.nonempty⟩
    rintro rfl
    simp only [List.length_nil] at complete
    omega
  full := by
    -- The batch in front is full, so it may be the last one or not.
    cases parts with
    | nil => simp
    | cons next parts =>
      rw [List.dropLast_cons_cons, List.forall_mem_cons]
      exact ⟨complete, h.full⟩
  atMost := by
    rw [List.forall_mem_cons]
    exact ⟨Nat.le_of_eq complete, h.atMost⟩

/-- The names are cut into batches as is expected. -/
theorem inBatches_batches (pos : 0 < size) (names : List α) :
    InBatches size names (batches size names) := by
  -- By the length of the list: without its first batch it is shorter.
  induction h : names.length using Nat.strongRecOn generalizing names with
  | ind n ih =>
    by_cases empty : names = []
    · rw [empty, batches_nil pos]
      exact ⟨rfl, by simp, by simp, by simp⟩
    by_cases fits : names.length ≤ size
    · rw [batches_of_le empty fits]
      exact ⟨by simp, by simpa using empty, by simp, by simpa using fits⟩
    have complete : (names.take size).length = size := by
      rw [List.length_take]
      omega
    have shorter : (names.drop size).length < n := by
      rw [List.length_drop]
      omega
    rw [← List.take_append_drop size names, batches_append pos complete]
    exact (ih _ shorter _ rfl).cons pos complete

/-- There is a complete batch for each time that the list has `size` names. -/
theorem length_complete (pos : 0 < size) (names : List α) :
    ((batches size names).take (names.length / size)).length = names.length / size := by
  have le : names.length / size ≤ (names.length + size - 1) / size :=
    Nat.div_le_div_right (by omega)
  rw [List.length_take, batches, List.length_map, List.length_range, Nat.min_eq_left le]

/-- Those are the first, and each of them has `size` names. -/
theorem length_of_mem_complete (pos : 0 < size) (names : List α) :
    ∀ part ∈ (batches size names).take (names.length / size), part.length = size := by
  intro part member
  obtain ⟨i, hi, rfl⟩ := List.mem_iff_getElem.mp member
  have before : i < names.length / size := by
    rw [length_complete pos] at hi
    exact hi
  have enough : (i + 1) * size ≤ names.length := (Nat.le_div_iff_mul_le pos).mp before
  simp only [List.getElem_take, batches, List.getElem_map, List.getElem_range, List.length_take,
    List.length_drop]
  rw [Nat.succ_mul] at enough
  omega

end

/-! ### The deletions of a scan -/

/-- What a scan finds that comes to some names, and then ends or fails. -/
def finding (names : List Value) (failure? : Option Failure) : List (Except Failure Value) :=
  names.map .ok ++ (failure?.map .error).toList

/-- What a scan deletes: the names in batches. If it fails, the last batch has to be complete. -/
def due (size : Nat) (names : List Value) : Option Failure → List (List Value)
  | none => batches size names
  | some _ => (batches size names).take (names.length / size)

/-- What a scan comes to after its deletions. -/
def conclude (removed : Number) : Option Failure → Session Number
  | none => return removed
  | some failure => throw (errorOf "DEL" failure)

/-- The number of names in a complete batch. Each batch has a name, whatever `size` is. -/
def capacity (size : Int) : Nat := (max 1 size).toNat

/-- Each batch has a name. -/
theorem capacity_pos (size : Int) : 0 < capacity size := by
  rw [capacity]
  omega

/-- A complete batch is due first, however the scan ends. -/
theorem due_append {size : Nat} {batch : List Value} (pos : 0 < size)
    (complete : batch.length = size) (names : List Value) (failure? : Option Failure) :
    due size (batch ++ names) failure? = batch :: due size names failure? := by
  cases failure? with
  | none => exact batches_append pos complete names
  | some failure =>
    have count : (batch ++ names).length / size = names.length / size + 1 := by
      rw [List.length_append, complete, Nat.add_comm, Nat.add_div_right _ pos]
    rw [due, due, batches_append pos complete, count, List.take_succ_cons]

/-- What is due first does not depend on how the scan ends. -/
theorem take_due {size : Nat} {names : List Value} {failure? : Option Failure} {n : Nat}
    (more : n < (due size names failure?).length) :
    (due size names failure?).take (n + 1) = (batches size names).take (n + 1) := by
  cases failure? with
  | none => rfl
  | some failure =>
    rw [due, List.length_take] at more
    rw [due, List.take_take]
    congr 1
    omega

/-- The batch is deleted with the name that completes it. -/
theorem sweep_cons (size : Int) (batch : List Value) (removed : Number) (key : Value)
    (rest : List (Except Failure Value)) :
    sweep (.int size) batch removed (.ok key :: rest)
      = if capacity size ≤ (batch ++ [key]).length then
          deleteBatch removed (batch ++ [key]) >>= fun sum => sweep (.int size) [] sum rest
        else sweep (.int size) (batch ++ [key]) removed rest := by
  -- A size below one is reached by the first name as well.
  have reached : size ≤ (batch ++ [key]).length ↔ capacity size ≤ (batch ++ [key]).length := by
    rw [capacity, List.length_append, List.length_singleton]
    omega
  have known : Session.ofExcept (isComplete (.int size) (batch ++ [key]).length)
      = pure (decide (capacity size ≤ (batch ++ [key]).length)) := by
    rw [← decide_eq_decide.mpr reached, ← Number.le_whole]
    rfl
  rw [sweep, known, pure_bind]
  simp only [decide_eq_true_eq]

/-- A scan deletes the batches that are due, one after the other. -/
theorem sweep_eq (size : Int) (names batch : List Value) (removed : Number)
    (failure? : Option Failure) (fits : batch.length < capacity size) :
    sweep (.int size) batch removed (finding names failure?)
      = (due (capacity size) (batch ++ names) failure?).foldlM deleteBatch removed
          >>= (conclude · failure?) := by
  -- The induction is on the names to come. A complete batch is deleted at once, so the invariant is
  -- that the batch at hand has room.
  induction names generalizing batch removed with
  | nil =>
    rw [List.append_nil]
    cases failure? with
    | none =>
      -- What is left is a last batch, or nothing.
      cases batch with
      | nil =>
        rw [due, batches_nil (capacity_pos size)]
        rfl
      | cons key batch =>
        rw [due, batches_of_le (by simp) (Nat.le_of_lt fits)]
        simp [finding, sweep, conclude]
    | some failure =>
      have nothing : due (capacity size) batch (some failure) = [] := by
        simp [due, Nat.div_eq_of_lt fits]
      rw [nothing]
      rfl
  | cons key names ih =>
    have next : finding (key :: names) failure? = .ok key :: finding names failure? := rfl
    have grown : batch ++ key :: names = (batch ++ [key]) ++ names := by simp
    rw [next, sweep_cons, grown]
    split
    · next complete =>
      have full : (batch ++ [key]).length = capacity size := by
        rw [List.length_append, List.length_singleton] at complete ⊢
        omega
      rw [due_append (capacity_pos size) full, List.foldlM_cons, bind_assoc]
      congr 1
      funext sum
      exact ih [] sum (capacity_pos size)
    · next incomplete => exact ih _ removed (Nat.lt_of_not_le incomplete)

/-- A scan that ends deletes all batches of its names. -/
theorem sweep_names (size : Int) (names : List String) (removed : Number) :
    sweep (.int size) [] removed (names.map fun name => .ok (.text name))
      = ((batches (capacity size) names).map (·.map .text)).foldlM deleteBatch removed := by
  have swept := sweep_eq size (names.map .text) [] removed none (capacity_pos size)
  rw [List.nil_append, due, batches_map] at swept
  simpa [finding, conclude, Function.comp_def] using swept

end Moderation.Redis
