/-!
# `Moderation.Proofs.Result`: results that may be errors

A computation in steps goes on with what a step has given, and ends at the first error. So what can be
said about its error can be said about the error of each step that it comes to (`FailsAs`).
-/

set_option autoImplicit false

namespace Moderation

variable {ι ε β γ : Type}

/-- What has succeeded goes on. -/
theorem ok_bind (x : β) (f : β → Except ε γ) : (Except.ok x >>= f) = f x := rfl

/-- What has succeeded in two steps has succeeded in each. -/
theorem ok_of_bind {result : Except ε β} {f : β → Except ε γ} {y : γ}
    (h : (result >>= f) = .ok y) : ∃ x, result = .ok x ∧ f x = .ok y := by
  cases result with
  | ok x => exact ⟨x, rfl, h⟩
  | error e => cases h

/-- What has a value has succeeded with it. -/
theorem ok_of_isSome {result : Except ε β} (h : result.toOption.isSome = true) :
    ∃ x, result = .ok x := by
  cases result with
  | ok x => exact ⟨x, rfl⟩
  | error e => cases h

/-- What is not refused had no reason to be. -/
theorem eq_false_of_ok {refused : Bool} {e : ε} {x y : β}
    (h : (if refused then Except.error e else .ok x) = .ok y) : refused = false := by
  cases refused with
  | false => rfl
  | true => cases h

/-- What has succeeded had no reason to fail. -/
theorem ok_of_unless {reason : Prop} [Decidable reason] {e : ε} {result : Except ε β} {y : β}
    (h : (if reason then (throw e : Except ε PUnit) >>= fun _ => result else result) = .ok y) :
    ¬ reason ∧ result = .ok y := by
  split at h
  · cases h
  · next no => exact ⟨no, h⟩

/-- Renaming errors does not make anything succeed. -/
theorem ok_of_mapError {ε' : Type} {result : Except ε β} {f : ε → ε'} {x : β}
    (h : result.mapError f = .ok x) : result = .ok x := by
  cases result with
  | ok y =>
    cases h
    rfl
  | error e => cases h

/-- What succeeds for every item of a list succeeds for the list. -/
theorem mapM_eq_ok {f : β → Except ε γ} {g : β → γ} {xs : List β}
    (h : ∀ x ∈ xs, f x = .ok (g x)) : xs.mapM f = .ok (xs.map g) := by
  induction xs with
  | nil => rfl
  | cons x rest ih =>
    rw [List.mapM_cons, h x (by simp), ih fun y hy => h y (by simp [hy])]
    rfl

/-- What can be done for every item of a list can be done for the list. -/
theorem exists_mapM_eq_ok {f : β → Except ε γ} {xs : List β} (h : ∀ x ∈ xs, ∃ y, f x = .ok y) :
    ∃ ys, xs.mapM f = .ok ys := by
  induction xs with
  | nil => exact ⟨[], rfl⟩
  | cons x rest ih =>
    rw [List.forall_mem_cons] at h
    obtain ⟨⟨y, hy⟩, hrest⟩ := h
    obtain ⟨ys, hys⟩ := ih hrest
    refine ⟨y :: ys, ?_⟩
    rw [List.mapM_cons, hy, hys]
    rfl

/-- What has been made of a list has been made of its items. -/
theorem exists_of_mem_mapM {f : β → Except ε γ} {xs : List β} {ys : List γ}
    (h : xs.mapM f = .ok ys) : ∀ y ∈ ys, ∃ x ∈ xs, f x = .ok y := by
  induction xs generalizing ys with
  | nil =>
    cases h
    exact nofun
  | cons x rest ih =>
    rw [List.mapM_cons] at h
    obtain ⟨first, made, h⟩ := ok_of_bind h
    obtain ⟨others, behind, h⟩ := ok_of_bind h
    cases h
    refine List.forall_mem_cons.mpr ⟨⟨x, List.mem_cons_self, made⟩, fun y member => ?_⟩
    obtain ⟨item, among, made⟩ := ih behind y member
    exact ⟨item, List.mem_cons_of_mem x among, made⟩

/-! ### Errors of one kind -/

/-- A result that, if it is an error, is one of a kind. -/
def FailsAs (kind : ε → Prop) (result : Except ε β) : Prop := ∀ e, result = .error e → kind e

section

variable {kind : ε → Prop}

/-- What has succeeded is no error. -/
theorem failsAs_ok (x : β) : FailsAs kind (.ok x) := nofun

/-- An error is of the kind or not. -/
theorem failsAs_error_iff (e : ε) : FailsAs kind (.error e : Except ε β) ↔ kind e := by
  constructor
  · exact fun h => h e rfl
  · intro h other same
    exact Except.error.inj same ▸ h

/-- A first step and what follows it. -/
theorem failsAs_bind_iff {result : Except ε β} {f : β → Except ε γ} :
    FailsAs kind (result >>= f) ↔ FailsAs kind result ∧ ∀ x, result = .ok x → FailsAs kind (f x) := by
  cases result with
  | ok x =>
    rw [ok_bind]
    exact ⟨fun h => ⟨failsAs_ok x, fun _ same => Except.ok.inj same ▸ h⟩, fun h => h.2 x rfl⟩
  | error e =>
    have stops : (Except.error e >>= f) = .error e := rfl
    rw [stops, failsAs_error_iff, failsAs_error_iff]
    exact ⟨fun h => ⟨h, nofun⟩, fun h => h.1⟩

/-- What is made of a result leaves its error. -/
theorem failsAs_map_iff {result : Except ε β} (f : β → γ) :
    FailsAs kind (f <$> result) ↔ FailsAs kind result := by
  cases result with
  | ok x => exact iff_of_true (failsAs_ok _) (failsAs_ok x)
  | error e => exact (failsAs_error_iff e).trans (failsAs_error_iff e).symm

/-- What is only done if there is no reason to fail. -/
theorem failsAs_unless_iff {reason : Prop} [Decidable reason] {e : ε} {result : Except ε β} :
    FailsAs kind (if reason then (throw e : Except ε PUnit) >>= fun _ => result else result)
      ↔ (reason → kind e) ∧ (¬ reason → FailsAs kind result) := by
  by_cases h : reason
  · rw [if_pos h]
    exact (failsAs_error_iff e).trans ⟨fun he => ⟨fun _ => he, fun no => absurd h no⟩, fun he => he.1 h⟩
  · rw [if_neg h]
    exact ⟨fun hr => ⟨fun yes => absurd yes h, fun _ => hr⟩, fun hr => hr.2 h⟩

/-- The items of a list are read one after the other up to the first error. -/
theorem failsAs_mapM_iff {f : ι → Except ε β} {items : List ι} :
    FailsAs kind (items.mapM f) ↔ ∀ before item after, items = before ++ item :: after →
      (∀ earlier ∈ before, ∃ x, f earlier = .ok x) → FailsAs kind (f item) := by
  -- The first item is read before the others, which are read only if it succeeds.
  induction items with
  | nil => exact iff_of_true (failsAs_ok []) fun before _ _ same => by simp at same
  | cons first rest ih =>
    rw [List.mapM_cons, failsAs_bind_iff]
    constructor
    · rintro ⟨head, tail⟩ before item after same read
      cases before with
      | nil =>
        cases same
        exact head
      | cons earlier before =>
        cases same
        obtain ⟨x, hx⟩ := read first List.mem_cons_self
        exact ih.mp (failsAs_bind_iff.mp (tail x hx)).1 before item after rfl
          fun earlier h => read earlier (List.mem_cons_of_mem _ h)
    · intro h
      refine ⟨h [] first rest rfl nofun, fun x hx => ?_⟩
      rw [failsAs_bind_iff]
      refine ⟨ih.mpr fun before item after same read => ?_, fun _ _ => failsAs_ok _⟩
      refine h (first :: before) item after (congrArg (first :: ·) same) fun earlier hearlier => ?_
      rcases List.mem_cons.mp hearlier with rfl | hearlier
      · exact ⟨x, hx⟩
      · exact read earlier hearlier

/-- The items of a list are worked through one after the other up to the first error, each with what
those before it have led to. -/
theorem failsAs_foldlM_iff {f : β → ι → Except ε β} {items : List ι} {start : β} :
    FailsAs kind (items.foldlM f start) ↔ ∀ before item after x, items = before ++ item :: after →
      before.foldlM f start = .ok x → FailsAs kind (f x item) := by
  -- The items behind the first one are worked through from what it has led to.
  induction items generalizing start with
  | nil => exact iff_of_true (failsAs_ok start) fun before _ _ _ same => by simp at same
  | cons first rest ih =>
    rw [List.foldlM_cons, failsAs_bind_iff]
    constructor
    · rintro ⟨head, tail⟩ before item after x same led
      cases before with
      | nil =>
        cases same
        cases led
        exact head
      | cons earlier before =>
        cases same
        rw [List.foldlM_cons] at led
        obtain ⟨y, hy, led⟩ := ok_of_bind led
        exact ih.mp (tail y hy) before item after x rfl led
    · intro h
      refine ⟨h [] first rest start rfl rfl, fun y hy => ih.mpr fun before item after x same led => ?_⟩
      refine h (first :: before) item after x (congrArg (first :: ·) same) ?_
      rw [List.foldlM_cons, hy]
      exact led

end

end Moderation
