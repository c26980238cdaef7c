/-!
# `Moderation.Text.Ranges`: sets of code points as ascending ranges

A character class of Unicode is a set of code points. It is written as the list of its maximal
ranges, ascending and disjoint, so that a search can stop at the first range that lies above
the code point.

* `Ranges.has_eq_true_iff` is the meaning of the search on ascending ranges.
-/

set_option autoImplicit false

namespace Moderation.Text

/-- Closed ranges of code points, ascending and disjoint. -/
abbrev Ranges := List (Nat × Nat)

namespace Ranges

/-- The first end of the range that holds `n`. The search stops at the first range above
`n`. -/
def start? : Ranges → Nat → Option Nat
  | [], _ => none
  | (lo, hi) :: rest, n =>
    if n < lo then none else if n ≤ hi then some lo else start? rest n

/-- Whether some range holds `n`. -/
def has (ranges : Ranges) (n : Nat) : Bool := (ranges.start? n).isSome

/-- Each range lies above the one before it. -/
def Ascending : Ranges → Prop
  | [] => True
  | [(lo, hi)] => lo ≤ hi
  | (lo, hi) :: (lo', hi') :: rest =>
    lo ≤ hi ∧ hi < lo' ∧ Ascending ((lo', hi') :: rest)

/-- The ranges are searched in order, and a number below one of them is in none behind it. -/
theorem has_cons (lo hi : Nat) (rest : Ranges) (n : Nat) :
    has ((lo, hi) :: rest) n = if n < lo then false else if n ≤ hi then true else has rest n := by
  rw [has, start?]
  split
  · rfl
  · split <;> rfl

/-- No range of an ascending list is empty. -/
theorem Ascending.first_le_last {lo hi : Nat} {rest : Ranges}
    (h : Ascending ((lo, hi) :: rest)) : lo ≤ hi := by
  cases rest with
  | nil => exact h
  | cons _ _ => exact h.1

/-- The rest of an ascending list is ascending. -/
theorem Ascending.tail {range : Nat × Nat} {rest : Ranges} (h : Ascending (range :: rest)) :
    Ascending rest := by
  cases rest with
  | nil => trivial
  | cons _ _ => exact h.2.2

/-- Every range is above all those before it. -/
theorem Ascending.last_lt {lo hi : Nat} {rest : Ranges} (h : Ascending ((lo, hi) :: rest))
    {range : Nat × Nat} (member : range ∈ rest) : hi < range.1 := by
  induction rest generalizing lo hi with
  | nil => simp at member
  | cons next rest ih =>
    obtain ⟨lo', hi'⟩ := next
    obtain ⟨_, above, later⟩ := h
    rcases List.mem_cons.1 member with rfl | member
    · exact above
    · have := ih later member
      have := later.first_le_last
      omega

/-- The search in an ascending list finds the numbers that lie in one of its ranges. -/
theorem has_eq_true_iff {ranges : Ranges} (h : Ascending ranges) (n : Nat) :
    ranges.has n = true ↔ ∃ range ∈ ranges, range.1 ≤ n ∧ n ≤ range.2 := by
  induction ranges with
  | nil => simp [has, start?]
  | cons range rest ih =>
    obtain ⟨lo, hi⟩ := range
    have order := h.first_le_last
    rw [has_cons]
    -- A number below the first range is below all of them.
    by_cases below : n < lo
    · simp only [below, if_true, Bool.false_eq_true, List.mem_cons, false_iff, not_exists]
      rintro r ⟨rfl | member, first, _⟩
      · exact absurd first (Nat.not_le.2 below)
      · have := h.last_lt member
        omega
    · by_cases inside : n ≤ hi
      · simp only [below, inside, if_false, if_true, true_iff]
        exact ⟨(lo, hi), List.mem_cons_self, by omega, inside⟩
      · simp [below, inside, ih h.tail]

end Ranges

end Moderation.Text
