import Mathlib.Data.List.Basic
import Mathlib.Data.String.Basic
import Moderation.Text.Blank
import Moderation.Text.Case
import Moderation.Text.Digit

/-!
# `Moderation.Proofs.Text.Folding`: what case folding does to a character

A character is folded by two tables, or is its own folded form. What is said here of all characters
follows from four facts about the code points that the tables change and those that they give
(`foldedAway`, `foldedTo`): no code point is both, no blank and no decimal digit is changed, and no
decimal digit is given.

* `foldCase_foldCase`: folded text stays as it is when it is folded again.
* `foldChar_of_isBlank`, `foldChar_of_isDecimal`: blanks and digits have no case.
* `not_isDecimal_of_mem_foldChar`: no other character is folded to a digit.

The tables have more than a thousand code points. A set of code points is therefore written as the
bits of one number (`bitsOf`), so that two sets are compared in one operation.
-/

set_option autoImplicit false

namespace Moderation.Text

/-! ### Sets of code points as numbers -/

/-- A set of code points as the bits of a number. -/
def bitsOf (codes : List Nat) : Nat := codes.foldr (fun n bits => 2 ^ n ||| bits) 0

/-- A code point is in a set if and only if its bit is set. -/
theorem testBit_bitsOf (codes : List Nat) (n : Nat) :
    (bitsOf codes).testBit n = true ↔ n ∈ codes := by
  induction codes with
  | nil => simp [bitsOf]
  | cons m codes ih =>
    show (2 ^ m ||| bitsOf codes).testBit n = true ↔ _
    rw [Nat.testBit_or, Nat.testBit_two_pow, Bool.or_eq_true, ih, List.mem_cons, decide_eq_true_iff,
      eq_comm]

/-- Sets without a common bit have no common code point. -/
theorem notMem_of_land_eq_zero {codes codes' : List Nat} (h : bitsOf codes &&& bitsOf codes' = 0)
    {n : Nat} (hn : n ∈ codes) : n ∉ codes' := by
  intro hn'
  have both : (bitsOf codes &&& bitsOf codes').testBit n = true := by
    rw [Nat.testBit_and, (testBit_bitsOf _ _).mpr hn, (testBit_bitsOf _ _).mpr hn']
    rfl
  rw [h, Nat.zero_testBit] at both
  cases both

namespace Ranges

/-- The code points of a class. -/
def codes (ranges : Ranges) : List Nat :=
  ranges.flatMap fun range => List.range' range.1 (range.2 + 1 - range.1)

/-- A code point of a class is among its code points. -/
theorem mem_codes_of_has {ranges : Ranges} {n : Nat} (h : ranges.has n = true) :
    n ∈ ranges.codes := by
  induction ranges with
  | nil => cases h
  | cons range ranges ih =>
    obtain ⟨lo, hi⟩ := range
    -- The ranges are in order: a code point below the first range is in none of them.
    rw [has_cons] at h
    rw [codes, List.flatMap_cons, List.mem_append]
    split at h
    · cases h
    · split at h
      · exact Or.inl (List.mem_range'_1.mpr (by omega))
      · exact Or.inr (ih h)

end Ranges

/-! ### The code points of a case table -/

namespace Shift

/-- The places of a run. -/
def places (shift : Shift) : List Nat := List.range ((shift.last - shift.first) / shift.step + 1)

/-- What a place of a run is in it, and what it becomes. -/
theorem exists_place {shift : Shift} {n : Nat} (h : shift.has n = true) :
    ∃ place ∈ shift.places, n = shift.first + shift.step * place
      ∧ shift.image + (n - shift.first) = shift.image + shift.step * place := by
  simp only [has, Bool.and_eq_true, decide_eq_true_eq, beq_iff_eq] at h
  obtain ⟨⟨first, last⟩, stepped⟩ := h
  have place := Nat.div_add_mod (n - shift.first) shift.step
  have below : (n - shift.first) / shift.step ≤ (shift.last - shift.first) / shift.step :=
    Nat.div_le_div_right (by omega)
  exact ⟨(n - shift.first) / shift.step, List.mem_range.mpr (by omega), by omega, by omega⟩

/-- The code points that a table changes. -/
def changed (shifts : List Shift) (expansions : List (Nat × List Nat)) : List Nat :=
  expansions.map (·.1)
    ++ shifts.flatMap fun shift => shift.places.map (shift.first + shift.step * ·)

/-- The characters that a table gives in their place. -/
def given (shifts : List Shift) (expansions : List (Nat × List Nat)) : List Char :=
  (expansions.flatMap (·.2)
    ++ shifts.flatMap fun shift => shift.places.map (shift.image + shift.step * ·)).map Char.ofNat

variable {shifts : List Shift} {expansions : List (Nat × List Nat)} {c d : Char}

/-- A character that the table does not change is its own image. -/
theorem apply_eq_self (h : c.toNat ∉ changed shifts expansions) :
    apply shifts expansions c = [c] := by
  -- Each table is searched by code point, and the code point is in neither.
  have unlisted : expansions.lookup c.toNat = none := by
    refine List.lookup_eq_none_iff.mpr fun entry hentry => ?_
    refine bne_iff_ne.mpr fun same => h (List.mem_append_left _ ?_)
    exact List.mem_map.mpr ⟨entry, hentry, same.symm⟩
  have outside : shifts.find? (·.has c.toNat) = none := by
    refine List.find?_eq_none.mpr fun shift hshift inside => h (List.mem_append_right _ ?_)
    obtain ⟨place, hplace, same, -⟩ := exists_place inside
    exact List.mem_flatMap.mpr ⟨shift, hshift, List.mem_map.mpr ⟨place, hplace, same.symm⟩⟩
  rw [apply, unlisted, outside]

/-- An image is the character itself, or is given by the table. -/
theorem mem_apply (h : d ∈ apply shifts expansions c) :
    apply shifts expansions c = [c] ∧ d = c ∨ d ∈ given shifts expansions := by
  rw [apply] at h ⊢
  -- The table of single characters is asked first, and then the runs.
  cases listed : expansions.lookup c.toNat with
  | some images =>
    rw [listed] at h
    obtain ⟨before, after, split, -⟩ := List.lookup_eq_some_iff.mp listed
    obtain ⟨n, hn, rfl⟩ := List.mem_map.mp h
    have entry : (c.toNat, images) ∈ expansions := by simp [split]
    exact Or.inr (List.mem_map_of_mem (List.mem_append_left _
      (List.mem_flatMap.mpr ⟨(c.toNat, images), entry, hn⟩)))
  | none =>
    rw [listed] at h
    cases found : shifts.find? (·.has c.toNat) with
    | none =>
      simp only [found, List.mem_singleton] at h ⊢
      exact Or.inl ⟨trivial, h⟩
    | some shift =>
      simp only [found, List.mem_singleton] at h
      have inside : shift.has c.toNat = true := by simpa using List.find?_some found
      obtain ⟨place, hplace, -, same⟩ := exists_place inside
      refine Or.inr (h ▸ List.mem_map_of_mem (List.mem_append_right _ (List.mem_flatMap.mpr
        ⟨shift, List.mem_of_find?_eq_some found, List.mem_map.mpr ⟨place, hplace, same.symm⟩⟩)))

end Shift

/-! ### Case folding -/

/-- The code points that folding changes. -/
def foldedAway : List Nat := Shift.changed foldShifts foldExpansions

/-- The code points that folding gives in their place. -/
def foldedTo : List Nat := (Shift.given foldShifts foldExpansions).map Char.toNat

/-- What folding gives, it does not change again. -/
theorem land_foldedTo_foldedAway : bitsOf foldedTo &&& bitsOf foldedAway = 0 := by
  decide +kernel

/-- No blank is changed by folding. -/
theorem land_blank_foldedAway : bitsOf blankRanges.codes &&& bitsOf foldedAway = 0 := by
  decide +kernel

/-- No decimal digit is changed by folding. -/
theorem land_decimal_foldedAway : bitsOf decimalRanges.codes &&& bitsOf foldedAway = 0 := by
  decide +kernel

/-- No decimal digit is given by folding. -/
theorem land_foldedTo_decimal : bitsOf foldedTo &&& bitsOf decimalRanges.codes = 0 := by
  decide +kernel

variable {c d : Char}

/-- What folding gives is the character itself, or stands in the tables. -/
theorem mem_foldChar (h : d ∈ foldChar c) :
    foldChar c = [c] ∧ d = c ∨ d.toNat ∈ foldedTo :=
  (Shift.mem_apply h).imp_right List.mem_map_of_mem

/-- What folding gives is folded. -/
theorem foldChar_of_mem (h : d ∈ foldChar c) : foldChar d = [d] := by
  rcases mem_foldChar h with ⟨same, rfl⟩ | listed
  · exact same
  · exact Shift.apply_eq_self (notMem_of_land_eq_zero land_foldedTo_foldedAway listed)

/-- Folding leaves a character where there was one. -/
theorem foldChar_ne_nil (c : Char) : foldChar c ≠ [] := by
  have images : ∀ entry ∈ foldExpansions, entry.2 ≠ [] := by decide
  rw [foldChar, Shift.apply]
  split
  · next given found =>
    obtain ⟨before, after, split, -⟩ := List.lookup_eq_some_iff.mp found
    have kept : given ≠ [] := images (c.toNat, given) (by simp [split])
    simpa using kept
  · split <;> simp -- A run gives one character, and an unchanged character is its own image.

/-- A blank has no case. -/
theorem foldChar_of_isBlank (h : isBlank c = true) : foldChar c = [c] :=
  Shift.apply_eq_self (notMem_of_land_eq_zero land_blank_foldedAway (Ranges.mem_codes_of_has h))

/-- A decimal digit has no case. -/
theorem foldChar_of_isDecimal (h : isDecimal c = true) : foldChar c = [c] :=
  Shift.apply_eq_self (notMem_of_land_eq_zero land_decimal_foldedAway (Ranges.mem_codes_of_has h))

/-- Only digits are folded to digits. -/
theorem not_isDecimal_of_mem_foldChar (h : isDecimal c = false) (hd : d ∈ foldChar c) :
    isDecimal d = false := by
  rcases mem_foldChar hd with ⟨-, rfl⟩ | listed
  · exact h
  · by_contra digit
    exact notMem_of_land_eq_zero land_foldedTo_decimal listed
      (Ranges.mem_codes_of_has (Bool.not_eq_false _ ▸ digit))

/-! ### Texts -/

/-- A text of folded characters is folded. -/
theorem foldCase_eq_self {text : List Char} (h : ∀ c ∈ text, foldChar c = [c]) :
    foldCase text = text := by
  induction text with
  | nil => rfl
  | cons c text ih =>
    rw [foldCase_cons, h c List.mem_cons_self, ih fun d hd => h d (List.mem_cons_of_mem _ hd)]
    rfl

/-- The characters of a folded text are the images of those of the text. -/
theorem mem_foldCase {text : List Char} : d ∈ foldCase text ↔ ∃ c ∈ text, d ∈ foldChar c :=
  List.mem_flatMap

/-- Folded text stays as it is when it is folded again. -/
theorem foldCase_foldCase (text : List Char) : foldCase (foldCase text) = foldCase text :=
  foldCase_eq_self fun _ hd => by
    obtain ⟨c, -, hd⟩ := mem_foldCase.mp hd
    exact foldChar_of_mem hd

end Moderation.Text
