import Mathlib.Data.List.TakeWhile
import Moderation.Text.Blank
import Moderation.Text.Passage
import Moderation.Text.Word

/-!
# `Moderation.Proofs.Text.Passages`: where the passages of a text end

A passage is measured at the start of a text. Most measures do not look beyond certain characters: a
run of a class ends before the first character of another class, and so does a run behind a lead
if the lead does not hold that character either. `StopsAt` says so of a measure and a character, and
`replaceEach_append` is what follows for the scan: the texts before and after such a character are
scanned apart. `replaceEach_append_of_same` says what it takes for two texts in general.

* `StopsAt.runLength`, `StopsAt.ledLength`: the two kinds of measures.
* `replaceEach_eq_self`: a text without passages stays as it is.
* `blankOut_eq_blank`: a text that is one passage becomes one space. The texts that are one passage
  behind a lead are those of `IsLed` (`IsLed.ledLength_eq`).
* `blankOut_runLength`: runs that give way to a space are squeezed. What squeezing does to a text in
  which some characters belong to no run is said by `squeezeFrom_append_of_not`.
-/

set_option autoImplicit false

namespace Moderation.Text

variable {passage : List Char → Nat} {image : List Char → List Char} {c : Char}
  {p : Char → Bool} {leads : List (List Char)}

/-! ### Texts that are scanned apart -/

/-- Two texts are scanned apart if no passage of the first is changed by what comes behind it. -/
theorem replaceEach_append_of_same {after : List Char}
    (same : ∀ text ≠ [], passage (text ++ after) = passage text)
    (fits : ∀ text ≠ [], passage text ≤ text.length) (before : List Char) :
    replaceEach passage image (before ++ after)
      = replaceEach passage image before ++ replaceEach passage image after := by
  -- The induction is on the scan of the first text, which may skip a passage.
  fun_induction replaceEach passage image before with
  | case1 => rfl
  | case2 d rest none ih =>
    have none' : passage (d :: (rest ++ after)) = 0 := (same _ (List.cons_ne_nil d rest)).trans none
    rw [List.cons_append, replaceEach_cons_of_zero none', ih, List.cons_append]
  | case3 d rest n some ih =>
    have some' : passage (d :: (rest ++ after)) = n + 1 :=
      (same _ (List.cons_ne_nil d rest)).trans some
    -- The passage ends in the first text, so it is cut from that text.
    have inside : n ≤ rest.length := by
      have := fits _ (List.cons_ne_nil d rest)
      rw [some, List.length_cons] at this
      omega
    rw [List.cons_append, replaceEach_of_pos (List.cons_ne_nil _ _) (by omega), some',
      List.take_succ_cons, List.drop_succ_cons, List.take_append_of_le_length inside,
      List.drop_append_of_le_length inside, ih, List.append_assoc]

/-! ### Measures that stop at a character -/

/-- A measure does not look beyond the character, nor beyond the end of the text. -/
structure StopsAt (passage : List Char → Nat) (c : Char) : Prop where
  same : ∀ text rest, passage (text ++ c :: rest) = passage text
  fits : ∀ text, passage text ≤ text.length

/-- No passage begins with the character. -/
theorem StopsAt.apart (h : StopsAt passage c) (rest : List Char) : passage (c :: rest) = 0 := by
  have empty : passage [] = 0 := Nat.le_zero.mp (h.fits [])
  rw [← empty]
  exact h.same [] rest

/-- The texts before and after the character are scanned apart. -/
theorem replaceEach_append (h : StopsAt passage c) (before after : List Char) :
    replaceEach passage image (before ++ c :: after)
      = replaceEach passage image before ++ c :: replaceEach passage image after := by
  rw [replaceEach_append_of_same (fun text _ => h.same text after) fun text _ => h.fits text,
    replaceEach_cons_of_zero (h.apart after)]

/-- A run ends before the first character of another class. -/
theorem StopsAt.runLength (h : p c = false) : StopsAt (runLength p) c where
  same text rest := by rw [Text.runLength, takeWhile_append_of_not h, Text.runLength]
  fits text := (text.takeWhile_sublist p).length_le

/-- A lead does not reach a character that it does not hold. -/
theorem isPrefixOf_append_cons {lead : List Char} (h : c ∉ lead) (text rest : List Char) :
    lead.isPrefixOf (text ++ c :: rest) = lead.isPrefixOf text := by
  induction lead generalizing text with
  | nil => rfl
  | cons d lead ih =>
    rw [List.mem_cons, not_or] at h
    cases text with
    | nil => simp [List.isPrefixOf, Ne.symm h.1]
    | cons e text => simp [List.isPrefixOf, ih h.2]

/-- A run behind a lead ends before the first character that neither lead nor run admit. -/
theorem StopsAt.ledLength (hleads : ∀ lead ∈ leads, c ∉ lead) (h : p c = false) :
    StopsAt (ledLength leads p) c where
  same text rest := by
    -- The same lead is found, as none of them reaches as far as the character.
    have found : leads.find? (·.isPrefixOf (text ++ c :: rest))
        = leads.find? (·.isPrefixOf text) := by
      induction leads with
      | nil => rfl
      | cons lead leads ih =>
        simp only [List.find?_cons, isPrefixOf_append_cons (hleads lead List.mem_cons_self),
          ih fun lead hlead => hleads lead (List.mem_cons_of_mem _ hlead)]
    rw [Text.ledLength, Text.ledLength, found]
    cases hlead : leads.find? (·.isPrefixOf text) with
    | none => rfl
    | some lead =>
      have begins : lead <+: text := by simpa using List.find?_some hlead
      simp only [List.drop_append_of_le_length begins.length_le, (StopsAt.runLength h).same]
  fits text := by
    rw [Text.ledLength]
    cases hlead : leads.find? (·.isPrefixOf text) with
    | none => exact Nat.zero_le _
    | some lead =>
      have begins : lead <+: text := by simpa using List.find?_some hlead
      have run := (StopsAt.runLength h).fits (text.drop lead.length)
      rw [List.length_drop] at run
      have := begins.length_le
      dsimp only
      split <;> omega

/-! ### Texts without passages and texts that are one -/

/-- A beginning stays as it is if no passage begins with one of its characters. -/
theorem replaceEach_append_of_zero {before : List Char}
    (h : ∀ c ∈ before, ∀ rest, passage (c :: rest) = 0) (after : List Char) :
    replaceEach passage image (before ++ after) = before ++ replaceEach passage image after := by
  induction before with
  | nil => rfl
  | cons c before ih =>
    rw [List.cons_append, replaceEach_cons_of_zero (h c List.mem_cons_self _),
      ih fun d hd => h d (List.mem_cons_of_mem _ hd), List.cons_append]

/-- A text stays as it is if no passage begins in it. -/
theorem replaceEach_eq_self {text : List Char} (h : ∀ rest, rest <:+ text → passage rest = 0) :
    replaceEach passage image text = text := by
  induction text with
  | nil => exact replaceEach_nil _ _
  | cons c text ih =>
    rw [replaceEach_cons_of_zero (h _ List.suffix_rfl),
      ih fun rest hrest => h rest (hrest.trans (List.suffix_cons c text))]

/-- A text that is one passage becomes one space. -/
theorem blankOut_eq_blank {text : List Char} (nonempty : text ≠ [])
    (h : passage text = text.length) : blankOut passage text = [' '] := by
  have pos : 0 < passage text := h ▸ List.length_pos_iff.mpr nonempty
  rw [blankOut, replaceEach_of_pos nonempty pos, h, List.drop_length, replaceEach_nil]
  rfl

/-- A text is one of some leads and, after it, one or more characters of a class. -/
def IsLed (leads : List (List Char)) (p : Char → Bool) (text : List Char) : Prop :=
  ∃ lead ∈ leads, ∃ run ≠ [], (∀ c ∈ run, p c = true) ∧ text = lead ++ run

/-- A run behind a lead is not empty. -/
theorem IsLed.ne_nil {text : List Char} (h : IsLed leads p text) : text ≠ [] := by
  obtain ⟨lead, -, run, nonempty, -, rfl⟩ := h
  simp [nonempty]

/-- No passage begins in a text that lacks a character of each lead. -/
theorem ledLength_eq_zero {text : List Char} (h : ∀ lead ∈ leads, ∃ c ∈ lead, c ∉ text) :
    ∀ rest, rest <:+ text → ledLength leads p rest = 0 := by
  intro rest hrest
  have none : leads.find? (·.isPrefixOf rest) = none := by
    refine List.find?_eq_none.mpr fun lead hlead begins => ?_
    obtain ⟨c, hc, lacking⟩ := h lead hlead
    exact lacking (hrest.subset ((List.isPrefixOf_iff_prefix.mp begins).subset hc))
  rw [ledLength, none]

/-- No passage begins with a character that begins no lead. -/
theorem ledLength_cons_eq_zero (h : ∀ lead ∈ leads, lead.head?.any (· != c) = true)
    (rest : List Char) : ledLength leads p (c :: rest) = 0 := by
  have none : leads.find? (·.isPrefixOf (c :: rest)) = none := by
    refine List.find?_eq_none.mpr fun lead hlead begins => ?_
    have other := h lead hlead
    cases lead with
    | nil => cases other
    | cons d lead =>
      obtain ⟨rfl, -⟩ := List.cons_prefix_cons.mp (List.isPrefixOf_iff_prefix.mp begins)
      simp at other
  rw [ledLength, none]

/-- The whole of a text that is led is its passage, if no lead begins with another. -/
theorem IsLed.ledLength_eq {text : List Char} (h : IsLed leads p text)
    (apart : ∀ lead ∈ leads, ∀ lead' ∈ leads, lead <+: lead' → lead = lead') :
    ledLength leads p text = text.length := by
  obtain ⟨lead, hlead, run, nonempty, hrun, rfl⟩ := h
  have begins : lead <+: lead ++ run := List.prefix_append _ _
  have found : leads.find? (·.isPrefixOf (lead ++ run)) = some lead := by
    obtain ⟨other, hother⟩ : ∃ other, leads.find? (·.isPrefixOf (lead ++ run)) = some other :=
      Option.isSome_iff_exists.mp (List.find?_isSome.mpr ⟨lead, hlead, by simp⟩)
    have member := List.mem_of_find?_eq_some hother
    have begins' : other <+: lead ++ run := by simpa using List.find?_some hother
    -- Of two leads that begin one text, one begins with the other.
    rcases List.prefix_or_prefix_of_prefix begins begins' with within | within
    · rw [hother, apart lead hlead other member within]
    · rw [hother, apart other member lead hlead within]
  have all : runLength p run = run.length := by
    rw [runLength, List.takeWhile_eq_self_iff.mpr hrun]
  have pos := List.length_pos_iff.mpr nonempty
  simp only [ledLength, found, List.drop_left, all, List.length_append]
  split <;> omega

/-! ### Runs -/

/-- Behind a run that has its space, the rest of the run is dropped. -/
theorem squeezeFrom_true (p : Char → Bool) (text : List Char) :
    squeezeFrom p true text = squeeze p (text.dropWhile p) := by
  induction text with
  | nil => rfl
  | cons c text ih => by_cases h : p c <;> simp [squeezeFrom, squeeze, h, ih]

/-- A run that gives way to a space is squeezed. -/
theorem blankOut_runLength (p : Char → Bool) (text : List Char) :
    blankOut (runLength p) text = squeeze p text := by
  unfold blankOut
  fun_induction replaceEach (runLength p) (fun _ => [' ']) text with
  | case1 => rfl
  | case2 c rest none ih =>
    have outside : p c = false := by
      by_contra inside
      simp [runLength, List.takeWhile_cons, inside] at none
    simp [ih, squeeze, squeezeFrom, outside]
  | case3 c rest n some ih =>
    have inside : p c = true := by
      by_contra outside
      simp [runLength, outside] at some
    have run : n = (rest.takeWhile p).length := by
      simpa [runLength, List.takeWhile_cons, inside] using some.symm
    -- Behind the run, squeezing goes on as it does where no run is open.
    have tail : rest.drop n = rest.dropWhile p := by
      have parts := List.takeWhile_append_dropWhile (p := p) (l := rest)
      rw [← congrArg (List.drop n) parts, run, List.drop_left]
    rw [ih, tail, ← squeezeFrom_true]
    simp [squeeze, squeezeFrom, inside]

/-- Characters that belong to no run stay as they are, and the next run has its space to come. -/
theorem squeezeFrom_append_of_not {between : List Char} (nonempty : between ≠ [])
    (h : ∀ c ∈ between, p c = false) (inRun : Bool) (rest : List Char) :
    squeezeFrom p inRun (between ++ rest) = between ++ squeezeFrom p false rest := by
  induction between generalizing inRun with
  | nil => exact absurd rfl nonempty
  | cons c between ih =>
    have outside := h c List.mem_cons_self
    -- Whether a run is open matters before the first of the characters only.
    cases between with
    | nil => simp [squeezeFrom, outside]
    | cons d between =>
      have := ih (List.cons_ne_nil _ _) (fun e he => h e (List.mem_cons_of_mem _ he)) false
      simp only [List.cons_append] at this ⊢
      rw [squeezeFrom, outside, this]
      rfl

/-- A text without runs stays as it is. -/
theorem squeeze_eq_self {text : List Char} (h : ∀ c ∈ text, p c = false) :
    squeeze p text = text := by
  cases text with
  | nil => rfl
  | cons c text =>
    simpa [squeeze, squeezeFrom] using squeezeFrom_append_of_not (List.cons_ne_nil _ _) h false []

/-- A squeezed text has spaces in the place of its runs. -/
theorem mem_squeezeFrom {inRun : Bool} {text : List Char} (h : c ∈ squeezeFrom p inRun text) :
    c = ' ' ∨ p c = false := by
  induction text generalizing inRun with
  | nil => cases h
  | cons d text ih =>
    rw [squeezeFrom] at h
    -- A character of a run is dropped or gives way to a space.
    split at h
    · split at h
      · exact ih h
      · exact (List.mem_cons.mp h).elim Or.inl ih
    · next outside =>
      rcases List.mem_cons.mp h with rfl | h
      · exact Or.inr (Bool.not_eq_true _ ▸ outside)
      · exact ih h

end Moderation.Text
