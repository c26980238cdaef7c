import Mathlib.Data.List.Find
import Mathlib.Data.List.Perm.Subperm
import Moderation.Logging.Basic
import Moderation.Proofs.Entries

/-!
# `Moderation.Proofs.Logging.Hierarchy`: the loggers above a logger

The level that counts for a logger is found on the way along the parents. With plain names the way
leads over all loggers above, the nearest first, in whichever order the loggers were made
(`Regular`), and so the level is told from the levels alone (`effectiveLevel_eq_inherited`).

Two kinds of names are not plain. Of two points in a row the second does not count, so a logger
`a..b` has `a` above it only through a logger `a.`. And a new logger takes the place of a parent
unless the name of the parent begins with its own, but the root goes by a name too: a logger `r`
that is made after `r.x` does not become its parent.
-/

set_option autoImplicit false

namespace Moderation.Logging

/-! ### Names -/

/-- Names are read from behind here, so what lies above a name ends it, with a point before. -/
theorem suffix_of_mem_aboveReversed {name above : List Char} (h : above ∈ aboveReversed name) :
    '.' :: above <:+ name := by
  fun_induction aboveReversed name with
  | case1 c rest ih =>
    rcases List.mem_cons.mp h with rfl | h
    · exact List.suffix_refl _
    · exact (ih h).trans ((List.suffix_cons c rest).trans (List.suffix_cons '.' _))
  | case2 c rest other ih => exact (ih h).trans (List.suffix_cons c rest)
  | case3 => cases h

/-- The names above come in order, and each ends the ones before it. -/
theorem pairwise_aboveReversed (name : List Char) :
    (aboveReversed name).Pairwise fun nearer farther => '.' :: farther <:+ nearer := by
  fun_induction aboveReversed name with
  | case1 c rest ih =>
    refine List.pairwise_cons.mpr ⟨fun farther h => ?_, ih⟩
    exact (suffix_of_mem_aboveReversed h).trans (List.suffix_cons c rest)
  | case2 c rest other ih => exact ih
  | case3 => exact .nil

/-- A letter belongs to the name and to nothing above it. -/
theorem aboveReversed_cons {c : Char} (letter : c ≠ '.') (rest : List Char) :
    aboveReversed (c :: rest) = aboveReversed rest := by
  rw [aboveReversed.eq_def]
  split
  · next same => exact absurd (List.cons.inj same).1 letter
  · next same => cases same; rfl
  · next same => cases same

/-- Where no two points follow each other, the names above one of those above a name are the
rest of them. -/
theorem eq_aboveReversed_of_append {name above : List Char} {before behind : List (List Char)}
    (single : ¬ ['.', '.'] <:+: name)
    (h : aboveReversed name = before ++ above :: behind) : behind = aboveReversed above := by
  -- By the recursion: at a point that is followed by a letter, a name above begins; elsewhere the
  -- search goes on.
  fun_induction aboveReversed name generalizing before with
  | case1 c rest ih =>
    cases before with
    | nil =>
      obtain ⟨rfl, rfl⟩ := List.cons.inj h
      have letter : c ≠ '.' := by
        rintro rfl
        exact single ⟨[], rest, rfl⟩
      exact (aboveReversed_cons letter rest).symm
    | cons first before =>
      have rest_suffix : rest <:+ '.' :: c :: rest := ⟨['.', c], rfl⟩
      exact ih (fun two => single (two.trans rest_suffix.isInfix)) (List.cons.inj h).2
  | case2 c rest other ih =>
    exact ih (fun two => single (two.trans (List.suffix_cons c rest).isInfix)) h
  | case3 => simp at h

/-- Whether a name, and a point after it, begins another. -/
def Above (above name : String) : Prop := above.toList ++ ['.'] <+: name.toList

/-- A name above is shorter. -/
theorem Above.length_lt {above name : String} (h : Above above name) :
    above.toList.length < name.toList.length := by
  have le := List.IsPrefix.length_le h
  rwa [List.length_append] at le

/-- What ends a name that is read from behind begins it. -/
theorem above_ofList_reverse {above name : List Char} (h : '.' :: above <:+ name) :
    Above (String.ofList above.reverse) (String.ofList name.reverse) := by
  have lead := List.reverse_prefix.mpr h
  rwa [Above, String.toList_ofList, String.toList_ofList, ← List.reverse_cons]

/-- The names above a name are above it. -/
theorem above_of_mem {name above : String} (h : above ∈ namesAbove name) : Above above name := by
  obtain ⟨reversed, member, rfl⟩ := List.mem_map.mp h
  simpa using above_ofList_reverse (suffix_of_mem_aboveReversed member)

/-- The names above come in order, the nearest first. -/
theorem pairwise_namesAbove (name : String) :
    (namesAbove name).Pairwise fun nearer farther => Above farther nearer :=
  List.pairwise_map.mpr ((pairwise_aboveReversed _).imp above_ofList_reverse)

/-- No name is listed twice above another, since each is shorter than the one before. -/
theorem nodup_namesAbove (name : String) : (namesAbove name).Nodup := by
  refine (pairwise_namesAbove name).imp fun {nearer farther} h same => ?_
  subst same
  exact Nat.lt_irrefl _ h.length_lt

/-- The root lies above by no name of its own. -/
theorem Above.isRoot_eq_false {above name : String} (h : Above above name) :
    isRoot name = false := by
  have point : '.' ∈ name.toList := List.IsPrefix.subset h (by simp)
  rw [isRoot, Bool.or_eq_false_iff, beq_eq_false_iff_ne, beq_eq_false_iff_ne]
  constructor
  · rintro rfl
    exact absurd point (by decide)
  · rintro rfl
    exact absurd point (by decide)

/-- A name with which the nearest logger above is always the parent. With two points in a row some
names are not counted; and a logger whose name begins that of the root is not adopted. -/
structure Plain (name : String) : Prop where
  single : ¬ ['.', '.'] <:+: name.toList
  start : ∀ short ∈ ["r", "ro", "roo"], short ∉ namesAbove name

/-- What is listed after a name above a plain one is what lies above that name. -/
theorem Plain.eq_of_append {name above : String} {before behind : List String} (plain : Plain name)
    (h : namesAbove name = before ++ above :: behind) : behind = namesAbove above := by
  obtain ⟨first, second, cut, -, rest⟩ := List.map_eq_append_iff.mp h
  obtain ⟨reversed, behind, rfl, rfl, rfl⟩ := List.map_eq_cons_iff.mp rest
  have single : ¬ ['.', '.'] <:+: name.toList.reverse := fun two =>
    plain.single (by simpa using List.reverse_infix.mpr two)
  rw [eq_aboveReversed_of_append single cut, namesAbove, String.toList_ofList, List.reverse_reverse]

/-- What lies above a plain name is plain. -/
theorem Plain.of_mem {name above : String} (plain : Plain name) (h : above ∈ namesAbove name) :
    Plain above where
  single two := plain.single <|
    two.trans (((List.prefix_append _ _).trans (above_of_mem h)).isInfix)
  start short member found := by
    obtain ⟨before, behind, cut⟩ := List.append_of_mem h
    refine plain.start short member (cut ▸ ?_)
    rw [plain.eq_of_append cut]
    exact List.mem_append_right _ (List.mem_cons_of_mem _ found)

/-- No name above a plain one begins the name of the root, unless it is one of the root. -/
theorem Plain.not_prefix_rootName {name above : String} (plain : Plain name)
    (member : above ∈ namesAbove name) (apart : isRoot above = false) :
    ¬ above.toList <+: rootName.toList := by
  intro lead
  have cut : above = String.ofList (rootName.toList.take above.toList.length) := by
    rw [← List.prefix_iff_eq_take.mp lead, String.ofList_toList]
  -- A beginning of the name has none, one, two, three or all of its letters.
  match above.toList.length, cut with
  | 0, cut => exact absurd (cut ▸ apart) (by decide)
  | 1, cut =>
    obtain rfl : above = "r" := cut.trans (by decide)
    exact plain.start _ (by decide) member
  | 2, cut =>
    obtain rfl : above = "ro" := cut.trans (by decide)
    exact plain.start _ (by decide) member
  | 3, cut =>
    obtain rfl : above = "roo" := cut.trans (by decide)
    exact plain.start _ (by decide) member
  | n + 4, cut =>
    rw [List.take_of_length_le (Nat.le_add_left 4 n), String.ofList_toList] at cut
    exact absurd (cut ▸ apart) (by decide)

/-! ### The parents -/

namespace Loggers

variable {loggers : Loggers} {name : String}

/-- The nearest logger above is the parent, as far as names are plain. -/
structure Regular (loggers : Loggers) : Prop where
  root : loggers.root.parent = none
  parents : ∀ name logger, Plain name → loggers.named.get? name = some logger →
    logger.parent = (namesAbove name).find? loggers.named.has

/-- After a logger was made, all others are as before, but those that it adopts have it as their
parent. It has the nearest logger above as its own. -/
theorem get?_create (loggers : Loggers) (name other : String) :
    (loggers.create name).named.get? other =
      ((loggers.named.get? other).map fun logger =>
        if adopts name other logger then { logger with parent := some name } else logger).or
      (if name = other then some (.fresh ((namesAbove name).find? loggers.named.has))
      else none) := by
  have adopted := Entries.get?_mapValues loggers.named
    (fun below logger =>
      if adopts name below logger then { logger with parent := some name } else logger) other
  rw [create, Entries.get?, List.lookup_append]
  refine congrArg₂ Option.or adopted ?_
  rw [← Entries.get?, Entries.get?_cons, Entries.get?_nil]

/-- One more logger is there. -/
theorem has_create (loggers : Loggers) (name other : String) :
    (loggers.create name).named.has other = (loggers.named.has other || name = other) := by
  rw [Entries.has, get?_create, Option.isSome_or, Option.isSome_map, Entries.has]
  split <;> simp_all

/-- A new logger adopts those below it whose parent has a name that its own does not begin. The root
goes by a name here, too. -/
theorem adopts_iff {below : String} {logger : Logger} :
    adopts name below logger = true ↔
      name ∈ namesAbove below ∧ ¬ name.toList <+: (logger.parent.getD rootName).toList := by
  rw [adopts, Bool.and_eq_true, List.contains_iff_mem, Bool.not_eq_true',
    ← Bool.not_eq_true, List.isPrefixOf_iff_prefix]

/-- A new logger takes the place of the parents above it. -/
theorem parent_create {below : String} {logger : Logger} (plain : Plain below)
    (apart : isRoot name = false) (absent : loggers.named.has name = false)
    (regular : logger.parent = (namesAbove below).find? loggers.named.has) :
    (if adopts name below logger then some name else logger.parent)
      = (namesAbove below).find? (loggers.create name).named.has := by
  by_cases member : name ∈ namesAbove below
  · -- Among the names above, the new one parts the nearer from the farther. A parent that is nearer
    -- stays; without one the new logger comes before all that are farther.
    obtain ⟨before, behind, cut⟩ := List.append_of_mem member
    have order := pairwise_namesAbove below
    rw [cut] at order regular ⊢
    obtain ⟨-, order, between⟩ := List.pairwise_append.mp order
    have same : before.find? (loggers.create name).named.has = before.find? loggers.named.has := by
      refine List.find?_congr fun other h => ?_
      have longer := (between other h name List.mem_cons_self).length_lt
      rw [has_create, Bool.or_eq_left_iff_imp, decide_eq_true_iff]
      rintro rfl
      exact absurd longer (Nat.lt_irrefl _)
    rw [List.find?_append] at regular ⊢
    rw [same]
    cases nearer : before.find? loggers.named.has with
    | some parent =>
      rw [nearer] at regular
      have lead := between parent (List.mem_of_find?_eq_some nearer) name List.mem_cons_self
      rw [if_neg, regular]
      · rfl
      · rw [adopts_iff, regular]
        exact fun h => h.2 ((List.prefix_append _ _).trans lead)
    | none =>
      rw [nearer, List.find?_cons_of_neg (by simpa using absent)] at regular
      rw [if_pos, List.find?_cons_of_pos (by rw [has_create]; simp)]
      · rfl
      · refine adopts_iff.mpr ⟨member, ?_⟩
        rw [regular]
        cases farther : behind.find? loggers.named.has with
        | none => exact plain.not_prefix_rootName member apart
        | some parent =>
          have shorter := List.rel_of_pairwise_cons order (List.mem_of_find?_eq_some farther)
          exact fun lead => absurd lead.length_le (Nat.not_le.mpr shorter.length_lt)
  · -- A logger that the new one is not above keeps its parent.
    rw [if_neg fun h => member (adopts_iff.mp h).1, regular]
    refine List.find?_congr fun other h => ?_
    rw [has_create, eq_comm, Bool.or_eq_left_iff_imp, decide_eq_true_iff]
    rintro rfl
    exact absurd h member

/-- Making a logger keeps the parents regular. -/
theorem Regular.create (regular : loggers.Regular) (apart : isRoot name = false)
    (absent : loggers.named.has name = false) : (loggers.create name).Regular where
  root := regular.root
  parents below logger plain found := by
    rw [get?_create] at found
    cases old : loggers.named.get? below with
    -- The logger was there: it keeps its parent or is adopted.
    | some before =>
      rw [old] at found
      cases found
      rw [← parent_create plain apart absent (regular.parents below before plain old)]
      exact apply_ite Logger.parent _ _ _
    -- The logger is the new one, and its own name is not above it.
    | none =>
      rw [old] at found
      split at found
      · next same =>
        subst same
        cases found
        refine List.find?_congr fun other h => ?_
        rw [has_create, eq_comm, Bool.or_eq_left_iff_imp, decide_eq_true_iff]
        rintro rfl
        exact absurd (above_of_mem h).length_lt (Nat.lt_irrefl _)
      · cases found

/-- So does making it unless it is there. -/
theorem Regular.ensure (regular : loggers.Regular) (name : String) :
    (loggers.ensure name).Regular := by
  rw [Loggers.ensure]
  split
  · exact regular
  · next absent =>
    obtain ⟨apart, absent⟩ := Bool.or_eq_false_iff.mp (Bool.eq_false_iff.mpr absent)
    exact regular.create apart absent

/-- Then it is there. -/
theorem has_ensure (loggers : Loggers) (apart : isRoot name = false) :
    (loggers.ensure name).named.has name = true := by
  rw [Loggers.ensure, apart, Bool.false_or]
  split
  · next there => exact there
  · rw [has_create, decide_eq_true rfl, Bool.or_true]

/-- A change that leaves the parent alone keeps the parents regular. The logger is made first, if
there is none. -/
theorem Regular.update {change : Logger → Logger} (regular : loggers.Regular) (name : String)
    (keeps : ∀ logger, (change logger).parent = logger.parent) :
    (loggers.update name change).Regular := by
  rw [Loggers.update]
  split
  · exact ⟨(keeps _).trans regular.root, regular.parents⟩
  · next apart =>
    have apart := Bool.eq_false_iff.mpr apart
    have regular := regular.ensure name
    have there := loggers.has_ensure apart
    generalize loggers.ensure name = loggers at regular there ⊢
    obtain ⟨old, found⟩ := Option.isSome_iff_exists.mp there
    refine ⟨regular.root, fun below logger plain new => ?_⟩
    -- The names are those that were there before the change.
    have same : ∀ other, (loggers.named.set name (change (loggers.logger name))).has other
        = loggers.named.has other := by
      intro other
      rw [Entries.has, Entries.get?_set]
      split
      · next same => rw [← same, there, Option.isSome_some]
      · rfl
    rw [List.find?_congr fun other _ => same other]
    dsimp only at new
    rw [Entries.get?_set] at new
    split at new
    · next same =>
      subst same
      cases new
      rw [keeps, Loggers.logger, apart, found]
      exact regular.parents name old plain found
    · exact regular.parents below logger plain new

/-- Loggers that are made one after the other are regular, in whatever order. -/
theorem regular_ofNames (names : List String) : (ofNames names).Regular := by
  have none : Regular ⟨{ Logger.fresh none with level := .warning }, []⟩ := ⟨rfl, nofun⟩
  rw [ofNames]
  generalize Loggers.mk _ _ = loggers at none
  induction names generalizing loggers with
  | nil => exact none
  | cons name names ih => exact ih _ (none.ensure name)

/-! ### The level that counts -/

/-- The level of a logger, or of the nearest above that has one, given the level of each. -/
def inherited (levels : String → Level) (name : String) : Level :=
  levels (((name :: namesAbove name).find? fun above => levels above ≠ .unset).getD rootName)

/-- The level of each logger. -/
def levels (loggers : Loggers) (name : String) : Level := (loggers.logger name).level

/-- A logger that is not there has no level. -/
theorem levels_of_absent (apart : isRoot name = false) (absent : loggers.named.has name = false) :
    loggers.levels name = .unset := by
  rw [levels, logger, apart, Option.not_isSome_iff_eq_none.mp (Bool.eq_false_iff.mp absent)]
  rfl

/-- Whatever the root is called, its level is that of the root. -/
theorem levels_of_isRoot (root : isRoot name = true) :
    loggers.levels name = loggers.root.level := by
  rw [levels, logger, if_pos root]

/-- The way along the parents ends at the root, whose level counts even if it is unset. -/
theorem levelWithin_root (regular : loggers.Regular) (steps : Nat) :
    loggers.levelWithin steps loggers.root = loggers.root.level := by
  induction steps with
  | zero => rfl
  | succ steps ih =>
    rw [levelWithin, regular.root]
    split
    · exact ih
    · rfl

/-- A level of its own counts first. -/
theorem inherited_of_set {levels : String → Level} (h : levels name ≠ .unset) :
    inherited levels name = levels name := by
  rw [inherited, List.find?_cons_of_pos (by simpa using h), Option.getD_some]

/-- Only the levels of the logger, of those above it and of the root count. -/
theorem inherited_congr {levels other : String → Level}
    (same : ∀ above ∈ rootName :: name :: namesAbove name, levels above = other above) :
    inherited levels name = inherited other name := by
  obtain ⟨root, line⟩ := List.forall_mem_cons.mp same
  have nearest : (name :: namesAbove name).find? (fun above => levels above ≠ .unset)
      = (name :: namesAbove name).find? fun above => other above ≠ .unset :=
    List.find?_congr fun above h => by rw [line above h]
  rw [inherited, inherited, nearest]
  cases found : (name :: namesAbove name).find? fun above => other above ≠ .unset with
  | none => exact root
  | some above => exact line above (List.mem_of_find?_eq_some found)

/-- Where neither a logger has a level nor those between it and one above, it inherits what the one
above inherits. -/
theorem inherited_of_unset {levels : String → Level} {before : List String} {above : String}
    (cut : namesAbove name = before ++ above :: namesAbove above)
    (unset : ∀ other ∈ name :: before, levels other = .unset) :
    inherited levels name = inherited levels above := by
  rw [inherited, inherited, cut, ← List.cons_append, List.find?_append, Option.or_eq_right_of_none]
  exact List.find?_eq_none.mpr fun other h => by simpa using unset other h

/-- Where no logger above has a level, that of the root is inherited. -/
theorem inherited_eq_root (unset : ∀ other ∈ name :: namesAbove name,
    isRoot other = false → loggers.levels other = .unset) :
    inherited loggers.levels name = loggers.root.level := by
  rw [inherited]
  cases found : (name :: namesAbove name).find? _ with
  | none => exact levels_of_isRoot rfl
  | some other =>
    have set := List.find?_some found
    refine levels_of_isRoot (Bool.eq_true_of_not_eq_false fun apart => ?_)
    simp [unset other (List.mem_of_find?_eq_some found) apart] at set

/-- The parent of a logger is the nearest one above. The root has none, and nothing lies above it.
-/
theorem Regular.parent_eq (regular : loggers.Regular) (plain : Plain name)
    (there : isRoot name || loggers.named.has name) :
    (loggers.logger name).parent = (namesAbove name).find? loggers.named.has := by
  by_cases root : isRoot name = true
  · have none : namesAbove name = [] := List.eq_nil_iff_forall_not_mem.mpr fun above h =>
      Bool.false_ne_true ((above_of_mem h).isRoot_eq_false.symm.trans root)
    rw [logger, if_pos root, regular.root, none, List.find?_nil]
  · rw [Bool.eq_false_iff.mpr root, Bool.false_or] at there
    obtain ⟨found, hfound⟩ := Option.isSome_iff_exists.mp there
    rw [logger, if_neg root, hfound, Option.getD_some]
    exact regular.parents name found plain hfound

/-- One step on the way along the parents. -/
theorem levelWithin_succ (loggers : Loggers) (steps : Nat) (name : String) :
    loggers.levelWithin (steps + 1) (loggers.logger name) =
      if loggers.levels name = .unset then
        loggers.levelWithin steps
          (((loggers.logger name).parent.map loggers.logger).getD loggers.root)
      else loggers.levels name := rfl

/-- So many steps are enough as there are loggers above. -/
theorem levelWithin_eq (regular : loggers.Regular) {steps : Nat} (plain : Plain name)
    (there : isRoot name || loggers.named.has name)
    (enough : ((namesAbove name).filter loggers.named.has).length < steps) :
    loggers.levelWithin steps (loggers.logger name) = inherited loggers.levels name := by
  induction steps generalizing name with
  | zero => exact absurd enough (Nat.not_lt_zero _)
  | succ steps ih =>
    rw [levelWithin_succ]
    split
    · next unset =>
      rw [regular.parent_eq plain there]
      -- The next step leads to the nearest logger above. The names between have no logger, so they
      -- have no level either.
      cases nearest : (namesAbove name).find? loggers.named.has with
      | none =>
        rw [Option.map_none, Option.getD_none, levelWithin_root regular]
        refine (inherited_eq_root fun other h apart => ?_).symm
        rcases List.mem_cons.mp h with rfl | h
        · exact unset
        · exact levels_of_absent apart (by simpa using List.find?_eq_none.mp nearest other h)
      | some above =>
        obtain ⟨known, before, behind, cut, unknown⟩ := List.find?_eq_some_iff_append.mp nearest
        obtain rfl := plain.eq_of_append cut
        rw [Option.map_some, Option.getD_some, ih (plain.of_mem (by simp [cut])) (by simp [known])]
        · refine (inherited_of_unset cut fun other h => ?_).symm
          rcases List.mem_cons.mp h with rfl | h
          · exact unset
          · have order := pairwise_namesAbove name
            rw [cut] at order
            have between := (List.pairwise_append.mp order).2.2 other h above List.mem_cons_self
            exact levels_of_absent between.isRoot_eq_false (by simpa using unknown other h)
        · rw [cut, List.filter_append, List.filter_cons_of_pos known, List.length_append,
            List.length_cons] at enough
          omega
    · next set => rw [inherited_of_set set]

/-- The level that counts for a logger is that of the nearest one that has a level. -/
theorem effectiveLevel_eq_inherited (regular : loggers.Regular) (plain : Plain name)
    (there : isRoot name || loggers.named.has name) :
    loggers.effectiveLevel name = inherited loggers.levels name := by
  refine levelWithin_eq regular plain there (Nat.lt_succ_of_le ?_)
  have distinct : ((namesAbove name).filter loggers.named.has).Nodup :=
    (nodup_namesAbove name).filter _
  have known : (namesAbove name).filter loggers.named.has ⊆ loggers.named.keys := fun other h =>
    (Entries.has_iff _ _).mp (List.mem_filter.mp h).2
  simpa [Entries.keys] using (distinct.subperm known).length_le

end Loggers

end Moderation.Logging
