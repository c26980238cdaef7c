import Moderation.Files

/-!
# `Moderation.Proofs.Files`: trees that only grow

Making directories and files takes nothing away, so a tree grows (`Grows`) and what stands in the
way of a directory or a file stays there. What can be made in the grown tree could have been made
before (`makeWayFrom_of_grows`, `withFileAt?_of_grows`), and it lay at the same place: the way
comes from the names alone.

For this a tree may only grow where it is not locked. Otherwise a directory could have turned up
at a locked place, and a way through it that leads somewhere now could not have been made before.

`makeWayFrom_of_free` says when a way can be made: names that fit and lead down, with no file and no
lock on them, are enough, wherever the way sets out.
-/

set_option autoImplicit false

namespace Moderation.Files

/-- The files and the directories of a tree are still there, the working directory and the locks
are the same, and nothing new lies at a locked place. -/
structure Grows (tree grown : Files) : Prop where
  home : grown.home = tree.home
  locks : grown.isLocked = tree.isLocked
  contents : ∀ way, (tree.contentAt? way).isSome = true → (grown.contentAt? way).isSome = true
  directories : ∀ way, tree.isDirectoryAt way = true → grown.isDirectoryAt way = true
  made : ∀ way, grown.isDirectoryAt way = true →
    tree.isDirectoryAt way = true ∨ tree.isLocked way = false

variable {tree grown : Files} {way : List String}

/-- A tree that nothing is done to has grown by nothing. -/
theorem Grows.refl (tree : Files) : tree.Grows tree := ⟨rfl, rfl, fun _ => id, fun _ => id, fun _ => .inl⟩

/-- A tree that grows twice grows. -/
theorem Grows.trans {other : Files} (first : tree.Grows grown) (second : grown.Grows other) :
    tree.Grows other where
  home := second.home.trans first.home
  locks := second.locks.trans first.locks
  contents way h := second.contents way (first.contents way h)
  directories way h := second.directories way (first.directories way h)
  made way h := (second.made way h).elim (first.made way) fun free =>
    .inr ((congrFun first.locks way).symm.trans free)

/-- Paths begin where they began. -/
theorem Grows.start (growth : tree.Grows grown) (place : Location) :
    grown.start place = tree.start place := by
  rw [Files.start, Files.start, growth.home]

/-- Where the grown tree has no file, the tree had none. -/
theorem Grows.contentAt?_isSome_eq_false (growth : tree.Grows grown)
    (free : (grown.contentAt? way).isSome = false) : (tree.contentAt? way).isSome = false :=
  Bool.eq_false_iff.mpr fun h => Bool.eq_false_iff.mp free (growth.contents way h)

/-- Where the grown tree has no directory, the tree had none. -/
theorem Grows.isDirectoryAt_eq_false (growth : tree.Grows grown)
    (free : grown.isDirectoryAt way = false) : tree.isDirectoryAt way = false :=
  Bool.eq_false_iff.mpr fun h => Bool.eq_false_iff.mp free (growth.directories way h)

/-! ### Directories -/

/-- Every part of the way to a directory is one. -/
theorem isDirectoryAt_lead {below : List String} (h : tree.isDirectoryAt below = true)
    (lead : way <+: below) : tree.isDirectoryAt way = true := by
  simp only [isDirectoryAt, Bool.or_eq_true, List.any_eq_true, Bool.and_eq_true,
    List.isPrefixOf_iff_prefix, decide_eq_true_eq] at h ⊢
  rcases h with (home | ⟨directory, member, short⟩) | ⟨file, member, short, shorter⟩
  · exact Or.inl (Or.inl (lead.trans home))
  · exact Or.inl (Or.inr ⟨directory, member, lead.trans short⟩)
  · exact Or.inr ⟨file, member, lead.trans short, Nat.lt_of_le_of_lt lead.length_le shorter⟩

/-- The directory that a path begins at is always there. -/
theorem isDirectoryAt_start (tree : Files) (place : Location) :
    tree.isDirectoryAt (tree.start place) = true := by
  have home : tree.isDirectoryAt tree.home = true := by
    rw [isDirectoryAt, List.isPrefixOf_iff_prefix.mpr List.prefix_rfl, Bool.true_or, Bool.true_or]
  rw [start]
  split
  · exact isDirectoryAt_lead home List.nil_prefix
  · exact home

/-- A new directory makes directories of the parts of its way and of nothing else. -/
theorem isDirectoryAt_withDirectory (tree : Files) (made way : List String) :
    isDirectoryAt { tree with directories := tree.directories ++ [made] } way
      = (tree.isDirectoryAt way || way.isPrefixOf made) := by
  simp only [isDirectoryAt, List.any_append, List.any_cons, List.any_nil, Bool.or_false]
  ac_rfl

/-- A new directory is there. -/
theorem isDirectoryAt_made (tree : Files) (made : List String) :
    isDirectoryAt { tree with directories := tree.directories ++ [made] } made = true := by
  rw [isDirectoryAt_withDirectory, List.isPrefixOf_iff_prefix.mpr List.prefix_rfl, Bool.or_true]

/-- A tree grows by a new directory in one that it has. -/
theorem grows_withDirectory {part : String} (above : tree.isDirectoryAt way = true)
    (free : tree.isLocked (way ++ [part]) = false) :
    tree.Grows { tree with directories := tree.directories ++ [way ++ [part]] } where
  home := rfl
  locks := rfl
  contents _ h := h
  directories way h := by rw [isDirectoryAt_withDirectory, h, Bool.true_or]
  made other h := by
    rw [isDirectoryAt_withDirectory, Bool.or_eq_true, List.isPrefixOf_iff_prefix,
      List.prefix_concat_iff] at h
    -- A directory was there, is the new one, or leads to it and so was there.
    rcases h with there | rfl | lead
    · exact .inl there
    · exact .inr free
    · exact .inl (isDirectoryAt_lead above lead)

/-- A directory that the grown tree has can be made in the tree too. -/
theorem Grows.withDirectory_left (growth : tree.Grows grown) {made : List String}
    (there : grown.isDirectoryAt made = true) :
    Grows { tree with directories := tree.directories ++ [made] } grown where
  home := growth.home
  locks := growth.locks
  contents := growth.contents
  directories way h := by
    rw [isDirectoryAt_withDirectory, Bool.or_eq_true, List.isPrefixOf_iff_prefix] at h
    exact h.elim (growth.directories way) (isDirectoryAt_lead there)
  made way h := (growth.made way h).imp_left fun there => by
    rw [isDirectoryAt_withDirectory, there, Bool.true_or]

/-- Making the directories on a way takes nothing away. -/
theorem grows_makeWayFrom (tree : Files) (way parts : List String) :
    tree.Grows (tree.makeWayFrom way parts).2 := by
  fun_induction makeWayFrom tree way parts with
  | case1 => exact .refl _
  | case2 tree way parts ih => exact ih
  | case3 => exact .refl _
  | case4 tree way part parts next up free there ih => exact ih
  | case5 => exact .refl _
  | case6 tree way part parts next up free absent possible ih =>
    rw [Bool.not_eq_true, Bool.or_eq_false_iff, Bool.not_eq_false'] at possible
    exact (grows_withDirectory possible.1 possible.2).trans ih

/-- A way that has been made leads to a directory, if it set out from one. -/
theorem isDirectoryAt_of_makeWayFrom {parts place : List String} {after : Files}
    (there : tree.isDirectoryAt way = true)
    (made : tree.makeWayFrom way parts = (some place, after)) : after.isDirectoryAt place = true := by
  -- By the cases of the way: it ends, goes up, is stopped, goes on, or goes on through a new
  -- directory.
  fun_induction makeWayFrom tree way parts with
  | case1 =>
    cases made
    exact there
  | case2 tree way parts ih => exact ih (isDirectoryAt_lead there (List.dropLast_prefix _)) made
  | case3 => cases made
  | case4 tree way part parts next up free there' ih => exact ih there' made
  | case5 => cases made
  | case6 tree way part parts next up free absent possible ih =>
    exact ih (isDirectoryAt_made tree next) made

/-- A way can be made if its names are short and lead down, and no file and no lock lies on it. It
leads from where it set out to where the names say. -/
theorem makeWayFrom_of_free {parts : List String} (there : tree.isDirectoryAt way = true)
    (names : ∀ part ∈ parts, part ≠ ".." ∧ fits part = true)
    (free : ∀ lead, lead <+: parts →
      (tree.contentAt? (way ++ lead)).isSome = false ∧ tree.isLocked (way ++ lead) = false) :
    (tree.makeWayFrom way parts).1 = some (way ++ parts) := by
  -- Directory after directory: each is there already or is made, and the way goes on from it.
  induction parts generalizing tree way with
  | nil => rw [makeWayFrom, List.append_nil]
  | cons part parts ih =>
    obtain ⟨⟨down, short⟩, names⟩ := List.forall_mem_cons.mp names
    obtain ⟨empty, unlocked⟩ := free [part] (List.prefix_append [part] parts)
    have onward : ∀ lead, lead <+: parts →
        (tree.contentAt? (way ++ [part] ++ lead)).isSome = false
          ∧ tree.isLocked (way ++ [part] ++ lead) = false := by
      intro lead within
      rw [List.append_assoc]
      exact free (part :: lead) (List.cons_prefix_cons.mpr ⟨rfl, within⟩)
    have onto : way ++ part :: parts = way ++ [part] ++ parts := List.append_cons way part parts
    rw [makeWayFrom, if_neg down, if_neg (by simp [short, empty]), onto]
    split
    · next already => exact ih already names onward
    · rw [if_neg (by simp [there, unlocked])]
      exact ih (isDirectoryAt_made tree _) names onward

/-- The way begins at the working directory or at the root, as the path says. -/
example :
    let tree : Files := { files := [], home := ["srv", "app"] }
    (tree.makeWayFrom (tree.start ⟨"", ["log"]⟩) ["log"]).1 = some ["srv", "app", "log"]
      ∧ (tree.makeWayFrom (tree.start ⟨"/", ["log"]⟩) ["log"]).1 = some ["log"] := by
  decide

/-- A way that can be made in the grown tree could be made before, and it was the same. -/
theorem makeWayFrom_of_grows {parts place : List String} {after : Files} (growth : tree.Grows grown)
    (there : tree.isDirectoryAt way = true)
    (made : grown.makeWayFrom way parts = (some place, after)) :
    ∃ before, tree.makeWayFrom way parts = (some place, before) ∧ before.Grows after := by
  induction parts generalizing tree grown way with
  | nil =>
    cases made
    exact ⟨tree, rfl, growth⟩
  | cons part parts ih =>
    rw [makeWayFrom] at made
    by_cases up : part = ".."
    · rw [if_pos up] at made
      obtain ⟨before, same, growth⟩ :=
        ih growth (isDirectoryAt_lead there (List.dropLast_prefix _)) made
      exact ⟨before, by rw [makeWayFrom, if_pos up, same], growth⟩
    rw [if_neg up] at made
    split at made
    · cases made
    · next free =>
      obtain ⟨fits, empty⟩ := Bool.or_eq_false_iff.mp (Bool.eq_false_iff.mpr free)
      have empty := growth.contentAt?_isSome_eq_false empty
      by_cases earlier : tree.isDirectoryAt (way ++ [part]) = true
      · -- The directory was there already, so it is there now.
        rw [if_pos (growth.directories _ earlier)] at made
        obtain ⟨before, same, growth⟩ := ih growth earlier made
        exact ⟨before, by simp [makeWayFrom, up, fits, empty, earlier, same], growth⟩
      · -- The directory has been made since or is made now; both show that it is not locked.
        have both : tree.isLocked (way ++ [part]) = false
            ∧ ∃ larger, tree.Grows larger ∧ larger.isDirectoryAt (way ++ [part]) = true
              ∧ larger.makeWayFrom (way ++ [part]) parts = (some place, after) := by
          split at made
          · next since =>
            exact ⟨(growth.made _ since).resolve_left earlier, grown, growth, since, made⟩
          · split at made
            · cases made
            · next possible =>
              rw [Bool.not_eq_true, Bool.or_eq_false_iff, Bool.not_eq_false'] at possible
              exact ⟨(congrFun growth.locks _).symm.trans possible.2, _,
                growth.trans (grows_withDirectory possible.1 possible.2),
                isDirectoryAt_made grown _, made⟩
        obtain ⟨unlocked, larger, growth, now, made⟩ := both
        obtain ⟨before, same, growth⟩ :=
          ih (growth.withDirectory_left now) (isDirectoryAt_made tree _) made
        exact ⟨before, by simp [makeWayFrom, up, fits, empty, earlier, there, unlocked, same], growth⟩

/-! ### Files -/

/-- What it takes to open a file, and what becomes of the tree. -/
theorem withFileAt?_eq_some {after : Files} (h : tree.withFileAt? way = some after) :
    tree.isWritableAt way = true ∧
      (after = tree ∨ after = { tree with files := tree.files ++ [(way, .empty)] }) := by
  rw [withFileAt?] at h
  split at h
  · cases h
  · next writable =>
    refine ⟨by simpa using writable, ?_⟩
    split at h
    · exact Or.inl (Option.some.inj h).symm
    · exact Or.inr (Option.some.inj h).symm

/-- Opening a file takes nothing away. The directory that a new file lies in is there, so no
other directory comes with it. -/
theorem grows_withFileAt? {after : Files} (h : tree.withFileAt? way = some after) :
    tree.Grows after := by
  obtain ⟨writable, rfl | rfl⟩ := withFileAt?_eq_some h
  · exact .refl _
  · simp only [isWritableAt, Bool.and_eq_true] at writable
    obtain ⟨⟨⟨above, -⟩, -⟩, -⟩ := writable
    refine ⟨rfl, rfl, fun other there => ?_, fun other there => ?_, fun other there => ?_⟩
    · rw [contentAt?, List.lookup_append, Option.isSome_or, Bool.or_eq_true]
      exact Or.inl there
    · simp only [isDirectoryAt, List.any_append, Bool.or_eq_true] at there ⊢
      exact there.imp_right Or.inl
    · simp only [isDirectoryAt, List.any_append, Bool.or_eq_true, List.any_cons, List.any_nil,
        Bool.or_false, Bool.and_eq_true, List.isPrefixOf_iff_prefix, decide_eq_true_eq] at there
      rcases there with earlier | old | ⟨lead, shorter⟩
      · refine .inl ?_
        simp only [isDirectoryAt, Bool.or_eq_true, List.isPrefixOf_iff_prefix]
        exact .inl earlier
      · refine .inl ?_
        rw [isDirectoryAt, Bool.or_eq_true]
        exact .inr old
      · -- A part of the way to the file is a part of the way to its directory.
        refine .inl (isDirectoryAt_lead above (List.prefix_of_prefix_length_le lead
          (List.dropLast_prefix way) ?_))
        rw [List.length_dropLast]
        omega

/-- A file that the grown tree can have, the tree could have had, if its directory was there. -/
theorem withFileAt?_of_grows {after : Files} (growth : tree.Grows grown)
    (above : tree.isDirectoryAt way.dropLast = true)
    (opened : grown.withFileAt? way = some after) :
    ∃ before, tree.withFileAt? way = some before := by
  obtain ⟨writable, -⟩ := withFileAt?_eq_some opened
  -- What stands in the way of a file is a directory or a lock, and there is no more of these in the
  -- smaller tree.
  have earlier : tree.isWritableAt way = true := by
    simp only [isWritableAt, Bool.and_eq_true, Bool.not_eq_eq_eq_not, Bool.not_true] at writable ⊢
    obtain ⟨⟨⟨-, free⟩, short⟩, unlocked⟩ := writable
    exact ⟨⟨⟨above, growth.isDirectoryAt_eq_false free⟩, short⟩,
      (congrFun growth.locks way).symm.trans unlocked⟩
  rw [withFileAt?, if_neg (by simp [earlier])]
  split
  · exact ⟨_, rfl⟩
  · exact ⟨_, rfl⟩

end Moderation.Files
