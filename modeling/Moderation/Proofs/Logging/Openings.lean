import Mathlib.Data.List.Perm.Subperm
import Moderation.Logging.Configure
import Moderation.Proofs.Files

/-!
# `Moderation.Proofs.Logging.Openings`: log files that are opened one after the other

Opening a log file has nothing to do with the loggers (`OpensOnly`), and since files only grow, it
can be opened later only if it could be opened before (`opening_of_grows`). The other way round is
not sure: another log file may have taken the place of its directory. Where log files that can be
opened stay openable (`StayOpenable`), what comes of each does not depend on which of the others
came first.
-/

set_option autoImplicit false

namespace Moderation.Logging

variable {β γ : Type}

/-- An action that opens files at most: what it gives and what it makes of the files has nothing to
do with the loggers, which stay as they are, and the files grow. -/
def OpensOnly (act : Act State β) : Prop :=
  ∀ files, ∃ result after, files.Grows after ∧
    ∀ loggers, act.outcome ⟨loggers, files⟩ = (result, ⟨loggers, after⟩)

/-- What is given at once opens nothing. -/
theorem opensOnly_ofExcept (result : Except Error β) : OpensOnly (Act.ofExcept result) :=
  fun files => ⟨result, files, .refl files, fun _ => rfl⟩

/-- A value opens nothing either. -/
theorem opensOnly_pure (x : β) : OpensOnly (pure x) := opensOnly_ofExcept (.ok x)

/-- Raising an error opens nothing either. -/
theorem opensOnly_throw (e : Error) : OpensOnly (throw e : Act State β) :=
  opensOnly_ofExcept (.error e)

/-- Two steps that open files at most, one after the other. -/
theorem OpensOnly.bind {act : Act State β} {f : β → Act State γ} (first : OpensOnly act)
    (behind : ∀ x, OpensOnly (f x)) : OpensOnly (act >>= f) := by
  intro files
  obtain ⟨result, mid, growth, same⟩ := first files
  cases result with
  | error e =>
    exact ⟨.error e, mid, growth, fun loggers => Act.outcome_bind_error (same loggers)⟩
  | ok x =>
    obtain ⟨result, after, larger, goes⟩ := behind x mid
    exact ⟨result, after, growth.trans larger,
      fun loggers => (Act.outcome_bind_ok (same loggers)).trans (goes loggers)⟩

/-- Looking at names opens nothing. -/
theorem opensOnly_refuseNull (names : List String) : OpensOnly (refuseNull names) := by
  rw [refuseNull]
  split
  · exact opensOnly_throw _
  · exact opensOnly_pure ()

/-- Making a directory makes the files grow, or is refused. -/
theorem opensOnly_makeDirectoryOf (place : Location) : OpensOnly (makeDirectoryOf place) := by
  refine (opensOnly_refuseNull _).bind fun _ => ?_
  split
  · exact opensOnly_pure none
  · exact fun files => ⟨.ok (files.makeWayFrom (files.start place) place.parts.dropLast).1, _,
      files.grows_makeWayFrom (files.start place) place.parts.dropLast, fun _ => rfl⟩

/-- Opening a file makes the files grow, or leaves them as they are. -/
theorem opensOnly_openFile (way : List String) : OpensOnly (openFile way) := by
  refine (opensOnly_refuseNull way).bind fun _ files => ?_
  -- What is done depends on the files alone, and so not on the loggers.
  cases opened : files.withFileAt? way with
  | none =>
    refine ⟨.ok false, files, .refl files, fun loggers => ?_⟩
    rw [Act.outcome_bind_ok (Act.outcome_get _)]
    simp only [opened]
    rfl
  | some after =>
    refine ⟨.ok true, after, Files.grows_withFileAt? opened, fun loggers => ?_⟩
    rw [Act.outcome_bind_ok (Act.outcome_get _)]
    simp only [opened]
    rfl

/-- So a sink is opened in steps each of which opens files at most. -/
theorem opensOnly_openSink (table : Entries Value) (path : Value) :
    OpensOnly (openSink table path) := by
  unfold openSink
  -- Each branch is a step that opens at most, or gives up.
  split
  · refine (opensOnly_makeDirectoryOf _).bind fun directory => ?_
    split
    · refine (opensOnly_ofExcept _).bind fun kept => ?_
      split
      · split
        · exact opensOnly_pure none
        · refine (opensOnly_openFile _).bind fun opened => ?_
          split
          · exact opensOnly_pure _
          · exact opensOnly_pure none
      · exact opensOnly_pure none
    · exact opensOnly_pure none
  · exact opensOnly_throw _

/-! ### What could have been opened before -/

section

variable {state grown after : State}

/-- Names that are not refused are not refused in any other state. -/
theorem refuseNull_ok {names : List String} {x : Unit}
    (h : (refuseNull names).outcome grown = (.ok x, after)) :
    after = grown ∧ ∀ state, (refuseNull names).outcome state = (.ok (), state) := by
  rw [refuseNull] at h
  split at h
  · cases h
  · next allowed =>
    cases h
    exact ⟨rfl, fun state => by rw [refuseNull, if_neg allowed, Act.outcome_pure]⟩

/-- A directory for a log file that can be made could have been made before, and is there then. -/
theorem makeDirectoryOf_of_grows {place : Location} {directory : List String}
    (growth : state.files.Grows grown.files)
    (made : (makeDirectoryOf place).outcome grown = (.ok (some directory), after)) :
    ∃ before, (makeDirectoryOf place).outcome state = (.ok (some directory), before) ∧
      before.files.Grows after.files ∧ before.files.isDirectoryAt directory = true := by
  obtain ⟨_, _, passed, goes⟩ := Act.ok_of_outcome_bind made
  obtain ⟨rfl, passes⟩ := refuseNull_ok passed
  rw [makeDirectoryOf, Act.outcome_bind_ok (passes state)]
  -- A directory whose name is too long is not made, in a tree as in one that has grown.
  split at goes
  · cases goes
  · next short =>
    rw [if_neg short]
    obtain ⟨leads, same⟩ := Prod.mk.inj goes
    have there := Files.isDirectoryAt_start state.files place
    rw [growth.start] at leads same
    obtain ⟨before, earlier, growth⟩ :=
      Files.makeWayFrom_of_grows growth there (Prod.ext (Except.ok.inj leads) rfl)
    refine ⟨{ state with files := before }, ?_, same ▸ growth,
      Files.isDirectoryAt_of_makeWayFrom there earlier⟩
    show (Except.ok (state.files.makeWayFrom (state.files.start place) place.parts.dropLast).1,
      { state with
        files := (state.files.makeWayFrom (state.files.start place) place.parts.dropLast).2 }) = _
    rw [earlier]

/-- A log file that can be opened could have been opened before, if its directory was there. -/
theorem openFile_of_grows {way : List String} (growth : state.files.Grows grown.files)
    (there : state.files.isDirectoryAt way.dropLast = true)
    (opened : (openFile way).outcome grown = (.ok true, after)) :
    ∃ before, (openFile way).outcome state = (.ok true, before) := by
  obtain ⟨_, _, passed, goes⟩ := Act.ok_of_outcome_bind opened
  obtain ⟨rfl, passes⟩ := refuseNull_ok passed
  rw [openFile, Act.outcome_bind_ok (passes state), Act.outcome_bind_ok (Act.outcome_get _)]
  rw [Act.outcome_bind_ok (Act.outcome_get _)] at goes
  -- A file that could be opened in the grown tree can be opened in the smaller one.
  split at goes
  · cases goes
  · next files larger =>
    obtain ⟨before, smaller⟩ := Files.withFileAt?_of_grows growth there larger
    simp only [smaller]
    exact ⟨_, rfl⟩

/-- The way to a file begins with that to its directory. -/
theorem dropLast_of_wayIn? {directory way : List String} {place : Location}
    (h : wayIn? directory place = some way) : way.dropLast = directory := by
  rw [wayIn?] at h
  split at h
  · cases h
  · cases h
  · cases h
    exact List.dropLast_concat

/-- A log file that can be opened at a path could have been opened there before. -/
theorem openSink_of_grows {table : Entries Value} {path : Value} {sink : Sink}
    (growth : state.files.Grows grown.files)
    (opened : (openSink table path).outcome grown = (.ok (some sink), after)) :
    ∃ before, (openSink table path).outcome state = (.ok (some sink), before) := by
  unfold openSink at opened ⊢
  split at opened
  · next path =>
    -- Each step could have been taken before: making the directory, reading how many files to keep,
    -- and opening the file in a directory that is there.
    obtain ⟨_ | directory, mid, made, opened⟩ := Act.ok_of_outcome_bind opened
    · cases opened
    obtain ⟨before, same, growth, there⟩ := makeDirectoryOf_of_grows growth made
    obtain ⟨kept, _, read, opened⟩ := Act.ok_of_outcome_bind opened
    obtain ⟨readable, rfl⟩ := Prod.mk.inj read
    have again : (Act.ofExcept _).outcome before = (.ok kept, before) :=
      congrArg (·, before) readable
    cases leads : wayIn? directory (Location.ofText path) with
    | none =>
      rw [leads] at opened
      cases opened
    | some way =>
      rw [leads] at opened
      by_cases short : (!((Location.ofText path).resolved way).fits) = true
      · simp only [if_pos short] at opened
        cases opened
      · simp only [if_neg short] at opened
        obtain ⟨_ | _, _, made, opened⟩ := Act.ok_of_outcome_bind opened
        · cases opened
        · rw [← dropLast_of_wayIn? leads] at there
          obtain ⟨after, opens⟩ := openFile_of_grows growth there made
          refine ⟨after, (Act.outcome_bind_ok same).trans ((Act.outcome_bind_ok again).trans ?_)⟩
          simp only [leads, if_neg short]
          rw [Act.outcome_bind_ok opens]
          exact Prod.ext (Prod.mk.inj opened).1 rfl
  · cases opened

end

/-- A log file is no console. -/
theorem openSink_ne_console {table : Entries Value} {path : Value} {sink : Sink}
    {state after : State}
    (opened : (openSink table path).outcome state = (.ok (some sink), after)) :
    sink ≠ .console := by
  unfold openSink at opened
  -- A sink is opened for the path of a file, or there is none.
  split at opened
  · obtain ⟨_ | directory, _, -, opened⟩ := Act.ok_of_outcome_bind opened
    · cases opened
    obtain ⟨kept, _, -, opened⟩ := Act.ok_of_outcome_bind opened
    split at opened
    · split at opened
      · cases opened
      · obtain ⟨_ | _, _, -, opened⟩ := Act.ok_of_outcome_bind opened
        · cases opened
        · cases opened
          split <;> exact Sink.noConfusion
    · cases opened
  · cases opened

/-! ### The log file of a table -/

/-- Opens the log file that a table names, if it names one. -/
def openLog : Value → Act State (Option Sink)
  | .table table =>
    match Entries.get? table "file" with
    | none => pure none
    | some path => openSink table path
  | _ => pure none

/-- The log file of a table is a sink, or there is none to open. -/
theorem opensOnly_openLog (config : Value) : OpensOnly (openLog config) := by
  unfold openLog
  split
  · split
    · exact opensOnly_pure none
    · exact opensOnly_openSink _ _
  · exact opensOnly_pure none

/-- A log file that can be opened could have been opened before. -/
theorem openLog_of_grows {config : Value} {state grown after : State} {sink : Sink}
    (growth : state.files.Grows grown.files)
    (opened : (openLog config).outcome grown = (.ok (some sink), after)) :
    ∃ before, (openLog config).outcome state = (.ok (some sink), before) := by
  unfold openLog at opened ⊢
  split at opened
  · split at opened
    · cases opened
    · exact openSink_of_grows growth opened
  · cases opened

/-- It is not the console. -/
theorem openLog_ne_console {config : Value} {sink : Sink} {state after : State}
    (opened : (openLog config).outcome state = (.ok (some sink), after)) : sink ≠ .console := by
  unfold openLog at opened
  split at opened
  · split at opened
    · cases opened
    · exact openSink_ne_console opened
  · cases opened

/-- What comes of the log file of a table, and the files then. -/
def opening (config : Value) (files : Files) : Except Error (Option Sink) × Files :=
  let opened := (openLog config).outcome ⟨.ofNames [], files⟩
  (opened.1, opened.2.files)

/-- What comes of a log file is told from the files alone. -/
theorem outcome_openLog (config : Value) (state : State) :
    (openLog config).outcome state
      = ((opening config state.files).1, ⟨state.loggers, (opening config state.files).2⟩) := by
  obtain ⟨result, after, -, same⟩ := opensOnly_openLog config state.files
  simp only [opening, same]

/-- The files after the log file of a table has been opened, if that could be done. -/
def withLog (files : Files) (config : Value) : Files := (opening config files).2

/-- Opening a log file makes the files grow. -/
theorem grows_withLog (files : Files) (config : Value) : files.Grows (withLog files config) := by
  obtain ⟨result, after, growth, same⟩ := opensOnly_openLog config files
  simp only [withLog, opening, same]
  exact growth

/-- Opening several log files makes the files grow. -/
theorem grows_foldl_withLog (files : Files) (configs : List Value) :
    files.Grows (configs.foldl withLog files) := by
  induction configs generalizing files with
  | nil => exact .refl files
  | cons config configs ih => exact (grows_withLog files config).trans (ih _)

/-- Whether the log file of a table can be opened. -/
def Opens (files : Files) (config : Value) : Prop :=
  ∃ sink, (opening config files).1 = .ok (some sink)

/-- A log file that can be opened is the one that could have been opened before. -/
theorem opening_of_grows {config : Value} {files grown : Files} {sink : Sink}
    (growth : files.Grows grown) (opened : (opening config grown).1 = .ok (some sink)) :
    (opening config files).1 = .ok (some sink) := by
  have later := (outcome_openLog config ⟨.ofNames [], grown⟩).trans (congrArg (·, _) opened)
  obtain ⟨before, earlier⟩ := @openLog_of_grows config ⟨.ofNames [], files⟩ _ _ _ growth later
  exact (Prod.mk.inj ((outcome_openLog config _).symm.trans earlier)).1

/-- The log files that can be opened can be opened whichever of the others come first. -/
def StayOpenable (files : Files) (configs : List Value) : Prop :=
  ∀ config before, (config :: before).Subperm configs →
    Opens files config → Opens (before.foldl withLog files) config

/-- Where no table names a log file, there is none to be opened. -/
theorem stayOpenable_of_none {files : Files} {configs : List Value}
    (none : ∀ config ∈ configs, openLog config = pure none) : StayOpenable files configs := by
  rintro config before others ⟨sink, opened⟩
  rw [opening, none config (others.subset List.mem_cons_self)] at opened
  cases opened

/-- A log file that is opened after some others is opened after any others. -/
theorem StayOpenable.opening_eq_some {files : Files} {configs before before' : List Value}
    {config : Value} {sink : Sink} (steady : StayOpenable files configs)
    (others : (config :: before').Subperm configs)
    (opened : (opening config (before.foldl withLog files)).1 = .ok (some sink)) :
    (opening config (before'.foldl withLog files)).1 = .ok (some sink) := by
  have first := opening_of_grows (grows_foldl_withLog files before) opened
  obtain ⟨sink', opened'⟩ := steady config before' others ⟨sink, first⟩
  have first' := opening_of_grows (grows_foldl_withLog files before') opened'
  cases first.symm.trans first'
  exact opened'

/-- What comes of a log file does not depend on the others, unless it is an error. -/
theorem StayOpenable.opening_eq {files : Files} {configs before before' : List Value}
    {config : Value} {sink sink' : Option Sink} (steady : StayOpenable files configs)
    (others : (config :: before).Subperm configs) (others' : (config :: before').Subperm configs)
    (opened : (opening config (before.foldl withLog files)).1 = .ok sink)
    (opened' : (opening config (before'.foldl withLog files)).1 = .ok sink') : sink = sink' := by
  cases sink with
  | some sink => exact Except.ok.inj ((steady.opening_eq_some others' opened).symm.trans opened')
  | none =>
    cases sink' with
    | none => rfl
    | some sink' => exact Except.ok.inj (opened.symm.trans (steady.opening_eq_some others opened'))

end Moderation.Logging
