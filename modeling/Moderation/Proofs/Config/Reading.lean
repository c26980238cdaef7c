import Moderation.Config.Load
import Moderation.Proofs.Config.Surfacing
import Moderation.Proofs.Entries
import Moderation.Toml.Document

/-!
# `Moderation.Proofs.Config.Reading`: which files surface as a faulty configuration

To read the configuration of the engine, first a file of settings adds variables to the environment,
then the main file and the files in some directories are read, one after the other, and then the table
of the engine is looked at (`Config.read`). Files are bytes: they need not be texts, and a text need not
be a document.

What reads the documents is not a part of the engine, and how deep things may be nested is up to the
machine. So both are given: a reader, of which nothing is known but that it says so of bytes that are no
text (`Toml.Reader.ExpectsText`), and a room, of which nothing is known at all.

That a file is missing, is a directory or is malformed is a fault of the configuration. What is not
expected is an error of another kind:

* bytes that are no text, whole numbers with too many digits and values that are nested too deep for the
  reader (`surfaces_readTable_iff`),
* tables that are nested too deep to be put on top of one another (`surfaces_addTable_iff`), and
  directories that are nested too deep to be gone through (`surfaces_addDirectory_iff`),
* a configuration that is nested too deep for its placeholders (`surfaces_fillIn_iff`),
* a file of settings that is no text, or sets a variable that there cannot be (`addSettings_cases`),
* paths that are too long (`surfaces_isThere_iff`).

`surfaces_read_iff` is the exact condition on the files, the environment and the table: reading ends
with a configuration or a fault of it if and only if all is legible that is read.
-/

set_option autoImplicit false

namespace Moderation

variable {σ β γ : Type}

/-- An action and what follows it surface if both do. -/
theorem Act.surfaces_bind_iff {act : Act σ β} {f : β → Act σ γ} {state : σ} :
    Surfaces ((act >>= f).outcome state).1 ↔ Surfaces (act.outcome state).1
      ∧ ∀ x after, act.outcome state = (.ok x, after) → Surfaces ((f x).outcome after).1 := by
  cases ran : act.outcome state with
  | mk result after =>
  cases result with
  | ok x =>
    rw [Act.outcome_bind_ok ran]
    constructor
    · rintro h
      refine ⟨surfaces_ok x, fun y later same => ?_⟩
      cases same
      exact h
    · exact fun h => h.2 x after rfl
  | error e =>
    rw [Act.outcome_bind_error ran, surfaces_error_iff, surfaces_error_iff]
    exact ⟨fun h => ⟨h, nofun⟩, fun h => h.1⟩

/-! ### The file of settings -/

namespace Environment

/-- A variable that there can be, with a value that it can have. -/
structure Allows (name value : String) : Prop where
  named : name.isEmpty = false
  name : name.contains '\x00' = false
  value : value.contains '\x00' = false

section

variable {env : Environment} {name value : String}

/-- A variable that has a value keeps it. -/
theorem outcome_setDefault_of_has (has : Entries.has env name = true) :
    (setDefault name value).outcome env = (.ok (), env) := by
  rw [setDefault, Act.outcome_bind_ok (Act.outcome_get env), if_pos has]
  rfl

/-- One that has none gets the value, if it can have it. -/
theorem outcome_setDefault_of_allows (free : Entries.has env name = false) (h : Allows name value) :
    (setDefault name value).outcome env = (.ok (), Entries.set env name value) := by
  rw [setDefault, Act.outcome_bind_ok (Act.outcome_get env)]
  simp only [free, h.named, h.name, h.value, Bool.or_self, Bool.false_eq_true, if_false]
  rfl

/-- That there cannot be a variable is no fault of the configuration. -/
theorem not_surfaces_setDefault (free : Entries.has env name = false) (h : ¬ Allows name value) :
    ¬ Surfaces ((setDefault name value).outcome env).1 := by
  rw [setDefault, Act.outcome_bind_ok (Act.outcome_get env)]
  simp only [free, Bool.false_eq_true, if_false]
  split
  · exact fun h => by simpa using h _ rfl
  · next clean =>
    split
    · exact fun h => by simpa using h _ rfl
    · next named =>
      refine absurd ⟨?_, ?_, ?_⟩ h <;> simp_all

end

/-- Each variable of some settings has a value already, or can have the one that it is given. -/
def Accepts (env : Environment) (settings : List (String × String)) : Prop :=
  ∀ entry ∈ settings, Entries.has env entry.1 = false → Allows entry.1 entry.2

/-- Settings that are accepted are made. Otherwise there is an error that is no fault of the
configuration. -/
theorem populate_cases {settings : List (String × String)} (distinct : (Entries.keys settings).Nodup)
    (env : Environment) :
    Accepts env settings ∧ (∃ after, (populate settings).outcome env = (.ok (), after))
      ∨ ¬ Accepts env settings ∧ ¬ Surfaces ((populate settings).outcome env).1 := by
  induction settings generalizing env with
  | nil => exact Or.inl ⟨nofun, env, rfl⟩
  | cons entry rest ih =>
    obtain ⟨name, value⟩ := entry
    obtain ⟨fresh, distinct⟩ := List.nodup_cons.mp distinct
    have all : Accepts env ((name, value) :: rest)
        ↔ (Entries.has env name = false → Allows name value) ∧ Accepts env rest :=
      List.forall_mem_cons
    rw [populate, all]
    cases has : Entries.has env name with
    | true =>
      have others : (true = false → Allows name value) ∧ Accepts env rest ↔ Accepts env rest :=
        and_iff_right nofun
      rw [Act.outcome_bind_ok (outcome_setDefault_of_has has), others]
      exact ih distinct env
    | false =>
      by_cases allows : Allows name value
      · -- The variables that follow have other names.
        have others : Accepts (Entries.set env name value) rest ↔ Accepts env rest := by
          refine forall₂_congr ?_
          rintro ⟨other, x⟩ hentry
          have different : name ≠ other := by
            rintro rfl
            exact fresh (List.mem_map.mpr ⟨_, hentry, rfl⟩)
          rw [Entries.has, Entries.get?_set, if_neg different, Entries.has]
        rw [Act.outcome_bind_ok (outcome_setDefault_of_allows has allows),
          and_iff_right fun _ => allows, ← others]
        exact ih distinct _
      · have failed := not_surfaces_setDefault has allows
        exact Or.inr ⟨fun h => allows (h.1 rfl), fun h => failed (Act.surfaces_bind_iff.mp h).1⟩

/-- No variable is set twice. -/
theorem nodup_keys_ofText (text : String) : (ofText text).keys.Nodup := by
  refine Entries.nodup_keys_setAll ?_ _
  exact List.nodup_nil

end Environment

namespace Config

variable {tree : Files}

/-! ### Files -/

/-- What is done with the file of settings: it is a text, and its settings are accepted. -/
def LegibleSettings (tree : Files) (env : Environment) : Prop :=
  ∀ content, tree.content? settingsPath = some content →
    ∃ text, String.fromUTF8? content = some text ∧ env.Accepts (Environment.ofText text)

/-- Adds the variables of the file of settings to the environment. -/
def addSettings (tree : Files) : Act Environment Unit := do
  Environment.populate (← Act.ofExcept (readSettings tree settingsPath))

/-- If the file of settings is legible, all goes well. Otherwise there is an error that is no fault of
the configuration. -/
theorem addSettings_cases (tree : Files) (env : Environment) :
    LegibleSettings tree env ∧ (∃ after, (addSettings tree).outcome env = (.ok (), after))
      ∨ ¬ LegibleSettings tree env ∧ ¬ Surfaces ((addSettings tree).outcome env).1 := by
  rw [LegibleSettings, addSettings]
  -- No file, bytes that are no text, or a text, of which all variables are added or one cannot be.
  cases given : tree.content? settingsPath with
  | none =>
    have read : readSettings tree settingsPath = .ok [] := by rw [readSettings, given]
    rw [read, Act.outcome_bind_ok (Act.outcome_ofExcept _ env)]
    exact Or.inl ⟨nofun, env, rfl⟩
  | some content =>
    cases decoded : String.fromUTF8? content with
    | none =>
      have undecodable : decode content = .error .undecodable := by rw [decode, decoded]
      have read : readSettings tree settingsPath = .error .undecodable := by
        rw [readSettings, given]
        exact congrArg (Environment.ofText <$> ·) undecodable
      rw [read, Act.outcome_bind_error (Act.outcome_ofExcept _ env)]
      exact Or.inr ⟨by simp [decoded], by simp⟩
    | some text =>
      have decodable : decode content = .ok text := by rw [decode, decoded]
      have read : readSettings tree settingsPath = .ok (Environment.ofText text) := by
        rw [readSettings, given]
        exact congrArg (Environment.ofText <$> ·) decodable
      rw [read, Act.outcome_bind_ok (Act.outcome_ofExcept _ env)]
      simpa [decoded] using Environment.populate_cases (Environment.nodup_keys_ofText text) env

section

variable (reader : Toml.Reader) (room : Room) (tree : Files)

/-- What is done with the file at a place: it is a text, and the reader gives its table or finds it
malformed. -/
def LegibleFile (place : Location) : Prop :=
  ∀ content, tree.content? place = some content →
    (∃ text, String.fromUTF8? content = some text)
      ∧ ∀ fault, reader content = .error fault → fault = .malformed

/-- What is done with the file at a place, when some tables have been read: it is read, and there is
room to put its table on top of them. -/
structure LegibleLayer (tables : List (Entries Value)) (place : Location) : Prop where
  file : LegibleFile reader tree place
  fits : ∀ table, readTable reader tree place = .ok table →
    room.forMerging (mergeAll tables) table = true

/-- What is done with the main file: it is read, if there is anything at its path. -/
structure LegibleMain (path : String) : Prop where
  reachable : ∃ there, isThere tree path = .ok there
  file : isThere tree path = .ok true → LegibleFile reader tree (Location.ofText path)

/-- What is done with a directory, when some tables have been read: if there is anything at its path
and there is room to look for files, these are read one after the other up to the first error. -/
structure LegibleDirectory (tables : List (Entries Value)) (path : String) : Prop where
  reachable : ∃ there, isThere tree path = .ok there
  fits : isThere tree path = .ok true → room.forDirectories tree (Location.ofText path) = true
  files : isThere tree path = .ok true → ∀ before place after read,
    tree.filesBelow (Location.ofText path) ".toml" = before ++ place :: after →
    before.foldlM (addTable reader room tree) tables = .ok read →
    LegibleLayer reader room tree read place

/-- What is done with the main file and the directories, in this order up to the first error. -/
structure LegibleFiles (path : String) (directories : List String) : Prop where
  main : LegibleMain reader tree path
  directories : ∀ tables, readMain reader tree path = .ok tables → ∀ before directory after read,
    directories = before ++ directory :: after →
    before.foldlM (fun tables path => addDirectory reader room tree tables (.text path)) tables
      = .ok read →
    LegibleDirectory reader room tree read directory

/-- What is done at last: there is room to look for placeholders in the configuration. -/
def LegibleWhole (path : String) (directories : List String) (env : Environment) : Prop :=
  ∀ tables after, (addSettings tree).outcome env = (.ok (), after) →
    readTables reader room tree (.text path) (.list (directories.map .text)) = .ok tables →
    room.forPlaceholders after (mergeAll tables) = true

end

variable {reader : Toml.Reader} {room : Room} {tree : Files} {tables : List (Entries Value)}

/-- Among the faults of a file, only that it is malformed is one of the configuration. -/
theorem surfaces_errorOf_iff {place : Location} {fault : Toml.Fault} :
    Surfaces (.error (errorOf place fault) : Except Error β) ↔ fault = .malformed := by
  cases fault <;> simp [errorOf]

/-- A file surfaces if it is legible, or if there is none. -/
theorem surfaces_readTable_iff (texts : reader.ExpectsText) {place : Location} :
    Surfaces (readTable reader tree place) ↔ LegibleFile reader tree place := by
  rw [readTable, LegibleFile]
  cases tree.content? place with
  | none => simp
  | some content =>
    simp only [Option.some.injEq, forall_eq']
    cases read : reader content with
    | ok table =>
      -- What has been read is a text, since the reader would have said if it were none.
      have text : ∃ text, String.fromUTF8? content = some text := by
        cases decoded : String.fromUTF8? content with
        | none => cases read.symm.trans (texts.undecodable content decoded)
        | some text => exact ⟨text, rfl⟩
      exact iff_of_true (surfaces_ok table) ⟨text, nofun⟩
    | error fault =>
      refine surfaces_errorOf_iff.trans ⟨?_, fun h => h.2 fault rfl⟩
      rintro rfl
      refine ⟨?_, fun fault same => (Except.error.inj same).symm⟩
      cases decoded : String.fromUTF8? content with
      | none => cases read.symm.trans (texts.undecodable content decoded)
      | some text => exact ⟨text, rfl⟩

/-- A file on top of some tables surfaces if it is legible and there is room. -/
theorem surfaces_addTable_iff (texts : reader.ExpectsText) {place : Location} :
    Surfaces (addTable reader room tree tables place)
      ↔ LegibleLayer reader room tree tables place := by
  rw [addTable, surfaces_bind_iff, surfaces_readTable_iff texts]
  constructor
  · rintro ⟨file, rest⟩
    refine ⟨file, fun table read => ?_⟩
    simpa using (surfaces_unless_iff.mp (rest table read)).1
  · intro h
    refine ⟨h.file, fun table read => surfaces_unless_iff.mpr ⟨?_, fun _ => surfaces_pure _⟩⟩
    rw [h.fits table read]
    exact nofun

/-- Whether there is anything at a path surfaces if the path is short enough. -/
theorem surfaces_isThere_iff {path : String} :
    Surfaces (isThere tree path) ↔ ∃ there, isThere tree path = .ok there := by
  rw [isThere]
  split
  · simp
  · cases tree.isThere (Location.ofText path) with
    | ok there => exact iff_of_true (surfaces_ok there) ⟨there, rfl⟩
    | error _ =>
      refine iff_of_false (fun h => ?_) nofun
      obtain ⟨fault, same⟩ := h .refused rfl
      cases same

/-- The main file surfaces if it is legible. -/
theorem surfaces_readMain_iff (texts : reader.ExpectsText) {path : String} :
    Surfaces (readMain reader tree path) ↔ LegibleMain reader tree path := by
  rw [readMain, surfaces_bind_iff, surfaces_isThere_iff]
  constructor
  · rintro ⟨reachable, rest⟩
    refine ⟨reachable, fun there => ?_⟩
    simpa [surfaces_map_iff, surfaces_readTable_iff texts] using rest true there
  · intro h
    refine ⟨h.reachable, fun there same => ?_⟩
    cases there with
    | true => simpa [surfaces_map_iff, surfaces_readTable_iff texts] using h.file same
    | false => simp

/-- A directory surfaces if it is legible. -/
theorem surfaces_addDirectory_iff (texts : reader.ExpectsText) {path : String} :
    Surfaces (addDirectory reader room tree tables (.text path))
      ↔ LegibleDirectory reader room tree tables path := by
  have text : readPath (.text path) = .ok path := rfl
  rw [addDirectory, text, ok_bind, surfaces_bind_iff, surfaces_isThere_iff]
  -- The files below the directory are read in their order, each over what the ones before it have
  -- given.
  have below : Surfaces (if (!room.forDirectories tree (Location.ofText path)) = true then
        (throw .tooDeep : Except Error PUnit) >>= fun _ =>
          (tree.filesBelow (Location.ofText path) ".toml").foldlM (addTable reader room tree) tables
      else (tree.filesBelow (Location.ofText path) ".toml").foldlM (addTable reader room tree) tables)
      ↔ room.forDirectories tree (Location.ofText path) = true
        ∧ ∀ before place after read,
          tree.filesBelow (Location.ofText path) ".toml" = before ++ place :: after →
          before.foldlM (addTable reader room tree) tables = .ok read →
          LegibleLayer reader room tree read place := by
    simp only [surfaces_unless_iff, surfaces_foldlM_iff, surfaces_addTable_iff texts]
    cases room.forDirectories tree (Location.ofText path) <;> simp
  constructor
  · rintro ⟨reachable, rest⟩
    exact ⟨reachable, fun there => (below.mp (rest true there)).1,
      fun there => (below.mp (rest true there)).2⟩
  · intro h
    refine ⟨h.reachable, fun there same => ?_⟩
    cases there with
    | true => exact below.mpr ⟨h.fits same, h.files same⟩
    | false => simp

/-! ### All files -/

/-- The main file and the directories surface if they are legible. -/
theorem surfaces_readTables_iff (texts : reader.ExpectsText) {path : String}
    {directories : List String} :
    Surfaces (readTables reader room tree (.text path) (.list (directories.map .text)))
      ↔ LegibleFiles reader room tree path directories := by
  have text : readPath (.text path) = .ok path := rfl
  rw [readTables, text, ok_bind, surfaces_bind_iff, surfaces_readMain_iff texts]
  cases directories with
  | nil =>
    refine ⟨fun h => ⟨h.1, ?_⟩, fun h => ⟨h.main, fun tables _ => ?_⟩⟩
    · intro _ _ before _ _ _ same
      simp at same
    · -- That there is no main file is a fault of the configuration.
      cases tables <;> simp [Value.isSet, surfaces_bind_iff]
  | cons directory rest =>
    have reads (main : List (Entries Value)) :
        Surfaces (((directory :: rest).map Value.text).foldlM (addDirectory reader room tree) main)
        ↔ ∀ before place after read, directory :: rest = before ++ place :: after →
          before.foldlM (fun tables path => addDirectory reader room tree tables (.text path)) main
            = .ok read →
          LegibleDirectory reader room tree read place := by
      rw [List.foldlM_map, surfaces_foldlM_iff]
      simp only [surfaces_addDirectory_iff texts]
    generalize hlist : (directory :: rest).map Value.text = listed at reads ⊢
    have given : (Value.list listed).isSet = true := by rw [← hlist]; rfl
    have elements : (Value.list listed).elements = .ok listed := rfl
    simp only [given, elements, Bool.not_true, Bool.and_false, Bool.false_eq_true, if_false, if_true,
      ok_bind, reads]
    exact ⟨fun h => ⟨h.1, h.2⟩, fun h => ⟨h.main, h.directories⟩⟩

/-- That there is no room for substitution is no fault of the configuration. -/
theorem surfaces_fillIn_iff {table : Entries Value} {env : Environment} :
    Surfaces ((fillIn room table).outcome env).1 ↔ room.forPlaceholders env table = true := by
  rw [fillIn, Act.outcome_bind_ok (Act.outcome_get env)]
  cases room.forPlaceholders env table with
  | true => exact iff_of_true (surfaces_ok _) rfl
  | false => exact iff_of_false (fun h => by simpa using h _ rfl) nofun

/-- A configuration is loaded in three steps. -/
theorem load_eq (path directories : Value) :
    load reader room tree path directories = addSettings tree >>= fun _ =>
      Act.ofExcept (readTables reader room tree path directories) >>= fun tables =>
      fillIn room (mergeAll tables) := by
  rw [addSettings, bind_assoc]
  rfl

/-- Loading surfaces if and only if the file of settings and the files are legible and there is room
for the configuration as a whole. -/
theorem surfaces_load_iff (texts : reader.ExpectsText) {path : String} {directories : List String}
    {env : Environment} :
    Surfaces ((load reader room tree (.text path) (.list (directories.map .text))).outcome env).1
      ↔ LegibleSettings tree env ∧ LegibleFiles reader room tree path directories
        ∧ LegibleWhole reader room tree path directories env := by
  rw [load_eq]
  obtain ⟨legible, after, ran⟩ | ⟨illegible, failed⟩ := addSettings_cases tree env
  · rw [Act.outcome_bind_ok ran, Act.surfaces_bind_iff, Act.outcome_ofExcept,
      surfaces_readTables_iff texts, and_iff_right legible, LegibleWhole]
    simp only [surfaces_fillIn_iff, ran, Prod.mk.injEq, true_and]
    -- The room is needed for the tables that were read and the environment as it is by then.
    refine and_congr_right fun _ => ⟨?_, ?_⟩
    · rintro h tables _ rfl read
      exact h tables after ⟨read, rfl⟩
    · rintro h tables _ ⟨read, rfl⟩
      exact h tables after rfl read
  · exact iff_of_false (fun h => failed (Act.surfaces_bind_iff.mp h).1) fun h => illegible h.1

/-! ### The configuration -/

/-- The configuration of the engine in some files. `modules` lists the installed modules, if they are
known. -/
def read (reader : Toml.Reader) (room : Room) (tree : Files) (path : String)
    (directories : List String) (modules : Option Value) : Act Environment Config := do
  let table ← load reader room tree (.text path) (.list (directories.map .text))
  Act.ofExcept (ofTable? (table.getOr "ai" (.table [])) modules)

/-- Reading a configuration surfaces if and only if all is legible that is read: the file of settings,
the main file and the files in the directories, the configuration as a whole, and then the table of the
engine. What reads the documents is only known to say so if bytes are no text, and how deep directories,
tables and values may be nested is left open. -/
theorem surfaces_read_iff {reader : Toml.Reader} (texts : reader.ExpectsText) (room : Room)
    (tree : Files) (path : String) (directories : List String) (modules : Option Value)
    (env : Environment) :
    Surfaces ((read reader room tree path directories modules).outcome env).1
      ↔ LegibleSettings tree env ∧ LegibleFiles reader room tree path directories
        ∧ LegibleWhole reader room tree path directories env
        ∧ ∀ table after,
          (load reader room tree (.text path) (.list (directories.map .text))).outcome env
            = (.ok table, after) →
          Legible (table.getOr "ai" (.table [])) modules := by
  rw [read, Act.surfaces_bind_iff, surfaces_load_iff texts, and_assoc, and_assoc]
  simp only [Act.outcome_ofExcept, surfaces_ofTable_iff]

/-- Tables in a table in a table: there is room for two of them, so the configuration is legible but
for its placeholders. -/
theorem surfaces_read_iff_deep :
    (Toml.reader 100).ExpectsText
      ∧ ¬ Surfaces ((read (Toml.reader 100) (.ofLevels 100 100 2)
        { files := [(["ai"], "a.b.c=1".toUTF8)] } "ai" [] none).outcome []).1 := by
  refine ⟨Toml.expectsText_reader 100, fun h => ?_⟩
  obtain ⟨-, -, whole, -⟩ := (surfaces_read_iff (Toml.expectsText_reader 100) _ _ _ _ _ _).mp h
  have room := whole [[("a", .table [("b", .table [("c", .int 1)])])]] [] rfl rfl
  have none : (Room.ofLevels 100 100 2).forPlaceholders []
      (mergeAll [[("a", .table [("b", .table [("c", .int 1)])])]]) = false := rfl
  exact Bool.false_ne_true (none.symm.trans room)

/-- A document can put a number where the table of the engine belongs. Whatever reads it as such, the
number is not said to be a fault of the configuration; and neither is it said of bytes that are no text,
by any reader that expects text. -/
theorem not_surfaces_number :
    (Toml.reader 100 "ai = 5\n".toUTF8 = .ok [("ai", .int 5)] ∧ (Toml.reader 100).ExpectsText)
      ∧ (∀ reader : Toml.Reader, reader "ai = 5\n".toUTF8 = .ok [("ai", .int 5)] →
        ¬ Surfaces ((read reader (.ofLevels 100 100 100) { files := [(["ai"], "ai = 5\n".toUTF8)] }
          "ai" [] none).outcome []).1)
      ∧ ∀ reader : Toml.Reader, reader.ExpectsText →
        ¬ Surfaces ((read reader (.ofLevels 100 100 100) { files := [(["ai"], ⟨#[255]⟩)] }
          "ai" [] none).outcome []).1 := by
  have there (content : ByteArray) : isThere { files := [(["ai"], content)] } "ai" = .ok true := rfl
  have given (content : ByteArray) :
      Files.content? { files := [(["ai"], content)] } (Location.ofText "ai") = some content := rfl
  have settled (content : ByteArray) :
      (addSettings { files := [(["ai"], content)] }).outcome [] = (.ok (), []) := rfl
  refine ⟨⟨rfl, Toml.expectsText_reader 100⟩, fun reader number => ?_, fun reader texts => ?_⟩
  · -- The number is read without an error, and then it is no table.
    have main : readMain reader { files := [(["ai"], "ai = 5\n".toUTF8)] } "ai"
        = .ok [[("ai", .int 5)]] := by
      rw [readMain, there, ok_bind, if_pos rfl, readTable, given]
      simp only [number]
      rfl
    have failed : ofTable? (Entries.getOr (substituteEntries [] (mergeAll [[("ai", .int 5)]])) "ai"
        (.table [])) none = .error .lacking := rfl
    have tables : readTables reader (.ofLevels 100 100 100)
        { files := [(["ai"], "ai = 5\n".toUTF8)] } (.text "ai") (.list [])
          = .ok [[("ai", .int 5)]] := by
      rw [readTables]
      show (readMain _ _ _ >>= _) = _
      rw [main]
      rfl
    have filled : (fillIn (.ofLevels 100 100 100) (mergeAll [[("ai", .int 5)]])).outcome []
        = (.ok (substituteEntries [] (mergeAll [[("ai", .int 5)]])), []) := rfl
    rw [read, load_eq, bind_assoc, Act.outcome_bind_ok (settled _), bind_assoc, List.map_nil, tables,
      Act.outcome_bind_ok (Act.outcome_ofExcept _ _), Act.outcome_bind_ok filled,
      Act.outcome_ofExcept, failed]
    simp
  · -- The bytes would have to be a text.
    intro h
    have files := ((surfaces_load_iff texts).mp (Act.surfaces_bind_iff.mp h).1).2.1
    obtain ⟨⟨text, decoded⟩, -⟩ := files.main.file (there _) _ (given _)
    have none : String.fromUTF8? ⟨#[255]⟩ = none := rfl
    cases none.symm.trans decoded

end Config

end Moderation
