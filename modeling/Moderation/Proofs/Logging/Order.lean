import Moderation.Proofs.Logging.Turns

/-!
# `Moderation.Proofs.Logging.Order`: the order of the sub-tables

The sub-tables of a table have their turn after the root and the quiet loggers (`setUp_eq`), and
what one of them leaves of its logger the others let be (`setUp_turn`). So two orders of them leave
the same loggers (`setUp_orders`), up to one thing: a handler without a level of its own has the
level that counted for its logger when it was made. That level is told from the names of the
loggers and from the sub-tables that came before (`levelAtTurn_eq`), and of these only those that
set a level for the root or a logger above matter (`levelByNames_congr`), so it is not the same for
all orders (`report_depends_on_order`).
-/

set_option autoImplicit false

namespace Moderation.Logging

/-! ### The sub-tables have their turn last -/

/-- A table with sub-tables for loggers. -/
def withSubs (table : Entries Value) (subs : List (String × Value)) : Value :=
  .table (table.set "logger" (.table subs))

/-- Configuring a logger does not look at the sub-tables. -/
theorem configure_congr {table other : Entries Value} (name : String)
    (same : ∀ key, key ≠ "logger" → Entries.get? table key = Entries.get? other key) :
    configure name (.table table) = configure name (.table other) := by
  simp (disch := decide) only [configure_eq, replaceHandlers, openHandlers, openSink, levelOr,
    Entries.readOr, same]

/-- Other sub-tables change nothing else in a table. -/
theorem get?_set_logger (table : Entries Value) (subs : Value) {key : String} (h : key ≠ "logger") :
    (table.set "logger" subs).get? key = table.get? key := by
  rw [Entries.get?_set, if_neg (Ne.symm h)]

/-- To set up a table is to set up what it says apart from its sub-tables, and then to configure
each of these. -/
theorem setUp_eq (table : Entries Value) (subs : List (String × Value)) :
    setUp (withSubs table subs) = setUp (withSubs table []) >>= fun _ => configureEach subs := by
  have same : configure rootName (.table (table.set "logger" (.table subs)))
      = configure rootName (.table (table.set "logger" (.table []))) :=
    configure_congr rootName fun key h => by rw [get?_set_logger _ _ h, get?_set_logger _ _ h]
  have found (subs : List (String × Value)) :
      (table.set "logger" (.table subs)).readOr "logger" [] Value.asTable = .ok subs := by
    rw [Entries.readOr, Entries.get?_set, if_pos rfl]
    rfl
  have quiet (subs : List (String × Value)) :
      (table.set "logger" (.table subs)).readOr "quiet-loggers" defaultQuiet Value.elements
        = table.readOr "quiet-loggers" defaultQuiet Value.elements := by
    rw [Entries.readOr, get?_set_logger _ _ (by decide), Entries.readOr]
  have read {β : Type} (x : β) : Act.ofExcept (.ok x) = (pure x : Act State β) := rfl
  -- The two sides take the same steps, up to where the sub-tables are read.
  simp only [withSubs, setUp, same, Value.asTable, read, pure_bind, bind_assoc, found, quiet]
  refine congrArg (update rootName _ >>= ·) (funext fun _ => ?_)
  refine congrArg (configure rootName _ >>= ·) (funext fun _ => ?_)
  refine congrArg (get >>= ·) (funext fun state => ?_)
  split
  · simp only [bind_assoc, configureEach, pure_bind]
  · simp only [configureEach, pure_bind]

/-! ### The state at a turn -/

/-- Giving a logger a level does not make it the child of another. -/
theorem regular_leveled {loggers : Loggers} (regular : loggers.Regular) (name : String)
    (level : Level) : (loggers.update name fun logger => { logger with level }).Regular := by
  have spares : Loggers.SparesParent fun logger => { logger with level } := fun _ _ => rfl
  exact regular.update name spares.keeps

/-- Loggers that are kept quiet are given a level, one after the other. -/
theorem regular_quieten {names : List Value} {state after : State} (regular : state.loggers.Regular)
    (h : (quieten names).outcome state = (.ok (), after)) : after.loggers.Regular := by
  induction names generalizing state with
  | nil =>
    cases h
    exact regular
  | cons name names ih =>
    obtain ⟨name, _, read, h⟩ := Act.ok_of_outcome_bind h
    obtain ⟨-, rfl⟩ := Prod.mk.inj read
    rw [Act.outcome_bind_ok (outcome_update ..)] at h
    exact ih (regular_leveled regular name .warning) h

/-- Setting up keeps the parents regular: the root is configured, some loggers are kept quiet, and
the sub-tables have their turn. -/
theorem regular_setUp {config : Value} {state after : State} (regular : state.loggers.Regular)
    (h : (setUp config).outcome state = (.ok (), after)) : after.loggers.Regular := by
  rw [setUp, Act.outcome_bind_ok (outcome_update ..)] at h
  obtain ⟨_, rooted, root, h⟩ := Act.ok_of_outcome_bind h
  have regular := regular_configure (regular_leveled regular rootName .info) root
  obtain ⟨table, _, read, h⟩ := Act.ok_of_outcome_bind h
  obtain ⟨-, rfl⟩ := Prod.mk.inj read
  rw [Act.outcome_bind_ok (Act.outcome_get _)] at h
  -- The sub-tables come last, whether or not there are quiet loggers.
  have each {state : State} (regular : state.loggers.Regular)
      (h : (Act.ofExcept (table.readOr "logger" [] Value.asTable) >>= configureEach).outcome state
        = (.ok (), after)) : after.loggers.Regular := by
    obtain ⟨subs, _, read, h⟩ := Act.ok_of_outcome_bind h
    obtain ⟨-, rfl⟩ := Prod.mk.inj read
    exact (configureEach_ok h).1 regular
  split at h
  · obtain ⟨names, _, read, h⟩ := Act.ok_of_outcome_bind h
    obtain ⟨-, rfl⟩ := Prod.mk.inj read
    obtain ⟨_, quiet, first, h⟩ := Act.ok_of_outcome_bind h
    exact each (regular_quieten regular first) h
  · exact each regular h

/-- The state when some of the sub-tables of a table have had their turn. -/
def turn (table : Entries Value) (state : State) (before : List (String × Value)) : State :=
  ((setUp (withSubs table before)).outcome state).2

/-- The level that counts for a logger at the turn of its sub-table. -/
def levelAtTurn (table : Entries Value) (state : State) (before : List (String × Value))
    (name : String) (config : Value) : Level :=
  ((turn table state before).loggers.update name (prepared config)).effectiveLevel name

variable {table : Entries Value} {state after : State}

/-- If a table can be set up, it can be set up without its sub-tables, and these can be configured
then. -/
theorem configureEach_of_setUp {subs : List (String × Value)}
    (done : (setUp (withSubs table subs)).outcome state = (.ok (), after)) :
    (setUp (withSubs table [])).outcome state = (.ok (), turn table state []) ∧
      (configureEach subs).outcome (turn table state []) = (.ok (), after) := by
  rw [setUp_eq] at done
  obtain ⟨_, rooted, first, rest⟩ := Act.ok_of_outcome_bind done
  have same : turn table state [] = rooted := congrArg (·.2) first
  rw [same]
  exact ⟨first, rest⟩

/-- The level that counts for a logger at the turn of its sub-table, told from the names: that of
the logger or of the nearest above that has one, where later sub-tables do not count. -/
def levelByNames (table : Entries Value) (state : State) (before : List (String × Value))
    (name : String) (config : Value) : Level :=
  Loggers.inherited
    ((before ++ [(name, config)]).foldl relevel (turn table state []).loggers.levels) name

/-- What is left in the end of the turn of a sub-table. -/
theorem setUp_turn {before rest : List (String × Value)} {name : String} {config : Value}
    (others : ∀ sub ∈ before ++ rest, properName sub.1 ≠ properName name)
    (done : (setUp (withSubs table (before ++ (name, config) :: rest))).outcome state
      = (.ok (), after)) :
    ∃ format log, formatOf config = .ok format ∧
      (opening config ((before.map (·.2)).foldl withLog (turn table state []).files)).1 = .ok log ∧
      after.loggers.face name = configured config
        (handlersFor config format (levelAtTurn table state before name config)
          (sinksOf config log)) ((turn table state []).loggers.face name) := by
  obtain ⟨first, each⟩ := configureEach_of_setUp done
  obtain ⟨mid, format, log, early, formatted, opened, face⟩ :=
    configureEach_turn others each
  -- The state before the turn is the one in which a set-up would end that has only the turns before
  -- it.
  have same : turn table state before = mid := by
    rw [turn, setUp_eq, Act.outcome_bind_ok first, early]
  rw [← same] at face
  exact ⟨format, log, formatted, opened, face⟩

/-- The level that counts at a turn is told from the names, since the state at the turn is reached
by the sub-tables before it. -/
theorem levelAtTurn_eq {before rest : List (String × Value)} {name : String} {config : Value}
    (regular : state.loggers.Regular)
    (done : (setUp (withSubs table (before ++ (name, config) :: rest))).outcome state
      = (.ok (), after)) (plain : Plain name) :
    levelAtTurn table state before name config = levelByNames table state before name config := by
  obtain ⟨first, each⟩ := configureEach_of_setUp done
  rw [configureEach_append] at each
  obtain ⟨_, mid, early, -⟩ := Act.ok_of_outcome_bind each
  have same : turn table state before = mid := by
    rw [turn, setUp_eq, Act.outcome_bind_ok first, early]
  rw [levelAtTurn, same]
  exact effectiveLevel_at_turn plain config (regular_setUp regular first) early

/-! ### Where a sub-table stands -/

/-- If no two sub-tables are for one logger, those around one are for others. -/
theorem others_of_cut {before rest : List (String × Value)} {name : String} {config : Value}
    (distinct : ((before ++ (name, config) :: rest).map fun sub => properName sub.1).Nodup) :
    ∀ sub ∈ before ++ rest, properName sub.1 ≠ properName name := by
  have first := (List.perm_middle.map fun sub : String × Value => properName sub.1).nodup_iff.mp
    distinct
  rw [List.map_cons, List.nodup_cons, List.mem_map] at first
  exact fun sub member same => first.1 ⟨sub, member, same⟩

/-- A sub-table and those before it are some of all, in whatever order. -/
theorem subperm_of_cut (before rest : List (String × Value)) (name : String) (config : Value) :
    (config :: before.map (·.2)).Subperm ((before ++ (name, config) :: rest).map (·.2)) := by
  rw [List.map_append, List.map_cons]
  exact ((List.sublist_append_left _ _).cons_cons config).subperm.trans
    List.perm_middle.symm.subperm

/-- If no two sub-tables are for one logger, no two up to some place are. -/
theorem nodup_upTo {before rest : List (String × Value)} {name : String} {config : Value}
    (distinct : ((before ++ (name, config) :: rest).map fun sub => properName sub.1).Nodup) :
    ((before ++ [(name, config)]).map fun sub => properName sub.1).Nodup := by
  refine List.Nodup.sublist (List.Sublist.map _ ?_) distinct
  exact (List.Sublist.refl before).append ((List.nil_sublist rest).cons_cons _)

/-- Whether a sub-table sets a level for the root or for a logger above another. -/
def SetsAbove (name : String) (sub : String × Value) : Prop :=
  (levelUnder? sub.2 "level").isSome = true ∧ (isRoot sub.1 = true ∨ sub.1 ∈ namesAbove name)

/-- Only the root goes by two names. -/
theorem eq_or_isRoot_of_properName {name other : String} (same : properName name = properName other)
    : name = other ∨ isRoot name = true := by
  rw [properName, properName] at same
  by_cases root : isRoot name = true
  · exact Or.inr root
  · rw [if_neg root] at same
    split at same
    · exact absurd (same ▸ rfl) root
    · exact Or.inl same

/-- A sub-table that comes before and sets a level that counts sets one above. -/
theorem mem_upTo {before before' rest : List (String × Value)} {name other : String}
    {config : Value}
    (distinct : ((before ++ (name, config) :: rest).map fun sub => properName sub.1).Nodup)
    (same : ∀ sub, SetsAbove name sub → sub ∈ before → sub ∈ before')
    (counts : other ∈ rootName :: name :: namesAbove name) {sub : String × Value} {level : Level}
    (member : sub ∈ before ++ [(name, config)]) (own : properName sub.1 = properName other)
    (sets : levelUnder? sub.2 "level" = some level) : sub ∈ before' ++ [(name, config)] := by
  -- The sub-table comes before, or is the one of the logger itself.
  rcases List.mem_append.mp member with early | last
  · refine List.mem_append_left _ (same sub ⟨Option.isSome_of_eq_some sets, ?_⟩ early)
    have apart := others_of_cut distinct sub (List.mem_append_left _ early)
    rcases eq_or_isRoot_of_properName own with rfl | root
    · rcases List.mem_cons.mp counts with root | counts
      · exact Or.inl (root ▸ rfl)
      · exact Or.inr ((List.mem_cons.mp counts).resolve_left fun self => apart (congrArg _ self))
    · exact Or.inl root
  · exact List.mem_append_right _ last

/-- It is enough to know which of the sub-tables that set a level above come before. -/
theorem levelByNames_congr {before before' rest rest' : List (String × Value)} {name : String}
    {config : Value}
    (distinct : ((before ++ (name, config) :: rest).map fun sub => properName sub.1).Nodup)
    (distinct' : ((before' ++ (name, config) :: rest').map fun sub => properName sub.1).Nodup)
    (same : ∀ sub, SetsAbove name sub → (sub ∈ before ↔ sub ∈ before')) :
    levelByNames table state before name config = levelByNames table state before' name config := by
  refine Loggers.inherited_congr fun other counts => ?_
  -- A level above is set by a sub-table with its turn before, which is in both orders, or by none
  -- in either.
  by_cases set : ∃ sub ∈ before ++ [(name, config)], properName sub.1 = properName other ∧
      ∃ level, levelUnder? sub.2 "level" = some level
  · obtain ⟨sub, member, own, level, sets⟩ := set
    have member' := mem_upTo distinct (fun sub h => (same sub h).mp) counts member own sets
    rw [foldl_relevel_of_mem (nodup_upTo distinct) member own sets,
      foldl_relevel_of_mem (nodup_upTo distinct') member' own sets]
  · have unset : ∀ sub ∈ before ++ [(name, config)], properName sub.1 = properName other →
        levelUnder? sub.2 "level" = none := fun sub member own =>
      Option.eq_none_iff_forall_ne_some.mpr fun level sets => set ⟨sub, member, own, level, sets⟩
    have unset' : ∀ sub ∈ before' ++ [(name, config)], properName sub.1 = properName other →
        levelUnder? sub.2 "level" = none := fun sub member own =>
      Option.eq_none_iff_forall_ne_some.mpr fun level sets => by
        have member := mem_upTo distinct' (fun sub h => (same sub h).mpr) counts member own sets
        exact set ⟨sub, member, own, level, sets⟩
    rw [foldl_relevel_eq_self unset, foldl_relevel_eq_self unset']

/-! ### Two orders -/

/-- Loggers that are the same but for their parents and the levels of their handlers. -/
structure AlikeButLevels (logger other : Logger) : Prop where
  level : logger.level = other.level
  propagates : logger.propagates = other.propagates
  handlers : logger.handlers.map (fun handler => (handler.sink, handler.format))
    = other.handlers.map fun handler => (handler.sink, handler.format)

/-- Handlers without their levels are told from the sinks. -/
theorem map_handlersFor (config : Value) (format : String) (effective : Level) (sinks : List Sink) :
    (handlersFor config format effective sinks).map (fun handler => (handler.sink, handler.format))
      = sinks.map fun sink => (sink, format) := by
  rw [handlersFor, List.map_map]
  rfl

/-- What one table makes of a logger in two states differs in the levels of the handlers at most. -/
theorem alikeButLevels_configured {loggers loggers' : Loggers} {name : String} {config : Value}
    {format : String} {effective effective' : Level} {sinks : List Sink} {base : Logger}
    (face : loggers.face name = configured config (handlersFor config format effective sinks) base)
    (face' : loggers'.face name
      = configured config (handlersFor config format effective' sinks) base) :
    AlikeButLevels (loggers.logger name) (loggers'.logger name) where
  level := (congrArg Logger.level face).trans (congrArg Logger.level face').symm
  propagates := (congrArg Logger.propagates face).trans (congrArg Logger.propagates face').symm
  handlers := by
    have same : (loggers.logger name).handlers = handlersFor config format effective sinks :=
      congrArg Logger.handlers face
    have same' : (loggers'.logger name).handlers = handlersFor config format effective' sinks :=
      congrArg Logger.handlers face'
    rw [same, same', map_handlersFor, map_handlersFor]

/-- Loggers that are the same but for their parents are alike. -/
theorem alikeButLevels_of_face {loggers loggers' : Loggers} {name : String}
    (same : loggers.face name = loggers'.face name) :
    AlikeButLevels (loggers.logger name) (loggers'.logger name) where
  level := (congrArg Logger.level same :)
  propagates := (congrArg Logger.propagates same :)
  handlers := congrArg (List.map _) (congrArg Logger.handlers same :)

/-- The names of one logger give one logger. -/
theorem Loggers.logger_congr {name other : String} (same : properName name = properName other)
    (loggers : Loggers) : loggers.logger name = loggers.logger other := by
  have proper (name : String) : loggers.logger name = loggers.logger (properName name) := by
    rw [properName]
    split
    · next root =>
      rw [logger, if_pos root]
      rfl
    · rfl
  rw [proper name, same, ← proper other]

section

variable {subs subs' : List (String × Value)} {after' : State}

/-- No turn is for a logger without a sub-table. -/
theorem face_eq_of_no_turn (orders : subs.Perm subs')
    (done : (setUp (withSubs table subs)).outcome state = (.ok (), after))
    (done' : (setUp (withSubs table subs')).outcome state = (.ok (), after'))
    {name : String} (others : ∀ sub ∈ subs, properName sub.1 ≠ properName name) :
    after.loggers.face name = after'.loggers.face name := by
  obtain ⟨-, each⟩ := configureEach_of_setUp done
  obtain ⟨-, each'⟩ := configureEach_of_setUp done'
  obtain ⟨-, -, -, faces⟩ := configureEach_ok each
  obtain ⟨-, -, -, faces'⟩ := configureEach_ok each'
  rw [faces name others, faces' name fun sub member => others sub (orders.mem_iff.mpr member)]

/-- A sub-table leaves the same of its turn in both orders, but for the level of that moment. -/
theorem faces_of_turns {before before' rest rest' : List (String × Value)} {name : String}
    {config : Value}
    (orders : (before ++ (name, config) :: rest).Perm (before' ++ (name, config) :: rest'))
    (distinct : ((before ++ (name, config) :: rest).map fun sub => properName sub.1).Nodup)
    (steady : StayOpenable (turn table state []).files
      ((before ++ (name, config) :: rest).map (·.2)))
    (done : (setUp (withSubs table (before ++ (name, config) :: rest))).outcome state
      = (.ok (), after))
    (done' : (setUp (withSubs table (before' ++ (name, config) :: rest'))).outcome state
      = (.ok (), after')) :
    ∃ format sinks,
      after.loggers.face name = configured config (handlersFor config format
        (levelAtTurn table state before name config) sinks)
        ((turn table state []).loggers.face name) ∧
      after'.loggers.face name = configured config (handlersFor config format
        (levelAtTurn table state before' name config) sinks)
        ((turn table state []).loggers.face name) := by
  have distinct' := (orders.map fun sub => properName sub.1).nodup_iff.mp distinct
  obtain ⟨format, log, formatted, opened, face⟩ :=
    setUp_turn (others_of_cut distinct) done
  obtain ⟨format', log', formatted', opened', face'⟩ :=
    setUp_turn (others_of_cut distinct') done'
  obtain rfl : format = format' := Except.ok.inj (formatted.symm.trans formatted')
  -- other log files may have been opened before, but they are not in the way
  have others := subperm_of_cut before rest name config
  have others' := (subperm_of_cut before' rest' name config).trans (orders.map _).symm.subperm
  obtain rfl := steady.opening_eq others others' opened opened'
  exact ⟨format, sinksOf config log, face, face'⟩

/-- Setting up depends on the order of the sub-tables in one respect. Every logger is left with the
same level, flag and sinks, and a logger without a sub-table with the same handlers; of the others,
the handlers without a level of their own have the level that counted at their turn. With plain
names it is the same if the same sub-tables that set a level above come before, and in each order
it is told from the names. -/
theorem setUp_orders (orders : subs.Perm subs')
    (distinct : (subs.map fun sub => properName sub.1).Nodup)
    (steady : StayOpenable (turn table state []).files (subs.map (·.2)))
    (done : (setUp (withSubs table subs)).outcome state = (.ok (), after))
    (done' : (setUp (withSubs table subs')).outcome state = (.ok (), after')) :
    (∀ name, AlikeButLevels (after.loggers.logger name) (after'.loggers.logger name)) ∧
    (∀ name, (∀ sub ∈ subs, properName sub.1 ≠ properName name) →
      (after.loggers.logger name).handlers = (after'.loggers.logger name).handlers) ∧
    (∀ before before' name config rest rest', subs = before ++ (name, config) :: rest →
      subs' = before' ++ (name, config) :: rest' → ∃ format sinks,
        (after.loggers.logger name).handlers
          = handlersFor config format (levelAtTurn table state before name config) sinks ∧
        (after'.loggers.logger name).handlers
          = handlersFor config format (levelAtTurn table state before' name config) sinks ∧
        (state.loggers.Regular → Plain name →
          (∀ sub, SetsAbove name sub → (sub ∈ before ↔ sub ∈ before')) →
          levelAtTurn table state before name config
            = levelAtTurn table state before' name config)) ∧
    ∀ before name config rest, subs = before ++ (name, config) :: rest ∨
      subs' = before ++ (name, config) :: rest → state.loggers.Regular → Plain name →
        levelAtTurn table state before name config
          = levelByNames table state before name config := by
  refine ⟨fun name => ?_, fun name others => ?_, ?_, ?_⟩
  · -- A logger with a sub-table has been left as that sub-table leaves it, in both orders. All
    -- others are as they were before the turns.
    by_cases own : ∃ sub ∈ subs, properName sub.1 = properName name
    · obtain ⟨⟨other, config⟩, member, same⟩ := own
      obtain ⟨before, rest, rfl⟩ := List.append_of_mem member
      obtain ⟨before', rest', rfl⟩ := List.append_of_mem (orders.mem_iff.mp member)
      obtain ⟨format, sinks, face, face'⟩ :=
        faces_of_turns orders distinct steady done done'
      rw [Loggers.logger_congr same.symm, Loggers.logger_congr same.symm]
      exact alikeButLevels_configured face face'
    · exact alikeButLevels_of_face (face_eq_of_no_turn orders done done'
        fun sub member same => own ⟨sub, member, same⟩)
  · exact congrArg (fun logger => logger.handlers)
      (face_eq_of_no_turn orders done done' others)
  · rintro before before' name config rest rest' rfl rfl
    obtain ⟨format, sinks, face, face'⟩ := faces_of_turns orders distinct steady done done'
    refine ⟨format, sinks, congrArg Logger.handlers face, congrArg Logger.handlers face',
      fun regular plain same => ?_⟩
    have distinct' := (orders.map fun sub => properName sub.1).nodup_iff.mp distinct
    rw [levelAtTurn_eq regular done plain, levelAtTurn_eq regular done' plain,
      levelByNames_congr distinct distinct' same]
  · rintro before name config rest (rfl | rfl) regular plain
    · exact levelAtTurn_eq regular done plain
    · exact levelAtTurn_eq regular done' plain

end

/-! ### Orders that count -/

/-- A table that names the loggers that are kept quiet. -/
def quietTable (quiet : List String) : Entries Value := [("quiet-loggers", .list (quiet.map .text))]

/-- Loggers that were made in an order, and no files. -/
def freshState (names : List String) : State := ⟨.ofNames names, { files := [] }⟩

/-- Sends the records of a logger to the console. -/
def shown : Value := .table [("console", .switch true)]

/-- Gives a logger a level. -/
def leveled (level : String) : Value := .table [("level", .text level)]

/-- Two loggers, the second above the first. -/
def nested : List (String × Value) := [("a.b", shown), ("a", leveled "DEBUG")]

/-- A logger and one above it, in two orders: the handler has the level of the moment at which its
logger has its turn. -/
theorem setUp_orders_nested :
    AlikeButLevels ((turn (quietTable []) (freshState []) nested).loggers.logger "a.b")
      ((turn (quietTable []) (freshState []) nested.reverse).loggers.logger "a.b") ∧
    levelAtTurn (quietTable []) (freshState []) [] "a.b" shown = .info ∧
    levelAtTurn (quietTable []) (freshState []) [("a", leveled "DEBUG")] "a.b" shown = .debug := by
  -- Neither sub-table names a file, so nothing can become impossible to open.
  have steady : StayOpenable (turn (quietTable []) (freshState []) []).files (nested.map (·.2)) :=
    stayOpenable_of_none
      (List.forall_mem_cons.mpr ⟨rfl, List.forall_mem_cons.mpr ⟨rfl, nofun⟩⟩)
  have done : (setUp (withSubs (quietTable []) nested)).outcome (freshState [])
      = (.ok (), turn (quietTable []) (freshState []) nested) := Prod.ext (by rfl) rfl
  have done' : (setUp (withSubs (quietTable []) nested.reverse)).outcome (freshState [])
      = (.ok (), turn (quietTable []) (freshState []) nested.reverse) := Prod.ext (by rfl) rfl
  obtain ⟨alike, -, -, level⟩ :=
    setUp_orders nested.reverse_perm.symm (by decide) steady done done'
  have plain : Plain "a.b" := ⟨by decide, by decide⟩
  refine ⟨alike "a.b", ?_, ?_⟩
  · rw [level _ _ _ _ (Or.inl rfl) (Loggers.regular_ofNames []) plain]
    decide
  · rw [level _ _ _ _ (Or.inr rfl) (Loggers.regular_ofNames []) plain]
    decide

/-- Whether setting up ends without an error, and then the level of a logger and the levels of its
handlers. -/
def report (names quiet : List String) (subs : List (String × Value)) (name : String) :
    Bool × Level × List Level :=
  let (result, after) := (setUp (withSubs (quietTable quiet) subs)).outcome
    (freshState names)
  let logger := after.loggers.logger name
  (result.isOk, logger.level, logger.handlers.map (·.level))

/-- The levels of handlers depend on the order, and so do the level of a logger with two names and
whatever stands behind an error. With names that are not plain, not even the levels of the
sub-tables have to differ. -/
theorem report_depends_on_order :
    (report [] [] [("root", leveled "DEBUG"), ("a", shown)] "a" = (true, .unset, [.debug]) ∧
      report [] [] [("a", shown), ("root", leveled "DEBUG")] "a" = (true, .unset, [.info])) ∧
    (report [] [] [("", leveled "DEBUG"), ("root", leveled "ERROR")] "root" = (true, .error, []) ∧
      report [] [] [("root", leveled "ERROR"), ("", leveled "DEBUG")] "root" = (true, .debug, [])) ∧
    (report [] [] [("a", shown), ("b", .null)] "a" = (false, .unset, [.info]) ∧
      report [] [] [("b", .null), ("a", shown)] "a" = (false, .unset, [])) ∧
    (report ["r.x.y"] ["r"] [("r.x", .table []), ("r.x.y", shown)] "r.x.y"
        = (true, .unset, [.warning]) ∧
      report ["r.x.y"] ["r"] [("r.x.y", shown), ("r.x", .table [])] "r.x.y"
        = (true, .unset, [.info])) ∧
    report [] ["a"] [("a.", .table []), ("a..b", shown)] "a..b" = (true, .unset, [.warning]) ∧
      report [] ["a"] [("a..b", shown), ("a.", .table [])] "a..b" = (true, .unset, [.info]) := by
  refine ⟨⟨?_, ?_⟩, ⟨?_, ?_⟩, ⟨?_, ?_⟩, ⟨?_, ?_⟩, ?_, ?_⟩ <;> decide

end Moderation.Logging
