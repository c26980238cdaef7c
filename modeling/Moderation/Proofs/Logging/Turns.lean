import Moderation.Proofs.Logging.Hierarchy
import Moderation.Proofs.Logging.Openings
import Moderation.Proofs.Result

/-!
# `Moderation.Proofs.Logging.Turns`: loggers that are configured in turn

Configuring a logger is one change to it (`configure_ok`): the table says all of it but the level
that handlers without a level of their own get, which is the one that counts for the logger at that
moment. Loggers that are configured in turn leave each other alone (`configureEach_turn`), apart
from the parents and from what the earlier ones mean to that level (`effectiveLevel_at_turn`).
-/

set_option autoImplicit false

namespace Moderation

/-- What is read as a table of settings is a table. -/
theorem Value.asTableOf_ok {settings : List String} {config : Value} {table : Entries Value}
    (h : config.asTableOf settings = .ok table) : config = .table table := by
  unfold asTableOf at h
  split at h
  · cases h
    rfl
  · obtain ⟨found, -, h⟩ := ok_of_bind h
    cases found <;> cases h

end Moderation

namespace Moderation.Logging

/-! ### Changes to a logger -/

/-- Both names of the root are one. -/
def properName (name : String) : String := if isRoot name then rootName else name

namespace Loggers

variable {loggers : Loggers} {name : String}

/-- A logger that is there is not made again. -/
theorem ensure_of_has (there : loggers.named.has name = true) : loggers.ensure name = loggers := by
  rw [ensure, there, Bool.or_true, if_pos rfl]

/-- Putting a logger under a name leaves those under other names. -/
theorem logger_set (root : Logger) (named : Entries Logger) (value : Logger) {other : String}
    (apart : isRoot other = false) :
    logger ⟨root, named.set name value⟩ other
      = if name = other then value else logger ⟨root, named⟩ other := by
  simp only [logger, apart, Bool.false_eq_true, if_false, Entries.get?_set]
  split <;> rfl

/-- A change to a logger other than the root makes it first, if it has to. -/
theorem update_of_not_isRoot (loggers : Loggers) (apart : isRoot name = false)
    (change : Logger → Logger) :
    loggers.update name change = ⟨(loggers.ensure name).root,
      (loggers.ensure name).named.set name (change ((loggers.ensure name).logger name))⟩ := by
  rw [update, if_neg (Bool.eq_false_iff.mp apart)]

/-- Two changes are one. -/
theorem update_update (loggers : Loggers) (name : String) (first second : Logger → Logger) :
    (loggers.update name first).update name second = loggers.update name (second ∘ first) := by
  by_cases root : isRoot name = true
  · simp only [update, root, if_true, Function.comp_apply]
  · have apart := Bool.eq_false_iff.mpr root
    rw [update_of_not_isRoot _ apart, update_of_not_isRoot loggers apart,
      update_of_not_isRoot loggers apart, ensure_of_has]
    · rw [logger_set _ _ _ apart, if_pos rfl, Entries.set_set, Function.comp_apply]
    · rw [Entries.has, Entries.get?_set, if_pos rfl, Option.isSome_some]

/-- After a change the logger is there. -/
theorem is_there_after_update (loggers : Loggers) (name : String) (change : Logger → Logger) :
    (isRoot name || (loggers.update name change).named.has name) = true := by
  by_cases root : isRoot name = true
  · rw [root, Bool.true_or]
  · rw [update_of_not_isRoot _ (Bool.eq_false_iff.mpr root), Entries.has, Entries.get?_set,
      if_pos rfl, Option.isSome_some, Bool.or_true]

/-- A logger but for its parent. -/
def face (loggers : Loggers) (name : String) : Logger :=
  { loggers.logger name with parent := none }

/-- A change that has nothing to do with the parent. -/
def SparesParent (change : Logger → Logger) : Prop :=
  ∀ logger parent, change { logger with parent } = { change logger with parent }

/-- Then it keeps the parent. -/
theorem SparesParent.keeps {change : Logger → Logger} (spares : SparesParent change)
    (logger : Logger) : (change logger).parent = logger.parent := by
  have same := congrArg Logger.parent (spares logger logger.parent)
  exact same

/-- Making a logger changes the parents of others at most, and a logger that was not there looks
like one that was just made. -/
theorem face_create (loggers : Loggers) (name other : String) :
    (loggers.create name).face other = loggers.face other := by
  by_cases root : isRoot other = true
  · rw [face, face, logger, logger, if_pos root, if_pos root]
    rfl
  · rw [face, face, logger, logger, if_neg root, if_neg root, get?_create]
    -- An old logger may be adopted; a new one has nothing but a parent.
    cases found : loggers.named.get? other with
    | some logger =>
      rw [Option.map_some, Option.some_or, Option.getD_some, Option.getD_some]
      split <;> rfl
    | none =>
      rw [Option.map_none, Option.none_or]
      split <;> rfl

/-- So does making it unless it is there. -/
theorem face_ensure (loggers : Loggers) (name other : String) :
    (loggers.ensure name).face other = loggers.face other := by
  rw [ensure]
  split
  · rfl
  · exact face_create loggers name other

/-- A change shows at its logger and at no other. -/
theorem face_update {change : Logger → Logger} (spares : SparesParent change) (loggers : Loggers)
    (name other : String) :
    (loggers.update name change).face other =
      if properName name = properName other then change (loggers.face other)
      else loggers.face other := by
  have same (logger : Logger) : { change logger with parent := none }
      = change { logger with parent := none } := (spares logger none).symm
  -- The root is kept apart from the loggers with names, so there are two cases for the changed
  -- logger and two for the one that is looked at.
  by_cases root : isRoot name = true
  · rw [update, if_pos root, properName, if_pos root, properName]
    by_cases root' : isRoot other = true
    · simp only [face, logger, root', if_true, same]
    · have apart : rootName ≠ other := by
        rintro rfl
        exact root' rfl
      simp only [face, logger, root', if_false, Bool.false_eq_true, apart]
  · have apart := Bool.eq_false_iff.mpr root
    rw [update_of_not_isRoot _ apart, ← face_ensure loggers name other, properName, if_neg root,
      properName]
    by_cases root' : isRoot other = true
    · have apart' : name ≠ rootName := by
        rintro rfl
        exact root rfl
      simp only [face, logger, root', if_true, apart', if_false]
    · simp only [root', if_false, Bool.false_eq_true]
      rw [face, logger_set _ _ _ (Bool.eq_false_iff.mpr root')]
      split
      · next h =>
        subst h
        exact same _
      · rfl

end Loggers

/-! ### What a table asks for -/

/-- The level under a name in a table, if there is one. -/
def levelUnder? (config : Value) (key : String) : Option Level :=
  match config with
  | .table table => (Entries.readOr table key none Level.ofValue?).toOption.join
  | _ => none

/-- The level that a table gives to the handler of a sink, if it gives one. -/
def ownLevel? (config : Value) : Sink → Option Level
  | .console => levelUnder? config "console-level"
  | _ => levelUnder? config "file-level"

/-- Handlers with the levels that a table gives to them; `effective` is that of the others. -/
def handlersFor (config : Value) (format : String) (effective : Level) (sinks : List Sink) :
    List Handler :=
  sinks.map fun sink => ⟨sink, (ownLevel? config sink).getD effective, format⟩

/-- The format that a table gives to its handlers. -/
def formatOf (config : Value) : Except Error String :=
  match config with
  | .table table =>
    RecordFormat.ofValue? ((Entries.get? table "format").getD (.text RecordFormat.default))
  | _ => .error .lacking

/-- The sinks of a table whose log file has been opened or not. -/
def sinksOf (config : Value) (log : Option Sink) : List Sink :=
  match config with
  | .table table =>
    (if (Entries.get? table "console").any Value.isSet then [.console] else []) ++ log.toList
  | _ => []

/-- The flag that a table gives to its logger, if it gives one. -/
def flag? (config : Value) : Option Bool :=
  match config with
  | .table table => (Entries.get? table "propagate").map Value.isSet
  | _ => none

/-- A logger with the level and the flag that a table gives to it. -/
def prepared (config : Value) (logger : Logger) : Logger :=
  { logger with
    level := (levelUnder? config "level").getD logger.level
    propagates := (flag? config).getD logger.propagates }

/-- A logger that a table has been configured for; `handlers` are its new ones. -/
def configured (config : Value) (handlers : List Handler) (logger : Logger) : Logger :=
  { prepared config logger with handlers }

/-- A level that is read is the one that the table gives, or the other one. -/
theorem levelOr_ok {table : Entries Value} {key : String} {otherwise level : Level}
    (h : levelOr table key otherwise = .ok level) :
    level = (levelUnder? (.table table) key).getD otherwise := by
  obtain ⟨found, read, h⟩ := ok_of_bind h
  cases h
  rw [levelUnder?, read]
  rfl

/-- The handler of a sink. -/
def handlerOf (table : Entries Value) (format : String) (effective : Level) (key : String)
    (sink : Sink) : Except Error Handler := do
  return { sink, level := ← levelOr table key effective, format }

/-- The handler for the console, if a table asks for it. -/
def consoleHandler (table : Entries Value) (format : String) (effective : Level) :
    Act State (Option Handler) :=
  if (table.get? "console").any Value.isSet then
    some <$> Act.ofExcept (handlerOf table format effective "console-level" .console)
  else pure none

/-- The handlers are made in three steps: the one for the console, the opening of the log file, and
the one for it. -/
theorem openHandlers_eq (table : Entries Value) (format : String) (effective : Level) :
    openHandlers table format effective = do
      let console ← consoleHandler table format effective
      let log ← openLog (.table table)
      let file ← log.mapM fun sink =>
        Act.ofExcept (handlerOf table format effective "file-level" sink)
      return console.toList ++ file.toList := by
  unfold openHandlers consoleHandler openLog
  dsimp only
  cases (table.get? "console").any Value.isSet <;> cases table.get? "file" <;> rfl

/-- The handler of a sink has the level that the table gives to it, or the effective one. -/
theorem handlerOf_ok {table : Entries Value} {format key : String} {effective : Level} {sink : Sink}
    {handler : Handler} (h : handlerOf table format effective key sink = .ok handler) :
    handler = ⟨sink, (levelUnder? (.table table) key).getD effective, format⟩ := by
  obtain ⟨level, read, h⟩ := ok_of_bind h
  cases h
  rw [levelOr_ok read]

/-- Giving a result changes no state. -/
theorem some_ofExcept_ok {β : Type} {result : Except Error β} {found : Option β}
    {state after : State}
    (h : (some <$> Act.ofExcept result : Act State (Option β)).outcome state = (.ok found, after)) :
    after = state ∧ ∃ x, result = .ok x ∧ found = some x := by
  cases result with
  | error e => cases h
  | ok x =>
    cases h
    exact ⟨rfl, x, rfl, rfl⟩

/-- The handler for the console is there if the table asks for it. -/
theorem consoleHandler_ok {table : Entries Value} {format : String} {effective : Level}
    {console : Option Handler} {state after : State}
    (h : (consoleHandler table format effective).outcome state = (.ok console, after)) :
    after = state ∧ console.toList = handlersFor (.table table) format effective
      (if (table.get? "console").any Value.isSet then [.console] else []) := by
  rw [consoleHandler] at h
  split at h
  · next on =>
    obtain ⟨rfl, handler, made, rfl⟩ := some_ofExcept_ok h
    rw [handlerOf_ok made, if_pos on]
    exact ⟨rfl, rfl⟩
  · next off =>
    cases h
    rw [if_neg off]
    exact ⟨rfl, rfl⟩

/-- The handler of a log file is for the file whether it is put aside at midnight or not. -/
theorem ownLevel?_of_opening {config : Value} {files : Files} {sink : Sink}
    (h : (opening config files).1 = .ok (some sink)) :
    ownLevel? config sink = levelUnder? config "file-level" := by
  have opened := (outcome_openLog config ⟨.ofNames [], files⟩).trans (congrArg (·, _) h)
  cases sink with
  | console => exact absurd rfl (openLog_ne_console opened)
  | file way => rfl
  | daily way kept => rfl

/-- The handlers are those of the sinks of the table. Only the files change. -/
theorem openHandlers_ok {table : Entries Value} {format : String} {effective : Level}
    {handlers : List Handler} {state after : State}
    (h : (openHandlers table format effective).outcome state = (.ok handlers, after)) :
    ∃ log, (opening (.table table) state.files).1 = .ok log ∧
      after = { state with files := withLog state.files (.table table) } ∧
      handlers = handlersFor (.table table) format effective (sinksOf (.table table) log) := by
  rw [openHandlers_eq] at h
  obtain ⟨console, _, shown, h⟩ := Act.ok_of_outcome_bind h
  obtain ⟨log, _, opened, h⟩ := Act.ok_of_outcome_bind h
  obtain ⟨file, _, written, h⟩ := Act.ok_of_outcome_bind h
  obtain ⟨rfl, first⟩ := consoleHandler_ok shown
  rw [outcome_openLog] at opened
  obtain ⟨found, rfl⟩ := Prod.mk.inj opened
  refine ⟨log, found, ?_⟩
  -- Without a log file there is no second handler.
  cases log with
  | none =>
    cases written
    cases h
    exact ⟨rfl, by simp [sinksOf, first]⟩
  | some sink =>
    obtain ⟨rfl, handler, made, rfl⟩ := some_ofExcept_ok written
    cases h
    refine ⟨rfl, ?_⟩
    rw [first, handlerOf_ok made, ← ownLevel?_of_opening found, sinksOf, handlersFor, handlersFor,
      List.map_append]
    rfl

/-- A level and a flag have nothing to do with the parent. -/
theorem sparesParent_prepared (config : Value) : Loggers.SparesParent (prepared config) :=
  fun _ _ => rfl

/-- Handlers have nothing to do with the parent either. -/
theorem sparesParent_configured (config : Value) (handlers : List Handler) :
    Loggers.SparesParent (configured config handlers) := fun _ _ => rfl

/-! ### One logger -/

/-- Replaces the handlers of a logger whose level is settled. -/
def replaceHandlers (name : String) (table : Entries Value) : Act State Nat := do
  let effective := (← get).loggers.effectiveLevel name
  let format ← Act.ofExcept
    (RecordFormat.ofValue? ((table.get? "format").getD (.text RecordFormat.default)))
  update name fun logger => { logger with handlers := [] }
  let handlers ← openHandlers table format effective
  update name fun logger => { logger with handlers }
  return handlers.length

/-- A change to a logger always succeeds. -/
theorem outcome_update (name : String) (change : Logger → Logger) (state : State) :
    (update name change).outcome state
      = (.ok (), { state with loggers := state.loggers.update name change }) := rfl

/-- The old handlers give way to those that the table asks for. The level that counts is looked up
before. -/
theorem replaceHandlers_ok {name : String} {table : Entries Value} {count : Nat}
    {state after : State}
    (h : (replaceHandlers name table).outcome state = (.ok count, after)) :
    ∃ format log, formatOf (.table table) = .ok format ∧
      (opening (.table table) state.files).1 = .ok log ∧
      after.files = withLog state.files (.table table) ∧
      after.loggers = state.loggers.update name fun logger => { logger with
        handlers := handlersFor (.table table) format (state.loggers.effectiveLevel name)
          (sinksOf (.table table) log) } := by
  rw [replaceHandlers, Act.outcome_bind_ok (Act.outcome_get state)] at h
  obtain ⟨format, _, read, h⟩ := Act.ok_of_outcome_bind h
  obtain ⟨readable, rfl⟩ := Prod.mk.inj read
  rw [Act.outcome_bind_ok (outcome_update ..)] at h
  obtain ⟨handlers, mid, opened, h⟩ := Act.ok_of_outcome_bind h
  rw [Act.outcome_bind_ok (outcome_update ..)] at h
  obtain ⟨log, found, rfl, rfl⟩ := openHandlers_ok opened
  cases h
  refine ⟨format, log, readable, found, rfl, ?_⟩
  dsimp only
  -- Taking the old handlers away and putting the new ones there is one change.
  rw [Loggers.update_update]
  rfl

/-- Sets the flag of a logger, if there is one for it. -/
def setFlag (name : String) (on : Option Value) : Act State Unit :=
  match on with
  | some on => update name fun logger => { logger with propagates := on.isSet }
  | none => pure ()

/-- Sets the level of a logger, if there is one for it. -/
def setLevel (name : String) (level : Option Level) : Act State Unit :=
  match level with
  | some level => update name fun logger => { logger with level }
  | none => pure ()

/-- Configuring a logger takes four steps: making it, setting its flag, setting its level, and
replacing its handlers. -/
theorem configure_eq (name : String) (table : Entries Value) :
    configure name (.table table) = (do
      update name id
      setFlag name (table.get? "propagate")
      setLevel name (← Act.ofExcept (table.readOr "level" none Level.ofValue?))
      replaceHandlers name table) := by
  have read : Act.ofExcept (Value.asTableOf leadingSettings (.table table))
      = (pure table : Act State (Entries Value)) := rfl
  unfold configure
  rw [read, pure_bind]
  refine congrArg (update name id >>= ·) (funext fun _ => ?_)
  -- what is not set takes no step
  have behind (level : Option Level) : (setLevel name level >>= fun _ => replaceHandlers name table)
      = match level with
        | some level => do
          update name fun logger => { logger with level }
          replaceHandlers name table
        | none => replaceHandlers name table := by
    cases level with
    | some level => rfl
    | none => exact pure_bind _ _
  simp only [behind]
  cases table.get? "propagate" with
  | some on =>
    refine congrArg (update name _ >>= ·) (funext fun _ => ?_)
    refine congrArg (Act.ofExcept _ >>= ·) (funext fun level => ?_)
    cases level <;> rfl
  | none =>
    rw [setFlag, pure_bind]
    refine congrArg (Act.ofExcept _ >>= ·) (funext fun level => ?_)
    cases level <;> rfl

/-- Setting nothing is a change too. -/
theorem outcome_setFlag (name : String) (on : Option Value) (change : Logger → Logger)
    (state : State) :
    (setFlag name on).outcome { state with loggers := state.loggers.update name change }
      = (.ok (), { state with loggers := state.loggers.update name fun logger =>
          { change logger with
            propagates := (on.map Value.isSet).getD (change logger).propagates } }) := by
  cases on with
  | none => rfl
  | some on =>
    rw [setFlag, outcome_update, Loggers.update_update]
    rfl

/-- So is setting no level. -/
theorem outcome_setLevel (name : String) (level : Option Level) (change : Logger → Logger)
    (state : State) :
    (setLevel name level).outcome { state with loggers := state.loggers.update name change }
      = (.ok (), { state with loggers := state.loggers.update name fun logger =>
          { change logger with level := level.getD (change logger).level } }) := by
  cases level with
  | none => rfl
  | some level =>
    rw [setLevel, outcome_update, Loggers.update_update]
    rfl

/-- Configuring a logger is one change, which the table says but for the level that counts at that
moment. -/
theorem configure_ok {name : String} {config : Value} {count : Nat} {state after : State}
    (h : (configure name config).outcome state = (.ok count, after)) :
    ∃ format log, formatOf config = .ok format ∧ (opening config state.files).1 = .ok log ∧
      after.files = withLog state.files config ∧
      after.loggers = state.loggers.update name (configured config (handlersFor config format
        ((state.loggers.update name (prepared config)).effectiveLevel name)
        (sinksOf config log))) := by
  obtain ⟨table, rfl⟩ : ∃ table, config = .table table := by
    obtain ⟨_, _, -, h⟩ := Act.ok_of_outcome_bind h
    obtain ⟨table, _, read, -⟩ := Act.ok_of_outcome_bind h
    exact ⟨table, Value.asTableOf_ok (Prod.mk.inj read).1⟩
  rw [configure_eq, Act.outcome_bind_ok (outcome_update ..),
    Act.outcome_bind_ok (outcome_setFlag ..)] at h
  obtain ⟨level, _, read, h⟩ := Act.ok_of_outcome_bind h
  obtain ⟨readable, rfl⟩ := Prod.mk.inj read
  rw [Act.outcome_bind_ok (outcome_setLevel ..)] at h
  obtain ⟨format, log, formatted, opened, files, loggers⟩ := replaceHandlers_ok h
  refine ⟨format, log, formatted, opened, files, ?_⟩
  -- The flag and the level that are set are what the table prepares.
  have same : (fun logger : Logger => { logger with
      propagates := ((Entries.get? table "propagate").map Value.isSet).getD logger.propagates
      level := level.getD logger.level }) = prepared (.table table) := by
    funext logger
    rw [prepared, flag?, levelUnder?, readable]
    rfl
  dsimp only [id] at loggers
  rw [same, Loggers.update_update] at loggers
  exact loggers

/-- Configuring a logger keeps the parents regular. -/
theorem regular_configure {name : String} {config : Value} {count : Nat} {state after : State}
    (regular : state.loggers.Regular)
    (h : (configure name config).outcome state = (.ok count, after)) : after.loggers.Regular := by
  obtain ⟨format, log, -, -, -, loggers⟩ := configure_ok h
  generalize handlersFor _ _ _ _ = handlers at loggers
  exact loggers ▸ regular.update name (sparesParent_configured config handlers).keeps

/-! ### One logger after the other -/

/-- The levels after a sub-table has set that of its logger, if it sets one. -/
def relevel (levels : String → Level) (sub : String × Value) : String → Level := fun name =>
  if properName sub.1 = properName name then (levelUnder? sub.2 "level").getD (levels name)
  else levels name

/-- Sub-tables that set no level of a logger leave it. -/
theorem foldl_relevel_eq_self {subs : List (String × Value)} {levels : String → Level}
    {name : String} (none : ∀ sub ∈ subs, properName sub.1 = properName name →
      levelUnder? sub.2 "level" = none) : subs.foldl relevel levels name = levels name := by
  induction subs generalizing levels with
  | nil => rfl
  | cons sub subs ih =>
    obtain ⟨first, none⟩ := List.forall_mem_cons.mp none
    rw [List.foldl_cons, ih none, relevel]
    split
    · next same => rw [first same, Option.getD_none]
    · rfl

/-- Of loggers with one sub-table each, the sub-table sets the level. -/
theorem foldl_relevel_of_mem {subs : List (String × Value)} {levels : String → Level}
    {name : String} {sub : String × Value} {level : Level}
    (distinct : (subs.map fun sub => properName sub.1).Nodup) (member : sub ∈ subs)
    (own : properName sub.1 = properName name) (sets : levelUnder? sub.2 "level" = some level) :
    subs.foldl relevel levels name = level := by
  obtain ⟨before, rest, rfl⟩ := List.append_of_mem member
  rw [List.map_append, List.map_cons] at distinct
  obtain ⟨-, behind, -⟩ := List.nodup_append.mp distinct
  rw [List.foldl_append, List.foldl_cons, foldl_relevel_eq_self, relevel, if_pos own, sets,
    Option.getD_some]
  intro other later same
  exact absurd (List.mem_map.mpr ⟨other, later, same.trans own.symm⟩) (List.nodup_cons.mp behind).1

/-- A change that sets a level relevels its logger and no other. -/
theorem levels_update {change : Logger → Logger} {config : Value}
    (spares : Loggers.SparesParent change)
    (sets : ∀ logger, (change logger).level = (levelUnder? config "level").getD logger.level)
    (loggers : Loggers) (name : String) :
    (loggers.update name change).levels = relevel loggers.levels (name, config) := by
  funext other
  have same := congrArg Logger.level (Loggers.face_update spares loggers name other)
  rw [apply_ite Logger.level, sets] at same
  exact same

/-- The turns of some sub-tables come before those of the others. -/
theorem configureEach_append (first second : List (String × Value)) :
    configureEach (first ++ second) = configureEach first >>= fun _ => configureEach second := by
  induction first with
  | nil => rfl
  | cons sub first ih =>
    simp only [List.cons_append, configureEach, ih, bind_assoc]

/-- If all have had their turn, the first has had its own. -/
theorem configureEach_cons_ok {sub : String × Value} {subs : List (String × Value)}
    {state after : State} (h : (configureEach (sub :: subs)).outcome state = (.ok (), after)) :
    ∃ count next, (configure sub.1 sub.2).outcome state = (.ok count, next) ∧
      (configureEach subs).outcome next = (.ok (), after) := by
  obtain ⟨_, _, shown, h⟩ := Act.ok_of_outcome_bind h
  obtain ⟨-, rfl⟩ := Prod.mk.inj shown
  obtain ⟨count, next, turn, h⟩ := Act.ok_of_outcome_bind h
  exact ⟨count, next, turn, h⟩

/-- What the turns of some sub-tables do: the files and the levels are changed by one after the
other, and the loggers that none of them is for are left as they are. -/
theorem configureEach_ok {subs : List (String × Value)} {state after : State}
    (h : (configureEach subs).outcome state = (.ok (), after)) :
    (state.loggers.Regular → after.loggers.Regular) ∧
      after.files = (subs.map (·.2)).foldl withLog state.files ∧
      after.loggers.levels = subs.foldl relevel state.loggers.levels ∧
      ∀ name, (∀ sub ∈ subs, properName sub.1 ≠ properName name) →
        after.loggers.face name = state.loggers.face name := by
  -- Each turn starts from the files and the loggers that the one before it has left.
  induction subs generalizing state with
  | nil =>
    cases h
    exact ⟨id, rfl, rfl, fun _ _ => rfl⟩
  | cons sub subs ih =>
    obtain ⟨count, next, turn, h⟩ := configureEach_cons_ok h
    obtain ⟨regular, files', levels, faces⟩ := ih h
    obtain ⟨format, log, -, -, files, loggers⟩ := configure_ok turn
    generalize handlersFor _ _ _ _ = handlers at loggers
    have spares := sparesParent_configured sub.2 handlers
    refine ⟨fun start => regular (regular_configure start turn), ?_, ?_, fun name others => ?_⟩
    · rw [files', files, List.map_cons, List.foldl_cons]
    · rw [levels, loggers, levels_update spares fun _ => rfl, List.foldl_cons]
    · rw [List.forall_mem_cons] at others
      rw [faces name others.2, loggers, Loggers.face_update spares, if_neg others.1]

/-- What is left of a turn in the end: the logger is configured, in spite of the later ones. -/
theorem configureEach_turn {before rest : List (String × Value)} {name : String} {config : Value}
    {state after : State}
    (others : ∀ sub ∈ before ++ rest, properName sub.1 ≠ properName name)
    (h : (configureEach (before ++ (name, config) :: rest)).outcome state = (.ok (), after)) :
    ∃ mid format log, (configureEach before).outcome state = (.ok (), mid) ∧
      formatOf config = .ok format ∧
      (opening config ((before.map (·.2)).foldl withLog state.files)).1 = .ok log ∧
      after.loggers.face name = configured config (handlersFor config format
        ((mid.loggers.update name (prepared config)).effectiveLevel name)
        (sinksOf config log)) (state.loggers.face name) := by
  -- The turns before, this one and those behind, of which only this one is for the logger.
  rw [configureEach_append] at h
  obtain ⟨_, mid, first, h⟩ := Act.ok_of_outcome_bind h
  obtain ⟨count, next, turn, h⟩ := configureEach_cons_ok h
  obtain ⟨format, log, formatted, opened, files, loggers⟩ := configure_ok turn
  obtain ⟨-, files', -, faces⟩ := configureEach_ok first
  refine ⟨mid, format, log, first, formatted, files' ▸ opened, ?_⟩
  generalize handlersFor _ _ _ _ = handlers at loggers ⊢
  obtain ⟨-, -, -, faces'⟩ := configureEach_ok h
  rw [faces' name fun sub member => others sub (List.mem_append_right _ member), loggers,
    Loggers.face_update (sparesParent_configured config handlers), if_pos rfl,
    faces name fun sub member => others sub (List.mem_append_left _ member)]

/-- At its turn a logger with a plain name has the level of the nearest one that has a level, where
that of a sub-table counts if its turn has come. -/
theorem effectiveLevel_at_turn {before : List (String × Value)} {name : String} (plain : Plain name)
    (config : Value) {state mid : State} (regular : state.loggers.Regular)
    (h : (configureEach before).outcome state = (.ok (), mid)) :
    (mid.loggers.update name (prepared config)).effectiveLevel name
      = Loggers.inherited
        ((before ++ [(name, config)]).foldl relevel state.loggers.levels) name := by
  obtain ⟨kept, -, levels, -⟩ := configureEach_ok h
  have spares := sparesParent_prepared config
  have regular := (kept regular).update name spares.keeps
  rw [Loggers.effectiveLevel_eq_inherited regular plain (Loggers.is_there_after_update ..),
    levels_update spares (fun _ => rfl), levels, List.foldl_append, List.foldl_cons, List.foldl_nil]

end Moderation.Logging
