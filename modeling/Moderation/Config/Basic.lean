import Moderation.Config.Analyzer

/-!
# `Moderation.Config.Basic`: the configuration of the engine

The configuration is fixed at startup: the analyzers, the threshold from which on a text is
spam, the categories that spam and other texts are learned as, and the kinds of resources that
can be learned from.

* `Config.check` checks the parts.
* `Config.ofTable?` reads the table of the engine, `Config.ofParts?` takes the parts as they are.
-/

set_option autoImplicit false

namespace Moderation

/-- The configuration of the engine. -/
structure Config where
  spamThreshold : Number
  analyzers : List AnalyzerConfig
  /-- Which adapter reads a type of resource. -/
  trainedModels : Value.Map Value
  spamDetectionService : Value
  reportingUserEmail : Value
  spamCategory : Value
  hamCategory : Value
  /-- Whether the log keeps the texts. -/
  logRawText : Value
  /-- Whether the log names the languages of texts. -/
  detectLanguage : Value

namespace Config

/-! ### Types of resources -/

/-- The adapter for users and groups, which can always be learned from. -/
def userAdapter : Value := .text "user_base_entity"

/-- Types of resources, the module that provides each and the adapter that reads it. -/
def optionalModels : List (String × String × String) := [
  ("Comment", "comments", "comment"),
  ("Debate", "debates", "debate"),
  ("Initiative", "initiatives", "initiative"),
  ("Meeting", "meetings", "meeting"),
  ("Proposal", "proposals", "proposal"),
  ("CollaborativeDraft", "proposals", "collaborative_draft")]

/-- The adapters of the types that the installed modules provide, with `overrides` on top. -/
def trainedModelsOf (modules overrides : Value) : Except Error (Value.Map Value) := do
  let modules ← (← modules.elements).mapM Value.toLowered
  let provided := optionalModels.filter fun (_, module, _) => modules.contains module
  let models : Entries Value :=
    [("UserGroup", userAdapter), ("User", userAdapter)] ++
      provided.map fun (type, _, adapter) => (type, .text adapter)
  return (Value.Map.ofEntries models).setAll (← overrides.toMap)

/-! ### Checks -/

/-- The parts of a configuration as they are given. -/
structure Fields where
  spamThreshold : Value := .number (.binary 0.75)
  analyzers : List AnalyzerConfig
  trainedModels : Value.Map Value := []
  spamDetectionService : Value := .text "default"
  reportingUserEmail : Value := .text "reporting.user@domain.tld"
  spamCategory : Value := .text "spam"
  hamCategory : Value := .text "ham"
  logRawText : Value := .switch true
  detectLanguage : Value := .switch false

/-- The names that occur more than once, in alphabetical order. -/
def repeatedNames (names : List String) : List String :=
  ((names.filter fun name => 1 < names.count name).eraseDups).mergeSort (· ≤ ·)

/-- The configuration with the given parts, which are in their ranges. -/
def check (fields : Fields) : Except Error Config := do
  let threshold ← fields.spamThreshold.toNumber
  if !((Number.whole 0).le threshold && threshold.le (.whole 1)) then
    throw (.configuration (.thresholdOutOfRange threshold))
  let repeated := repeatedNames (fields.analyzers.map (·.name))
  if !repeated.isEmpty then throw (.configuration (.repeatedAnalyzers repeated))
  if fields.spamCategory.same fields.hamCategory then throw (.configuration .categoriesCoincide)
  return { spamThreshold := threshold
           analyzers := fields.analyzers
           trainedModels := fields.trainedModels
           spamDetectionService := fields.spamDetectionService
           reportingUserEmail := fields.reportingUserEmail
           spamCategory := fields.spamCategory
           hamCategory := fields.hamCategory
           logRawText := fields.logRawText
           detectLanguage := fields.detectLanguage }

/-! ### Reading -/

/-- The analyzers of a configuration that lists none. -/
def defaultAnalyzers : Except Error (List AnalyzerConfig) := do
  return [← AnalyzerConfig.ofFields? { name := .text "bayes" }]

/-- Reads the threshold. -/
def readThreshold (threshold : Value) : Except Error Float :=
  match threshold.toReal with
  | .ok x => .ok x
  | .error e =>
    .error (if e.isMismatch then .configuration (.malformedThreshold e.message) else e)

/-- The analyzers that a table lists. -/
def readAnalyzers (table : Entries Value) : Except Error (List AnalyzerConfig) :=
  match table.get? "analyzers" with
  | none => defaultAnalyzers
  | some listed => do
    match ← (← listed.elements).mapM AnalyzerConfig.ofEntry? with
    | [] => throw (.configuration .noAnalyzers)
    | analyzers => return analyzers

/-- The configuration of the engine's table. `modules` lists the installed modules and replaces
what the table says about them. The types of resources are listed in order, so all are texts. -/
def ofTable? (raw : Value) (modules : Option Value) : Except Error Config := do
  let table ← if raw.isSet then raw.asTable else .ok []
  let threshold ← readThreshold (table.getOr "spam-threshold" (.number (.binary 0.75)))
  let analyzers ← readAnalyzers table
  let trainedModels ← trainedModelsOf (modules.getD (table.getOr "installed-modules" (.list [])))
    (table.getOr "trained-models" .null)
  let config ← check
    { spamThreshold := .float threshold
      analyzers
      trainedModels
      spamDetectionService := table.getOr "spam-detection-service" (.text "default")
      reportingUserEmail := table.getOr "reporting-user-email" (.text "reporting.user@domain.tld")
      spamCategory := table.getOr "spam-category" (.text "spam")
      hamCategory := table.getOr "ham-category" (.text "ham")
      logRawText := .switch (table.getOr "log-raw-text" (.switch true)).isSet
      detectLanguage := .switch (table.getOr "detect-language" (.switch false)).isSet }
  if !config.trainedModels.isSortable then throw .wrongKind
  return config

/-- The analyzers whose parts a value lists. -/
def readParts (listed : Value) : Except Error (List AnalyzerConfig) := do
  (← listed.elements).mapM fun item => do
    let .table parts := item | throw .wrongKind
    AnalyzerConfig.ofFields? (← AnalyzerConfig.Fields.ofTable? parts)

/-- The names of the parts. -/
def partNames : List String := [
  "spamThreshold", "analyzers", "trainedModels", "spamDetectionService", "reportingUserEmail",
  "spamCategory", "hamCategory", "logRawText", "detectLanguage"]

/-- The configuration whose parts a table gives by name. -/
def ofParts? (table : Entries Value) : Except Error Config := do
  let analyzers ← (table.get? "analyzers").elim defaultAnalyzers readParts
  table.restrictTo partNames
  let base : Fields := { analyzers }
  let config ← check
    { base with
      spamThreshold := table.getOr "spamThreshold" base.spamThreshold
      spamDetectionService := table.getOr "spamDetectionService" base.spamDetectionService
      reportingUserEmail := table.getOr "reportingUserEmail" base.reportingUserEmail
      spamCategory := table.getOr "spamCategory" base.spamCategory
      hamCategory := table.getOr "hamCategory" base.hamCategory
      logRawText := table.getOr "logRawText" base.logRawText
      detectLanguage := table.getOr "detectLanguage" base.detectLanguage }
  let trainedModels ← match table.get? "trainedModels" with
    | some models => models.toMap
    | none => trainedModelsOf (.list []) .null
  return { config with trainedModels }

/-- The configuration of the analyzer with a name. -/
def analyzer? (config : Config) (name : String) : Option AnalyzerConfig :=
  config.analyzers.find? (·.name == name)

end Config

end Moderation
