import Moderation.Fingerprint
import Moderation.Language
import Moderation.Service.Training
import Moderation.Service.Verdict

/-!
# `Moderation.Service.Basic`: the service that decides about texts

The service teaches texts to all analyzers and asks all of them about new ones. It only returns
verdicts; to hide a text is the business of others. Each verdict leaves an entry in the log,
which is never changed afterwards.

* `train`, `untrain` and `classify` are the three operations.
-/

set_option autoImplicit false

namespace Moderation

namespace Service

variable {σ α : Type}

/-- A verdict in the log. -/
structure LogEntry (α : Type) where
  /-- The hash of the text. -/
  fingerprint : String
  scores : List (String × α)
  spam : Bool
  score : α
  threshold : α
  /-- The text, if texts are kept. -/
  text : Option Value
  resourceId : Value
  failedAnalyzers : List String
  /-- The language of the text, if languages are detected. -/
  language : Option Value

/-- A deployment and the log of the verdicts, the oldest first. -/
structure State (σ α : Type) where
  deployment : Deployment σ α
  log : List (LogEntry α)

/-- An action on the deployment. -/
def onDeployment {β : Type} (act : Act (Deployment σ α) β) : Act (State σ α) β :=
  act.zoom State.deployment fun deployment state => { state with deployment }

end Service

/-- The service: its configuration, how stores and strategies are made, and who guesses
languages. -/
structure Service (σ α : Type) where
  config : Config
  factories : Registry.Factories σ α
  guess : Language.Guesser

namespace Service

variable {σ α : Type}

/-- The service that a configuration asks for. There is one kind of service. -/
def ofConfig? (config : Config) (factories : Registry.Factories σ α) (guess : Language.Guesser) :
    Except Error (Service σ α) :=
  match config.spamDetectionService with
  | .text "default" => .ok { config, factories, guess }
  | tag => do
    Value.requireShowable [← tag.toName]
    throw (.configuration (.unknownService tag))

/-- A state with the analyzers of a configuration and an empty log. -/
def start (config : Config) (stores : σ) : Except Error (State σ α) := do
  return { deployment := { registry := ← Registry.ofConfigs config.analyzers, stores }, log := [] }

/-! ### Training -/

/-- Learns a text in a category with all analyzers. -/
def train (service : Service σ α) (category text : Value) : Act (State σ α) Report :=
  onDeployment (teach service.factories .train category text)

/-- Forgets a text in a category with all analyzers. -/
def untrain (service : Service σ α) (category text : Value) : Act (State σ α) Report :=
  onDeployment (teach service.factories .untrain category text)

/-! ### Classification -/

/-- The scores of one analyzer. -/
def consult (service : Service σ α) (name : String) (text : Value) :
    Act (Deployment σ α) (Scores α) := do
  let inst ← Deployment.resolve service.factories name
  Deployment.onStores (inst.strategy.classify text)

variable [Scoring α]

/-- Asks some analyzers, one after the other. -/
def consultAll (service : Service σ α) (text : Value) :
    Tally α → List AnalyzerConfig → Act (Deployment σ α) (Tally α)
  | tally, [] => pure tally
  | tally, analyzer :: rest => do
    match ← reachable (service.consult analyzer.name text) with
    | .error reason => consultAll service text (tally.fail analyzer.name reason) rest
    | .ok scores =>
      match ← Act.ofExcept (spamShare service.config.spamCategory scores) with
      | none => consultAll service text tally rest
      | some share =>
        let weight := Scoring.ofNumber analyzer.weight
        consultAll service text (← Act.ofArithmetic (tally.add analyzer.name weight share)) rest

/-- The verdict of all analyzers. -/
def judge (service : Service σ α) (text : Value) : Act (Deployment σ α) (Verdict α) := do
  let analyzers := (← get).registry.configs.map (·.2)
  let tally ← service.consultAll text Tally.start analyzers
  if !tally.failed.isEmpty && tally.failed.length = analyzers.length then
    throw (.allAnalyzersFailed "classify" tally.failed)
  Act.ofArithmetic (tally.verdict (Scoring.ofNumber service.config.spamThreshold))

/-- The language of a text as the log names it, if languages are detected. -/
def languageOf (service : Service σ α) (text : Value) : Except Error (Option Value) :=
  if service.config.detectLanguage.isSet then
    some <$> Language.Detector.default.detectOrUnknown service.guess text
  else .ok none

/-- What the log says about a verdict. Only texts have a fingerprint. -/
def entryOf (service : Service σ α) (text resourceId : Value) (verdict : Verdict α) :
    Except Error (LogEntry α) := do
  return { fingerprint := Fingerprint.ofText (← text.toText)
           scores := verdict.shares
           spam := verdict.spam
           score := verdict.score
           threshold := verdict.threshold
           text := if service.config.logRawText.isSet then some text else none
           resourceId := resourceId
           failedAnalyzers := verdict.failedAnalyzers
           language := ← service.languageOf text }

/-- Decides about a text and logs the verdict. -/
def classify (service : Service σ α) (text resourceId : Value) :
    Act (State σ α) (Verdict α) := do
  let verdict ← onDeployment (service.judge text)
  let entry ← Act.ofExcept (service.entryOf text resourceId verdict)
  modify fun state => { state with log := state.log ++ [entry] }
  return verdict

end Service

end Moderation
