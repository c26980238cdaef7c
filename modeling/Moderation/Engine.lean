import Moderation.Config.Load
import Moderation.Logging.Configure
import Moderation.Resource.Adapter
import Moderation.Service.Basic

/-!
# `Moderation.Engine`: the engine as a whole

One configuration file sets up everything: first the loggers, then the analyzers, the service and
the adapter for resources. The engine learns from resources that moderators have decided about,
and classifies new ones.

* `Engine.start` reads the configuration and gives the engine with its first state.
* `train`, `untrain` and `classify` take resources where the service takes texts.
-/

set_option autoImplicit false

namespace Moderation

/-- What the engine finds when it starts. -/
structure Surroundings where
  environment : Environment
  logging : Logging.State

/-- An engine: its configuration, its service and the adapter for resources. -/
structure Engine (σ α : Type) where
  config : Config
  service : Service σ α
  adapter : Resource.Adapter

namespace Engine

variable {σ α : Type}

/-- The adapter that a configuration asks for. -/
def adapterOf (config : Config) : Resource.Adapter where
  models := .table config.trainedModels.named
  spamCategory := config.spamCategory
  hamCategory := config.hamCategory

/-- Reads the configuration from files. -/
def readTables (reader : Toml.Reader) (room : Config.Room) (path directories : Value) :
    Act Surroundings (Entries Value) := do
  let files := (← get).logging.files
  (Config.load reader room files path directories).zoom Surroundings.environment
    fun environment surroundings => { surroundings with environment }

/-- Sets up the loggers. -/
def setUpLogging (table : Value) : Act Surroundings Unit :=
  (Logging.setUp table).zoom Surroundings.logging
    fun logging surroundings => { surroundings with logging }

/-- The engine of a configuration and its first state. -/
def ofConfig? (config : Config) (factories : Registry.Factories σ α) (guess : Language.Guesser)
    (stores : σ) : Except Error (Engine σ α × Service.State σ α) := do
  let state ← Service.start config stores
  let service ← Service.ofConfig? config factories guess
  return ({ config, service, adapter := adapterOf config }, state)

/-- Starts an engine with the configuration in some files. `modules` lists the installed modules
and replaces what the configuration says about them. -/
def start (reader : Toml.Reader) (room : Config.Room) (path directories : Value)
    (modules : Option Value) (factories : Registry.Factories σ α) (guess : Language.Guesser)
    (stores : σ) : Act Surroundings (Engine σ α × Service.State σ α) := do
  let table ← readTables reader room path directories
  setUpLogging ((table.get? "logging").getD (.table []))
  let config ← Act.ofExcept (Config.ofTable? ((table.get? "ai").getD (.table [])) modules)
  Act.ofExcept (ofConfig? config factories guess stores)

/-! ### Resources -/

/-- Learns a resource as the moderators have decided about it. -/
def train (engine : Engine σ α) (resource : Resource) :
    Act (Service.State σ α) Service.Report := do
  let lesson ← Act.ofExcept (engine.adapter.extract resource)
  engine.service.train lesson.category (.text lesson.text)

/-- Forgets a resource. -/
def untrain (engine : Engine σ α) (resource : Resource) :
    Act (Service.State σ α) Service.Report := do
  let lesson ← Act.ofExcept (engine.adapter.extract resource)
  engine.service.untrain lesson.category (.text lesson.text)

/-- Decides about a resource. The log keeps its identifier. -/
def classify [Scoring α] (engine : Engine σ α) (resource : Resource) :
    Act (Service.State σ α) (Service.Verdict α) := do
  let lesson ← Act.ofExcept (engine.adapter.extract resource)
  engine.service.classify (.text lesson.text) resource.id

/-- Closes the stores. The engine can still be used afterwards, and then opens them anew. -/
def close : Act (Service.State σ α) Unit := Service.onDeployment Deployment.close

end Engine

end Moderation
