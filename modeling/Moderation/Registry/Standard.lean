import Moderation.Bayes.Classifier
import Moderation.Redis.Options
import Moderation.Redis.Store
import Moderation.Registry.Resolve
import Moderation.Store.Adapter

/-!
# `Moderation.Registry.Standard`: the strategies and stores that there are

Texts are classified by a Bayes classifier, whose counters are kept in memory or on a Redis
server. How a server is reached is left to the caller.

* `standard` gives the factories of the engine.
-/

set_option autoImplicit false

namespace Moderation.Registry

variable {σ : Type}

/-- Makes a Bayes classifier for an analyzer. -/
def makeBayes (analyzer : String) (store : Store σ) (options params : Entries Value) :
    Except Error (Strategy σ Number) := do
  return (← Bayes.Classifier.ofOptions? analyzer options params).strategy store

/-- Makes a client, which connects to its server with its first command. -/
abbrev Dial (σ : Type) := Redis.Options → Redis.Client σ

variable [Store.HasShelf σ]

/-- Opens a store on a Redis server. -/
def openRedis (dial : Dial σ) (params : Value.Map Value) : Act σ (Store σ) := do
  let client := dial (← Act.ofExcept (Redis.Options.ofParams? params.named))
  client.run Redis.openStore
  return Redis.store (← Store.Memory.takeNumber) client Redis.defaultBatch

/-- The strategies and stores that there are. -/
def standard (dial : Dial σ) : Factories σ Number where
  stores := [("memory", Store.Memory.openWith), ("redis", openRedis dial)]
  strategies := [("bayes", makeBayes)]

end Moderation.Registry
