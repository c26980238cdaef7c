import Moderation.Act
import Moderation.Arithmetic
import Moderation.Bayes.Classifier
import Moderation.Bayes.Counter
import Moderation.Bayes.Posterior
import Moderation.Bayes.Settings
import Moderation.Bayes.Statistics
import Moderation.Bayes.Training
import Moderation.Binary64.Basic
import Moderation.Binary64.Rounding
import Moderation.Config.Analyzer
import Moderation.Config.Basic
import Moderation.Config.Environment
import Moderation.Config.Load
import Moderation.Config.Merge
import Moderation.Config.Placeholder
import Moderation.Config.Room
import Moderation.Decimal.Basic
import Moderation.Decimal.Scientific
import Moderation.Decimal.Shortest
import Moderation.Dialogue
import Moderation.Engine
import Moderation.Entries
import Moderation.Error
import Moderation.Files
import Moderation.Fingerprint
import Moderation.Html.CharacterReference
import Moderation.Html.Entity.CapitalAToL
import Moderation.Html.Entity.CapitalMToZ
import Moderation.Html.Entity.SmallAToD
import Moderation.Html.Entity.SmallEToK
import Moderation.Html.Entity.SmallLToN
import Moderation.Html.Entity.SmallOToR
import Moderation.Html.Entity.SmallSToZ
import Moderation.Json
import Moderation.Language
import Moderation.Logging.Basic
import Moderation.Logging.Configure
import Moderation.Logging.Level
import Moderation.Logging.RecordFormat
import Moderation.Number
import Moderation.Numeral
import Moderation.Redis.Client
import Moderation.Redis.Failure
import Moderation.Redis.Options
import Moderation.Redis.Store
import Moderation.Registry.Basic
import Moderation.Registry.Deployment
import Moderation.Registry.Resolve
import Moderation.Registry.Standard
import Moderation.Rehearsal.Client
import Moderation.Rehearsal.Stage
import Moderation.Rehearsal.Stub
import Moderation.Resource.Adapter
import Moderation.Resource.Basic
import Moderation.Resource.Flatten
import Moderation.Service.Basic
import Moderation.Service.Training
import Moderation.Service.Verdict
import Moderation.Store.Adapter
import Moderation.Store.Basic
import Moderation.Store.Ledger
import Moderation.Store.Memory
import Moderation.Store.Program
import Moderation.Store.Request
import Moderation.Strategy
import Moderation.Text.Blank
import Moderation.Text.Case
import Moderation.Text.Case.Context
import Moderation.Text.Case.Fold
import Moderation.Text.Case.Lower
import Moderation.Text.Case.Shift
import Moderation.Text.Case.Upper
import Moderation.Text.Digit
import Moderation.Text.Letter
import Moderation.Text.Passage
import Moderation.Text.Quoted
import Moderation.Text.Ranges
import Moderation.Text.Visible
import Moderation.Text.Word
import Moderation.Tokenizer.Basic
import Moderation.Tokenizer.Fields
import Moderation.Tokenizer.Settings
import Moderation.Toml.Document
import Moderation.Toml.Reader
import Moderation.Toml.Scalar
import Moderation.Toml.Scan
import Moderation.Toml.Text
import Moderation.Value.Basic
import Moderation.Value.Conversion
import Moderation.Value.Map
import Moderation.Value.Moment
import Moderation.Proofs.Result
import Moderation.Proofs.Exact
import Moderation.Proofs.Language
import Moderation.Proofs.Tokenizer.Frequencies
import Moderation.Proofs.Bayes.CounterKey
import Moderation.Proofs.Store.Ensures
import Moderation.Proofs.Store.Watched
import Moderation.Proofs.Bayes.Balance
import Moderation.Proofs.Bayes.Learning
import Moderation.Proofs.Bayes.Call
import Moderation.Proofs.Bayes.Consistency
import Moderation.Proofs.Bayes.Reversal
import Moderation.Proofs.Bayes.Classification
import Moderation.Proofs.Bayes.Solvency
import Moderation.Proofs.Bayes.HalfLearned
import Moderation.Proofs.Bayes.Outages
import Moderation.Proofs.Dialogue.Interleaving
import Moderation.Proofs.Store.Exclusion
import Moderation.Proofs.Bayes.Concurrency
import Moderation.Proofs.Store.Zeros
import Moderation.Proofs.Redis.SteadyServer
import Moderation.Proofs.Bayes.Steps
import Moderation.Proofs.Bayes.Interchange
import Moderation.Proofs.Service.Round
import Moderation.Proofs.Registry.Resolution
import Moderation.Proofs.Service.FanOut
import Moderation.Proofs.Service.Evidence
import Moderation.Proofs.Service.Judgement
import Moderation.Proofs.Store.Sharing
import Moderation.Proofs.Store.Blackout
import Moderation.Proofs.Bayes.Names
import Moderation.Proofs.Bayes.Isolation
import Moderation.Proofs.Registry.Traffic
import Moderation.Proofs.Registry.Progress
import Moderation.Proofs.Registry.Single
import Moderation.Proofs.Registry.Currency
import Moderation.Proofs.Service.Reach
import Moderation.Proofs.Service.Learned
import Moderation.Proofs.Service.Retraction
import Moderation.Proofs.Service.Frame
import Moderation.Proofs.Service.Trail
import Moderation.Proofs.Config.Surfacing
import Moderation.Proofs.Config.Reading
import Moderation.Proofs.Bayes.Options
import Moderation.Proofs.Store.Custody
import Moderation.Proofs.Registry.Leaks
import Moderation.Proofs.Registry.Intents
import Moderation.Proofs.Registry.Latecomers
import Moderation.Proofs.Bayes.Lessons
import Moderation.Proofs.Bayes.Probability
import Moderation.Proofs.Bayes.Priors
import Moderation.Proofs.Bayes.Reinforcement
import Moderation.Proofs.Store.Meddling
import Moderation.Proofs.Store.Interruption
import Moderation.Proofs.Bayes.Interruption
import Moderation.Proofs.Bayes.Faultless
import Moderation.Proofs.Text.Folding
import Moderation.Proofs.Text.Passages
import Moderation.Proofs.Tokenizer.Separation
import Moderation.Proofs.Tokenizer.LetterCase
import Moderation.Proofs.Redis.Shielding
import Moderation.Proofs.Text.Bytes
import Moderation.Proofs.Redis.Glob
import Moderation.Proofs.Entries
import Moderation.Proofs.Redis.Batches
import Moderation.Proofs.Redis.Clearing
import Moderation.Proofs.Redis.Deletions
import Moderation.Proofs.Config.Override
import Moderation.Proofs.Config.Placeholders
import Moderation.Proofs.Config.Ranges
import Moderation.Proofs.Config.Layers
import Moderation.Proofs.Text.Tidying
import Moderation.Proofs.Config.Variables
import Moderation.Proofs.Resource.Paragraphs
import Moderation.Proofs.Files
import Moderation.Proofs.Logging.Openings
import Moderation.Proofs.Logging.Hierarchy
import Moderation.Proofs.Logging.Turns
import Moderation.Proofs.Logging.Order
