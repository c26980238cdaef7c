import Moderation.Redis.Failure
import Moderation.Tokenizer.Settings
import Moderation.Value.Basic

/-!
# `Moderation.Error`: why an operation fails

An error is its cause, and the families of causes tell callers what can be done about it: a
faulty configuration is fatal, an unavailable store may be back later, an inconclusive detection
leaves the language unknown. The wording is a function of the cause, `Error.message`.
-/

set_option autoImplicit false

namespace Moderation

open Text

/-- A setting or an argument that does not lie in its range. -/
inductive InvalidValue where
  | malformedReal (text : String)
  | malformedWhole (text : String)
  | tooManyDigits (digits : Nat)
  /-- A whole number with too many digits, where a message shows it. -/
  | tooLongToShow
  /-- A float that is no number, where a whole number is expected. -/
  | wholeOfNaN
  /-- The pair at `index` of a list of pairs has `size` members. -/
  | raggedPair (index size : Nat)
  | embeddedNull
  | logarithmDomain
  | emptyMaximum
  | smoothingNotPositive
  | tooFewCategories
  | repeatedCategories (categories : List Value)
  | negativeMinTokenCount
  | tokenizer (faults : List Tokenizer.Fault)
  /-- A category that the analyzer does not learn. -/
  | unknownCategory (category : Value) (analyzer : String) (expected : List Value)
  /-- A category that some analyzers do not learn. -/
  | foreignCategory (category : Value) (analyzers : List String)
  | minLettersBelowOne
  | minProbabilityOutOfRange
  | recordFormat (format : String)

/-- What is wrong with a configuration. -/
inductive ConfigFault where
  | blankAnalyzerName
  | missingStrategy (analyzer : Value)
  | missingAdapter (analyzer : Value)
  | weightNotPositive (analyzer : Value) (weight : Number)
  | namelessAnalyzer (entry : Value)
  /-- A weight that is no number, and why. -/
  | malformedWeight (analyzer : Value) (reason : String)
  | thresholdOutOfRange (threshold : Number)
  /-- A threshold that is no number, and why. -/
  | malformedThreshold (reason : String)
  | repeatedAnalyzers (names : List String)
  | categoriesCoincide
  | noAnalyzers
  | fileMissing (path : String)
  | fileIsDirectory (path : String)
  | malformedFile (path : String)
  | analyzerInUse (name : String)
  | unknownStrategy (strategy analyzer : String)
  | unknownAdapter (adapter analyzer : String)
  | unsupportedAdapter (adapter : String)
  | invalidOptions (analyzer : String) (cause : InvalidValue)
  | unknownService (tag : Value)
  /-- A fault that an extension words itself. -/
  | stated (reason : String)

/-- Why a backing store cannot be reached. -/
inductive Outage where
  /-- The server did not answer when the store was opened. -/
  | unreachable (failure : Redis.Failure)
  /-- The server did not answer the command `operation`. -/
  | command (operation : String) (failure : Redis.Failure)
  /-- An outage that an extension words itself. -/
  | stated (reason : String)
  deriving DecidableEq

/-- Why the language of a text is not known. -/
inductive DetectionFault where
  | tooShort (letters : Nat) (least : Number)
  | detector (reason : String)
  | noCandidates
  | ambiguous (language : Value) (probability : Float)
  /-- A fault that an extension words itself. -/
  | stated (reason : String)

/-- Why an operation fails. -/
inductive Error where
  | configuration (fault : ConfigFault)
  | unknownAnalyzer (name : Value)
  | storeUnavailable (outage : Outage)
  | unsupportedResource (type : String)
  | detectionFailed (fault : DetectionFault)
  /-- No analyzer could carry out `operation`; `failures` says why, analyzer by analyzer. -/
  | allAnalyzersFailed (operation : String) (failures : Entries String)
  /-- A failure of the engine that belongs to no other family. -/
  | general (reason : String)
  | invalid (fault : InvalidValue)
  /-- A value of one kind where another is needed. -/
  | wrongKind
  /-- A value of kind `kind` where a number is needed. -/
  | notNumeric (kind : String)
  /-- A value does not have what is asked of its kind. -/
  | lacking
  | overflow
  | divisionByZero
  /-- Bytes that are no text. -/
  | undecodable
  /-- The operating system refuses. -/
  | refused
  /-- Something is nested deeper than there is room for. -/
  | tooDeep
  /-- A failed command to a server that is available. -/
  | client (failure : Redis.Failure)

/-- Whether the error is about a value of a wrong kind or out of its range. -/
def Error.isMismatch : Error → Bool
  | invalid _ | wrongKind | notNumeric _ => true
  | _ => false

/-- An arithmetic fault as the cause of a failure. -/
def Error.ofArithmetic : ArithmeticFault → Error
  | .overflow => .overflow
  | .divisionByZero => .divisionByZero
  | .logarithmDomain => .invalid .logarithmDomain
  | .emptyMaximum => .invalid .emptyMaximum

/-! ### Wording -/

namespace InvalidValue

/-- How much of a malformed numeral is shown. -/
def shownNumeral : Nat := 200

/-- What is said about an invalid value. -/
def message : InvalidValue → String
  | malformedReal text => s!"could not convert string to float: {quoted text}"
  | malformedWhole text =>
    "invalid literal for int() with base 10: " ++
      String.ofList ((quoted text).toList.take shownNumeral)
  | tooManyDigits digits =>
    "Exceeds the limit (4300 digits) for integer string conversion: value has " ++
      s!"{digits} digits; use sys.set_int_max_str_digits() to increase the limit"
  | tooLongToShow =>
    "Exceeds the limit (4300 digits) for integer string conversion; " ++
      "use sys.set_int_max_str_digits() to increase the limit"
  | wholeOfNaN => "cannot convert float NaN to integer"
  | raggedPair index size =>
    s!"dictionary update sequence element #{index} has length {size}; 2 is required"
  | embeddedNull => "embedded null byte"
  | logarithmDomain => "math domain error"
  | emptyMaximum => "max() arg is an empty sequence"
  | smoothingNotPositive => "Alpha must be positive for Laplace smoothing."
  | tooFewCategories => "At least two categories are needed to classify."
  | repeatedCategories categories => s!"Duplicate categories in {Value.shownChoice categories}."
  | negativeMinTokenCount => "minTokenCount can't be negative."
  | tokenizer faults =>
    "Invalid tokenizer config: " ++ "; ".intercalate (faults.map Tokenizer.Fault.message)
  | unknownCategory category analyzer expected =>
    s!"Unknown category '{category.display}' for analyzer '{analyzer}', " ++
      s!"expected one of {Value.shownChoice expected}"
  | foreignCategory category analyzers =>
    s!"Category '{category.display}' is unknown to analyzers {Value.shownNames analyzers}"
  | minLettersBelowOne => "minLength must be at least 1"
  | minProbabilityOutOfRange => "minProbability must be between 0 and 1"
  | recordFormat format => s!"Invalid format '{format}' for '%' style"

end InvalidValue

/-- What is said about a faulty configuration. -/
def ConfigFault.message : ConfigFault → String
  | blankAnalyzerName => "Analyzer name can't be empty"
  | missingStrategy analyzer => s!"Analyzer '{analyzer.display}' has no strategy"
  | missingAdapter analyzer => s!"Analyzer '{analyzer.display}' has no backing store adapter"
  | weightNotPositive analyzer weight =>
    s!"Analyzer '{analyzer.display}' weight must be positive, got {weight.text}"
  | namelessAnalyzer entry => s!"Analyzer entry without name: {entry.display}"
  | malformedWeight analyzer reason =>
    s!"Invalid weight for analyzer '{analyzer.display}': {reason}"
  | thresholdOutOfRange threshold =>
    s!"Spam threshold must be between 0 and 1, got {threshold.text}"
  | malformedThreshold reason => s!"Invalid spam threshold: {reason}"
  | repeatedAnalyzers names => s!"Duplicate analyzer names: {Value.shownNames names}"
  | categoriesCoincide => "Spam and ham categories must differ"
  | noAnalyzers => "At least one analyzer must be registered"
  | fileMissing path => s!"Configuration file {path} not found"
  | fileIsDirectory path =>
    s!"Can't read config file {path}: [Errno 21] Is a directory: {quoted path}"
  | malformedFile path => s!"Invalid TOML in {path}"
  | analyzerInUse name =>
    s!"Analyzer '{name}' is already in use, it can't be re-registered before reset()"
  | unknownStrategy strategy analyzer => s!"Unknown strategy '{strategy}' for analyzer '{analyzer}'"
  | unknownAdapter adapter analyzer =>
    s!"Unknown backing store adapter '{adapter}' for analyzer '{analyzer}'"
  | unsupportedAdapter adapter => s!"Unknown backing store adapter '{adapter}'"
  | invalidOptions analyzer cause => s!"Invalid options for analyzer '{analyzer}': {cause.message}"
  | unknownService tag =>
    s!"Unknown spam detection service '{tag.display}', available: ['default']"
  | stated reason => reason

/-- What is said about an outage. -/
def Outage.message : Outage → String
  | unreachable failure => s!"Redis is unavailable: {failure.message}"
  | command operation failure => s!"Redis {operation} failed: {failure.message}"
  | stated reason => reason

/-- The failure behind an outage, if a server is involved. -/
def Outage.failure? : Outage → Option Redis.Failure
  | unreachable failure => some failure
  | command _ failure => some failure
  | stated _ => none

/-- What is said about a failed detection. -/
def DetectionFault.message : DetectionFault → String
  | tooShort letters least =>
    s!"Text too short for language detection ({letters} < {least.text} letters)"
  | detector reason => s!"Language detection failed: {reason}"
  | noCandidates => "Language detection returned no candidates"
  | ambiguous language probability =>
    s!"Language detection is ambiguous: best candidate '{language.display}' has probability " ++
      Decimal.fixed 2 probability
  | stated reason => reason

/-- The analyzers of a failed operation, in alphabetical order. -/
def failedNames (failures : Entries String) : String :=
  let names := ", ".intercalate (failures.keys.mergeSort (· ≤ ·))
  if names = "" then "<none configured>" else names

/-- What is said about an error. -/
def Error.message : Error → String
  | configuration fault => fault.message
  | unknownAnalyzer name => s!"Analyzer '{name.display}' is not registered"
  | storeUnavailable outage => outage.message
  | unsupportedResource type => s!"Resource type '{type}' is not supported for spam training"
  | detectionFailed fault => fault.message
  | allAnalyzersFailed operation failures =>
    s!"All analyzers failed during {operation}: {failedNames failures}"
  | general reason => reason
  | invalid fault => fault.message
  | wrongKind => "a value of another kind is needed"
  | notNumeric kind => s!"float() argument must be a string or a real number, not '{kind}'"
  | lacking => "the value has no such operation"
  | overflow => "the number is too large"
  | divisionByZero => "division by zero"
  | undecodable => "the bytes are no text"
  | refused => "the operating system refuses"
  | tooDeep => "the nesting is too deep"
  | client failure => failure.message

end Moderation
