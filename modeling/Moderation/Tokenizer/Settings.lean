import Moderation.Number

/-!
# `Moderation.Tokenizer.Settings`: which parts of a text become tokens

The settings bound the length of a token, name the words that carry no meaning of their own and
switch three kinds of passages off: links, mentions of users and numbers.

* `Settings.faults` lists what is wrong with settings, and is empty exactly on settings whose
  least length is not below one and whose greatest is not below the least (`faults_eq_nil_iff`).
-/

set_option autoImplicit false

namespace Moderation.Tokenizer

/-- Words without a meaning of their own, in English, Spanish and Catalan. -/
def defaultStopwords : List String := [
  "the", "a", "an", "and", "or", "but", "in", "on", "at", "to", "for", "of", "with", "by", "from",
  "is", "are", "was", "were", "be", "been", "it", "this", "that",
  "el", "la", "los", "las", "un", "una", "y", "o", "de", "del", "en", "que", "por", "para", "con",
  "els", "les", "i", "amb", "per"]

/-- Which parts of a text become tokens. -/
structure Settings where
  minLength : Number := .whole 2
  maxLength : Number := .whole 50
  dropLinks : Bool := true
  dropMentions : Bool := true
  dropNumbers : Bool := false
  /-- Whether each two neighbouring words also make a token. -/
  pairs : Bool := false
  stopwords : List String := defaultStopwords

/-- What is wrong with settings. -/
inductive Fault where
  | minLengthBelowOne
  | maxLengthBelowMin
  deriving DecidableEq, Repr

/-- What is said about a fault. -/
def Fault.message : Fault → String
  | minLengthBelowOne => "min_token_length must be at least 1"
  | maxLengthBelowMin => "max_token_length must be >= min_token_length"

/-- The faults of settings. -/
def Settings.faults (settings : Settings) : List Fault :=
  (if settings.minLength.lt (.whole 1) then [.minLengthBelowOne] else []) ++
    if settings.maxLength.lt settings.minLength then [.maxLengthBelowMin] else []

/-- Settings are accepted if and only if the least length is one or more and the greatest length is
no less than the least. -/
theorem Settings.faults_eq_nil_iff (settings : Settings) :
    settings.faults = [] ↔ settings.minLength.lt (.whole 1) = false ∧
      settings.maxLength.lt settings.minLength = false := by
  simp [faults]

end Moderation.Tokenizer
