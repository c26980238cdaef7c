import Moderation.Value.Basic

/-!
# `Moderation.Toml.Reader`: what reads documents

A configuration is written down in documents. What reads a document gives its table or says why
there is none. It is a part of its own, which the engine is given: the engine only knows that
documents are texts, so that bytes that are no text cannot be read (`Reader.ExpectsText`).
-/

set_option autoImplicit false

namespace Moderation.Toml

/-- Why bytes are not read as a document. -/
inductive Fault where
  | malformed
  /-- The bytes are no text. -/
  | undecodable
  /-- A whole number has more decimal digits than can be read. -/
  | tooManyDigits (digits : Nat)
  /-- Values are nested deeper than there is room for. -/
  | tooDeep
  deriving DecidableEq, Repr

/-- Reads the table that a document describes. -/
abbrev Reader := ByteArray → Except Fault (Entries Value)

/-- Bytes that are no text are no document for a reader, and it says so. -/
structure Reader.ExpectsText (reader : Reader) : Prop where
  undecodable : ∀ content, String.fromUTF8? content = none → reader content = .error .undecodable

end Moderation.Toml
