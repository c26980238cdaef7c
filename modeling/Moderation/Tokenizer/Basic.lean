import Moderation.Entries
import Moderation.Text.Blank
import Moderation.Text.Case
import Moderation.Text.Passage
import Moderation.Text.Word
import Moderation.Tokenizer.Settings

/-!
# `Moderation.Tokenizer.Basic`: from a text to its tokens

A text becomes tokens in four stages: passages that are switched off give way to a space, the
case of letters is removed, the words are taken, and those of a wrong length or without meaning
are left out. If pairs are wanted, each two neighbouring words that are left make a further token.

* `frequencies` counts the tokens, in the order of their first occurrence.
-/

set_option autoImplicit false

namespace Moderation.Tokenizer

open Text

/-! ### Passages -/

/-- How a link begins. -/
def linkLeads : List (List Char) :=
  ["http://".toList, "https://".toList, "www.".toList]

/-- The length of the link that begins a text. -/
def linkLength : List Char → Nat := ledLength linkLeads (!isBlank ·)

/-- The length of the mention of a user that begins a text. -/
def mentionLength : List Char → Nat := ledLength [['@']] isWord

/-- The length of the number that begins a text. -/
def numberLength : List Char → Nat := runLength isDecimal

/-- The text without the passages that the settings switch off, and without case. -/
def clean (settings : Settings) (text : List Char) : List Char :=
  let unlinked := if settings.dropLinks then blankOut linkLength text else text
  let unnamed := if settings.dropMentions then blankOut mentionLength unlinked else unlinked
  foldCase (if settings.dropNumbers then blankOut numberLength unnamed else unnamed)

/-! ### Tokens -/

/-- The words of a text, whether they count or not. -/
def wordsIn (settings : Settings) (text : String) : List String :=
  (words (clean settings text.toList)).map String.ofList

/-- Whether a word has an admitted length and a meaning of its own. -/
def keeps (settings : Settings) (word : String) : Bool :=
  settings.minLength.le (.whole word.length) && (Number.whole word.length).le settings.maxLength &&
    !settings.stopwords.contains word

/-- The words of a text that count. -/
def keptWords (settings : Settings) (text : String) : List String :=
  (wordsIn settings text).filter (keeps settings)

/-- Each two neighbouring words, joined by a low line. -/
def neighbours : List String → List String
  | first :: second :: rest => (first ++ "_" ++ second) :: neighbours (second :: rest)
  | _ => []

/-- The tokens of a text, in order: its words, then the pairs of neighbouring words. -/
def tokenize (settings : Settings) (text : String) : List String :=
  let kept := keptWords settings text
  if settings.pairs then kept ++ neighbours kept else kept

/-! ### Frequencies -/

/-- Counts one more occurrence of a token. -/
def countIn (counts : Entries Nat) (token : String) : Entries Nat :=
  counts.set token ((counts.get? token).getD 0 + 1)

/-- How often each token occurs, in the order of first occurrence. -/
def frequencies (tokens : List String) : Entries Nat := tokens.foldl countIn []

end Moderation.Tokenizer
