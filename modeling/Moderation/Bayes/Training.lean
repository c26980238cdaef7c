import Moderation.Bayes.Counter
import Moderation.Store.Program

/-!
# `Moderation.Bayes.Training`: learning and forgetting a text

To learn a text is to add its tokens to the counters of a category, to forget it is to take them
off again. Forgetting takes no counter below zero: of each token it takes off at most what the
category holds. A token is part of the vocabulary as long as some category holds it, and the size
of the vocabulary follows from the totals that the store replies.

All three programs hold the write lock from their first round trip to their last.
-/

set_option autoImplicit false

namespace Moderation.Bayes

open Store

/-- Adds to a counter, and gives its new value. -/
def addTo (scope : String) (counter : Counter) (delta : Int) : Program Int :=
  Program.increment (counter.key scope) delta

/-- The number under a name in a reply, zero if there is none. -/
def replied (reply : Entries Int) (key : String) : Int := (reply.get? key).getD 0

/-! ### Learning -/

/-- Learns `count` occurrences of a token. The token is new iff its total is then `count`. -/
def learnToken (scope category : String) (token : String) (count : Nat) : Program Unit := do
  let _ ← addTo scope (.count category token) count
  let total ← addTo scope (.vocabulary token) count
  if total = count then
    let _ ← addTo scope .vocabularySize 1

/-- Learns the tokens of a text, one after the other. -/
def learnTokens (scope category : String) : List (String × Nat) → Program Unit
  | [] => pure ()
  | (token, count) :: rest => do
    learnToken scope category token count
    learnTokens scope category rest

/-- The number of tokens of a text. -/
def size (counts : Entries Nat) : Nat := counts.foldr (fun entry total => entry.2 + total) 0

/-- Learns a text with the token counts `counts`. -/
def learn (scope category : String) (counts : Entries Nat) : Program Unit :=
  Program.exclusively do
    let _ ← addTo scope (.messages category) 1
    let _ ← addTo scope (.tokens category) (size counts)
    learnTokens scope category counts

/-! ### Forgetting -/

/-- How many of `count` occurrences a category can forget that holds `held`. -/
def removable (count : Nat) (held : Int) : Int := min count held

/-- Forgets occurrences of a token, and gives their number. The token has left the vocabulary
iff its total is then zero; a lower total is mended. -/
def forgetToken (scope category : String) (token : String) (count : Nat) (held : Int) :
    Program Int := do
  let removed := removable count held
  if removed ≤ 0 then return 0
  let _ ← addTo scope (.count category token) (-removed)
  let total ← addTo scope (.vocabulary token) (-removed)
  if total ≤ 0 then
    if total < 0 then Program.set ((Counter.vocabulary token).key scope) 0
    let _ ← addTo scope .vocabularySize (-1)
  return removed

/-- Forgets the tokens of a text, one after the other, and gives the number of all. -/
def forgetTokens (scope category : String) (reply : Entries Int) :
    List (String × Nat) → Program Int
  | [] => pure 0
  | (token, count) :: rest => do
    let held := replied reply ((Counter.count category token).key scope)
    let removed ← forgetToken scope category token count held
    return removed + (← forgetTokens scope category reply rest)

/-- The names of the counters that forgetting a text looks at. -/
def forgetKeys (scope category : String) (counts : Entries Nat) : List String :=
  (counts.map fun entry => (Counter.count category entry.1).key scope) ++
    [(Counter.messages category).key scope, (Counter.tokens category).key scope]

/-- Forgets a text with the token counts `counts`. -/
def forget (scope category : String) (counts : Entries Nat) : Program Unit :=
  Program.exclusively do
    let reply ← Program.getMany (forgetKeys scope category counts)
    let removed ← forgetTokens scope category reply counts
    if removed = 0 then return
    let tokens := replied reply ((Counter.tokens category).key scope)
    let _ ← addTo scope (.tokens category) (-(min removed tokens))
    if 0 < replied reply ((Counter.messages category).key scope) then
      let _ ← addTo scope (.messages category) (-1)

/-! ### Starting over -/

/-- Forgets everything. -/
def reset (scope : String) : Program Unit :=
  Program.exclusively do
    let _ ← Program.clear (scopeStart scope)

end Moderation.Bayes
