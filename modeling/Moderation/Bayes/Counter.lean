/-!
# `Moderation.Bayes.Counter`: the counters of a Bayes classifier

A classifier has learned what its counters say. They are kept in a store under names that begin
with the scope of the classifier, so that several classifiers can share a store.

* `Counter.key` is the name of a counter. A token holds no colon, so the part after the last
  colon of a name is a token, and no two counters share a name.
-/

set_option autoImplicit false

namespace Moderation.Bayes

/-- A counter of a classifier. -/
inductive Counter where
  /-- The texts learned in a category. -/
  | messages (category : String)
  /-- The tokens learned in a category. -/
  | tokens (category : String)
  /-- The occurrences of a token in a category. -/
  | count (category token : String)
  /-- The occurrences of a token in any category. -/
  | vocabulary (token : String)
  /-- The number of tokens that occur in some category. -/
  | vocabularySize
  deriving DecidableEq, Repr

/-- The name of a counter within a scope. -/
def Counter.key (scope : String) : Counter → String
  | messages category => scope ++ ":msg:" ++ category
  | tokens category => scope ++ ":tok:" ++ category
  | count category token => scope ++ ":cnt:" ++ category ++ ":" ++ token
  | vocabulary token => scope ++ ":voc:" ++ token
  | vocabularySize => scope ++ ":vocsize"

/-- What all names within a scope begin with. -/
def scopeStart (scope : String) : String := scope ++ ":"

/-- The scope of a classifier that is given none. -/
def defaultScope (analyzer : String) : String := "decidim_ai:" ++ analyzer

end Moderation.Bayes
