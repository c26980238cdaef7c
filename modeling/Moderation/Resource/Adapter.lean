import Moderation.Resource.Basic
import Moderation.Resource.Flatten

/-!
# `Moderation.Resource.Adapter`: what a resource teaches

From a resource an analyzer learns one text in one category. The text is made of the fields of
the resource, flattened and joined by empty lines; the category follows from the decision of the
moderators. Only resources whose type has the right adapter can be learned from.

* `Adapter.extract` gives category and text, or says which type is not supported.
-/

set_option autoImplicit false

namespace Moderation.Resource

/-- What can be learned from a resource. -/
structure Lesson where
  category : Value
  text : String

/-- Which adapter reads a type of resource, and the categories of hidden and visible ones. -/
structure Adapter where
  /-- The adapters by the types that they read. -/
  models : Value
  spamCategory : Value
  hamCategory : Value

/-- The adapter that a content needs, and the fields that it reads; none for an unknown
content. -/
def Content.reading? : Content → Option (String × List Value)
  | unknown => none
  | comment body => some ("comment", [body])
  | proposal title body => some ("proposal", [title, body])
  | collaborativeDraft title body => some ("collaborative_draft", [title, body])
  | meeting title description location locationHints =>
    some ("meeting", [title, description, location, locationHints])
  | debate title description => some ("debate", [title, description])
  | initiative title description => some ("initiative", [title, description])
  | user name nickname about personalUrl =>
    some ("user_base_entity", [name, nickname, about, personalUrl])
  | userGroup name nickname about personalUrl =>
    some ("user_base_entity", [name, nickname, about, personalUrl])

/-- The flattened fields that are not empty, with an empty line between them. -/
def joinFields (fields : List Value) : Except Error String := do
  return String.ofList (joinGiven ['\n', '\n'] (← fields.mapM flattenValue))

namespace Adapter

/-- Whether the type of a resource has an adapter. -/
def supports (adapter : Adapter) (resource : Resource) : Except Error Bool :=
  adapter.models.finds resource.type

/-- The adapter of a type; null counts as none. -/
def adapterFor? (models : Entries Value) (type : String) : Option Value :=
  match models.get? type with
  | some .null => none
  | found => found

/-- The fields that the adapter `chosen` reads, which has to be the one that the content needs. -/
def fieldsFor? (chosen : Value) (content : Content) : Option (List Value) :=
  match content.reading? with
  | some (needed, fields) => if chosen.same (.text needed) then some fields else none
  | none => none

/-- What a resource teaches. -/
def extract (adapter : Adapter) (resource : Resource) : Except Error Lesson := do
  match adapterFor? (← adapter.models.asTable) resource.type with
  | none => throw (.unsupportedResource resource.typeName)
  | some chosen =>
    match fieldsFor? chosen resource.content with
    | some fields =>
      return { category := if resource.hidden then adapter.spamCategory else adapter.hamCategory
               text := ← joinFields fields }
    | none =>
      Value.requireShowable [chosen]
      throw (.unsupportedResource resource.type)

end Adapter

end Moderation.Resource
