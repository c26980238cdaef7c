import Moderation.Value.Conversion

/-!
# `Moderation.Resource.Basic`: resources that can be learned from

A resource is what users have written: a comment, a proposal, a profile. It has fields with
texts, and moderators may have hidden it.

* `Content.fields` says which fields a type of resource has, by name and in order, and
  `Content.eq_of_fields` that a resource of a type is made of nothing else.
* `ofFields?` makes a resource from given fields, each of which has the value that is given under its
  name (`Content.eq_getD_of_ofType?`).
-/

set_option autoImplicit false

namespace Moderation

/-- The fields of a resource by its type. -/
inductive Resource.Content where
  /-- A resource of no type that is known. -/
  | unknown
  | comment (body : Value)
  | proposal (title body : Value)
  | collaborativeDraft (title body : Value)
  | meeting (title description location locationHints : Value)
  | debate (title description : Value)
  | initiative (title description : Value)
  | user (name nickname about personalUrl : Value)
  | userGroup (name nickname about personalUrl : Value)

/-- What a user has written. -/
structure Resource where
  id : Value
  /-- Whether moderators have hidden it. -/
  hidden : Bool
  content : Resource.Content

namespace Resource

/-- The name of the type of a resource; none for an unknown type. -/
def Content.type? : Content → Option String
  | unknown => none
  | comment .. => some "Comment"
  | proposal .. => some "Proposal"
  | collaborativeDraft .. => some "CollaborativeDraft"
  | meeting .. => some "Meeting"
  | debate .. => some "Debate"
  | initiative .. => some "Initiative"
  | user .. => some "User"
  | userGroup .. => some "UserGroup"

/-- The type by which adapters are chosen, empty for an unknown type. -/
def type (resource : Resource) : String := resource.content.type?.getD ""

/-- The name of the type in messages. -/
def typeName (resource : Resource) : String := resource.content.type?.getD "Resource"

/-- The fields with texts, by their names and in their order. -/
def Content.fields : Content → Entries Value
  | unknown => []
  | comment body => [("body", body)]
  | proposal title body | collaborativeDraft title body => [("title", title), ("body", body)]
  | meeting title description location locationHints =>
    [("title", title), ("description", description), ("location", location),
      ("locationHints", locationHints)]
  | debate title description | initiative title description =>
    [("title", title), ("description", description)]
  | user name nickname about personalUrl | userGroup name nickname about personalUrl =>
    [("name", name), ("nickname", nickname), ("about", about), ("personalUrl", personalUrl)]

/-- There is nothing in a content but its fields. -/
theorem Content.eq_of_fields {content other : Content} (type : content.type? = other.type?)
    (fields : content.fields = other.fields) : content = other := by
  cases content <;> cases other <;> simp_all [Content.type?, Content.fields]

/-- The content of the type `type` with the given fields. -/
def Content.ofType? (type : String) (fields : Entries Value) : Option Content :=
  let get (name : String) : Value := (fields.get? name).getD .null
  match type with
  | "Resource" => some unknown
  | "Comment" => some (comment (get "body"))
  | "Proposal" => some (proposal (get "title") (get "body"))
  | "CollaborativeDraft" => some (collaborativeDraft (get "title") (get "body"))
  | "Meeting" =>
    some (meeting (get "title") (get "description") (get "location") (get "locationHints"))
  | "Debate" => some (debate (get "title") (get "description"))
  | "Initiative" => some (initiative (get "title") (get "description"))
  | "User" => some (user (get "name") (get "nickname") (get "about") (get "personalUrl"))
  | "UserGroup" =>
    some (userGroup (get "name") (get "nickname") (get "about") (get "personalUrl"))
  | _ => none

/-- What is given under the name of a field is in this field. -/
theorem Content.eq_getD_of_ofType? {type : String} {given : Entries Value} {content : Content}
    (made : ofType? type given = some content) :
    ∀ field ∈ content.fields, field.2 = (given.get? field.1).getD .null := by
  unfold ofType? at made
  split at made <;> cases made <;> simp [fields]

/-- The resource of a type with the given fields, among them its identifier and whether it is
hidden. No other fields are allowed. -/
def ofFields? (type : String) (fields : Entries Value) : Except Error Resource :=
  match Content.ofType? type fields with
  | none => .error .lacking
  | some content => do
    fields.restrictTo (["id", "hidden"] ++ content.fields.keys)
    return { id := fields.getOr "id" .null
             hidden := (fields.get? "hidden").any Value.isSet
             content }

end Resource

end Moderation
