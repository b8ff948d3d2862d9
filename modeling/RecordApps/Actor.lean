import RecordApps.Value.Decode

/-! # Actors

The user who attempts an operation, with the roles and organizations that rules refer to.
-/

namespace RecordApps

/-- A user with memberships. -/
structure Actor where
  /-- User id. -/
  id : String
  /-- Name for display. -/
  displayName : String
  /-- Roles the user holds. -/
  roles : List String
  /-- Organization the user belongs to. -/
  organization : Option String
  /-- Organizations above that one, nearest first. -/
  ancestors : List String
  deriving Repr, DecidableEq

namespace Actor

def hasRole (actor : Actor) (role : String) : Bool :=
  actor.roles.contains role

/-- Whether the actor belongs to an organization, directly or, where asked for, through one
    of its descendants. -/
def belongsTo (actor : Actor) (organization : String) (includeDescendants : Bool) : Bool :=
  actor.organization == some organization ||
    (includeDescendants && actor.ancestors.contains organization)

def toValue (actor : Actor) : Value :=
  .object
    [("display_name", .text actor.displayName),
     ("id", .text actor.id),
     ("org_ancestor_ids", .list (actor.ancestors.map .text)),
     ("org_id", (actor.organization.map Value.text).getD .null),
     ("role_ids", .list (actor.roles.map .text))]

def ofValue? : Decoder Actor := Decode.ofFields do
  let id ← Decode.required "id" Decode.text
  let displayName ← Decode.required "display_name" Decode.text
  let roles ← Decode.orElse "role_ids" (Decode.listOf Decode.text) []
  let organization ← Decode.maybe "org_id" Decode.text
  let ancestors ← Decode.orElse "org_ancestor_ids" (Decode.listOf Decode.text) []
  return ⟨id, displayName, roles, organization, ancestors⟩

end Actor

end RecordApps
