import RecordApps.Access.Capabilities
import RecordApps.Actor
import RecordApps.AppId
import RecordApps.Condition

/-! # Permission rules

Three tables of rules: rows that grant capabilities on an app, rows that fix the level of a
field, and rules that narrow what may be done with records that meet a condition.
-/

namespace RecordApps

/-- Whom a row may be for. -/
inductive TargetType where
  /-- One user. -/
  | user
  /-- Members of an organization. -/
  | organization
  /-- Holders of a role. -/
  | role
  /-- All actors. -/
  | everyone
  deriving Repr, DecidableEq

/-- Whom a record rule may be for. -/
inductive RecordTargetType where
  /-- One user. -/
  | user
  /-- Members of an organization. -/
  | organization
  /-- Holders of a role. -/
  | role
  /-- Creator of the record. -/
  | creator
  /-- Users that a field of the record names. -/
  | fieldValue
  deriving Repr, DecidableEq

/-- Whom a row is for. -/
structure Target where
  type : TargetType
  /-- Id of the user, organization or role. -/
  id : Option String
  /-- Whether members of descendant organizations count too. -/
  includeDescendants : Bool
  deriving Repr, DecidableEq

/-- A row that grants capabilities on an app. -/
structure AppPermission where
  id : NonBlank
  app : AppId
  target : Target
  capabilities : AppCapabilities
  priority : Int
  deriving Repr, DecidableEq

/-- A row that fixes the level of a field. -/
structure FieldPermission where
  id : NonBlank
  app : AppId
  /-- Field code. -/
  field : NonBlank
  target : Target
  level : AccessLevel
  priority : Int
  deriving Repr, DecidableEq

/-- A rule that narrows what may be done with records that meet a condition. -/
structure RecordRule where
  id : NonBlank
  app : AppId
  condition : ConditionGroup
  targetType : RecordTargetType
  /-- Id of the user, organization or role. -/
  targetId : Option String
  /-- Field that names the users. -/
  targetField : Option String
  capabilities : RecordCapabilities
  priority : Int
  deriving Repr

/-- All rules of an app. -/
structure RuleSet where
  app : List AppPermission
  field : List FieldPermission
  record : List RecordRule
  deriving Repr

/-- Whether a name is given and says something. -/
def isGiven (name : Option String) : Bool :=
  name.any fun s => !Text.isBlank s

namespace TargetType

def names : List (String × TargetType) :=
  [("user", .user), ("organization", .organization), ("role", .role), ("everyone", .everyone)]

def name : TargetType → String
  | .user => "user"
  | .organization => "organization"
  | .role => "role"
  | .everyone => "everyone"

end TargetType

namespace RecordTargetType

def names : List (String × RecordTargetType) :=
  [("user", .user), ("organization", .organization), ("role", .role), ("creator", .creator),
   ("field_value", .fieldValue)]

def name : RecordTargetType → String
  | .user => "user"
  | .organization => "organization"
  | .role => "role"
  | .creator => "creator"
  | .fieldValue => "field_value"

end RecordTargetType

namespace Target

/-- Refuse an id for everyone, and a missing or blank id otherwise. -/
def validate (target : Target) : Outcome Unit :=
  match target.type with
  | .everyone => ensure target.id.isNone .everyoneWithTarget
  | type => ensure (isGiven target.id) (.ruleTargetMissing type.name)

def covers (target : Target) (actor : Actor) : Bool :=
  match target.type, target.id with
  | .everyone, _ => true
  | _, none => false
  | .user, some id => actor.id == id
  | .role, some id => actor.hasRole id
  | .organization, some id => actor.belongsTo id target.includeDescendants

end Target

namespace AppPermission

def make (id : String) (app : AppId) (target : Target) (capabilities : AppCapabilities)
    (priority : Int) : Outcome AppPermission := do
  target.validate
  return ⟨← NonBlank.make id, app, target, capabilities, priority⟩

def validate (row : AppPermission) : Outcome Unit :=
  row.target.validate

end AppPermission

namespace FieldPermission

def make (id : String) (app : AppId) (field : String) (target : Target) (level : AccessLevel)
    (priority : Int) : Outcome FieldPermission := do
  target.validate
  return ⟨← NonBlank.make id, app, ← NonBlank.make field, target, level, priority⟩

def validate (row : FieldPermission) : Outcome Unit :=
  row.target.validate

end FieldPermission

namespace RecordRule

/-- Check the condition and the target of a rule. -/
def validate (rule : RecordRule) : Outcome Unit := do
  rule.condition.validate
  match rule.targetType with
  | .creator => return
  | .fieldValue => ensure (isGiven rule.targetField) .recordRuleFieldMissing
  | type => ensure (isGiven rule.targetId) (.recordRuleTargetMissing type.name)

def make (id : String) (app : AppId) (condition : ConditionGroup) (targetType : RecordTargetType)
    (targetId targetField : Option String) (capabilities : RecordCapabilities)
    (priority : Int) : Outcome RecordRule := do
  let rule : RecordRule :=
    ⟨← NonBlank.make id, app, condition, targetType, targetId, targetField, capabilities, priority⟩
  rule.validate
  return rule

end RecordRule

end RecordApps
