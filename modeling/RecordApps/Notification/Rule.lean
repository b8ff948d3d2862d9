import RecordApps.Access.Stored
import RecordApps.Notification.Template
import RecordApps.Schema.Stored

/-! # Notification rules

A rule listens to an event on records, may look at the record, and names whom to notify and
what to tell them.
-/

namespace RecordApps

/-- An event on a record. -/
inductive Trigger where
  /-- The record was added. -/
  | recordAdded
  /-- Values of the record changed. -/
  | recordEdited
  /-- The record was deleted. -/
  | recordDeleted
  /-- Someone commented on the record. -/
  | commentAdded
  /-- The record moved to another status. -/
  | statusChanged
  deriving Repr, DecidableEq

/-- Whom a rule notifies. -/
inductive NotifyType where
  /-- Creator of the record. -/
  | creator
  /-- One user. -/
  | user
  /-- Holders of a role. -/
  | role
  /-- Members of an organization. -/
  | organization
  /-- Users that a field of the record names. -/
  | fieldValue
  deriving Repr, DecidableEq

/-- Someone to notify. -/
inductive Recipient where
  /-- A user. -/
  | user (id : String)
  /-- All holders of a role. -/
  | role (id : String)
  /-- All members of an organization. -/
  | organization (id : String)
  deriving Repr, DecidableEq

/-- A notification that is ready to be delivered. -/
structure Notification where
  /-- Id of the rule. -/
  rule : String
  /-- Id of the record. -/
  record : String
  recipients : List Recipient
  title : String
  message : String
  deriving Repr, DecidableEq

/-- A notification rule of an app. -/
structure NotificationRule where
  id : NonBlank
  app : AppId
  trigger : Trigger
  /-- Which records the rule is for, all if absent. -/
  condition : Option ConditionGroup
  notifyType : NotifyType
  /-- Id of the user, role or organization. -/
  targetId : Option String
  /-- Field that names the users. -/
  targetField : Option String
  title : String
  message : String
  deriving Repr

namespace NotificationRule

/-- Check the title, the target and the condition of a rule. -/
def validate (rule : NotificationRule) : Outcome Unit := do
  ensure (!Text.isBlank rule.title) (.titleMissing rule.id.text)
  match rule.notifyType with
  | .user | .role | .organization =>
      ensure (isGiven rule.targetId) (.notifyTargetMissing rule.id.text)
  | .fieldValue => ensure (isGiven rule.targetField) (.notifyFieldMissing rule.id.text)
  | .creator => pure ()
  match rule.condition with
  | some condition => condition.validate
  | none => return

def make (id : String) (app : AppId) (trigger : Trigger) (condition : Option ConditionGroup)
    (notifyType : NotifyType) (targetId targetField : Option String) (title message : String) :
    Outcome NotificationRule := do
  let rule : NotificationRule :=
    ⟨← NonBlank.make id, app, trigger, condition, notifyType, targetId, targetField, title, message⟩
  rule.validate
  return rule

/-- Whether a rule is for an event on a record. The condition sees the automatic fields. -/
def fires (rule : NotificationRule) (trigger : Trigger) (schema : AppSchema) (record : Record) :
    Bool :=
  rule.trigger == trigger &&
    rule.condition.all fun condition => condition.holds (schema.projectedData record)

/-- Whom a rule notifies about a record, nobody twice. -/
def recipients (rule : NotificationRule) (record : Record) : List Recipient :=
  let target := rule.targetId.getD ""
  match rule.notifyType with
  | .creator => (record.createdBy.map Recipient.user).toList
  | .user => [.user target]
  | .role => [.role target]
  | .organization => [.organization target]
  | .fieldValue =>
      match rule.targetField with
      | some code => ((record.userIds code).map Recipient.user).eraseDups
      | none => []

/-- The notification of a rule about a record. Recipients and texts see the automatic
    fields. -/
def notification (rule : NotificationRule) (schema : AppSchema) (record : Record)
    (lead : String) : Notification :=
  let projected := schema.project record
  ⟨rule.id.text, record.id.text, rule.recipients projected, projected.render lead rule.title,
    projected.render lead rule.message⟩

end NotificationRule

namespace Trigger

def names : List (String × Trigger) :=
  [("record_added", .recordAdded), ("record_edited", .recordEdited),
   ("record_deleted", .recordDeleted), ("comment_added", .commentAdded),
   ("status_changed", .statusChanged)]

def name : Trigger → String
  | .recordAdded => "record_added"
  | .recordEdited => "record_edited"
  | .recordDeleted => "record_deleted"
  | .commentAdded => "comment_added"
  | .statusChanged => "status_changed"

end Trigger

namespace NotifyType

/-- The names of the kinds of recipients. -/
def names : List (String × NotifyType) :=
  [("creator", .creator), ("user", .user), ("role", .role), ("organization", .organization),
   ("field_value", .fieldValue)]

def name : NotifyType → String
  | .creator => "creator"
  | .user => "user"
  | .role => "role"
  | .organization => "organization"
  | .fieldValue => "field_value"

end NotifyType

namespace Recipient

def toValue : Recipient → Value
  | .user id => .object [("id", .text id), ("kind", .text "user")]
  | .role id => .object [("id", .text id), ("kind", .text "role")]
  | .organization id => .object [("id", .text id), ("kind", .text "organization")]

end Recipient

namespace Notification

def toValue (n : Notification) : Value :=
  .object
    [("message", .text n.message),
     ("recipients", .list (n.recipients.map Recipient.toValue)),
     ("record_id", .text n.record),
     ("rule_id", .text n.rule),
     ("title", .text n.title)]

end Notification

namespace NotificationRule

def toValue (rule : NotificationRule) : Value :=
  .object
    [("app_id", rule.app.toValue),
     ("condition", Value.ofOption ConditionGroup.toValue rule.condition),
     ("id", rule.id.toValue),
     ("message_template", .text rule.message),
     ("notify_target_field", .ofText rule.targetField),
     ("notify_target_id", .ofText rule.targetId),
     ("notify_type", .text rule.notifyType.name),
     ("title_template", .text rule.title),
     ("trigger_type", .text rule.trigger.name)]

def ofValue? : Decoder NotificationRule := Decode.ofFields do
  let id ← Decode.required "id" NonBlank.ofValue?
  let app ← Decode.required "app_id" AppId.ofValue?
  let trigger ← Decode.required "trigger_type" (Decode.name Trigger.names)
  let condition ← Decode.maybe "condition" ConditionGroup.ofValue?
  let notifyType ← Decode.required "notify_type" (Decode.name NotifyType.names)
  let targetId ← Decode.maybe "notify_target_id" Decode.text
  let targetField ← Decode.maybe "notify_target_field" Decode.text
  let title ← Decode.required "title_template" Decode.text
  let message ← Decode.orElse "message_template" Decode.text ""
  return ⟨id, app, trigger, condition, notifyType, targetId, targetField, title, message⟩

end NotificationRule

end RecordApps
