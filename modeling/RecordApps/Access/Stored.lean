import RecordApps.Access.Resolution
import RecordApps.Condition.Stored
import RecordApps.Field.Stored

/-! # Stored permission rules -/

namespace RecordApps

/-- A text that may be absent, null for none. -/
def Value.ofText (s : Option String) : Value :=
  Value.ofOption .text s

namespace Decode

def flagOrFalse (key : String) : Reader Bool :=
  orElse key flag false

end Decode

namespace AccessLevel

def names : List (String × AccessLevel) :=
  [("hidden", .hidden), ("view", .view), ("edit", .edit)]

def name : AccessLevel → String
  | .hidden => "hidden"
  | .view => "view"
  | .edit => "edit"

end AccessLevel

namespace AppCapabilities

def entries (c : AppCapabilities) : List (String × Value) :=
  [("can_add", .bool c.mayAdd), ("can_delete", .bool c.mayDelete), ("can_edit", .bool c.mayEdit),
   ("can_export", .bool c.mayExport), ("can_import", .bool c.mayImport),
   ("can_manage", .bool c.mayManage), ("can_view", .bool c.mayView)]

def toValue (c : AppCapabilities) : Value :=
  .object c.entries

/-- Read the fields of the stored form. -/
def reader : Decode.Reader AppCapabilities := do
  let mayView ← Decode.flagOrFalse "can_view"
  let mayAdd ← Decode.flagOrFalse "can_add"
  let mayEdit ← Decode.flagOrFalse "can_edit"
  let mayDelete ← Decode.flagOrFalse "can_delete"
  let mayManage ← Decode.flagOrFalse "can_manage"
  let mayExport ← Decode.flagOrFalse "can_export"
  let mayImport ← Decode.flagOrFalse "can_import"
  return ⟨mayView, mayAdd, mayEdit, mayDelete, mayManage, mayExport, mayImport⟩

def ofValue? : Decoder AppCapabilities :=
  Decode.ofFields reader

end AppCapabilities

namespace RecordCapabilities

def entries (c : RecordCapabilities) : List (String × Value) :=
  [("can_delete", .bool c.mayDelete), ("can_edit", .bool c.mayEdit), ("can_view", .bool c.mayView)]

def toValue (c : RecordCapabilities) : Value :=
  .object c.entries

/-- Read the fields of the stored form. -/
def reader : Decode.Reader RecordCapabilities := do
  let mayView ← Decode.flagOrFalse "can_view"
  let mayEdit ← Decode.flagOrFalse "can_edit"
  let mayDelete ← Decode.flagOrFalse "can_delete"
  return ⟨mayView, mayEdit, mayDelete⟩

def ofValue? : Decoder RecordCapabilities :=
  Decode.ofFields reader

end RecordCapabilities

namespace AppPermission

/-- The stored form, the capabilities among the other fields. -/
def toValue (row : AppPermission) : Value :=
  .object
    ([("app_id", row.app.toValue)] ++ row.capabilities.entries ++
      [("id", row.id.toValue),
       ("include_sub_organizations", .bool row.target.includeDescendants),
       ("priority", .int row.priority),
       ("target_id", .ofText row.target.id),
       ("target_type", .text row.target.type.name)])

def ofValue? : Decoder AppPermission := Decode.ofKeyedFields do
  let id ← Decode.required "id" NonBlank.ofValue?
  let app ← Decode.required "app_id" AppId.ofValue?
  let targetType ← Decode.required "target_type" (Decode.name TargetType.names)
  let targetId ← Decode.maybe "target_id" Decode.text
  let capabilities ← AppCapabilities.reader
  let priority ← Decode.orElse "priority" Decode.int32 0
  let includeDescendants ← Decode.flagOrFalse "include_sub_organizations"
  return ⟨id, app, ⟨targetType, targetId, includeDescendants⟩, capabilities, priority⟩

end AppPermission

namespace FieldPermission

def toValue (row : FieldPermission) : Value :=
  .object
    [("access_level", .text row.level.name),
     ("app_id", row.app.toValue),
     ("field_name", row.field.toValue),
     ("id", row.id.toValue),
     ("include_sub_organizations", .bool row.target.includeDescendants),
     ("priority", .int row.priority),
     ("target_id", .ofText row.target.id),
     ("target_type", .text row.target.type.name)]

def ofValue? : Decoder FieldPermission := Decode.ofFields do
  let id ← Decode.required "id" NonBlank.ofValue?
  let app ← Decode.required "app_id" AppId.ofValue?
  let field ← Decode.required "field_name" NonBlank.ofValue?
  let targetType ← Decode.required "target_type" (Decode.name TargetType.names)
  let targetId ← Decode.maybe "target_id" Decode.text
  let level ← Decode.required "access_level" (Decode.name AccessLevel.names)
  let priority ← Decode.orElse "priority" Decode.int32 0
  let includeDescendants ← Decode.flagOrFalse "include_sub_organizations"
  return ⟨id, app, field, ⟨targetType, targetId, includeDescendants⟩, level, priority⟩

end FieldPermission

namespace RecordRule

/-- The stored form, the capabilities among the other fields. -/
def toValue (rule : RecordRule) : Value :=
  .object
    ([("app_id", rule.app.toValue)] ++ rule.capabilities.entries ++
      [("condition", rule.condition.toValue),
       ("id", rule.id.toValue),
       ("priority", .int rule.priority),
       ("target_field", .ofText rule.targetField),
       ("target_id", .ofText rule.targetId),
       ("target_type", .text rule.targetType.name)])

def ofValue? : Decoder RecordRule := Decode.ofKeyedFields do
  let id ← Decode.required "id" NonBlank.ofValue?
  let app ← Decode.required "app_id" AppId.ofValue?
  let condition ← Decode.orElse "condition" ConditionGroup.ofValue? .always
  let targetType ← Decode.required "target_type" (Decode.name RecordTargetType.names)
  let targetId ← Decode.maybe "target_id" Decode.text
  let targetField ← Decode.maybe "target_field" Decode.text
  let capabilities ← RecordCapabilities.reader
  let priority ← Decode.orElse "priority" Decode.int32 0
  return ⟨id, app, condition, targetType, targetId, targetField, capabilities, priority⟩

end RecordRule

namespace RuleSet

def toValue (rules : RuleSet) : Value :=
  .object
    [("app", .list (rules.app.map AppPermission.toValue)),
     ("field", .list (rules.field.map FieldPermission.toValue)),
     ("record", .list (rules.record.map RecordRule.toValue))]

def ofValue? : Decoder RuleSet := Decode.ofFields do
  let app ← Decode.orElse "app" (Decode.listOf AppPermission.ofValue?) []
  let field ← Decode.orElse "field" (Decode.listOf FieldPermission.ofValue?) []
  let record ← Decode.orElse "record" (Decode.listOf RecordRule.ofValue?) []
  return ⟨app, field, record⟩

end RuleSet

namespace Access

def toValue (access : Access) : Value :=
  .object
    [("app", access.app.toValue),
     ("fields", .object (access.fields.entries.map fun entry => (entry.1, .text entry.2.name))),
     ("record", access.record.toValue)]

end Access

end RecordApps
