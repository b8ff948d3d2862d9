import RecordApps.Access.Priority
import RecordApps.Schema.Basic

/-! # Effective access

The three tables are resolved one after the other. The rows of the app grant, record rules
narrow the grant on one record, and field rows narrow it further on its fields.
-/

namespace RecordApps

/-- The level of every field that can have one, by field code. -/
abbrev FieldAccess := KeyMap AccessLevel

/-- What an actor may do with an app, one of its records and its fields. -/
structure Access where
  app : AppCapabilities
  record : RecordCapabilities
  fields : FieldAccess
  deriving Repr, DecidableEq

namespace RuleSet

/-- What the app grants to an actor: nothing, unless a row applies. -/
def appCapabilities (rules : RuleSet) (actor : Actor) : AppCapabilities :=
  match Ranked.deciding (fun row : AppPermission => row.target.covers actor) rules.app with
  | some row => row.capabilities
  | none => .none

/-- The explicit level of a field for an actor. -/
def fieldLevel? (rules : RuleSet) (actor : Actor) (code : String) : Option AccessLevel :=
  (Ranked.deciding (fun row : FieldPermission => row.field.text == code && row.target.covers actor)
    rules.field).map FieldPermission.level

end RuleSet

namespace RecordRule

/-- Whether a rule is for an actor on a record. -/
def isFor (rule : RecordRule) (actor : Actor) (record : Record) : Bool :=
  match rule.targetType with
  | .user => rule.targetId == some actor.id
  | .role => rule.targetId.any actor.hasRole
  | .organization => rule.targetId.any fun id => actor.belongsTo id false
  | .creator => record.createdBy == some actor.id
  | .fieldValue => rule.targetField.any fun code => (record.userIds code).contains actor.id

/-- Whether a rule applies to an actor on a record: it is for the actor, and the record meets
    its condition. -/
def applies (rule : RecordRule) (actor : Actor) (record : Record) : Bool :=
  rule.condition.holds record.data && rule.isFor actor record

end RecordRule

namespace RuleSet

/-- What an actor may do with a record: what the app grants, narrowed by the rule that
    decides. Rules see the automatic fields of the record. -/
def recordCapabilities (rules : RuleSet) (actor : Actor) (schema : AppSchema) (record : Record)
    (app : AppCapabilities) : RecordCapabilities :=
  let projected := schema.project record
  match Ranked.deciding (fun rule : RecordRule => rule.applies actor projected) rules.record with
  | some rule => rule.capabilities.intersect app.onRecords
  | none => app.onRecords

/-- The level of every active field that is not decorative: its explicit level, where there
    is one, but never above what the record allows. -/
def fieldAccess (rules : RuleSet) (actor : Actor) (schema : AppSchema)
    (record : RecordCapabilities) : FieldAccess :=
  KeyMap.ofList <| (schema.activeFields.filter (!·.type.isDecorative)).map fun f =>
    (f.code.text,
      match rules.fieldLevel? actor f.code.text with
      | some level => level.lower record.ceiling
      | none => record.ceiling)

/-- What an actor may do with an app and one of its records, or a record about to be made. -/
def access (rules : RuleSet) (actor : Actor) (schema : AppSchema) (record : Option Record) :
    Access :=
  let app := rules.appCapabilities actor
  let capabilities := match record with
    | some record => rules.recordCapabilities actor schema record app
    | none => app.onCreation
  ⟨app, capabilities, rules.fieldAccess actor schema capabilities⟩

end RuleSet

namespace KeyMap

/-- The level of a field; fields without one are hidden. -/
def level (access : FieldAccess) (code : String) : AccessLevel :=
  (access.get? code).getD .hidden

/-- Whether the value under a key may be read. -/
def mayRead (access : FieldAccess) (key : String) : Bool :=
  Key.isReserved key || access.level key != .hidden

/-- The data without the fields that are hidden. Metadata stays. -/
def redact (access : FieldAccess) (data : Fields) : Fields :=
  data.filter fun key _ => access.mayRead key

/-- Refuse a key that may not be written. A status is free text on apps without a process. -/
def checkWritable (access : FieldAccess) (schema : AppSchema) (key : String) : Outcome Unit :=
  if key == Key.status && !schema.processEnabled then .ok ()
  else if Key.isReserved key then .error (.forbidden (.reservedKey key))
  else
    match access.get? key with
    | none => .error (.invalid (.unknownFieldCode key))
    | some .edit => .ok ()
    | some .view => .error (.forbidden (.readOnlyField key))
    | some .hidden => .error (.forbidden (.hiddenField key))

/-- Refuse data with a key that may not be written. -/
def checkAllWritable (access : FieldAccess) (schema : AppSchema) (data : Fields) : Outcome Unit :=
  data.keys.forM (access.checkWritable schema)

end KeyMap

end RecordApps
