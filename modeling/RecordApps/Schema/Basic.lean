import RecordApps.AppId
import RecordApps.Condition
import RecordApps.Field.Type

/-! # Schemas

The fields of an app. Retired fields stay in the schema; rules, formulas and records refer to
active fields only, by their codes.
-/

namespace RecordApps

/-- The schema of an app. -/
structure AppSchema where
  /-- App id. -/
  id : AppId
  /-- App code, by which other apps and the record store refer to the app. -/
  code : NonBlank
  /-- Whether the status of records is managed by a process. -/
  processEnabled : Bool
  /-- All fields, retired ones included. -/
  fields : List FieldDefinition
  deriving Repr

namespace FieldType

/-- The metadata value that an automatic field shows. -/
def autoValue? (record : Record) : FieldType → Option Value
  | .recordNumber => some (.int record.number)
  | .creator => some (record.value Key.createdBy)
  | .createdTime => some (record.value Key.createdAt)
  | .modifier => some (record.value Key.updatedBy)
  | .modifiedTime => some (record.value Key.updatedAt)
  | _ => none

end FieldType

namespace AppSchema

/-- The fields in use, in the order of the schema. -/
def activeFields (schema : AppSchema) : List FieldDefinition :=
  schema.fields.filter (·.active)

def field? (schema : AppSchema) (code : String) : Option FieldDefinition :=
  schema.activeFields.find? (·.code.text == code)

/-- The active field with a code, refusing codes that have none. -/
def requireField (schema : AppSchema) (code : String) : Outcome FieldDefinition :=
  match schema.field? code with
  | some f => .ok f
  | none => .error (.invalid (.noSuchField code schema.code.text))

/-- Refuse a reference to anything but an active field or a metadata key. -/
def checkReference (schema : AppSchema) (code : String) : Outcome Unit :=
  ensure (Key.isReserved code || (schema.field? code).isSome)
    (.noSuchField code schema.code.text)

/-- Check a condition group and the references in it. -/
def checkCondition (schema : AppSchema) (group : ConditionGroup) : Outcome Unit := do
  group.validate
  group.fieldCodes.forM schema.checkReference

/-- What the automatic fields show for a record, in the order of the schema. -/
def autoValues (schema : AppSchema) (record : Record) : List (String × Value) :=
  schema.activeFields.filterMap fun f =>
    (f.type.autoValue? record).map fun v => (f.code.text, v)

/-- The data of a record with its automatic fields filled in. -/
def projectedData (schema : AppSchema) (record : Record) : Fields :=
  record.data.insertAll (schema.autoValues record)

/-- A record with its automatic fields filled in. -/
def project (schema : AppSchema) (record : Record) : Record :=
  { record with data := schema.projectedData record }

end AppSchema

end RecordApps
