import RecordApps.Field.Validation
import RecordApps.Schema.Calculation

/-! # Validity of schemas

Field codes are unique, each automatic field occurs once, references inside the schema name
active fields that suit them, and the calculated fields can be computed.
-/

namespace RecordApps

namespace AppSchema

/-- Check the fields one after the other: each by itself, no code twice, and no automatic
    field twice. -/
def checkFields (app : String) (codes autoTypes : List String) :
    List FieldDefinition → Outcome Unit
  | [] => .ok ()
  | f :: rest => do
      f.validate
      ensure (!codes.contains f.code.text) (.duplicateFieldCode f.code.text app)
      ensure (!(f.type.isAuto && autoTypes.contains f.type.name))
        (.repeatedAutoField app f.type.name)
      checkFields app (f.code.text :: codes)
        (if f.type.isAuto then f.type.name :: autoTypes else autoTypes) rest

/-- Refuse a copy into a field that does not take input, or is a lookup itself. -/
def checkCopyTarget (schema : AppSchema) (lookup : FieldDefinition) (copy : LookupCopy) :
    Outcome Unit := do
  let target ← schema.requireField copy.target
  ensure (target.type.acceptsInput && !target.type.isLookup)
    (.lookupTarget lookup.code.text target.type.name copy.target)

/-- Check what a field refers to, formulas apart. -/
def checkReferences (schema : AppSchema) (f : FieldDefinition) : Outcome Unit :=
  match f.type with
  | .lookup config => config.copies.forM (schema.checkCopyTarget f)
  | .relatedRecords config => do
      let _ ← schema.requireField config.thisField
  | _ => .ok ()

/-- Check a schema; the first rule that is broken decides. -/
def validate (schema : AppSchema) : Outcome Unit := do
  checkFields schema.code.text [] [] schema.fields
  schema.activeFields.forM schema.checkReferences
  let _ ← schema.calculationOrder

def make (id : AppId) (code : String) (processEnabled : Bool) (fields : List FieldDefinition) :
    Outcome AppSchema := do
  let schema : AppSchema := ⟨id, ← NonBlank.make code, processEnabled, fields⟩
  schema.validate
  return schema

end AppSchema

end RecordApps
