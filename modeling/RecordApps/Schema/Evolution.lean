import RecordApps.Schema.Validation

/-! # Changes of a schema

A field that has been saved keeps its code for ever. It is retired, not removed, and only
when no active field depends on it.
-/

namespace RecordApps

namespace FieldType

/-- The field codes of its own app that a type refers to. -/
def dependencies : FieldType → List String
  | .calculated config =>
      match Formula.parse config.formula with
      | .ok formula => formula.fieldCodes
      | .error _ => []
  | .lookup config => config.copies.map LookupCopy.target
  | .relatedRecords config => [config.thisField]
  | _ => []

end FieldType

namespace AppSchema

def addField (schema : AppSchema) (f : FieldDefinition) : Outcome AppSchema := do
  let extended := { schema with fields := schema.fields ++ [f] }
  extended.validate
  return extended

/-- Refuse a schema that drops a saved field or changes its code. -/
def checkStable (schema : AppSchema) (stored : FieldDefinition) : Outcome Unit :=
  match schema.fields.find? (·.id == stored.id) with
  | none => .error (.conflict (.fieldRemoved stored.code.text))
  | some f =>
      if f.code = stored.code then .ok ()
      else .error (.conflict (.fieldCodeChanged stored.code.text f.code.text))

/-- Check a schema against the one it replaces. -/
def ensureStable (schema previous : AppSchema) : Outcome Unit :=
  (previous.fields.filter (!·.temporary)).forM schema.checkStable

def persisted (schema : AppSchema) : AppSchema :=
  { schema with fields := schema.fields.map fun f => { f with temporary := false } }

/-- The codes of the other active fields that depend on a field. -/
def dependants (schema : AppSchema) (code : String) : List String :=
  (schema.activeFields.filter fun f =>
    f.code.text != code && f.type.dependencies.contains code).map (·.code.text)

/-- Take the first active field with a code out of use. -/
def retireFirst (code : String) : List FieldDefinition → Option (List FieldDefinition)
  | [] => none
  | f :: rest =>
      if f.active && f.code.text == code then some ({ f with active := false } :: rest)
      else (retireFirst code rest).map (f :: ·)

/-- Take a field out of use. Fields that others depend on are kept. -/
def retireField (schema : AppSchema) (code : String) : Outcome AppSchema :=
  let dependants := schema.dependants code
  if dependants.isEmpty then
    match retireFirst code schema.fields with
    | some fields => .ok { schema with fields := fields }
    | none => .error (.notFound (.field code))
  else .error (.conflict (.fieldReferenced code dependants))

end AppSchema

end RecordApps
