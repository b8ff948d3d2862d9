import RecordApps.Field.Value
import RecordApps.Schema.Basic

/-! # Input for records

Which values a client may supply for the fields of an app, which values new records start
with, and which fields may not stay empty.
-/

namespace RecordApps.AppSchema

/-- Refuse a value that the field with a code does not take. On apps without a process a
    status is any text or null. -/
def checkEntry (schema : AppSchema) (code : String) (value : Value) : Outcome Unit :=
  if code == Key.status && !schema.processEnabled then
    ensure (value.isNull || value.text?.isSome) .badStatus
  else
    match schema.field? code with
    | none => .error (.invalid (.unknownFieldCode code))
    | some f => do
        ensure f.type.acceptsInput (.inputForbidden f.type.name code)
        f.checkValue value

/-- Check every value of an input in the order of the codes. -/
def checkInput (schema : AppSchema) (input : Fields) : Outcome Unit :=
  input.entries.forM fun (code, value) => schema.checkEntry code value

/-- The values of a new record: those of the input, and initial values for the fields that
    the input leaves out. -/
def initialData (schema : AppSchema) (input : Fields) : Fields :=
  let initial := schema.activeFields.filterMap fun f =>
    if input.contains f.code.text then none else f.initialValue.map fun v => (f.code.text, v)
  (KeyMap.ofList initial).insertAll input.entries

/-- The codes of the required fields that are empty. -/
def emptyRequired (schema : AppSchema) (data : Fields) : List String :=
  (schema.activeFields.filter fun f =>
    f.required && f.type.acceptsInput && isEmptyField (data.get? f.code.text)).map (·.code.text)

/-- Refuse data in which a required field is empty. -/
def checkRequired (schema : AppSchema) (data : Fields) : Outcome Unit :=
  let empty := schema.emptyRequired data
  ensure empty.isEmpty (.requiredEmpty empty)

end RecordApps.AppSchema
