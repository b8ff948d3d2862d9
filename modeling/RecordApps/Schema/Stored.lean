import RecordApps.Field.Stored
import RecordApps.Schema.Basic

/-! # Stored schemas -/

namespace RecordApps

namespace AppSchema

def toValue (schema : AppSchema) : Value :=
  .object
    [("app_code", schema.code.toValue),
     ("app_id", schema.id.toValue),
     ("fields", .list (schema.fields.map FieldDefinition.toValue)),
     ("process_enabled", .bool schema.processEnabled)]

def ofValue? : Decoder AppSchema := Decode.ofFields do
  let id ← Decode.required "app_id" AppId.ofValue?
  let code ← Decode.required "app_code" NonBlank.ofValue?
  let processEnabled ← Decode.orElse "process_enabled" Decode.flag false
  let fields ← Decode.required "fields" (Decode.listOf FieldDefinition.ofValue?)
  return ⟨id, code, processEnabled, fields⟩

end AppSchema

end RecordApps
