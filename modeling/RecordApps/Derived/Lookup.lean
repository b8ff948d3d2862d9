import RecordApps.Field.Type
import RecordApps.RecordStore

/-! # Lookups and related records

A lookup copies values from the first record of another app with the same key. Related
records are all records of another app with the same key; they are listed, not copied.
-/

namespace RecordApps

/-- A lookup whose key no record has. -/
structure LookupMiss where
  /-- Code of the other app. -/
  app : String
  /-- Field of the other app that holds the key. -/
  keyField : String
  /-- Text of the key. -/
  key : String
  deriving Repr, DecidableEq

namespace LookupMiss

def message (miss : LookupMiss) : String :=
  "no record in '" ++ miss.app ++ "' has " ++ miss.keyField ++ " = '" ++ miss.key ++ "'"

end LookupMiss

namespace LookupConfig

/-- What is copied from a record, under the fields it is copied into. -/
def copied (config : LookupConfig) (record : Record) : Fields :=
  KeyMap.ofList (config.copies.map fun copy => (copy.target, record.value copy.source))

/-- The record that a lookup copies from. A key without text finds none. -/
def source? (config : LookupConfig) (store : RecordStore) (key : Value) : Option Record :=
  if key.asText.isEmpty then none
  else (store.list config.app ((RecordFilter.having config.keyField key).withLimit (some 1))).head?

def resolve (config : LookupConfig) (store : RecordStore) (key : Value) :
    Except LookupMiss Fields :=
  match config.source? store key with
  | some record => .ok (config.copied record)
  | none => .error ⟨config.app, config.keyField, key.asText⟩

end LookupConfig

/-- A related record with the values that are shown of it. -/
structure RelatedRecord where
  /-- Record id. -/
  id : String
  /-- Number within its app. -/
  number : Nat
  /-- Shown values by field code, null where there is none. -/
  fields : Fields
  deriving Repr

namespace RelatedRecord

/-- A record with the values under the given codes. -/
def ofRecord (record : Record) (codes : List String) : RelatedRecord :=
  ⟨record.id.text, record.number, KeyMap.ofList (codes.map fun code => (code, record.value code))⟩

def toValue (related : RelatedRecord) : Value :=
  .object
    [("fields", related.fields.toValue),
     ("record_id", .text related.id),
     ("record_number", .int related.number)]

end RelatedRecord

namespace RelatedConfig

/-- The records of the other app with the same key, in order. A key without text has none. -/
def sources (config : RelatedConfig) (store : RecordStore) (data : Fields) : List Record :=
  let key := data.value config.thisField
  if key.asText.isEmpty then []
  else store.list config.app (RecordFilter.having config.keyField key)

/-- The records of the other app with the same key, as they are shown. -/
def related (config : RelatedConfig) (store : RecordStore) (data : Fields) :
    List RelatedRecord :=
  (config.sources store data).map fun record =>
    RelatedRecord.ofRecord record config.displayFields

end RelatedConfig

end RecordApps
