import RecordApps.RecordFilter

/-! # The record store

Records are kept by the code of their app, in the order of their numbers. Numbers start at
one and go up, so the number of a deleted record is not given away again; there are as many
numbers as 64 bits hold.
-/

namespace RecordApps

/-- The records of one app. -/
structure AppRecords where
  /-- The largest number that a record of the app ever had. -/
  lastNumber : Nat
  /-- Records in the order of their numbers. -/
  records : List Record
  deriving Repr

/-- The records of all apps, by app code. -/
structure RecordStore where
  apps : KeyMap AppRecords
  deriving Repr

namespace AppRecords

def empty : AppRecords :=
  ⟨0, []⟩

def find? (app : AppRecords) (id : String) : Option Record :=
  app.records.find? (·.id.text == id)

/-- The number that the next record is due. -/
def nextNumber (app : AppRecords) : Nat :=
  app.lastNumber + 1

/-- Put a record in its place by number. -/
def place (record : Record) : List Record → List Record
  | [] => [record]
  | other :: rest =>
      if record.number < other.number then record :: other :: rest
      else other :: place record rest

/-- Put a record in the place of the first one with its id. -/
def replaceFirst (record : Record) : List Record → List Record
  | [] => []
  | other :: rest =>
      if other.id.text == record.id.text then record :: rest
      else other :: replaceFirst record rest

def dropFirst (id : String) (records : List Record) : List Record :=
  records.eraseP (·.id.text == id)

end AppRecords

namespace RecordStore

def empty : RecordStore :=
  ⟨KeyMap.empty⟩

def app (store : RecordStore) (code : String) : AppRecords :=
  (store.apps.get? code).getD .empty

/-- The store with other records of an app. -/
def withApp (store : RecordStore) (code : String) (records : AppRecords) : RecordStore :=
  ⟨store.apps.insert code records⟩

def records (store : RecordStore) (code : String) : List Record :=
  (store.app code).records

def find? (store : RecordStore) (code id : String) : Option Record :=
  (store.app code).find? id

/-- The records of an app that a filter wants, in order. -/
def list (store : RecordStore) (code : String) (filter : RecordFilter) : List Record :=
  filter.cut ((store.records code).filter fun record => filter.accepts record.data)

/-- Load a record as it is. Its id and its number may not be in use. -/
def restore (store : RecordStore) (code : String) (record : Record) : Outcome RecordStore :=
  let app := store.app code
  if (app.find? record.id.text).isSome then
    .error (.conflict (.recordExists record.id.text code))
  else if app.records.any (·.number == record.number) then
    .error (.conflict (.recordNumberTaken record.number code))
  else
    .ok (store.withApp code
      ⟨max app.lastNumber record.number, AppRecords.place record app.records⟩)

/-- Add a record under the next number. Once the last number is used, its successor overflows. -/
def insert (store : RecordStore) (code id : String) (data : Fields) :
    Outcome (Record × RecordStore) := do
  let app := store.app code
  let number ← checkedWord app.nextNumber
  let record ← Record.make id number data
  return (record, store.withApp code ⟨record.number, app.records ++ [record]⟩)

/-- Replace a record, if its status is still the expected one. -/
def update (store : RecordStore) (code : String) (record : Record)
    (expectedStatus : Option String) : Outcome RecordStore :=
  let app := store.app code
  match app.find? record.id.text with
  | none => .error (.notFound (.record record.id.text code))
  | some stored =>
      if stored.status != expectedStatus then
        .error (.conflict (.statusChanged record.id.text expectedStatus stored.status))
      else if stored.number != record.number then .error (.invalid .recordNumberChanged)
      else
        .ok (store.withApp code
          ⟨app.lastNumber, AppRecords.replaceFirst record app.records⟩)

def delete (store : RecordStore) (code id : String) : Outcome RecordStore :=
  let app := store.app code
  match app.find? id with
  | none => .error (.notFound (.record id code))
  | some _ => .ok (store.withApp code ⟨app.lastNumber, AppRecords.dropFirst id app.records⟩)

end RecordStore

end RecordApps
