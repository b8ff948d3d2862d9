import RecordApps.NonBlank

/-! # Records

A record of an app holds values under field codes, and metadata under keys that no field
may use.
-/

namespace RecordApps

namespace Key

def createdBy : String := "created_by"

def createdAt : String := "created_at"

def updatedBy : String := "updated_by"

def updatedAt : String := "updated_at"

/-- Process status, or a free text where no process is managed. -/
def status : String := "status"

/-- Number of the record within its app. -/
def recordNumber : String := "record_number"

/-- Keys that no field code may be. -/
def reserved : List String :=
  [createdBy, createdAt, updatedBy, updatedAt, status, recordNumber]

/-- Whether a key belongs to the metadata. -/
def isReserved (key : String) : Bool :=
  reserved.contains key

end Key

/-- The numbers of 64 bits. -/
def wordLimit : Nat := Nat.pow 2 64

/-- A sum of numbers of 64 bits as such a number. -/
def checkedWord (n : Nat) : Outcome Nat :=
  if n < wordLimit then .ok n else .error .overflow

/-- A record of an app. -/
structure Record where
  /-- Record id. -/
  id : NonBlank
  /-- Number within the app. -/
  number : Nat
  /-- Field values and metadata. -/
  data : Fields
  deriving Repr

namespace Record

/-- A record with a number above zero and an id that is not blank. -/
def make (id : String) (number : Nat) (data : Fields) : Outcome Record := do
  ensure (number != 0) .zeroRecordNumber
  return ⟨← NonBlank.make id, number, data⟩

/-- The value under a field code, null when there is none. -/
def value (record : Record) (code : String) : Value :=
  record.data.value code

def createdBy (record : Record) : Option String :=
  (record.data.get? Key.createdBy).bind Value.text?

def status (record : Record) : Option String :=
  (record.data.get? Key.status).bind Value.text?

end Record

mutual

/-- The user ids a value names: texts that are not blank, those of list items, and those of an
    object's `code` or else `id`. -/
def Value.userIds : Value → List String
  | .text s => if Text.isBlank s then [] else [s]
  | .list items => Value.userIdsOfItems items
  | .object entries =>
      match Value.userIdsUnder "code" entries with
      | some ids => ids
      | none => (Value.userIdsUnder "id" entries).getD []
  | _ => []

/-- The user ids of all items in order. -/
def Value.userIdsOfItems : List Value → List String
  | [] => []
  | item :: rest => item.userIds ++ Value.userIdsOfItems rest

/-- The user ids of the value under a key. -/
def Value.userIdsUnder (key : String) : List (String × Value) → Option (List String)
  | [] => none
  | (k, v) :: rest => if k = key then some v.userIds else Value.userIdsUnder key rest

end

namespace Record

def userIds (record : Record) (code : String) : List String :=
  (record.value code).userIds

def toValue (record : Record) : Value :=
  .object
    [("data", record.data.toValue),
     ("record_id", record.id.toValue),
     ("record_number", .int record.number)]

def ofValue? : Decoder Record := Decode.ofFields do
  let id ← Decode.required "record_id" NonBlank.ofValue?
  let number ← Decode.required "record_number" (Decode.natBelow wordLimit)
  let data ← Decode.required "data" Decode.fields
  return ⟨id, number, data⟩

end Record

end RecordApps
