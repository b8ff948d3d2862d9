import RecordApps.Process.Stored
import RecordApps.Schema.Input
import RecordApps.Workspace.View

/-! # Changes of records

Creating, updating, deleting, assigning and moving records. Everything is checked before the
first write; what is written afterwards cannot be refused any more.
-/

namespace RecordApps

/-- What a change of a record did. -/
structure MutationOutcome where
  /-- The record after the change, if it exists and the actor may view it. -/
  record : Option RecordView
  /-- What happened to derived values. -/
  derived : DerivedReport
  /-- Notifications about the change. -/
  notifications : List Notification
  deriving Repr

/-- What became of a request to move a record. -/
inductive TransitionOutcome where
  /-- The record moved from one status to another. -/
  | applied (record : Record) (source target : String)
  /-- The record stays where it is. -/
  | rejected (reason : Rejection)
  deriving Repr

/-- What an actor is told about a request to move a record. -/
inductive ActionOutcome where
  /-- The record moved; it is shown if the actor may view it. -/
  | applied (source target : String) (record : Option RecordView)
      (notifications : List Notification)
  /-- The record stays where it is. -/
  | rejected (reason : Rejection)
  deriving Repr

/-- Data with a note of who changed them and when. -/
def stampModified (actor : Actor) (now : String) (data : Fields) : Fields :=
  (data.insert Key.updatedBy (.text actor.id)).insert Key.updatedAt (.text now)

/-- Data with a note of who created them and when. -/
def stampCreated (actor : Actor) (now : String) (data : Fields) : Fields :=
  stampModified actor now
    ((data.insert Key.createdBy (.text actor.id)).insert Key.createdAt (.text now))

/-- Data with a status, if one is given. -/
def withStatus (data : Fields) (status : Option String) : Fields :=
  match status with
  | some s => data.insert Key.status (.text s)
  | none => data

/-- The codes of the changes that give a field another value. -/
def changedCodes (stored changes : Fields) : List String :=
  (changes.filter fun code v => !(stored.get? code).any v.same).keys

namespace Workspace

/-- Refuse a value of a unique field that another record of the app holds. -/
def checkUniqueField (ws : Workspace) (schema : AppSchema) (data : Fields)
    (own : Option String) (f : FieldDefinition) : Outcome Unit :=
  let code := f.code.text
  match data.get? code with
  | none => .ok ()
  | some v =>
      if v.isEmptyValue then .ok ()
      else
        let holders := ws.store.list schema.code.text
          ((RecordFilter.having code v).withLimit (some 2))
        if holders.any fun record => some record.id.text != own then
          .error (.conflict (.valueTaken code))
        else .ok ()

/-- Refuse values of unique fields that other records of the app hold. -/
def checkUnique (ws : Workspace) (schema : AppSchema) (data : Fields) (own : Option String) :
    Outcome Unit :=
  (schema.activeFields.filter (·.unique)).forM (ws.checkUniqueField schema data own)

/-- The data of a record that an actor is about to create, with its derived values. -/
def draft (ws : Workspace) (settings : Settings) (actor : Actor) (schema : AppSchema)
    (input : Fields) : Outcome Refresh := do
  let access := ws.access actor schema none
  if access.app.mayAdd then
    access.fields.checkAllWritable schema input
    schema.checkInput input
    let stamped := stampCreated actor settings.now (schema.initialData input)
    let data := withStatus stamped (← ws.initialStatus schema)
    let refresh := schema.recompute ws.store data none
    schema.checkRequired refresh.data
    ws.checkUnique schema refresh.data none
    return refresh
  else .error (.forbidden (.add actor.id schema.code.text))

/-- The data of a record with the changes that an actor is about to make, and their derived
    values. -/
def revision (ws : Workspace) (settings : Settings) (actor : Actor) (schema : AppSchema)
    (record : Record) (changes : Fields) : Outcome Refresh := do
  let access := ws.access actor schema (some record)
  if access.record.mayEdit then
    access.fields.checkAllWritable schema changes
    schema.checkInput changes
    let data := stampModified actor settings.now (record.data.insertAll changes.entries)
    let refresh := schema.recompute ws.store data (some (changedCodes record.data changes))
    schema.checkRequired refresh.data
    ws.checkUnique schema refresh.data (some record.id.text)
    return refresh
  else .error (.forbidden (.edit actor.id record.id.text))

end Workspace

namespace Engine

def insertRecord (code : String) (data : Fields) : Engine Record := do
  let ws ← get
  let (record, store) ← ws.store.insert code ((← read).newRecordId (ws.created + 1)) data
  set { ws with store := store, created := ws.created + 1 }
  return record

/-- Store a record in the place of the one with its id. -/
def updateRecordStore (code : String) (record : Record) (expectedStatus : Option String) :
    Engine Unit := do
  let ws ← get
  set { ws with store := ← ws.store.update code record expectedStatus }

def restoreRecord (code : String) (record : Record) : Engine Unit := do
  let ws ← get
  set { ws with store := ← ws.store.restore code record }

/-- Set the users assigned to a record. -/
def setAssignees (app : AppId) (record : String) (assignees : List String) : Engine Unit :=
  modify fun ws =>
    let key := (app, record)
    { ws with
      assignees :=
        if assignees.isEmpty then ws.assignees.erase key else ws.assignees.insert key assignees }

def createRecord (actor : Actor) (app : AppId) (input : Fields) : Engine MutationOutcome := do
  let settings ← read
  let ws ← get
  let schema ← ws.requireSchema app
  let refresh ← ws.draft settings actor schema input
  let record ← insertRecord schema.code.text refresh.data
  let after ← get
  return ⟨after.view? settings actor schema record, refresh.report,
    after.notificationsAfter settings app .recordAdded record⟩

def updateRecord (actor : Actor) (app : AppId) (id : String) (changes : Fields) :
    Engine MutationOutcome := do
  let settings ← read
  let ws ← get
  let schema ← ws.requireSchema app
  let record ← ws.requireRecord schema id
  let refresh ← ws.revision settings actor schema record changes
  let next := { record with data := refresh.data }
  updateRecordStore schema.code.text next record.status
  let after ← get
  return ⟨after.view? settings actor schema next, refresh.report,
    after.notificationsAfter settings app .recordEdited next⟩

def deleteRecord (actor : Actor) (app : AppId) (id : String) : Engine MutationOutcome := do
  let settings ← read
  let ws ← get
  let schema ← ws.requireSchema app
  let record ← ws.requireRecord schema id
  if (ws.access actor schema (some record)).record.mayDelete then
    set { ws with store := ← ws.store.delete schema.code.text id }
    let after ← get
    return ⟨none, .empty, after.notificationsAfter settings app .recordDeleted record⟩
  else throw (.forbidden (.delete actor.id id))

/-- Assign users to a record in its present status. -/
def assign (schema : AppSchema) (record : Record) (assignees : List String) : Engine Unit := do
  let named ← (← get).assignment schema record assignees
  setAssignees schema.id record.id.text named

/-- Assign users to a record that an actor may edit. -/
def assignRecord (actor : Actor) (app : AppId) (id : String) (assignees : List String) :
    Engine Unit := do
  let ws ← get
  let schema ← ws.requireSchema app
  let record ← ws.requireRecord schema id
  let access ← ws.requireAccess actor schema record
  if access.record.mayEdit then assign schema record assignees
  else throw (.forbidden (.assign actor.id id))

/-- Move a record, as it was read earlier, by an action. It moves only if its status is still
    the same; nobody stays assigned. -/
def transition (actor : Actor) (schema : AppSchema) (record : Record) (action : String) :
    Engine TransitionOutcome := do
  match (← get).authorize actor schema record action with
  | .error reason => return .rejected reason
  | .ok action =>
      let moved := record.data.insert Key.status action.target.toValue
      let next := { record with data := stampModified actor (← read).now moved }
      updateRecordStore schema.code.text next record.status
      setAssignees schema.id record.id.text []
      return .applied next action.source.text action.target.text

/-- Move a record that an actor may view by an action. -/
def executeAction (actor : Actor) (app : AppId) (id action : String) :
    Engine ActionOutcome := do
  let settings ← read
  let ws ← get
  let schema ← ws.requireSchema app
  let record ← ws.requireRecord schema id
  let _ ← ws.requireAccess actor schema record
  match ← transition actor schema record action with
  | .rejected reason => return .rejected reason
  | .applied next source target =>
      let after ← get
      return .applied source target (after.view? settings actor schema next)
        (after.notificationsAfter settings app .statusChanged next)

end Engine

namespace MutationOutcome

def toValue (outcome : MutationOutcome) : Value :=
  .object
    [("derived", outcome.derived.toValue),
     ("notifications", .list (outcome.notifications.map Notification.toValue)),
     ("record", Value.ofOption RecordView.toValue outcome.record)]

end MutationOutcome

namespace TransitionOutcome

def toValue : TransitionOutcome → Value
  | .applied record source target =>
      .object
        [("from_status", .text source), ("outcome", .text "applied"),
         ("record", record.toValue), ("to_status", .text target)]
  | .rejected reason => reason.toOutcome

end TransitionOutcome

namespace ActionOutcome

def toValue : ActionOutcome → Value
  | .applied source target record notifications =>
      .object
        [("from_status", .text source),
         ("notifications", .list (notifications.map Notification.toValue)),
         ("outcome", .text "applied"),
         ("record", Value.ofOption RecordView.toValue record),
         ("to_status", .text target)]
  | .rejected reason => reason.toOutcome

end ActionOutcome

end RecordApps
