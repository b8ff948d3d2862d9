import RecordApps.Derived.Recompute
import RecordApps.Workspace.Notification
import RecordApps.Workspace.Process

/-! # Views of records

What an actor sees of the records of a workspace. Hidden values neither show nor decide which
records are listed.
-/

namespace RecordApps

/-- A record as an actor sees it. -/
structure RecordView where
  /-- Record id. -/
  id : String
  /-- Number within the app. -/
  number : Nat
  /-- Values with the automatic fields, without the hidden ones. -/
  data : Fields
  /-- Calculated values as they are shown. -/
  formatted : KeyMap String
  /-- What the actor may do. -/
  access : Access
  deriving Repr

namespace RecordView

/-- A record as it is seen with some access. -/
def ofRecord (schema : AppSchema) (symbol : String) (record : Record) (access : Access) :
    RecordView :=
  let data := schema.projectedData record
  { id := record.id.text
    number := record.number
    data := access.fields.redact data
    formatted := (schema.formatted data symbol).filter fun code _ =>
      access.fields.level code != .hidden
    access := access }

def toValue (view : RecordView) : Value :=
  .object
    [("access", view.access.toValue),
     ("data", view.data.toValue),
     ("formatted", .ofTexts view.formatted),
     ("record_id", .text view.id),
     ("record_number", .int view.number)]

end RecordView

namespace Workspace

/-- The access of an actor to a record, refused where it may not be viewed. -/
def requireAccess (ws : Workspace) (actor : Actor) (schema : AppSchema) (record : Record) :
    Outcome Access :=
  let access := ws.access actor schema (some record)
  if access.record.mayView then .ok access
  else .error (.forbidden (.view actor.id record.id.text))

/-- A record as an actor sees it, if at all. -/
def view? (ws : Workspace) (settings : Settings) (actor : Actor) (schema : AppSchema)
    (record : Record) : Option RecordView :=
  let access := ws.access actor schema (some record)
  if access.record.mayView then
    some (RecordView.ofRecord schema settings.currencySymbol record access)
  else none

def readRecord (ws : Workspace) (settings : Settings) (actor : Actor) (app : AppId)
    (id : String) : Outcome RecordView := do
  let schema ← ws.requireSchema app
  let record ← ws.requireRecord schema id
  let access ← ws.requireAccess actor schema record
  return RecordView.ofRecord schema settings.currencySymbol record access

/-- Whether an actor may see every field of a filter. -/
def maySeeFilter (access : Access) (filter : RecordFilter) : Bool :=
  filter.fieldCodes.all fun code => access.fields.level code != .hidden

/-- The records an actor may view that pass a filter over fields the actor sees, as many as
    the filter wants. -/
def listRecords (ws : Workspace) (settings : Settings) (actor : Actor) (app : AppId)
    (filter : RecordFilter) : Outcome (List RecordView) := do
  let schema ← ws.requireSchema app
  let rules := ws.ruleSet schema.id
  if (rules.appCapabilities actor).mayView then
    let candidates := ws.store.list schema.code.text (filter.withLimit none)
    return filter.cut (candidates.filterMap fun record =>
      let access := rules.access actor schema (some record)
      if access.record.mayView && maySeeFilter access filter then
        some (RecordView.ofRecord schema settings.currencySymbol record access)
      else none)
  else .error (.forbidden (.viewApp actor.id schema.code.text))

/-- A related record as an actor sees it, if at all. -/
def relatedView? (rules : RuleSet) (actor : Actor) (schema : AppSchema)
    (displayFields : List String) (record : Record) : Option RelatedRecord :=
  let access := rules.access actor schema (some record)
  if access.record.mayView then
    let related := RelatedRecord.ofRecord record displayFields
    some { related with fields := access.fields.redact related.fields }
  else none

/-- The related records of a record that an actor may view, with the fields that the actor
    may see in the other app. -/
def relatedRecords (ws : Workspace) (actor : Actor) (app : AppId) (id code : String) :
    Outcome (List RelatedRecord) := do
  let schema ← ws.requireSchema app
  let record ← ws.requireRecord schema id
  let access ← ws.requireAccess actor schema record
  if access.fields.level code == .hidden then .error (.forbidden (.hiddenField code))
  else
    match (schema.field? code).map FieldDefinition.type with
    | some (.relatedRecords config) =>
        match ws.schemaByCode? config.app with
        | none => .error (.notFound (.relatedApp config.app))
        | some remote =>
            let rules := ws.ruleSet remote.id
            let found := config.sources ws.store (schema.projectedData record)
            return found.filterMap (relatedView? rules actor remote config.displayFields)
    | _ => .error (.invalid (.notRelatedRecords code))

/-- The actions that an actor may take on a record. -/
def actionsOn (ws : Workspace) (actor : Actor) (app : AppId) (id : String) :
    Outcome (List ProcessAction) := do
  let schema ← ws.requireSchema app
  let record ← ws.requireRecord schema id
  let _ ← ws.requireAccess actor schema record
  ws.availableActions actor schema record

/-- The notifications about a new comment on a record. Comments are not stored. -/
def comment (ws : Workspace) (settings : Settings) (actor : Actor) (app : AppId)
    (id text : String) : Outcome (List Notification) := do
  ensure (!Text.isBlank text) .blankComment
  let schema ← ws.requireSchema app
  let record ← ws.requireRecord schema id
  let _ ← ws.requireAccess actor schema record
  ws.notifications settings app .commentAdded record

end Workspace

end RecordApps
