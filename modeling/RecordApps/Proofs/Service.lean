import RecordApps.Engine.Definitions
import RecordApps.Engine.Records

/-! # Calls of the services

Five services change and read a workspace: one each for records, schemas, processes, permission
rules and notification rules. A call is one request to one of them, indexed by the type of its
answer, so that statements about every request are statements about every call.
-/

namespace RecordApps

/-- A request of an actor about the records of an app. -/
inductive RecordCall : Type → Type where
  | create (input : Fields) : RecordCall MutationOutcome
  | update (id : String) (changes : Fields) : RecordCall MutationOutcome
  | delete (id : String) : RecordCall MutationOutcome
  | read (id : String) : RecordCall RecordView
  | list (filter : RecordFilter) : RecordCall (List RecordView)
  | related (id field : String) : RecordCall (List RelatedRecord)
  | act (id action : String) : RecordCall ActionOutcome
  | actions (id : String) : RecordCall (List ProcessAction)
  | assign (id : String) (assignees : List String) : RecordCall Unit
  | comment (id text : String) : RecordCall (List Notification)

/-- A request about schemas. -/
inductive SchemaCall : Type → Type where
  | save (schema : AppSchema) : SchemaCall Unit
  | find (code : String) : SchemaCall AppSchema
  | addField (actor : Actor) (app : AppId) (f : FieldDefinition) : SchemaCall FieldDefinition
  | retireField (actor : Actor) (app : AppId) (code : String) : SchemaCall Unit

/-- A request about processes. The schema and the record are those that the caller holds. -/
inductive ProcessCall : Type → Type where
  | save (graph : ProcessGraph) : ProcessCall Unit
  | switch (app : AppId) (enabled : Bool) : ProcessCall Unit
  | initialStatus (schema : AppSchema) : ProcessCall (Option String)
  | assign (schema : AppSchema) (record : Record) (assignees : List String) : ProcessCall Unit
  | actions (actor : Actor) (schema : AppSchema) (record : Record) :
      ProcessCall (List ProcessAction)
  | transition (actor : Actor) (schema : AppSchema) (record : Record) (action : String) :
      ProcessCall TransitionOutcome

/-- A request about permission rules. -/
inductive PermissionCall : Type → Type where
  | rules (app : AppId) : PermissionCall RuleSet
  | access (actor : Actor) (schema : AppSchema) (record : Option Record) : PermissionCall Access
  | saveApp (row : AppPermission) : PermissionCall Unit
  | saveField (row : FieldPermission) : PermissionCall Unit
  | saveRecord (rule : RecordRule) : PermissionCall Unit
  | reorder (app : AppId) (kind : Engine.RuleKind) (ids : List String) : PermissionCall Unit

/-- A request about notification rules. -/
inductive NotificationCall : Type → Type where
  | save (rule : NotificationRule) : NotificationCall Unit
  | evaluate (app : AppId) (trigger : Trigger) (record : Record) :
      NotificationCall (List Notification)

/-- A request to any of the services. -/
inductive ServiceCall : Type → Type where
  | records {α : Type} (actor : Actor) (app : AppId) (call : RecordCall α) : ServiceCall α
  | schemas {α : Type} (call : SchemaCall α) : ServiceCall α
  | processes {α : Type} (call : ProcessCall α) : ServiceCall α
  | permissions {α : Type} (call : PermissionCall α) : ServiceCall α
  | notifications {α : Type} (call : NotificationCall α) : ServiceCall α

variable {α : Type}

namespace RecordCall

def perform (actor : Actor) (app : AppId) : RecordCall α → Engine α
  | .create input => Engine.createRecord actor app input
  | .update id changes => Engine.updateRecord actor app id changes
  | .delete id => Engine.deleteRecord actor app id
  | .read id => do (← get).readRecord (← MonadReader.read) actor app id
  | .list filter => do (← get).listRecords (← MonadReader.read) actor app filter
  | .related id field => do (← get).relatedRecords actor app id field
  | .act id action => Engine.executeAction actor app id action
  | .actions id => do (← get).actionsOn actor app id
  | .assign id assignees => Engine.assignRecord actor app id assignees
  | .comment id text => do (← get).comment (← MonadReader.read) actor app id text

def isRead : RecordCall α → Bool
  | .read _ | .list _ | .related _ _ | .actions _ | .comment _ _ => true
  | .create _ | .update _ _ | .delete _ | .act _ _ | .assign _ _ => false

end RecordCall

namespace SchemaCall

def perform : SchemaCall α → Engine α
  | .save schema => Engine.saveSchema schema
  | .find code => do (← get).requireSchemaByCode code
  | .addField actor app f => Engine.addField actor app f
  | .retireField actor app code => Engine.retireField actor app code

def isRead : SchemaCall α → Bool
  | .find _ => true
  | .save _ | .addField _ _ _ | .retireField _ _ _ => false

end SchemaCall

namespace ProcessCall

def perform : ProcessCall α → Engine α
  | .save graph => Engine.saveProcess graph
  | .switch app enabled => Engine.setProcessEnabled app enabled
  | .initialStatus schema => do (← get).initialStatus schema
  | .assign schema record assignees => Engine.assign schema record assignees
  | .actions actor schema record => do (← get).availableActions actor schema record
  | .transition actor schema record action => Engine.transition actor schema record action

def isRead : ProcessCall α → Bool
  | .initialStatus _ | .actions _ _ _ => true
  | .save _ | .switch _ _ | .assign _ _ _ | .transition _ _ _ _ => false

end ProcessCall

namespace PermissionCall

def perform : PermissionCall α → Engine α
  | .rules app => return (← get).ruleSet app
  | .access actor schema record => return (← get).access actor schema record
  | .saveApp row => Engine.saveAppPermission row
  | .saveField row => Engine.saveFieldPermission row
  | .saveRecord rule => Engine.saveRecordRule rule
  | .reorder app kind ids => Engine.reorder app kind ids

def isRead : PermissionCall α → Bool
  | .rules _ | .access _ _ _ => true
  | .saveApp _ | .saveField _ | .saveRecord _ | .reorder _ _ _ => false

end PermissionCall

namespace NotificationCall

def perform : NotificationCall α → Engine α
  | .save rule => Engine.saveNotificationRule rule
  | .evaluate app trigger record => do
      (← get).notifications (← MonadReader.read) app trigger record

def isRead : NotificationCall α → Bool
  | .evaluate _ _ _ => true
  | .save _ => false

end NotificationCall

namespace ServiceCall

def perform : ServiceCall α → Engine α
  | .records actor app call => call.perform actor app
  | .schemas call => call.perform
  | .processes call => call.perform
  | .permissions call => call.perform
  | .notifications call => call.perform

end ServiceCall

/-- The workspace after a request, refused or not. -/
def Workspace.serve (settings : Settings) (ws : Workspace) (call : ServiceCall α) : Workspace :=
  (Engine.run settings ws call.perform).2

/-! ## A small app

Orders are open until they are done. The margin of an order is hidden. Statements about
requests are tried on the workspace that holds this app and its first order.
-/

namespace Orders

/-- The id of the app. -/
def app : AppId :=
  ⟨List.replicate 32 '0', by decide⟩

/-- A line of text with a code. -/
def line (code : NonBlank) : FieldDefinition where
  id := code
  code := code
  type := .singleLineText none
  labels := .empty
  descriptions := .empty
  required := false
  unique := false
  defaultValue := none
  options := []
  layout := .initial
  active := true
  temporary := false

/-- What has been ordered, and what is earned by it. -/
def schema : AppSchema where
  id := app
  code := ⟨"orders", by decide⟩
  processEnabled := true
  fields := [line ⟨"item", by decide⟩, line ⟨"margin", by decide⟩]

/-- Orders are open at first, and done after the action of finishing them. -/
def graph : ProcessGraph where
  app := app
  statuses :=
    [⟨⟨"open", by decide⟩, ⟨"Open", by decide⟩, true, false, none⟩,
     ⟨⟨"done", by decide⟩, ⟨"Done", by decide⟩, false, true, none⟩]
  actions :=
    [⟨⟨"finish", by decide⟩, ⟨"Finish", by decide⟩, ⟨"open", by decide⟩, ⟨"done", by decide⟩,
      .normal⟩]

/-- A user without memberships. -/
def clerk : Actor :=
  ⟨"clerk", "Clerk", [], none, []⟩

/-- The clerk may do everything but export and import. -/
def clerkRow : AppPermission where
  id := ⟨"clerks", by decide⟩
  app := app
  target := ⟨.user, some "clerk", false⟩
  capabilities := ⟨true, true, true, true, true, false, false⟩
  priority := 1

/-- Nobody sees the margin. -/
def marginRow : FieldPermission where
  id := ⟨"margin", by decide⟩
  app := app
  field := ⟨"margin", by decide⟩
  target := ⟨.everyone, none, false⟩
  level := .hidden
  priority := 1

/-- A time, and record ids that get longer. -/
def settings : Settings where
  now := "2024-01-01T00:00:00Z"
  currencySymbol := "$"
  numberLead := "#"
  rulesReachable := true
  newRecordId n := String.ofList (List.replicate n 'r')

/-- The app without records. -/
def defined : Workspace :=
  let ws := Workspace.empty.serve settings (.schemas (.save schema))
  let ws := ws.serve settings (.processes (.save graph))
  let ws := ws.serve settings (.permissions (.saveApp clerkRow))
  ws.serve settings (.permissions (.saveField marginRow))

/-- The first order of the clerk, with some margin. -/
def order (margin : String) : Record where
  id := ⟨"r", by decide⟩
  number := 1
  data := (KeyMap.ofList
    [(Key.createdBy, .text "clerk"), (Key.createdAt, .text "2024-01-01T00:00:00Z"),
     (Key.updatedBy, .text "clerk"), (Key.updatedAt, .text "2024-01-01T00:00:00Z"),
     (Key.status, .text "open"), ("item", .text "tea")]).insert "margin" (.text margin)

/-- The app with one order. -/
def workspace : Workspace :=
  defined.serve settings
    (.records clerk app (.create (.ofList [("item", .text "tea")])))

end Orders

end RecordApps
