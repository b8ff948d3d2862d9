import RecordApps.Access.Resolution
import RecordApps.Notification.Rule
import RecordApps.Process.Graph
import RecordApps.RecordStore
import RecordApps.Table

/-! # The workspace

Everything that is stored: the definitions of all apps, their records, and who is assigned to
which record. What can be read from a workspace is a function of it.
-/

namespace RecordApps

/-- The stored definitions and records of all apps. -/
structure Workspace where
  /-- Schemas by app. -/
  schemas : Table AppId AppSchema
  /-- Rows that grant capabilities, by app. -/
  appPermissions : Table AppId (List AppPermission)
  /-- Rows that fix the levels of fields, by app. -/
  fieldPermissions : Table AppId (List FieldPermission)
  /-- Rules that narrow access to records, by app. -/
  recordRules : Table AppId (List RecordRule)
  /-- Processes by app. -/
  processes : Table AppId ProcessGraph
  /-- Users assigned to a record, by app and record id. -/
  assignees : Table (AppId × String) (List String)
  /-- Notification rules by app. -/
  notificationRules : Table AppId (List NotificationRule)
  /-- Records by app code. -/
  store : RecordStore
  /-- How many records have been created. -/
  created : Nat
  deriving Repr

/-- What the engine is told from outside. -/
structure Settings where
  /-- The time, as records note it. -/
  now : String
  /-- Currency symbol of formatted values. -/
  currencySymbol : String
  /-- What stands before record numbers in notifications. -/
  numberLead : String
  /-- Whether the notification rules can be reached. -/
  rulesReachable : Bool
  /-- The id of the n-th record that is created. -/
  newRecordId : Nat → String

namespace Workspace

/-- The workspace without definitions and records. -/
def empty : Workspace where
  schemas := .empty
  appPermissions := .empty
  fieldPermissions := .empty
  recordRules := .empty
  processes := .empty
  assignees := .empty
  notificationRules := .empty
  store := .empty
  created := 0

def requireSchema (ws : Workspace) (app : AppId) : Outcome AppSchema :=
  match ws.schemas.get? app with
  | some schema => .ok schema
  | none => .error (.notFound (.app app.text))

def schemaByCode? (ws : Workspace) (code : String) : Option AppSchema :=
  ws.schemas.values.find? (·.code.text == code)

/-- The schema with an app code, refusing codes that have none. -/
def requireSchemaByCode (ws : Workspace) (code : String) : Outcome AppSchema :=
  match ws.schemaByCode? code with
  | some schema => .ok schema
  | none => .error (.notFound (.app code))

def requireRecord (ws : Workspace) (schema : AppSchema) (id : String) : Outcome Record :=
  match ws.store.find? schema.code.text id with
  | some record => .ok record
  | none => .error (.notFound (.record id schema.code.text))

def requireProcess (ws : Workspace) (schema : AppSchema) : Outcome ProcessGraph :=
  match ws.processes.get? schema.id with
  | some graph => .ok graph
  | none => .error (.notFound (.process schema.code.text))

def ruleSet (ws : Workspace) (app : AppId) : RuleSet :=
  ⟨(ws.appPermissions.get? app).getD [], (ws.fieldPermissions.get? app).getD [],
    (ws.recordRules.get? app).getD []⟩

/-- The notification rules of an app, as they are stored. -/
def rulesOf (ws : Workspace) (app : AppId) : List NotificationRule :=
  (ws.notificationRules.get? app).getD []

def assigneesOf (ws : Workspace) (app : AppId) (record : String) : List String :=
  (ws.assignees.get? (app, record)).getD []

/-- What an actor may do with an app and one of its records, or a record about to be made. -/
def access (ws : Workspace) (actor : Actor) (schema : AppSchema) (record : Option Record) :
    Access :=
  (ws.ruleSet schema.id).access actor schema record

end Workspace

/-- A change of a workspace, which may be refused. -/
abbrev Engine := ReaderT Settings (ExceptT Fault (StateM Workspace))

namespace Engine

/-- Run a change: its result, and the workspace after it. -/
def run {α : Type} (settings : Settings) (ws : Workspace) (change : Engine α) :
    Outcome α × Workspace :=
  change settings ws

end Engine

end RecordApps
