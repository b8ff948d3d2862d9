import RecordApps.Schema.Evolution
import RecordApps.Workspace.Process

/-! # Changes of definitions

Schemas, permission rules, processes and notification rules are checked against each other
before they are stored.
-/

namespace RecordApps.Engine

/-- Store a schema. It has to be valid, to keep the codes of saved fields, and to have an app
    code of its own. -/
def saveSchema (schema : AppSchema) : Engine Unit := do
  schema.validate
  let ws ← get
  match ws.schemas.get? schema.id with
  | some stored => schema.ensureStable stored
  | none => pure ()
  if ws.schemas.values.any fun other => other.id != schema.id && other.code == schema.code then
    throw (.conflict (.appCodeTaken schema.code.text))
  set { ws with schemas := ws.schemas.insert schema.id schema.persisted }

/-- The schema of an app that an actor may manage. -/
def requireManageable (actor : Actor) (app : AppId) : Engine AppSchema := do
  let ws ← get
  let schema ← ws.requireSchema app
  if (ws.access actor schema none).app.mayManage then return schema
  else throw (.forbidden (.manage actor.id schema.code.text))

/-- Add a field to an app, under an id that no field of the app ever had. -/
def addField (actor : Actor) (app : AppId) (f : FieldDefinition) : Engine FieldDefinition := do
  let schema ← requireManageable actor app
  f.validate
  if schema.fields.any (·.id == f.id) then
    throw (.conflict (.fieldIdTaken f.id.text schema.code.text))
  saveSchema (← schema.addField f)
  return f

def retireField (actor : Actor) (app : AppId) (code : String) : Engine Unit := do
  let schema ← requireManageable actor app
  saveSchema (← schema.retireField code)

/-- Store a row that grants capabilities. -/
def saveAppPermission (row : AppPermission) : Engine Unit := do
  row.validate
  let ws ← get
  let _ ← ws.requireSchema row.app
  set { ws with
    appPermissions := ws.appPermissions.insert row.app
      (putRow Ranked.id row (ws.ruleSet row.app).app) }

/-- Store a row that fixes the level of a field. -/
def saveFieldPermission (row : FieldPermission) : Engine Unit := do
  row.validate
  let ws ← get
  let schema ← ws.requireSchema row.app
  schema.checkReference row.field.text
  set { ws with
    fieldPermissions := ws.fieldPermissions.insert row.app
      (putRow Ranked.id row (ws.ruleSet row.app).field) }

/-- Refuse a reference that is given and names no field. -/
def checkOptionalReference (schema : AppSchema) (code : Option String) : Outcome Unit :=
  match code with
  | some code => schema.checkReference code
  | none => .ok ()

/-- Store a rule that narrows access to records. -/
def saveRecordRule (rule : RecordRule) : Engine Unit := do
  rule.validate
  let ws ← get
  let schema ← ws.requireSchema rule.app
  schema.checkCondition rule.condition
  checkOptionalReference schema rule.targetField
  set { ws with
    recordRules := ws.recordRules.insert rule.app
      (putRow Ranked.id rule (ws.ruleSet rule.app).record) }

/-- The three tables of permission rules. -/
inductive RuleKind where
  /-- Rows that grant capabilities. -/
  | app
  /-- Rows that fix the levels of fields. -/
  | field
  /-- Rules that narrow access to records. -/
  | record
  deriving Repr, DecidableEq

def checkOwner (app : AppId) (owners : List AppId) : Outcome Unit :=
  ensure (owners.all (· == app)) (.foreignRows app.text)

/-- Replace all rows that grant capabilities on an app. -/
def replaceAppPermissions (app : AppId) (rows : List AppPermission) : Engine Unit := do
  checkOwner app (rows.map AppPermission.app)
  modify fun ws => { ws with appPermissions := ws.appPermissions.insert app rows }

/-- Replace all rows that fix the levels of fields of an app. -/
def replaceFieldPermissions (app : AppId) (rows : List FieldPermission) : Engine Unit := do
  checkOwner app (rows.map FieldPermission.app)
  modify fun ws => { ws with fieldPermissions := ws.fieldPermissions.insert app rows }

/-- Replace all rules that narrow access to records of an app. -/
def replaceRecordRules (app : AppId) (rules : List RecordRule) : Engine Unit := do
  checkOwner app (rules.map RecordRule.app)
  modify fun ws => { ws with recordRules := ws.recordRules.insert app rules }

/-- Rank the rules of a table in the given order of their ids, the first highest. -/
def reorder (app : AppId) (kind : RuleKind) (ids : List String) : Engine Unit := do
  let rules := (← get).ruleSet app
  match kind with
  | .app => replaceAppPermissions app (← Ranked.reorder rules.app ids)
  | .field => replaceFieldPermissions app (← Ranked.reorder rules.field ids)
  | .record => replaceRecordRules app (← Ranked.reorder rules.record ids)

def saveProcess (graph : ProcessGraph) : Engine Unit := do
  graph.validate
  let ws ← get
  let _ ← ws.requireSchema graph.app
  set { ws with processes := ws.processes.insert graph.app graph }

/-- Switch the process of an app on or off. Only a stored process can be switched on. -/
def setProcessEnabled (app : AppId) (enabled : Bool) : Engine Unit := do
  let ws ← get
  let schema ← ws.requireSchema app
  if enabled && (ws.processes.get? app).isNone then
    throw (.invalid (.noProcessToEnable schema.code.text))
  saveSchema { schema with processEnabled := enabled }

def saveNotificationRule (rule : NotificationRule) : Engine Unit := do
  rule.validate
  let ws ← get
  let schema ← ws.requireSchema rule.app
  match rule.condition with
  | some condition => schema.checkCondition condition
  | none => pure ()
  checkOptionalReference schema rule.targetField
  if (← read).rulesReachable then
    set { ws with
      notificationRules := ws.notificationRules.insert rule.app
        (putRow (·.id.text) rule (ws.rulesOf rule.app)) }
  else throw (.internal .storeUnavailable)

end RecordApps.Engine
