import RecordApps.Engine.Definitions
import RecordApps.Engine.Records

/-! # Bundles

A bundle holds definitions and records to start from. Definitions are saved one after the
other as if a designer saved them; what was saved before a refusal stays.
-/

namespace RecordApps

/-- A record of a bundle. -/
structure BundleRecord where
  /-- App code. -/
  app : String
  id : String
  number : Nat
  data : Fields
  deriving Repr

/-- The assignment of a record of a bundle. -/
structure BundleAssignment where
  /-- App code. -/
  app : String
  /-- Record id. -/
  record : String
  assignees : List String
  deriving Repr

/-- Definitions and records to start from. -/
structure Bundle where
  schemas : List AppSchema
  appPermissions : List AppPermission
  fieldPermissions : List FieldPermission
  recordRules : List RecordRule
  processes : List ProcessGraph
  notificationRules : List NotificationRule
  records : List BundleRecord
  assignments : List BundleAssignment
  deriving Repr

namespace Workspace

/-- The schema with an app code. An app that is managed by a process has to have one. -/
def requireApp (ws : Workspace) (code : String) : Outcome AppSchema := do
  let schema ← ws.requireSchemaByCode code
  ensure (!schema.processEnabled || (ws.processes.get? schema.id).isSome)
    (.managedWithoutProcess code)
  return schema

end Workspace

namespace BundleRecord

def restore (entry : BundleRecord) : Engine Unit := do
  let _ ← (← get).requireApp entry.app
  Engine.restoreRecord entry.app (← Record.make entry.id entry.number entry.data)

def ofValue? : Decoder BundleRecord := Decode.ofFields do
  let app ← Decode.required "app_code" Decode.text
  let id ← Decode.required "record_id" Decode.text
  let number ← Decode.required "record_number" (Decode.natBelow wordLimit)
  let data ← Decode.orElse "data" Decode.fields KeyMap.empty
  return ⟨app, id, number, data⟩

end BundleRecord

namespace BundleAssignment

def restore (entry : BundleAssignment) : Engine Unit := do
  let schema ← (← get).requireApp entry.app
  Engine.setAssignees schema.id entry.record entry.assignees

def ofValue? : Decoder BundleAssignment := Decode.ofFields do
  let app ← Decode.required "app_code" Decode.text
  let record ← Decode.required "record_id" Decode.text
  let assignees ← Decode.required "assignees" (Decode.listOf Decode.text)
  return ⟨app, record, assignees⟩

end BundleAssignment

namespace Bundle

/-- Save everything in a bundle: definitions first, then records and their assignments. -/
def seed (bundle : Bundle) : Engine Unit := do
  bundle.schemas.forM Engine.saveSchema
  bundle.appPermissions.forM Engine.saveAppPermission
  bundle.fieldPermissions.forM Engine.saveFieldPermission
  bundle.recordRules.forM Engine.saveRecordRule
  bundle.processes.forM Engine.saveProcess
  bundle.notificationRules.forM Engine.saveNotificationRule
  bundle.records.forM BundleRecord.restore
  bundle.assignments.forM BundleAssignment.restore

def ofValue? : Decoder Bundle := Decode.ofFields do
  let table {α : Type} (key : String) (row : Decoder α) : Decode.Reader (List α) :=
    Decode.orElse key (Decode.listOf row) []
  let schemas ← Decode.required "schemas" (Decode.listOf AppSchema.ofValue?)
  let appPermissions ← table "app_permissions" AppPermission.ofValue?
  let fieldPermissions ← table "field_permissions" FieldPermission.ofValue?
  let recordRules ← table "record_rules" RecordRule.ofValue?
  let processes ← table "process_definitions" ProcessGraph.ofValue?
  let notificationRules ← table "notification_rules" NotificationRule.ofValue?
  let records ← table "records" BundleRecord.ofValue?
  let assignments ← table "assignees" BundleAssignment.ofValue?
  return ⟨schemas, appPermissions, fieldPermissions, recordRules, processes, notificationRules,
    records, assignments⟩

end Bundle

end RecordApps
