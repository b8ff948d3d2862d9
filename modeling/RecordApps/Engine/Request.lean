import RecordApps.Engine.Definitions
import RecordApps.Engine.Records

/-! # Requests

A request names an actor, an app and one operation. Its answer is a value.
-/

namespace RecordApps

/-- What a request asks for. -/
inductive Operation where
  /-- Create a record. -/
  | create (data : Fields)
  /-- Change values of a record. -/
  | update (record : String) (data : Fields)
  /-- Delete a record. -/
  | delete (record : String)
  /-- Show a record. -/
  | read (record : String)
  /-- Show the records that pass a filter. -/
  | list (filter : RecordFilter)
  /-- Show what the actor may do with the app, or with a record. -/
  | access (record : Option String)
  /-- Show the actions the actor may take on a record. -/
  | availableActions (record : String)
  /-- Move a record by an action. -/
  | transition (record action : String)
  /-- Assign users to a record. -/
  | assign (record : String) (assignees : List String)
  /-- Comment on a record. -/
  | comment (record text : String)
  /-- Show the records that a field relates to a record. -/
  | related (record field : String)
  /-- Add a field to the app. -/
  | addField (field : FieldDefinition)
  /-- Take a field of the app out of use. -/
  | retireField (field : String)
  deriving Repr

/-- An operation on an app that an actor asks for. -/
structure Request where
  actor : Actor
  /-- App code. -/
  app : String
  operation : Operation
  deriving Repr

namespace Operation

/-- The answer to an operation that has nothing to show. -/
def done : Value :=
  .object [("ok", .bool true)]

def execute (operation : Operation) (actor : Actor) (schema : AppSchema) : Engine Value := do
  let settings ← MonadReader.read
  let app := schema.id
  let ws ← get
  match operation with
  | .create data => return (← Engine.createRecord actor app data).toValue
  | .update record data => return (← Engine.updateRecord actor app record data).toValue
  | .delete record => return (← Engine.deleteRecord actor app record).toValue
  | .read record => return (← ws.readRecord settings actor app record).toValue
  | .list filter =>
      return .list ((← ws.listRecords settings actor app filter).map RecordView.toValue)
  | .access none => return (ws.access actor schema none).toValue
  | .access (some record) => return (← ws.readRecord settings actor app record).access.toValue
  | .availableActions record =>
      return .list ((← ws.actionsOn actor app record).map ProcessAction.toValue)
  | .transition record action =>
      return (← Engine.executeAction actor app record action).toValue
  | .assign record assignees =>
      Engine.assignRecord actor app record assignees
      return done
  | .comment record text =>
      return .list ((← ws.comment settings actor app record text).map Notification.toValue)
  | .related record field =>
      return .list ((← ws.relatedRecords actor app record field).map RelatedRecord.toValue)
  | .addField field => return (← Engine.addField actor app field).toValue
  | .retireField field =>
      Engine.retireField actor app field
      return done

/-- How the fields of each operation are read. -/
def variants : Decode.Variants Operation :=
  let record := Decode.required "record_id" Decode.text
  let data := Decode.required "data" Decode.fields
  [("create", Decode.readAll (do return .create (← data))),
   ("update", Decode.readAll (do return .update (← record) (← data))),
   ("delete", Decode.readAll (do return .delete (← record))),
   ("read", Decode.readAll (do return .read (← record))),
   ("list", Decode.readAll (do
      let equals ← Decode.orElse "equals" Decode.fields KeyMap.empty
      let limit ← Decode.maybe "limit" (Decode.natBelow wordLimit)
      return .list ⟨equals.entries, limit⟩)),
   ("access", Decode.readAll (do return .access (← Decode.maybe "record_id" Decode.text))),
   ("available_actions", Decode.readAll (do return .availableActions (← record))),
   ("transition", Decode.readAll (do
      return .transition (← record) (← Decode.required "action_id" Decode.text))),
   ("assign", Decode.readAll (do
      return .assign (← record) (← Decode.required "assignees" (Decode.listOf Decode.text)))),
   ("comment", Decode.readAll (do
      return .comment (← record) (← Decode.required "comment" Decode.text))),
   ("related", Decode.readAll (do
      return .related (← record) (← Decode.required "field_code" Decode.text))),
   ("add_field", Decode.readAll (do
      return .addField (← Decode.required "field" FieldDefinition.ofRequest?))),
   ("retire_field", Decode.readAll (do
      return .retireField (← Decode.required "field_code" Decode.text)))]

end Operation

namespace Request

def execute (request : Request) : Engine Value := do
  let schema ← (← get).requireSchemaByCode request.app
  request.operation.execute request.actor schema

/-- Read the stored form, the fields of the operation among the others. -/
def ofValue? : Decoder Request
  | .object entries => do
      let actor ← (entries.lookup "actor").bind Actor.ofValue?
      let app ← (entries.lookup "app_code").bind Decode.text
      let own := entries.filter fun entry => entry.1 != "actor" && entry.1 != "app_code"
      let operation ← Decode.tagged "operation" (Decode.byNameOrPlace Operation.variants)
        (.object own)
      return ⟨actor, app, operation⟩
  | _ => none

end Request

end RecordApps
