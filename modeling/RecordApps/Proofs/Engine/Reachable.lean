import RecordApps.Proofs.Engine.RuleFrame
import RecordApps.Proofs.RecordStore

/-! # Reachable workspaces

A workspace starts empty and is changed by requests to the services and by loading records
and assignments. Whatever the order of these steps, every schema stands under its own id, no
two apps share a code, and the records of every app are in order.
-/

namespace RecordApps

namespace Workspace

/-- What the services rely on in every workspace. -/
structure Coherent (ws : Workspace) : Prop where
  /-- A schema stands under its own id. -/
  own_id : ∀ {app schema}, ws.schemas.get? app = some schema → schema.id = app
  /-- Schemas with the same code are those of the same app. -/
  own_code : ∀ {app other schema schema'}, ws.schemas.get? app = some schema →
    ws.schemas.get? other = some schema' → schema.code = schema'.code → app = other
  /-- Records are in order. -/
  ordered : ws.store.Ordered

theorem empty_coherent : empty.Coherent where
  own_id h := by cases h
  own_code h := by cases h
  ordered := RecordStore.empty_ordered

namespace Coherent

variable {ws ws' : Workspace}

theorem of_store (h : ws.Coherent) (hschemas : ws'.schemas = ws.schemas)
    (hordered : ws'.store.Ordered) : ws'.Coherent where
  own_id := by rw [hschemas]; exact h.own_id
  own_code := by rw [hschemas]; exact h.own_code
  ordered := hordered

theorem of_recordStep {settings : Settings} (h : ws.Coherent)
    (hstep : RecordStep settings ws ws') : ws'.Coherent := by
  refine h.of_store hstep.definitions.schemas ?_
  cases hstep.records with
  | kept hstore => exact hstore ▸ h.ordered
  | inserted hinsert => exact (h.ordered.insert hinsert).2
  | updated hupdate => exact h.ordered.update hupdate
  | deleted hdelete => exact h.ordered.delete hdelete

theorem of_sameApps (h : ws.Coherent) (hsame : ws.SameApps ws') : ws'.Coherent :=
  h.of_store hsame.schemas (by rw [hsame.store]; exact h.ordered)

theorem insert_schema (h : ws.Coherent) (schema : AppSchema)
    (hfree : ∀ other ∈ ws.schemas.values, other.code = schema.code → other.id = schema.id) :
    { ws with schemas := ws.schemas.insert schema.id schema }.Coherent := by
  have hother : ∀ {app stored}, ws.schemas.get? app = some stored → stored.code = schema.code →
      app = schema.id := by
    intro app stored hstored hcode
    rw [← h.own_id hstored]
    exact hfree stored (Table.mem_values_iff.2 ⟨app, hstored⟩) hcode
  refine ⟨?_, ?_, h.ordered⟩
  · intro app stored hstored
    rw [Table.get?_insert] at hstored
    split at hstored
    case isTrue heq =>
      cases hstored
      exact heq.symm
    case isFalse => exact h.own_id hstored
  · intro app other stored stored' hstored hstored' hcode
    rw [Table.get?_insert] at hstored hstored'
    split at hstored <;> split at hstored'
    case isTrue.isTrue heq heq' => exact heq.trans heq'.symm
    case isTrue.isFalse heq hne =>
      cases hstored
      rw [heq, hother hstored' hcode.symm]
    case isFalse.isTrue hne heq =>
      cases hstored'
      rw [heq, hother hstored hcode]
    case isFalse.isFalse => exact h.own_code hstored hstored' hcode

end Coherent

/-- An app has a valid schema in a coherent workspace. -/
structure Defines (ws : Workspace) (app : AppId) (schema : AppSchema) : Prop where
  coherent : ws.Coherent
  has_schema : ws.schemas.get? app = some schema
  schema_valid : schema.validate = .ok ()

theorem Defines.same_app {ws : Workspace} {app other : AppId} {schema schema' : AppSchema}
    (h : ws.Defines app schema) (hschema' : ws.schemas.get? other = some schema')
    (hcode : schema'.code.text = schema.code.text) : other = app ∧ schema' = schema := by
  obtain rfl := h.coherent.own_code hschema' h.has_schema (NonBlank.eq_of_text hcode)
  exact ⟨rfl, Option.some.inj (hschema'.symm.trans h.has_schema)⟩

end Workspace

namespace Engine

variable {α : Type} {settings : Settings} {ws ws' : Workspace}

open Workspace

theorem saveSchema_coherent (h : ws.Coherent) {schema : AppSchema}
    (ran : run settings ws (saveSchema schema) = (.ok (), ws')) : ws'.Coherent := by
  obtain ⟨-, -, hfree, rfl⟩ := saveSchema_ok ran
  exact h.insert_schema schema.persisted hfree

theorem schemaCall_coherent (h : ws.Coherent) (call : SchemaCall α) {answer : α}
    (ran : run settings ws call.perform = (.ok answer, ws')) : ws'.Coherent := by
  cases call with
  | save schema => exact saveSchema_coherent h ran
  | find code => exact (schemaCall_onlyReads rfl).unchanged ran ▸ h
  | addField actor app f =>
      obtain ⟨_, _, -, -, -, saved⟩ := addField_ok ran
      exact saveSchema_coherent h saved
  | retireField actor app code =>
      obtain ⟨_, _, -, -, -, saved⟩ := retireField_ok ran
      exact saveSchema_coherent h saved

theorem processCall_coherent (h : ws.Coherent) (call : ProcessCall α) {answer : α}
    (ran : run settings ws call.perform = (.ok answer, ws')) : ws'.Coherent := by
  cases call with
  | save graph =>
      obtain ⟨-, -, rfl⟩ := saveProcess_ok ran
      exact h.of_store rfl h.ordered
  | switch app enabled =>
      obtain ⟨_, -, -, saved⟩ := setProcessEnabled_ok ran
      exact saveSchema_coherent h saved
  | assign schema record assignees => exact h.of_recordStep (assign_step ran)
  | transition actor schema record action => exact h.of_recordStep (transition_step ran)
  | initialStatus | actions => exact (processCall_onlyReads rfl).unchanged ran ▸ h

theorem serviceCall_coherent (h : ws.Coherent) (call : ServiceCall α) {answer : α}
    (ran : run settings ws call.perform = (.ok answer, ws')) : ws'.Coherent := by
  cases call with
  | records actor app call => exact h.of_recordStep (recordCall_step call ran)
  | schemas call => exact schemaCall_coherent h call ran
  | processes call => exact processCall_coherent h call ran
  | permissions call => exact h.of_sameApps (permissionCall_sameApps call ran)
  | notifications call => exact h.of_sameApps (notificationCall_sameApps call ran)

theorem restoreRecord_coherent (h : ws.Coherent) {code : String} {record : Record}
    (hword : record.number < wordLimit)
    (ran : run settings ws (restoreRecord code record) = (.ok (), ws')) : ws'.Coherent := by
  obtain ⟨store, hrestore, rfl⟩ := restoreRecord_ok ran
  exact h.of_store rfl (h.ordered.restore hword hrestore)

end Engine

namespace Workspace

/-- The workspaces that come about by requests and by loading records and assignments. -/
inductive Reachable : Workspace → Prop where
  /-- The workspace without definitions and records. -/
  | empty : Reachable .empty
  /-- A request to a service, refused or not. -/
  | served {α : Type} {ws : Workspace} (settings : Settings) (call : ServiceCall α) :
      Reachable ws → Reachable (ws.serve settings call)
  /-- A record is loaded. -/
  | restored {ws ws' : Workspace} {settings : Settings} {code : String} {record : Record} :
      record.number < wordLimit →
      Engine.run settings ws (Engine.restoreRecord code record) = (.ok (), ws') →
      Reachable ws → Reachable ws'
  /-- An assignment is loaded. -/
  | assigned {ws : Workspace} (app : AppId) (record : String) (assignees : List String) :
      Reachable ws → Reachable (ws.withAssignees app record assignees)

theorem Reachable.coherent {ws : Workspace} (h : ws.Reachable) : ws.Coherent := by
  induction h with
  | empty => exact empty_coherent
  | served settings call _ ih =>
      exact Engine.serve_keeps ih fun ran => Engine.serviceCall_coherent ih call ran
  | restored hword ran _ ih => exact Engine.restoreRecord_coherent ih hword ran
  | assigned app record assignees _ ih => exact ih.of_store rfl ih.ordered

/-- What depends on the rules alone and is kept by requests about them holds in every workspace that
    comes about. -/
theorem RuleInvariant.reachable {inv : Workspace → Prop} (hinv : RuleInvariant inv)
    (hempty : inv empty) {ws : Workspace} (h : ws.Reachable) : inv ws := by
  induction h with
  | empty => exact hempty
  | served settings call _ ih => exact hinv.served settings call ih
  | restored _ ran _ ih =>
      obtain ⟨_, -, rfl⟩ := Engine.restoreRecord_ok ran
      refine hinv.congr ?_ ih
      exact ⟨rfl, rfl, rfl, rfl⟩
  | assigned app record assignees _ ih =>
      refine hinv.congr ?_ ih
      exact ⟨rfl, rfl, rfl, rfl⟩

theorem defined_reachable : Orders.defined.Reachable :=
  Reachable.empty |>.served _ _ |>.served _ _ |>.served _ _ |>.served _ _

end Workspace

end RecordApps
