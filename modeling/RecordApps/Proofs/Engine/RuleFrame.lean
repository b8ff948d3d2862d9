import RecordApps.Proofs.Engine.Atomic
import RecordApps.Proofs.Engine.DefinitionEffect
import RecordApps.Proofs.Engine.RecordFrame

/-! # What requests about definitions leave alone

Requests about schemas store schemas, requests about permission and notification rules change tables
of rules, and requests about processes store a graph or a schema or work on a record. Everything
else stays as it is. So a property of the rules that requests about rules keep is kept by all.
-/

namespace RecordApps

namespace Workspace

/-- Schemas and records are the same in two workspaces. -/
structure SameApps (ws ws' : Workspace) : Prop where
  schemas : ws'.schemas = ws.schemas
  store : ws'.store = ws.store
  created : ws'.created = ws.created

end Workspace

namespace Engine

open Workspace

variable {α : Type} {settings : Settings} {ws ws' : Workspace}

/-! ## Requests of one service -/

theorem saveSchema_onlySchemas {schema : AppSchema}
    (ran : run settings ws (saveSchema schema) = (.ok (), ws')) :
    ∃ schemas, ws' = { ws with schemas := schemas } := by
  obtain ⟨-, -, -, rfl⟩ := saveSchema_ok ran
  exact ⟨_, rfl⟩

theorem schemaCall_onlySchemas (call : SchemaCall α) {answer : α}
    (ran : run settings ws call.perform = (.ok answer, ws')) :
    ∃ schemas, ws' = { ws with schemas := schemas } := by
  cases call with
  | save schema => exact saveSchema_onlySchemas ran
  | addField actor app f =>
      obtain ⟨_, _, -, -, -, saved⟩ := addField_ok ran
      exact saveSchema_onlySchemas saved
  | retireField actor app code =>
      obtain ⟨_, _, -, -, -, saved⟩ := retireField_ok ran
      exact saveSchema_onlySchemas saved
  | find code => exact ⟨ws.schemas, (schemaCall_onlyReads rfl).unchanged ran⟩

/-- A request about processes stores a graph or a schema, or it works on a record. -/
theorem processCall_cases (call : ProcessCall α) {answer : α}
    (ran : run settings ws call.perform = (.ok answer, ws')) :
    RecordStep settings ws ws' ∨ (∃ processes, ws' = { ws with processes := processes }) ∨
      ∃ schemas, ws' = { ws with schemas := schemas } := by
  cases call with
  | save graph =>
      obtain ⟨-, -, rfl⟩ := saveProcess_ok ran
      exact .inr (.inl ⟨_, rfl⟩)
  | switch app enabled =>
      obtain ⟨_, -, -, saved⟩ := setProcessEnabled_ok ran
      exact .inr (.inr (saveSchema_onlySchemas saved))
  | assign schema record assignees => exact .inl (assign_step ran)
  | transition actor schema record action => exact .inl (transition_step ran)
  | initialStatus | actions =>
      exact .inl ((processCall_onlyReads rfl).unchanged ran ▸ .refl settings _)

theorem reorder_onlyRules {app : AppId} {kind : RuleKind} {ids : List String}
    (ran : run settings ws (reorder app kind ids) = (.ok (), ws')) :
    ∃ rows fields rules, ws' = { ws with
      appPermissions := rows, fieldPermissions := fields, recordRules := rules } := by
  cases kind with
  | app =>
      obtain ⟨_, -, replaced⟩ := reorder_ok ran
      obtain ⟨-, rfl⟩ := replaceAppPermissions_ok replaced
      exact ⟨_, _, _, rfl⟩
  | field =>
      obtain ⟨_, -, replaced⟩ := reorder_ok ran
      obtain ⟨-, rfl⟩ := replaceFieldPermissions_ok replaced
      exact ⟨_, _, _, rfl⟩
  | record =>
      obtain ⟨_, -, replaced⟩ := reorder_ok ran
      obtain ⟨-, rfl⟩ := replaceRecordRules_ok replaced
      exact ⟨_, _, _, rfl⟩

theorem permissionCall_onlyRules (call : PermissionCall α) {answer : α}
    (ran : run settings ws call.perform = (.ok answer, ws')) :
    ∃ rows fields rules, ws' = { ws with
      appPermissions := rows, fieldPermissions := fields, recordRules := rules } := by
  cases call with
  | saveApp row =>
      obtain ⟨-, -, rfl⟩ := saveAppPermission_ok ran
      exact ⟨_, _, _, rfl⟩
  | saveField row =>
      obtain ⟨-, -, rfl⟩ := saveFieldPermission_ok ran
      exact ⟨_, _, _, rfl⟩
  | saveRecord rule =>
      obtain ⟨-, -, rfl⟩ := saveRecordRule_ok ran
      exact ⟨_, _, _, rfl⟩
  | reorder app kind ids => exact reorder_onlyRules ran
  | rules | access =>
      exact ⟨ws.appPermissions, ws.fieldPermissions, ws.recordRules,
        (permissionCall_onlyReads rfl).unchanged ran⟩

theorem permissionCall_sameApps (call : PermissionCall α) {answer : α}
    (ran : run settings ws call.perform = (.ok answer, ws')) : ws.SameApps ws' := by
  obtain ⟨_, _, _, rfl⟩ := permissionCall_onlyRules call ran
  exact ⟨rfl, rfl, rfl⟩

theorem notificationCall_onlyRules (call : NotificationCall α) {answer : α}
    (ran : run settings ws call.perform = (.ok answer, ws')) :
    ∃ rules, ws' = { ws with notificationRules := rules } := by
  cases call with
  | save rule =>
      obtain ⟨-, -, -, rfl⟩ := saveNotificationRule_ok ran
      exact ⟨_, rfl⟩
  | evaluate => exact ⟨ws.notificationRules, (notificationCall_onlyReads rfl).unchanged ran⟩

theorem notificationCall_sameApps (call : NotificationCall α) {answer : α}
    (ran : run settings ws call.perform = (.ok answer, ws')) : ws.SameApps ws' := by
  obtain ⟨_, rfl⟩ := notificationCall_onlyRules call ran
  exact ⟨rfl, rfl, rfl⟩

theorem schemaCall_sameRules (call : SchemaCall α) {answer : α}
    (ran : run settings ws call.perform = (.ok answer, ws')) : ws.SameRules ws' := by
  obtain ⟨_, rfl⟩ := schemaCall_onlySchemas call ran
  exact ⟨rfl, rfl, rfl, rfl⟩

theorem processCall_sameRules (call : ProcessCall α) {answer : α}
    (ran : run settings ws call.perform = (.ok answer, ws')) : ws.SameRules ws' := by
  obtain hstep | ⟨_, rfl⟩ | ⟨_, rfl⟩ := processCall_cases call ran
  · exact hstep.definitions.rules
  · exact ⟨rfl, rfl, rfl, rfl⟩
  · exact ⟨rfl, rfl, rfl, rfl⟩

end Engine

namespace Workspace

/-! ## Properties of the rules -/

/-- A property that depends on the rules alone, and that requests about rules keep. -/
structure RuleInvariant (inv : Workspace → Prop) : Prop where
  congr : ∀ {ws ws' : Workspace}, ws.SameRules ws' → inv ws → inv ws'
  permissions : ∀ {α : Type} {settings : Settings} {ws ws' : Workspace} (call : PermissionCall α)
    {answer : α}, Engine.run settings ws call.perform = (.ok answer, ws') → inv ws → inv ws'
  notifications : ∀ {α : Type} {settings : Settings} {ws ws' : Workspace}
    (call : NotificationCall α) {answer : α},
    Engine.run settings ws call.perform = (.ok answer, ws') → inv ws → inv ws'

theorem RuleInvariant.served {inv : Workspace → Prop} (hinv : RuleInvariant inv) {α : Type}
    {ws : Workspace} (settings : Settings) (call : ServiceCall α) (h : inv ws) :
    inv (ws.serve settings call) := by
  refine Engine.serve_keeps h fun {answer ws'} ran => ?_
  cases call with
  | records actor app call =>
      exact hinv.congr (Engine.recordCall_step call ran).definitions.rules h
  | schemas call => exact hinv.congr (Engine.schemaCall_sameRules call ran) h
  | processes call => exact hinv.congr (Engine.processCall_sameRules call ran) h
  | permissions call => exact hinv.permissions call ran h
  | notifications call => exact hinv.notifications call ran h

end Workspace

end RecordApps
