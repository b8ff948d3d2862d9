import RecordApps.Proofs.Engine.Atomic
import RecordApps.Proofs.Engine.RecordEffect

/-! # What requests about records leave alone

Requests about records change records and assignments. Schemas, rules and processes stay as they
are, and of the records at most one is added, written or dropped.
-/

namespace RecordApps

namespace Workspace

/-- All rules are the same in two workspaces. -/
structure SameRules (ws ws' : Workspace) : Prop where
  appPermissions : ws'.appPermissions = ws.appPermissions
  fieldPermissions : ws'.fieldPermissions = ws.fieldPermissions
  recordRules : ws'.recordRules = ws.recordRules
  notificationRules : ws'.notificationRules = ws.notificationRules

/-- All definitions are the same in two workspaces. -/
structure SameDefinitions (ws ws' : Workspace) : Prop where
  schemas : ws'.schemas = ws.schemas
  appPermissions : ws'.appPermissions = ws.appPermissions
  fieldPermissions : ws'.fieldPermissions = ws.fieldPermissions
  recordRules : ws'.recordRules = ws.recordRules
  processes : ws'.processes = ws.processes
  notificationRules : ws'.notificationRules = ws.notificationRules

/-- What a request does to the records of all apps. -/
inductive StoreStep (settings : Settings) (ws ws' : Workspace) : Prop where
  | kept : ws'.store = ws.store → ws'.created = ws.created → StoreStep settings ws ws'
  | inserted {code : String} {data : Fields} {record : Record} :
      ws.store.insert code (settings.newRecordId (ws.created + 1)) data = .ok (record, ws'.store) →
      ws'.created = ws.created + 1 → StoreStep settings ws ws'
  | updated {code : String} {record : Record} {expected : Option String} :
      ws.store.update code record expected = .ok ws'.store → ws'.created = ws.created →
      StoreStep settings ws ws'
  | deleted {code id : String} : ws.store.delete code id = .ok ws'.store →
      ws'.created = ws.created → StoreStep settings ws ws'

/-- What a request about records does to a workspace. -/
structure RecordStep (settings : Settings) (ws ws' : Workspace) : Prop where
  definitions : ws.SameDefinitions ws'
  records : StoreStep settings ws ws'

variable {ws ws' : Workspace}

theorem SameRules.ruleSet (h : ws.SameRules ws') : ws'.ruleSet = ws.ruleSet := by
  funext app
  simp only [Workspace.ruleSet, h.appPermissions, h.fieldPermissions, h.recordRules]

namespace SameDefinitions

theorem refl (ws : Workspace) : ws.SameDefinitions ws := ⟨rfl, rfl, rfl, rfl, rfl, rfl⟩

theorem rules (h : ws.SameDefinitions ws') : ws.SameRules ws' :=
  ⟨h.appPermissions, h.fieldPermissions, h.recordRules, h.notificationRules⟩

theorem ruleSet (h : ws.SameDefinitions ws') : ws'.ruleSet = ws.ruleSet := h.rules.ruleSet

end SameDefinitions

theorem RecordStep.refl (settings : Settings) (ws : Workspace) : RecordStep settings ws ws :=
  ⟨.refl ws, .kept rfl rfl⟩

end Workspace

namespace Engine

open Workspace

variable {α : Type} {settings : Settings} {ws ws' : Workspace}

theorem transition_step {actor : Actor} {schema : AppSchema} {record : Record}
    {action : String} {outcome : TransitionOutcome}
    (ran : run settings ws (transition actor schema record action) = (.ok outcome, ws')) :
    RecordStep settings ws ws' := by
  obtain ⟨_, -, -, rfl⟩ | ⟨_, _, -, hupdate, -, rfl⟩ := transition_ok ran
  · exact .refl settings _
  · exact ⟨⟨rfl, rfl, rfl, rfl, rfl, rfl⟩, .updated hupdate rfl⟩

theorem assign_step {schema : AppSchema} {record : Record} {assignees : List String}
    (ran : run settings ws (assign schema record assignees) = (.ok (), ws')) :
    RecordStep settings ws ws' := by
  obtain ⟨_, -, rfl⟩ := assign_ok ran
  exact ⟨⟨rfl, rfl, rfl, rfl, rfl, rfl⟩, .kept rfl rfl⟩

theorem recordCall_step {actor : Actor} {app : AppId} (call : RecordCall α) {answer : α}
    (ran : run settings ws (call.perform actor app) = (.ok answer, ws')) :
    RecordStep settings ws ws' := by
  cases call with
  | create input =>
      obtain ⟨_, _, _, _, -, -, hinsert, rfl, -⟩ := createRecord_ok ran
      exact ⟨⟨rfl, rfl, rfl, rfl, rfl, rfl⟩, .inserted hinsert rfl⟩
  | update id changes =>
      obtain ⟨_, _, _, _, -, -, -, hupdate, rfl, -⟩ := updateRecord_ok ran
      exact ⟨⟨rfl, rfl, rfl, rfl, rfl, rfl⟩, .updated hupdate rfl⟩
  | delete id =>
      obtain ⟨_, _, _, -, -, -, hdelete, rfl, -⟩ := deleteRecord_ok ran
      exact ⟨⟨rfl, rfl, rfl, rfl, rfl, rfl⟩, .deleted hdelete rfl⟩
  | act id action =>
      obtain ⟨_, _, _, -, -, -, moved, -⟩ := executeAction_ok ran
      exact transition_step moved
  | assign id assignees =>
      obtain ⟨_, _, -, -, -, -, assigned⟩ := assignRecord_ok ran
      exact assign_step assigned
  | read | list | related | actions | comment =>
      exact (recordCall_onlyReads rfl).unchanged ran ▸ .refl settings _

end Engine

end RecordApps
