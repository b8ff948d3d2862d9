import RecordApps.Proofs.Access.Tables

/-! # Whose rules a table holds

The three kinds of tables differ in their rules only. Rules get into a table one by one when they
are saved, and all at once when a table is replaced. Either way they belong to the app that the
table is kept for, so that the tables of one app never hold rules of another.
-/

namespace RecordApps

namespace Engine.RuleKind

/-- The rules in the tables of a kind. -/
abbrev Row : RuleKind → Type
  | .app => AppPermission
  | .field => FieldPermission
  | .record => RecordRule

instance : (kind : RuleKind) → Ranked kind.Row
  | .app => inferInstanceAs (Ranked AppPermission)
  | .field => inferInstanceAs (Ranked FieldPermission)
  | .record => inferInstanceAs (Ranked RecordRule)

/-- The app that a rule belongs to. -/
def owner : (kind : RuleKind) → kind.Row → AppId
  | .app => AppPermission.app
  | .field => FieldPermission.app
  | .record => RecordRule.app

/-- Replace all rules of a table. -/
def replace (app : AppId) : (kind : RuleKind) → List kind.Row → Engine Unit
  | .app => replaceAppPermissions app
  | .field => replaceFieldPermissions app
  | .record => replaceRecordRules app

end Engine.RuleKind

open Engine (RuleKind)

namespace Workspace

variable {ws ws' : Workspace} {app : AppId} {kind : RuleKind} {rows : List kind.Row}

/-- The rules that are kept for an app in its table of a kind. -/
def table (ws : Workspace) (app : AppId) : (kind : RuleKind) → List kind.Row
  | .app => (ws.ruleSet app).app
  | .field => (ws.ruleSet app).field
  | .record => (ws.ruleSet app).record

/-- The workspace with other rules in a table of an app. -/
def withTable (ws : Workspace) (app : AppId) : (kind : RuleKind) → List kind.Row → Workspace
  | .app, rows => { ws with appPermissions := ws.appPermissions.insert app rows }
  | .field, rows => { ws with fieldPermissions := ws.fieldPermissions.insert app rows }
  | .record, rules => { ws with recordRules := ws.recordRules.insert app rules }

@[simp] theorem table_withTable : (ws.withTable app kind rows).table app kind = rows := by
  cases kind <;> simp [table, withTable, ruleSet_app, ruleSet_field, ruleSet_record]

theorem table_withTable_other {other : AppId} {kind' : RuleKind}
    (h : kind' ≠ kind ∨ other ≠ app) :
    (ws.withTable app kind rows).table other kind' = ws.table other kind' := by
  cases kind <;> cases kind' <;>
    simp only [table, withTable, ruleSet_app, ruleSet_field, ruleSet_record] <;>
    split <;> simp_all

/-- Every rule is kept in a table of the app that it belongs to. -/
def OwnRules (ws : Workspace) : Prop :=
  ∀ app kind, ∀ row ∈ ws.table app kind, kind.owner row = app

namespace OwnRules

theorem of_eq (h : ws.OwnRules) (hsame : ws'.ruleSet = ws.ruleSet) : ws'.OwnRules := by
  intro app kind
  have htable : ws'.table app kind = ws.table app kind := by
    cases kind <;> simp only [table, hsame]
  rw [htable]
  exact h app kind

theorem withTable (h : ws.OwnRules) (hrows : ∀ row ∈ rows, kind.owner row = app) :
    (ws.withTable app kind rows).OwnRules := by
  intro other kind'
  by_cases hsame : kind' = kind ∧ other = app
  · obtain ⟨rfl, rfl⟩ := hsame
    rwa [table_withTable]
  · rw [table_withTable_other (not_and_or.1 hsame)]
    exact h other kind'

end OwnRules

end Workspace

theorem mem_putRow {R : Type} {key : R → String} {row other : R} {rows : List R}
    (h : other ∈ putRow key row rows) : other = row ∨ other ∈ rows := by
  induction rows with
  | nil => exact .inl (List.mem_singleton.1 h)
  | cons head rest ih =>
      rw [putRow] at h
      split at h
      · exact (List.mem_cons.1 h).imp_right (List.mem_cons_of_mem _)
      · rcases List.mem_cons.1 h with rfl | h
        · exact .inr List.mem_cons_self
        · exact (ih h).imp_right (List.mem_cons_of_mem _)

namespace Engine

variable {α : Type} {settings : Settings} {ws ws' : Workspace} {app : AppId} {kind : RuleKind}

open Workspace

/-! ## Replacing tables -/

theorem checkOwner_eq_ok {owners : List AppId} :
    checkOwner app owners = .ok () ↔ ∀ owner ∈ owners, owner = app := by
  rw [checkOwner, ensure_eq_ok, List.all_eq_true]
  simp only [beq_iff_eq]

theorem run_replace_eq_ok {rows : List kind.Row} :
    run settings ws (kind.replace app rows) = (.ok (), ws') ↔
      (∀ row ∈ rows, kind.owner row = app) ∧ ws' = ws.withTable app kind rows := by
  have hiff (owners : List AppId) (f : Workspace → Workspace) :
      run settings ws (liftM (checkOwner app owners) >>= fun _ => modify f) = (.ok (), ws') ↔
        (∀ owner ∈ owners, owner = app) ∧ ws' = f ws := by
    rw [run_check_bind_eq_ok, checkOwner_eq_ok, run_modify, Prod.mk.injEq, eq_comm (a := f ws)]
    exact and_congr_right fun _ => and_iff_right rfl
  cases kind <;> exact (hiff _ _).trans (and_congr_left fun _ => List.forall_mem_map)

theorem run_reorder (ids : List String) :
    run settings ws (reorder app kind ids) =
      run settings ws (liftM (Ranked.reorder (ws.table app kind) ids) >>= kind.replace app) := by
  rw [reorder, run_get_bind]
  cases kind <;> rfl

/-! ## Steps keep rules with their apps -/

theorem permissionCall_ownRules (h : ws.OwnRules) (call : PermissionCall α) {answer : α}
    (ran : run settings ws call.perform = (.ok answer, ws')) : ws'.OwnRules := by
  have hput {kind : RuleKind} {row : kind.Row} :
      ∀ other ∈ putRow Ranked.id row (ws.table (kind.owner row) kind),
        kind.owner other = kind.owner row := by
    intro other hother
    rcases mem_putRow hother with rfl | hother
    · rfl
    · exact h _ kind other hother
  cases call with
  | saveApp row =>
      obtain ⟨-, -, rfl⟩ := saveAppPermission_ok ran
      show (ws.withTable row.app .app _).OwnRules
      exact h.withTable hput
  | saveField row =>
      obtain ⟨-, -, rfl⟩ := saveFieldPermission_ok ran
      show (ws.withTable row.app .field _).OwnRules
      exact h.withTable hput
  | saveRecord rule =>
      obtain ⟨-, -, rfl⟩ := saveRecordRule_ok ran
      show (ws.withTable rule.app .record _).OwnRules
      exact h.withTable hput
  | reorder app kind ids =>
      rw [PermissionCall.perform, run_reorder, run_lift_bind_eq_ok] at ran
      obtain ⟨rows, -, replaced⟩ := ran
      obtain ⟨hrows, rfl⟩ := run_replace_eq_ok.1 replaced
      exact h.withTable hrows
  | rules | access => exact (permissionCall_onlyReads rfl).unchanged ran ▸ h

end Engine

namespace Workspace

/-- The workspaces that come about by requests, by loading records and assignments, and by
    replacing tables of rules. -/
inductive Maintained : Workspace → Prop where
  /-- The workspace without definitions and records. -/
  | empty : Maintained .empty
  /-- A request to a service, refused or not. -/
  | served {α : Type} {ws : Workspace} (settings : Settings) (call : ServiceCall α) :
      Maintained ws → Maintained (ws.serve settings call)
  /-- A table of rules is replaced, whatever its ids. -/
  | replaced {ws ws' : Workspace} {settings : Settings} {app : AppId} {kind : RuleKind}
      {rows : List kind.Row} :
      Engine.run settings ws (kind.replace app rows) = (.ok (), ws') →
      Maintained ws → Maintained ws'
  /-- A record is loaded. -/
  | restored {ws ws' : Workspace} {settings : Settings} {code : String} {record : Record} :
      Engine.run settings ws (Engine.restoreRecord code record) = (.ok (), ws') →
      Maintained ws → Maintained ws'
  /-- An assignment is loaded. -/
  | assigned {ws : Workspace} (app : AppId) (record : String) (assignees : List String) :
      Maintained ws → Maintained (ws.withAssignees app record assignees)

theorem ownRules_invariant : RuleInvariant OwnRules where
  congr hsame h := h.of_eq hsame.ruleSet
  permissions call _ ran h := Engine.permissionCall_ownRules h call ran
  notifications call _ ran h := by
    obtain ⟨_, rfl⟩ := Engine.notificationCall_onlyRules call ran
    exact h.of_eq rfl

theorem Maintained.ownRules {ws : Workspace} (h : ws.Maintained) : ws.OwnRules := by
  induction h with
  | empty =>
      intro app kind row hrow
      cases kind <;> cases hrow
  | served settings call _ ih => exact ownRules_invariant.served settings call ih
  | replaced ran _ ih =>
      obtain ⟨hrows, rfl⟩ := Engine.run_replace_eq_ok.1 ran
      exact ih.withTable hrows
  | restored ran _ ih =>
      obtain ⟨_, -, rfl⟩ := Engine.restoreRecord_ok ran
      exact ih.of_eq rfl
  | assigned app record assignees _ ih => exact ih.of_eq rfl

theorem Reachable.maintained {ws : Workspace} (h : ws.Reachable) : ws.Maintained := by
  induction h with
  | empty => exact .empty
  | served settings call _ ih => exact ih.served settings call
  | restored _ ran _ ih => exact .restored ran ih
  | assigned app record assignees _ ih => exact ih.assigned app record assignees

end Workspace

end RecordApps
