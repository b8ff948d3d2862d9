import RecordApps.Engine.Bundle
import RecordApps.Proofs.Engine.RecordEffect

/-! # What changes of definitions do

For every change of definitions, what has been checked when it succeeds, and the workspace it
leaves. The same for the records and the assignments that a bundle starts from.
-/

namespace RecordApps.Engine

variable {settings : Settings} {ws ws' : Workspace} {actor : Actor} {app : AppId}

/-! ## Schemas -/

theorem saveSchema_ok {schema : AppSchema}
    (ran : run settings ws (saveSchema schema) = (.ok (), ws')) :
    schema.validate = .ok () ∧
      (∀ stored, ws.schemas.get? schema.id = some stored → schema.ensureStable stored = .ok ()) ∧
      (∀ other ∈ ws.schemas.values, other.code = schema.code → other.id = schema.id) ∧
      ws' = { ws with schemas := ws.schemas.insert schema.id schema.persisted } := by
  rw [saveSchema, run_check_bind_eq_ok] at ran
  obtain ⟨valid, ran⟩ := ran
  rw [run_get_bind] at ran
  extract_lets write checkCode at ran
  have commit : run settings ws (checkCode ()) = (.ok (), ws') →
      (∀ other ∈ ws.schemas.values, other.code = schema.code → other.id = schema.id) ∧
        ws' = { ws with schemas := ws.schemas.insert schema.id schema.persisted } := by
    intro ran
    dsimp only [checkCode, write] at ran
    split at ran
    case isTrue taken => simp only [run_throw_bind, Prod.mk.injEq, reduceCtorEq, false_and] at ran
    case isFalse free =>
      simp only [run_set, Prod.mk.injEq] at ran
      refine ⟨fun other known same => ?_, ran.2.symm⟩
      refine Decidable.byContradiction fun different => free ?_
      exact List.any_eq_true.mpr ⟨other, known, by simp [different, same]⟩
  split at ran
  case h_1 stored hstored =>
    rw [run_check_bind_eq_ok] at ran
    refine ⟨valid, fun other same => ?_, commit ran.2⟩
    rw [hstored] at same
    exact Option.some.inj same ▸ ran.1
  case h_2 absent =>
    refine ⟨valid, fun other same => ?_, commit ran⟩
    rw [absent] at same
    cases same

theorem run_saveSchema {schema : AppSchema} (valid : schema.validate = .ok ())
    (stable : ∀ stored, ws.schemas.get? schema.id = some stored →
      schema.ensureStable stored = .ok ())
    (free : ∀ other ∈ ws.schemas.values, other.code = schema.code → other.id = schema.id) :
    run settings ws (saveSchema schema) =
      (.ok (), { ws with schemas := ws.schemas.insert schema.id schema.persisted }) := by
  have untaken : ¬(ws.schemas.values.any fun other =>
      other.id != schema.id && other.code == schema.code) = true := by
    intro taken
    obtain ⟨other, known, clash⟩ := List.any_eq_true.1 taken
    simp only [Bool.and_eq_true, bne_iff_ne, beq_iff_eq] at clash
    exact clash.1 (free other known clash.2)
  rw [saveSchema, run_check_bind_eq_ok, run_get_bind]
  refine ⟨valid, ?_⟩
  dsimp only
  split
  case h_1 stored hstored =>
    rw [run_check_bind_eq_ok, if_neg untaken]
    exact ⟨stable stored hstored, rfl⟩
  case h_2 =>
    rw [if_neg untaken]
    rfl

theorem requireManageable_ok {schema : AppSchema}
    (ran : run settings ws (requireManageable actor app) = (.ok schema, ws')) :
    ws.schemas.get? app = some schema ∧ (ws.access actor schema none).app.mayManage = true ∧
      ws' = ws := by
  simp only [requireManageable, run_get_bind, run_lift_bind_eq_ok,
    Workspace.requireSchema_eq_ok] at ran
  obtain ⟨schema, defined, ran⟩ := ran
  split at ran
  case isTrue may =>
    simp only [run_pure, Prod.mk.injEq, Except.ok.injEq] at ran
    obtain ⟨rfl, rfl⟩ := ran
    exact ⟨defined, may, rfl⟩
  case isFalse mayNot => simp at ran

theorem addField_ok {f added : FieldDefinition}
    (ran : run settings ws (addField actor app f) = (.ok added, ws')) :
    ∃ schema extended,
      ws.schemas.get? app = some schema ∧
      (ws.access actor schema none).app.mayManage = true ∧
      schema.addField f = .ok extended ∧
      run settings ws (saveSchema extended) = (.ok (), ws') := by
  rw [addField, run_bind_eq_ok] at ran
  obtain ⟨schema, mid, manageable, ran⟩ := ran
  obtain ⟨defined, may, rfl⟩ := requireManageable_ok manageable
  rw [run_check_bind_eq_ok] at ran
  obtain ⟨-, ran⟩ := ran
  split at ran
  case isTrue taken => simp only [run_throw_bind, Prod.mk.injEq, reduceCtorEq, false_and] at ran
  case isFalse free =>
    rw [run_lift_bind_eq_ok] at ran
    obtain ⟨extended, extends_, ran⟩ := ran
    obtain ⟨_, mid, saved, ran⟩ := run_bind_eq_ok.mp ran
    simp only [run_pure, Prod.mk.injEq] at ran
    exact ⟨schema, extended, defined, may, extends_, ran.2 ▸ saved⟩

theorem retireField_ok {code : String}
    (ran : run settings ws (retireField actor app code) = (.ok (), ws')) :
    ∃ schema retired,
      ws.schemas.get? app = some schema ∧
      (ws.access actor schema none).app.mayManage = true ∧
      schema.retireField code = .ok retired ∧
      run settings ws (saveSchema retired) = (.ok (), ws') := by
  rw [retireField, run_bind_eq_ok] at ran
  obtain ⟨schema, mid, manageable, ran⟩ := ran
  obtain ⟨defined, may, rfl⟩ := requireManageable_ok manageable
  rw [run_lift_bind_eq_ok] at ran
  obtain ⟨retired, retires, saved⟩ := ran
  exact ⟨schema, retired, defined, may, retires, saved⟩

theorem setProcessEnabled_ok {enabled : Bool}
    (ran : run settings ws (setProcessEnabled app enabled) = (.ok (), ws')) :
    ∃ schema,
      ws.schemas.get? app = some schema ∧
      (enabled = true → (ws.processes.get? app).isSome = true) ∧
      run settings ws (saveSchema { schema with processEnabled := enabled }) = (.ok (), ws') := by
  simp only [setProcessEnabled, run_get_bind, run_lift_bind_eq_ok,
    Workspace.requireSchema_eq_ok] at ran
  obtain ⟨schema, defined, ran⟩ := ran
  split at ran
  case isTrue missing => simp only [run_throw_bind, Prod.mk.injEq, reduceCtorEq, false_and] at ran
  case isFalse present =>
    refine ⟨schema, defined, fun on => ?_, ran⟩
    cases hprocess : ws.processes.get? app with
    | some graph => rfl
    | none => exact absurd (by simp [on, hprocess]) present

/-! ## Permission rules -/

theorem saveAppPermission_ok {row : AppPermission}
    (ran : run settings ws (saveAppPermission row) = (.ok (), ws')) :
    row.validate = .ok () ∧ (∃ schema, ws.schemas.get? row.app = some schema) ∧
      ws' = { ws with
        appPermissions := ws.appPermissions.insert row.app
          (putRow Ranked.id row (ws.ruleSet row.app).app) } := by
  simp only [saveAppPermission, run_get_bind, run_lift_bind_eq_ok,
    Workspace.requireSchema_eq_ok] at ran
  obtain ⟨⟨⟩, valid, schema, defined, ran⟩ := ran
  rw [run_set, Prod.mk.injEq] at ran
  exact ⟨valid, ⟨schema, defined⟩, ran.2.symm⟩

theorem saveFieldPermission_ok {row : FieldPermission}
    (ran : run settings ws (saveFieldPermission row) = (.ok (), ws')) :
    row.validate = .ok () ∧
      (∃ schema, ws.schemas.get? row.app = some schema ∧
        schema.checkReference row.field.text = .ok ()) ∧
      ws' = { ws with
        fieldPermissions := ws.fieldPermissions.insert row.app
          (putRow Ranked.id row (ws.ruleSet row.app).field) } := by
  simp only [saveFieldPermission, run_get_bind, run_lift_bind_eq_ok,
    Workspace.requireSchema_eq_ok] at ran
  obtain ⟨⟨⟩, valid, schema, defined, ⟨⟩, refers, ran⟩ := ran
  rw [run_set, Prod.mk.injEq] at ran
  exact ⟨valid, ⟨schema, defined, refers⟩, ran.2.symm⟩

theorem saveRecordRule_ok {rule : RecordRule}
    (ran : run settings ws (saveRecordRule rule) = (.ok (), ws')) :
    rule.validate = .ok () ∧
      (∃ schema, ws.schemas.get? rule.app = some schema ∧
        schema.checkCondition rule.condition = .ok () ∧
        checkOptionalReference schema rule.targetField = .ok ()) ∧
      ws' = { ws with
        recordRules := ws.recordRules.insert rule.app
          (putRow Ranked.id rule (ws.ruleSet rule.app).record) } := by
  simp only [saveRecordRule, run_get_bind, run_lift_bind_eq_ok,
    Workspace.requireSchema_eq_ok] at ran
  obtain ⟨⟨⟩, valid, schema, defined, ⟨⟩, condition, ⟨⟩, target, ran⟩ := ran
  rw [run_set, Prod.mk.injEq] at ran
  exact ⟨valid, ⟨schema, defined, condition, target⟩, ran.2.symm⟩

theorem replaceAppPermissions_ok {rows : List AppPermission}
    (ran : run settings ws (replaceAppPermissions app rows) = (.ok (), ws')) :
    checkOwner app (rows.map AppPermission.app) = .ok () ∧
      ws' = { ws with appPermissions := ws.appPermissions.insert app rows } := by
  rw [replaceAppPermissions, run_check_bind_eq_ok, run_modify, Prod.mk.injEq] at ran
  exact ⟨ran.1, ran.2.2.symm⟩

theorem replaceFieldPermissions_ok {rows : List FieldPermission}
    (ran : run settings ws (replaceFieldPermissions app rows) = (.ok (), ws')) :
    checkOwner app (rows.map FieldPermission.app) = .ok () ∧
      ws' = { ws with fieldPermissions := ws.fieldPermissions.insert app rows } := by
  rw [replaceFieldPermissions, run_check_bind_eq_ok, run_modify, Prod.mk.injEq] at ran
  exact ⟨ran.1, ran.2.2.symm⟩

theorem replaceRecordRules_ok {rules : List RecordRule}
    (ran : run settings ws (replaceRecordRules app rules) = (.ok (), ws')) :
    checkOwner app (rules.map RecordRule.app) = .ok () ∧
      ws' = { ws with recordRules := ws.recordRules.insert app rules } := by
  rw [replaceRecordRules, run_check_bind_eq_ok, run_modify, Prod.mk.injEq] at ran
  exact ⟨ran.1, ran.2.2.symm⟩

theorem reorder_ok {kind : RuleKind} {ids : List String}
    (ran : run settings ws (reorder app kind ids) = (.ok (), ws')) :
    match kind with
    | .app => ∃ rows, Ranked.reorder (ws.ruleSet app).app ids = .ok rows ∧
        run settings ws (replaceAppPermissions app rows) = (.ok (), ws')
    | .field => ∃ rows, Ranked.reorder (ws.ruleSet app).field ids = .ok rows ∧
        run settings ws (replaceFieldPermissions app rows) = (.ok (), ws')
    | .record => ∃ rules, Ranked.reorder (ws.ruleSet app).record ids = .ok rules ∧
        run settings ws (replaceRecordRules app rules) = (.ok (), ws') := by
  rw [reorder, run_get_bind] at ran
  cases kind <;> exact run_lift_bind_eq_ok.mp ran

/-! ## Processes and notification rules -/

theorem saveProcess_ok {graph : ProcessGraph}
    (ran : run settings ws (saveProcess graph) = (.ok (), ws')) :
    graph.validate = .ok () ∧ (∃ schema, ws.schemas.get? graph.app = some schema) ∧
      ws' = { ws with processes := ws.processes.insert graph.app graph } := by
  simp only [saveProcess, run_get_bind, run_lift_bind_eq_ok,
    Workspace.requireSchema_eq_ok] at ran
  obtain ⟨⟨⟩, valid, schema, defined, ran⟩ := ran
  rw [run_set, Prod.mk.injEq] at ran
  exact ⟨valid, ⟨schema, defined⟩, ran.2.symm⟩

theorem saveNotificationRule_ok {rule : NotificationRule}
    (ran : run settings ws (saveNotificationRule rule) = (.ok (), ws')) :
    rule.validate = .ok () ∧
      (∃ schema, ws.schemas.get? rule.app = some schema ∧
        (∀ condition, rule.condition = some condition →
          schema.checkCondition condition = .ok ()) ∧
        checkOptionalReference schema rule.targetField = .ok ()) ∧
      settings.rulesReachable = true ∧
      ws' = { ws with
        notificationRules := ws.notificationRules.insert rule.app
          (putRow (·.id.text) rule (ws.rulesOf rule.app)) } := by
  rw [saveNotificationRule, run_check_bind_eq_ok] at ran
  obtain ⟨valid, ran⟩ := ran
  rw [run_get_bind, run_lift_bind_eq_ok] at ran
  obtain ⟨schema, defined, ran⟩ := ran
  rw [Workspace.requireSchema_eq_ok] at defined
  extract_lets commit at ran
  have committed : run settings ws (commit ()) = (.ok (), ws') →
      checkOptionalReference schema rule.targetField = .ok () ∧
      settings.rulesReachable = true ∧
      ws' = { ws with
        notificationRules := ws.notificationRules.insert rule.app
          (putRow (·.id.text) rule (ws.rulesOf rule.app)) } := by
    intro ran
    rw [run_check_bind_eq_ok, run_read_bind] at ran
    obtain ⟨target, ran⟩ := ran
    split at ran
    case isTrue reachable =>
      rw [run_set, Prod.mk.injEq] at ran
      exact ⟨target, reachable, ran.2.symm⟩
    case isFalse unreachable => simp at ran
  split at ran
  case h_1 condition hcondition =>
    rw [run_check_bind_eq_ok] at ran
    obtain ⟨target, reachable, after⟩ := committed ran.2
    refine ⟨valid, ⟨schema, defined, fun other same => ?_, target⟩, reachable, after⟩
    rw [hcondition] at same
    exact Option.some.inj same ▸ ran.1
  case h_2 none_ =>
    obtain ⟨target, reachable, after⟩ := committed ran
    refine ⟨valid, ⟨schema, defined, fun other same => ?_, target⟩, reachable, after⟩
    rw [none_] at same
    cases same

/-! ## Bundles -/

theorem restoreRecord_ok {code : String} {record : Record}
    (ran : run settings ws (restoreRecord code record) = (.ok (), ws')) :
    ∃ store, ws.store.restore code record = .ok store ∧ ws' = { ws with store := store } := by
  rw [restoreRecord, run_get_bind, run_lift_bind_eq_ok] at ran
  obtain ⟨store, restored, ran⟩ := ran
  rw [run_set, Prod.mk.injEq] at ran
  exact ⟨store, restored, ran.2.symm⟩

end RecordApps.Engine
