import RecordApps.Proofs.Engine.Run
import RecordApps.Proofs.KeyMap

/-! # What changes of records do

For every change of records, what has been read and checked when it succeeds, and the workspace
it leaves. Everything else about an operation follows from these statements; what comes later
does not open the operations again.
-/

namespace RecordApps

namespace Workspace

variable {ws : Workspace}

theorem requireSchema_eq_ok {app : AppId} {schema : AppSchema} :
    ws.requireSchema app = .ok schema ↔ ws.schemas.get? app = some schema := by
  simp only [requireSchema]
  split <;> simp [*]

theorem requireRecord_eq_ok {schema : AppSchema} {id : String} {record : Record} :
    ws.requireRecord schema id = .ok record ↔ ws.store.find? schema.code.text id = some record := by
  simp only [requireRecord]
  split <;> simp [*]

theorem requireProcess_eq_ok {schema : AppSchema} {graph : ProcessGraph} :
    ws.requireProcess schema = .ok graph ↔ ws.processes.get? schema.id = some graph := by
  simp only [requireProcess]
  split <;> simp [*]

theorem requireAccess_eq_ok {actor : Actor} {schema : AppSchema} {record : Record}
    {access : Access} :
    ws.requireAccess actor schema record = .ok access ↔
      ws.access actor schema (some record) = access ∧ access.record.mayView = true := by
  simp only [requireAccess]
  split
  case isTrue visible =>
    simp only [Except.ok.injEq]
    exact ⟨fun same => ⟨same, same ▸ visible⟩, fun same => same.1⟩
  case isFalse invisible =>
    simp only [reduceCtorEq, false_iff]
    rintro ⟨rfl, visible⟩
    exact invisible visible

/-- Data are drafted by an actor who may add records and write every key of the input. The checks
    of required and unique fields see the derived values. -/
theorem draft_ok {settings : Settings} {actor : Actor} {schema : AppSchema} {input : Fields}
    {refresh : Refresh} (h : ws.draft settings actor schema input = .ok refresh) :
    (ws.access actor schema none).app.mayAdd = true ∧
      (ws.access actor schema none).fields.checkAllWritable schema input = .ok () ∧
      schema.checkInput input = .ok () ∧
      (∃ status, ws.initialStatus schema = .ok status ∧
        refresh = schema.recompute ws.store
          (withStatus (stampCreated actor settings.now (schema.initialData input)) status) none) ∧
      schema.checkRequired refresh.data = .ok () ∧
      ws.checkUnique schema refresh.data none = .ok () := by
  simp only [draft] at h
  split at h
  case isFalse => cases h
  case isTrue may =>
    rw [Outcome.check_bind_eq_ok, Outcome.check_bind_eq_ok, Outcome.bind_eq_ok] at h
    obtain ⟨writable, valid, status, initial, h⟩ := h
    rw [Outcome.check_bind_eq_ok, Outcome.check_bind_eq_ok] at h
    obtain ⟨required, unique, h⟩ := h
    obtain rfl := Outcome.pure_eq_ok.1 h
    exact ⟨may, writable, valid, ⟨status, initial, rfl⟩, required, unique⟩

/-- The same for the data of a record with changes. Lookups are refreshed whose keys change. -/
theorem revision_ok {settings : Settings} {actor : Actor} {schema : AppSchema} {record : Record}
    {changes : Fields} {refresh : Refresh}
    (h : ws.revision settings actor schema record changes = .ok refresh) :
    (ws.access actor schema (some record)).record.mayEdit = true ∧
      (ws.access actor schema (some record)).fields.checkAllWritable schema changes = .ok () ∧
      schema.checkInput changes = .ok () ∧
      refresh = schema.recompute ws.store
        (stampModified actor settings.now (record.data.insertAll changes.entries))
        (some (changedCodes record.data changes)) ∧
      schema.checkRequired refresh.data = .ok () ∧
      ws.checkUnique schema refresh.data (some record.id.text) = .ok () := by
  simp only [revision] at h
  split at h
  case isFalse => cases h
  case isTrue may =>
    rw [Outcome.check_bind_eq_ok, Outcome.check_bind_eq_ok, Outcome.check_bind_eq_ok,
      Outcome.check_bind_eq_ok] at h
    obtain ⟨writable, valid, required, unique, h⟩ := h
    obtain rfl := Outcome.pure_eq_ok.1 h
    exact ⟨may, writable, valid, rfl, required, unique⟩

/-- The workspace with other users assigned to a record. -/
def withAssignees (ws : Workspace) (app : AppId) (record : String) (assignees : List String) :
    Workspace :=
  { ws with
    assignees :=
      if assignees.isEmpty then ws.assignees.erase (app, record)
      else ws.assignees.insert (app, record) assignees }

theorem assigneesOf_withAssignees (ws : Workspace) (app other : AppId) (id record : String)
    (assignees : List String) :
    (ws.withAssignees other record assignees).assigneesOf app id =
      if app = other ∧ id = record then assignees else ws.assigneesOf app id := by
  simp only [assigneesOf, withAssignees]
  split
  case isTrue hempty =>
    simp only [Table.get?_erase, Prod.mk.injEq]
    split
    · exact (List.isEmpty_iff.1 hempty).symm
    · rfl
  case isFalse =>
    simp only [Table.get?_insert, Prod.mk.injEq]
    split <;> rfl

end Workspace

/-- A record that an actor has moved by an action. -/
def Record.moved (record : Record) (actor : Actor) (now : String) (action : ProcessAction) :
    Record :=
  { record with
    data := stampModified actor now (record.data.insert Key.status action.target.toValue) }

namespace Engine

variable {settings : Settings} {ws ws' : Workspace} {actor : Actor} {app : AppId}

/-! ## Records -/

theorem run_setAssignees (record : String) (assignees : List String) :
    run settings ws (setAssignees app record assignees) =
      (.ok ⟨⟩, ws.withAssignees app record assignees) :=
  rfl

theorem insertRecord_ok {code : String} {data : Fields} {record : Record}
    (ran : run settings ws (insertRecord code data) = (.ok record, ws')) :
    ∃ store,
      ws.store.insert code (settings.newRecordId (ws.created + 1)) data = .ok (record, store) ∧
      ws' = { ws with store := store, created := ws.created + 1 } := by
  simp only [insertRecord, run_get_bind, run_read_bind, run_lift_bind_eq_ok] at ran
  obtain ⟨⟨_, store⟩, inserted, ran⟩ := ran
  simp only [run_set_bind, run_pure, Prod.mk.injEq, Except.ok.injEq] at ran
  obtain ⟨rfl, rfl⟩ := ran
  exact ⟨store, inserted, rfl⟩

theorem updateRecordStore_ok {code : String} {record : Record} {expected : Option String}
    (ran : run settings ws (updateRecordStore code record expected) = (.ok (), ws')) :
    ∃ store, ws.store.update code record expected = .ok store ∧
      ws' = { ws with store := store } := by
  simp only [updateRecordStore, run_get_bind, run_lift_bind_eq_ok] at ran
  obtain ⟨store, updated, ran⟩ := ran
  simp only [run_set, Prod.mk.injEq] at ran
  obtain ⟨-, rfl⟩ := ran
  exact ⟨store, updated, rfl⟩

theorem run_updateRecordStore {code : String} {record : Record} {expected : Option String}
    {store : RecordStore} (hupdate : ws.store.update code record expected = .ok store) :
    run settings ws (updateRecordStore code record expected) =
      (.ok (), { ws with store := store }) := by
  simp only [updateRecordStore, run_get_bind, hupdate]
  rfl

theorem createRecord_ok {input : Fields} {outcome : MutationOutcome}
    (ran : run settings ws (createRecord actor app input) = (.ok outcome, ws')) :
    ∃ schema refresh record store,
      ws.schemas.get? app = some schema ∧
      ws.draft settings actor schema input = .ok refresh ∧
      ws.store.insert schema.code.text (settings.newRecordId (ws.created + 1)) refresh.data =
        .ok (record, store) ∧
      ws' = { ws with store := store, created := ws.created + 1 } ∧
      outcome = ⟨ws'.view? settings actor schema record, refresh.report,
        ws'.notificationsAfter settings app .recordAdded record⟩ := by
  simp only [createRecord, run_get_bind, run_read_bind, run_lift_bind_eq_ok,
    Workspace.requireSchema_eq_ok] at ran
  obtain ⟨schema, stored, refresh, drafted, ran⟩ := ran
  obtain ⟨record, mid, wrote, ran⟩ := run_bind_eq_ok.mp ran
  obtain ⟨store, inserted, rfl⟩ := insertRecord_ok wrote
  simp only [run_get_bind, run_pure, Prod.mk.injEq, Except.ok.injEq] at ran
  obtain ⟨rfl, rfl⟩ := ran
  exact ⟨schema, refresh, record, store, stored, drafted, inserted, rfl, rfl⟩

theorem updateRecord_ok {id : String} {changes : Fields} {outcome : MutationOutcome}
    (ran : run settings ws (updateRecord actor app id changes) = (.ok outcome, ws')) :
    ∃ schema stored refresh store,
      ws.schemas.get? app = some schema ∧
      ws.store.find? schema.code.text id = some stored ∧
      ws.revision settings actor schema stored changes = .ok refresh ∧
      ws.store.update schema.code.text { stored with data := refresh.data } stored.status =
        .ok store ∧
      ws' = { ws with store := store } ∧
      outcome = ⟨ws'.view? settings actor schema { stored with data := refresh.data },
        refresh.report, ws'.notificationsAfter settings app .recordEdited
          { stored with data := refresh.data }⟩ := by
  simp only [updateRecord, run_get_bind, run_read_bind, run_lift_bind_eq_ok,
    Workspace.requireSchema_eq_ok, Workspace.requireRecord_eq_ok] at ran
  obtain ⟨schema, defined, stored, found, refresh, revised, ran⟩ := ran
  obtain ⟨_, mid, wrote, ran⟩ := run_bind_eq_ok.mp ran
  obtain ⟨store, updated, rfl⟩ := updateRecordStore_ok wrote
  simp only [run_get_bind, run_pure, Prod.mk.injEq, Except.ok.injEq] at ran
  obtain ⟨rfl, rfl⟩ := ran
  exact ⟨schema, stored, refresh, store, defined, found, revised, updated, rfl, rfl⟩

theorem deleteRecord_ok {id : String} {outcome : MutationOutcome}
    (ran : run settings ws (deleteRecord actor app id) = (.ok outcome, ws')) :
    ∃ schema record store,
      ws.schemas.get? app = some schema ∧
      ws.store.find? schema.code.text id = some record ∧
      (ws.access actor schema (some record)).record.mayDelete = true ∧
      ws.store.delete schema.code.text id = .ok store ∧
      ws' = { ws with store := store } ∧
      outcome = ⟨none, .empty, ws'.notificationsAfter settings app .recordDeleted record⟩ := by
  simp only [deleteRecord, run_get_bind, run_read_bind, run_lift_bind_eq_ok,
    Workspace.requireSchema_eq_ok, Workspace.requireRecord_eq_ok] at ran
  obtain ⟨schema, defined, record, found, ran⟩ := ran
  split at ran
  case isTrue may =>
    simp only [run_lift_bind_eq_ok] at ran
    obtain ⟨store, deleted, ran⟩ := ran
    simp only [run_set_bind, run_get_bind, run_pure, Prod.mk.injEq, Except.ok.injEq] at ran
    obtain ⟨rfl, rfl⟩ := ran
    exact ⟨schema, record, store, defined, found, may, deleted, rfl, rfl⟩
  case isFalse mayNot => simp at ran

/-! ## Assignments and moves -/

theorem assign_ok {schema : AppSchema} {record : Record} {assignees : List String}
    (ran : run settings ws (assign schema record assignees) = (.ok (), ws')) :
    ∃ named, ws.assignment schema record assignees = .ok named ∧
      ws' = ws.withAssignees schema.id record.id.text named := by
  simp only [assign, run_get_bind, run_lift_bind_eq_ok] at ran
  obtain ⟨named, accepted, ran⟩ := ran
  rw [run_setAssignees, Prod.mk.injEq] at ran
  exact ⟨named, accepted, ran.2.symm⟩

theorem assignRecord_ok {id : String} {assignees : List String}
    (ran : run settings ws (assignRecord actor app id assignees) = (.ok (), ws')) :
    ∃ schema record,
      ws.schemas.get? app = some schema ∧
      ws.store.find? schema.code.text id = some record ∧
      (ws.access actor schema (some record)).record.mayView = true ∧
      (ws.access actor schema (some record)).record.mayEdit = true ∧
      run settings ws (assign schema record assignees) = (.ok (), ws') := by
  simp only [assignRecord, run_get_bind, run_lift_bind_eq_ok, Workspace.requireSchema_eq_ok,
    Workspace.requireRecord_eq_ok, Workspace.requireAccess_eq_ok] at ran
  obtain ⟨schema, defined, record, found, _, ⟨rfl, visible⟩, ran⟩ := ran
  split at ran
  case isTrue may => exact ⟨schema, record, defined, found, visible, may, ran⟩
  case isFalse mayNot => simp at ran

theorem transition_ok {schema : AppSchema} {record : Record} {id : String}
    {outcome : TransitionOutcome}
    (ran : run settings ws (transition actor schema record id) = (.ok outcome, ws')) :
    (∃ reason, ws.authorize actor schema record id = .error reason ∧
      outcome = .rejected reason ∧ ws' = ws) ∨
    ∃ action store,
      ws.authorize actor schema record id = .ok action ∧
      ws.store.update schema.code.text (record.moved actor settings.now action) record.status =
        .ok store ∧
      outcome = .applied (record.moved actor settings.now action) action.source.text
        action.target.text ∧
      ws' = { ws with store := store }.withAssignees schema.id record.id.text [] := by
  simp only [transition, run_get_bind] at ran
  split at ran
  case h_1 reason refused =>
    simp only [run_pure, Prod.mk.injEq, Except.ok.injEq] at ran
    exact .inl ⟨reason, refused, ran.1.symm, ran.2.symm⟩
  case h_2 action allowed =>
    simp only [run_read_bind] at ran
    obtain ⟨_, mid, wrote, ran⟩ := run_bind_eq_ok.mp ran
    obtain ⟨store, updated, rfl⟩ := updateRecordStore_ok wrote
    obtain ⟨_, mid, cleared, ran⟩ := run_bind_eq_ok.mp ran
    rw [run_setAssignees, Prod.mk.injEq] at cleared
    obtain ⟨-, rfl⟩ := cleared
    simp only [run_pure, Prod.mk.injEq, Except.ok.injEq] at ran
    obtain ⟨rfl, rfl⟩ := ran
    exact .inr ⟨action, store, allowed, updated, rfl, rfl⟩

theorem executeAction_ok {id action : String} {outcome : ActionOutcome}
    (ran : run settings ws (executeAction actor app id action) = (.ok outcome, ws')) :
    ∃ schema record moved,
      ws.schemas.get? app = some schema ∧
      ws.store.find? schema.code.text id = some record ∧
      (ws.access actor schema (some record)).record.mayView = true ∧
      run settings ws (transition actor schema record action) = (.ok moved, ws') ∧
      match moved, outcome with
      | .applied next source target, .applied source' target' view notifications =>
          source' = source ∧ target' = target ∧ view = ws'.view? settings actor schema next ∧
            notifications = ws'.notificationsAfter settings app .statusChanged next
      | .rejected reason, .rejected reason' => reason' = reason
      | _, _ => False := by
  simp only [executeAction, run_get_bind, run_read_bind, run_lift_bind_eq_ok,
    Workspace.requireSchema_eq_ok, Workspace.requireRecord_eq_ok,
    Workspace.requireAccess_eq_ok] at ran
  obtain ⟨schema, defined, record, found, _, ⟨rfl, visible⟩, ran⟩ := ran
  obtain ⟨moved, mid, ranTransition, ran⟩ := run_bind_eq_ok.mp ran
  cases moved with
  | rejected reason =>
      simp only [run_pure, Prod.mk.injEq, Except.ok.injEq] at ran
      obtain ⟨rfl, rfl⟩ := ran
      exact ⟨schema, record, _, defined, found, visible, ranTransition, rfl⟩
  | applied next source target =>
      simp only [run_get_bind, run_pure, Prod.mk.injEq, Except.ok.injEq] at ran
      obtain ⟨rfl, rfl⟩ := ran
      exact ⟨schema, record, _, defined, found, visible, ranTransition, rfl, rfl, rfl, rfl⟩

end Engine

end RecordApps
