import RecordApps.Engine.Bundle
import RecordApps.Proofs.Engine.Reachable
import RecordApps.Proofs.Faults

/-! # Seeding

A bundle is saved section by section. Schemas come before processes, so an app may be managed
before it has a process. Only records and assignments of the bundle look for one.
-/

namespace RecordApps

namespace Workspace

variable {ws ws' : Workspace} {code : String} {schema : AppSchema}

/-- The app with a code has a process if it is managed by one. -/
def HasProcess (ws : Workspace) (code : String) : Prop :=
  ∀ app schema, ws.schemas.get? app = some schema → schema.code.text = code →
    schema.processEnabled = true → (ws.processes.get? app).isSome = true

theorem requireApp_ok (h : ws.requireApp code = .ok schema) :
    ws.schemaByCode? code = some schema ∧
      (schema.processEnabled = true → (ws.processes.get? schema.id).isSome = true) := by
  rw [requireApp, Outcome.bind_eq_ok] at h
  obtain ⟨found, hfound, h⟩ := h
  rw [Outcome.check_bind_eq_ok, ensure_eq_ok] at h
  obtain ⟨hmanaged, h⟩ := h
  obtain rfl := Outcome.pure_eq_ok.1 h
  refine ⟨?_, fun henabled => by simpa [henabled] using hmanaged⟩
  rw [requireSchemaByCode] at hfound
  split at hfound
  case h_1 schema hschema =>
    cases hfound
    exact hschema
  case h_2 => cases hfound

theorem Coherent.hasProcess (h : ws.Coherent) (hfound : ws.requireApp code = .ok schema) :
    ws.HasProcess code := by
  intro app stored hstored hcode henabled
  obtain ⟨hfound, hmanaged⟩ := requireApp_ok hfound
  obtain ⟨other, hother⟩ := Table.mem_values_iff.1 (List.mem_of_find?_eq_some hfound)
  have hsame : schema.code.text = code := by simpa using List.find?_some hfound
  obtain rfl := h.own_code hstored hother (NonBlank.eq_of_text (hcode.trans hsame.symm))
  obtain rfl := Option.some.inj (hstored.symm.trans hother)
  rw [← h.own_id hstored]
  exact hmanaged henabled

/-- Schemas and processes are the same in two workspaces. -/
structure SameProcesses (ws ws' : Workspace) : Prop where
  schemas : ws'.schemas = ws.schemas
  processes : ws'.processes = ws.processes

namespace SameProcesses

theorem refl (ws : Workspace) : ws.SameProcesses ws := ⟨rfl, rfl⟩

theorem trans {ws'' : Workspace} (h : ws.SameProcesses ws') (h' : ws'.SameProcesses ws'') :
    ws.SameProcesses ws'' :=
  ⟨h'.schemas.trans h.schemas, h'.processes.trans h.processes⟩

theorem requireApp (h : ws.SameProcesses ws') (code : String) :
    ws'.requireApp code = ws.requireApp code := by
  simp only [Workspace.requireApp, requireSchemaByCode, schemaByCode?, h.schemas, h.processes]

theorem hasProcess (h : ws.SameProcesses ws') (hprocess : ws.HasProcess code) :
    ws'.HasProcess code := by
  intro app schema hschema
  rw [h.schemas] at hschema
  rw [h.processes]
  exact hprocess app schema hschema

end SameProcesses

end Workspace

namespace Engine

variable {α : Type} {settings : Settings} {ws ws' : Workspace}

open Workspace

/-- What every step of a sequence keeps is kept by the sequence, and what every step finds out has
    been found out in the end. -/
theorem forM_ok (keeps : Workspace → Prop) (found : α → Prop) {step : α → Engine Unit}
    {items : List α}
    (hstep : ∀ item {ws ws'}, run settings ws (step item) = (.ok (), ws') → keeps ws →
      keeps ws' ∧ found item)
    (ran : run settings ws (items.forM step) = (.ok (), ws')) (h : keeps ws) :
    keeps ws' ∧ ∀ item ∈ items, found item := by
  induction items generalizing ws with
  | nil =>
      cases ran
      exact ⟨h, by simp⟩
  | cons head rest ih =>
      obtain ⟨⟨⟩, mid, hhead, hrest⟩ := run_bind_eq_ok.1 ran
      obtain ⟨hkept, hfound⟩ := hstep head hhead h
      obtain ⟨hkept, hothers⟩ := ih hrest hkept
      exact ⟨hkept, List.forall_mem_cons.2 ⟨hfound, hothers⟩⟩

theorem permissionCall_sameProcesses (call : PermissionCall Unit)
    (ran : run settings ws call.perform = (.ok (), ws')) : ws.SameProcesses ws' := by
  obtain ⟨_, _, _, rfl⟩ := permissionCall_onlyRules call ran
  exact ⟨rfl, rfl⟩

theorem notificationCall_sameProcesses (call : NotificationCall Unit)
    (ran : run settings ws call.perform = (.ok (), ws')) : ws.SameProcesses ws' := by
  obtain ⟨_, rfl⟩ := notificationCall_onlyRules call ran
  exact ⟨rfl, rfl⟩

theorem saveSchemas_ok {schemas : List AppSchema} (h : ws.Coherent)
    (ran : run settings ws (schemas.forM saveSchema) = (.ok (), ws')) :
    ws'.Coherent ∧ ws'.processes = ws.processes := by
  refine (forM_ok (fun next => next.Coherent ∧ next.processes = ws.processes) (fun _ => True)
    (fun schema _ _ ran hkept => ⟨⟨?_, ?_⟩, trivial⟩) ran ⟨h, rfl⟩).1
  · exact saveSchema_coherent hkept.1 ran
  · obtain ⟨_, rfl⟩ := saveSchema_onlySchemas ran
    exact hkept.2

theorem saveRules_ok (call : α → ServiceCall Unit) {items : List α} (h : ws.Coherent)
    (hcall : ∀ item {ws ws'}, run settings ws (call item).perform = (.ok (), ws') →
      ws.SameProcesses ws')
    (ran : run settings ws (items.forM fun item => (call item).perform) = (.ok (), ws')) :
    ws'.Coherent ∧ ws.SameProcesses ws' :=
  (forM_ok (fun next => next.Coherent ∧ ws.SameProcesses next) (fun _ => True)
    (fun item _ _ ran hkept =>
      ⟨⟨serviceCall_coherent hkept.1 (call item) ran, hkept.2.trans (hcall item ran)⟩, trivial⟩)
    ran ⟨h, .refl ws⟩).1

theorem saveProcesses_ok {graphs : List ProcessGraph} (h : ws.Coherent)
    (ran : run settings ws (graphs.forM saveProcess) = (.ok (), ws')) :
    ws'.Coherent ∧ ∀ app, (ws'.processes.get? app).isSome = true ↔
      (ws.processes.get? app).isSome = true ∨ ∃ graph ∈ graphs, graph.app = app := by
  induction graphs generalizing ws with
  | nil =>
      cases ran
      simpa using h
  | cons head rest ih =>
      obtain ⟨⟨⟩, mid, hhead, hrest⟩ := run_bind_eq_ok.1 ran
      have hmid := processCall_coherent h (.save head) hhead
      obtain ⟨-, -, rfl⟩ := saveProcess_ok hhead
      obtain ⟨hcoherent, hprocesses⟩ := ih hmid hrest
      refine ⟨hcoherent, fun app => ?_⟩
      rw [hprocesses, Table.get?_insert]
      by_cases hhead : head.app = app
      · simp [hhead]
      · simp [hhead, Ne.symm hhead]

theorem restoreEntries_ok (code : α → String) {seeded : Workspace} {step : α → Engine Unit}
    {entries : List α} (h : seeded.Coherent)
    (hstep : ∀ entry {ws ws'}, run settings ws (step entry) = (.ok (), ws') →
      (∃ schema, ws.requireApp (code entry) = .ok schema) ∧ ws.SameProcesses ws')
    (hseeded : seeded.SameProcesses ws)
    (ran : run settings ws (entries.forM step) = (.ok (), ws')) :
    seeded.SameProcesses ws' ∧ ∀ entry ∈ entries, seeded.HasProcess (code entry) := by
  refine forM_ok seeded.SameProcesses (fun entry => seeded.HasProcess (code entry))
    (fun entry _ _ ran hsame => ?_) ran hseeded
  obtain ⟨⟨schema, hrequired⟩, hnext⟩ := hstep entry ran
  exact ⟨hsame.trans hnext, h.hasProcess (hsame.requireApp _ ▸ hrequired)⟩

theorem restoreRecord_seeded (entry : BundleRecord)
    (ran : run settings ws entry.restore = (.ok (), ws')) :
    (∃ schema, ws.requireApp entry.app = .ok schema) ∧ ws.SameProcesses ws' := by
  simp only [BundleRecord.restore, run_get_bind, run_lift_bind_eq_ok] at ran
  obtain ⟨schema, hrequired, record, -, ran⟩ := ran
  obtain ⟨_, -, rfl⟩ := restoreRecord_ok ran
  exact ⟨⟨schema, hrequired⟩, rfl, rfl⟩

theorem restoreAssignment_seeded (entry : BundleAssignment)
    (ran : run settings ws entry.restore = (.ok (), ws')) :
    (∃ schema, ws.requireApp entry.app = .ok schema) ∧ ws.SameProcesses ws' := by
  simp only [BundleAssignment.restore, run_get_bind, run_lift_bind_eq_ok, run_setAssignees] at ran
  obtain ⟨schema, hrequired, ran⟩ := ran
  obtain ⟨-, rfl⟩ := Prod.mk.inj ran
  exact ⟨⟨schema, hrequired⟩, rfl, rfl⟩

/-- The processes of a seeded workspace are those of its bundle. Apps that the bundle has records
    or assignments for have theirs. -/
theorem seed_ok {bundle : Bundle} (ran : run settings .empty bundle.seed = (.ok (), ws)) :
    (∀ app schema, ws.schemas.get? app = some schema → schema.id = app) ∧
      (∀ app, (ws.processes.get? app).isSome = true ↔
        ∃ graph ∈ bundle.processes, graph.app = app) ∧
      (∀ entry ∈ bundle.records, ws.HasProcess entry.app) ∧
      ∀ entry ∈ bundle.assignments, ws.HasProcess entry.app := by
  simp only [Bundle.seed, run_bind_eq_ok] at ran
  obtain ⟨_, ws₁, schemas, _, ws₂, rows, _, ws₃, fields, _, ws₄, rules, _, ws₅, graphs, _, ws₆,
    notifications, _, ws₇, records, assignments⟩ := ran
  obtain ⟨hcoherent, hnone⟩ := saveSchemas_ok empty_coherent schemas
  obtain ⟨hcoherent, hrows⟩ := saveRules_ok (.permissions <| .saveApp ·) hcoherent
    (fun row _ _ ran => permissionCall_sameProcesses (.saveApp row) ran) rows
  obtain ⟨hcoherent, hfields⟩ := saveRules_ok (.permissions <| .saveField ·) hcoherent
    (fun row _ _ ran => permissionCall_sameProcesses (.saveField row) ran) fields
  obtain ⟨hcoherent, hrules⟩ := saveRules_ok (.permissions <| .saveRecord ·) hcoherent
    (fun rule _ _ ran => permissionCall_sameProcesses (.saveRecord rule) ran) rules
  obtain ⟨hcoherent, hgraphs⟩ := saveProcesses_ok hcoherent graphs
  obtain ⟨hcoherent, hnotified⟩ := saveRules_ok (.notifications <| .save ·) hcoherent
    (fun rule _ _ ran => notificationCall_sameProcesses (.save rule) ran) notifications
  obtain ⟨hloaded, hrecords⟩ := restoreEntries_ok BundleRecord.app hcoherent
    (fun entry _ _ ran => restoreRecord_seeded entry ran) (.refl ws₆) records
  obtain ⟨hseeded, hassignments⟩ := restoreEntries_ok BundleAssignment.app hcoherent
    (fun entry _ _ ran => restoreAssignment_seeded entry ran) hloaded assignments
  refine ⟨fun app schema hschema => ?_, fun app => ?_,
    fun entry hentry => hseeded.hasProcess (hrecords entry hentry),
    fun entry hentry => hseeded.hasProcess (hassignments entry hentry)⟩
  · exact hcoherent.own_id (hseeded.schemas ▸ hschema)
  · rw [(hnotified.trans hseeded).processes, hgraphs,
      (hrows.trans (hfields.trans hrules)).processes, hnone]
    simp [empty, Table.get?, Table.empty]

/-! ## New records -/

theorem createRecord_misses_process {actor : Actor} {app : AppId} {input : Fields} {code : String}
    (h : (run settings ws (createRecord actor app input)).1 = .error (.notFound (.process code))) :
    ∃ schema, ws.schemas.get? app = some schema ∧ ws.processes.get? schema.id = none := by
  have hraises : (run settings ws (createRecord actor app input)).1.RaisesOnly fun fault =>
      fault = .notFound (.process code) →
        ∃ schema, ws.schemas.get? app = some schema ∧ ws.processes.get? schema.id = none := by
    refine createRecord_raises ?_ (fun schema hschema fault => ?_) input
    · rintro _ hordinary rfl
      exact hordinary.elim
    · rintro hstatus rfl
      refine ⟨schema, hschema, ?_⟩
      rw [initialStatus] at hstatus
      split at hstatus
      case isFalse => cases hstatus
      case isTrue =>
        rw [requireProcess] at hstatus
        split at hstatus
        case h_2 hnone => exact hnone
        case h_1 graph _ =>
          rw [Outcome.ok_bind, ProcessGraph.initialStatus] at hstatus
          split at hstatus <;> cases hstatus
  exact hraises _ h rfl

theorem run_createRecord_without_process {actor : Actor} {app : AppId} {schema : AppSchema}
    (hschema : ws.schemas.get? app = some schema) (henabled : schema.processEnabled = true)
    (hnone : ws.processes.get? schema.id = none)
    (hadd : (ws.access actor schema none).app.mayAdd = true) :
    (run settings ws (createRecord actor app .empty)).1 =
      .error (.notFound (.process schema.code.text)) := by
  have hstatus : ws.initialStatus schema = .error (.notFound (.process schema.code.text)) := by
    rw [initialStatus, if_pos henabled, requireProcess, hnone]
    rfl
  have hwritable : (ws.access actor schema none).fields.checkAllWritable schema .empty = .ok () :=
    rfl
  have hinput : schema.checkInput .empty = .ok () := rfl
  have hdraft : ws.draft settings actor schema .empty =
      .error (.notFound (.process schema.code.text)) := by
    simp only [draft, hadd, if_true, hwritable, hinput, hstatus, Outcome.ok_bind,
      Outcome.error_bind]
  simp only [createRecord, run_get_bind, run_read_bind]
  rw [run_ok_bind (requireSchema_eq_ok.2 hschema), run_bind, run_lift, hdraft]

end Engine

namespace Workspace

variable {settings : Settings} {bundle : Bundle} {ws : Workspace} {app : AppId}
  {schema : AppSchema}

/-- A managed app has a process after seeding exactly if the bundle brings one for it, and then no
    new record misses it; else nobody who may add records can add one. A bundle with records or
    assignments for the app always brings its process. -/
theorem seeded_processes (ran : Engine.run settings .empty bundle.seed = (.ok (), ws))
    (hschema : ws.schemas.get? app = some schema) (henabled : schema.processEnabled = true) :
    ((ws.processes.get? app).isSome = true ↔ ∃ graph ∈ bundle.processes, graph.app = app) ∧
    ((∃ entry ∈ bundle.records, entry.app = schema.code.text) ∨
      (∃ entry ∈ bundle.assignments, entry.app = schema.code.text) →
        (ws.processes.get? app).isSome = true) ∧
    (∀ (settings' : Settings) (actor : Actor) (input : Fields) (code : String),
      (Engine.run settings' ws (Engine.createRecord actor app input)).1 =
        .error (.notFound (.process code)) → ws.processes.get? app = none) ∧
    (ws.processes.get? app = none → ∀ (settings' : Settings) (actor : Actor),
      (ws.access actor schema none).app.mayAdd = true →
        (Engine.run settings' ws (Engine.createRecord actor app .empty)).1 =
          .error (.notFound (.process schema.code.text))) := by
  obtain ⟨hown, hprocesses, hrecords, hassignments⟩ := Engine.seed_ok ran
  obtain rfl := hown _ _ hschema
  refine ⟨hprocesses _, ?_, fun settings' actor input code hmissed => ?_, ?_⟩
  · rintro (⟨entry, hentry, hcode⟩ | ⟨entry, hentry, hcode⟩)
    · exact hrecords entry hentry _ _ hschema hcode.symm henabled
    · exact hassignments entry hentry _ _ hschema hcode.symm henabled
  · obtain ⟨stored, hstored, hnone⟩ := Engine.createRecord_misses_process hmissed
    obtain rfl := Option.some.inj (hschema.symm.trans hstored)
    exact hnone
  · exact fun hnone _ _ => Engine.run_createRecord_without_process hschema henabled hnone

end Workspace

namespace Orders

/-- The orders with their process. -/
def bundle : Bundle where
  schemas := [schema]
  appPermissions := [clerkRow]
  fieldPermissions := []
  recordRules := []
  processes := [graph]
  notificationRules := []
  records := [⟨"orders", "r", 1, .empty⟩]
  assignments := []

/-- The orders before anybody has drawn their process, and before there is one. -/
def unprocessed : Bundle :=
  { bundle with processes := [], records := [] }

/-- The workspace that a bundle seeds. -/
def seeded (bundle : Bundle) : Workspace :=
  (Engine.run settings .empty bundle.seed).2

end Orders

namespace Workspace

/-- The orders come with their process. -/
theorem seeded_processes_orders :
    Engine.run Orders.settings .empty Orders.bundle.seed = (.ok (), Orders.seeded Orders.bundle) ∧
    (Orders.seeded Orders.bundle).schemas.get? Orders.app = some Orders.schema ∧
    Orders.schema.processEnabled = true ∧
    ((Orders.seeded Orders.bundle).processes.get? Orders.app).isSome = true := by
  have ran : Engine.run Orders.settings .empty Orders.bundle.seed =
      (.ok (), Orders.seeded Orders.bundle) := rfl
  have hschema : (Orders.seeded Orders.bundle).schemas.get? Orders.app = some Orders.schema := rfl
  obtain ⟨hprocesses, -⟩ := seeded_processes ran hschema rfl
  exact ⟨ran, hschema, rfl, hprocesses.2 ⟨Orders.graph, List.mem_cons_self, rfl⟩⟩

/-- An app may be seeded as a managed one without a process, and then takes no records. -/
theorem seeded_without_process :
    Engine.run Orders.settings .empty Orders.unprocessed.seed =
      (.ok (), Orders.seeded Orders.unprocessed) ∧
    (Orders.seeded Orders.unprocessed).schemas.get? Orders.app = some Orders.schema ∧
    Orders.schema.processEnabled = true ∧
    (Orders.seeded Orders.unprocessed).processes.get? Orders.app = none ∧
    (Engine.run Orders.settings (Orders.seeded Orders.unprocessed)
      (Engine.createRecord Orders.clerk Orders.app .empty)).1 =
        .error (.notFound (.process "orders")) :=
  ⟨rfl, rfl, rfl, rfl, rfl⟩

end Workspace

end RecordApps
