import RecordApps.Proofs.Process.Graph
import RecordApps.Proofs.Records.Metadata

/-! # The status of a record

On an app that is managed by a process, a record starts in the initial status of the graph, and
editing it does not touch the status: input may not name it, and neither stamps nor derived
values write it.
-/

namespace RecordApps

theorem Record.moved_status (record : Record) (actor : Actor) (now : String)
    (action : ProcessAction) :
    (record.moved actor now action).status = some action.target.text := by
  rw [Record.status, moved, stampModified_get?_other (by decide) (by decide), KeyMap.get?_insert,
    if_pos rfl]
  rfl

/-- A move writes no other keys than that of the status and those of the stamp. -/
theorem Record.moved_get?_other (record : Record) (actor : Actor) (now : String)
    (action : ProcessAction) {key : String} (hkey : key ∉ Key.changing) :
    (record.moved actor now action).data.get? key = record.data.get? key := by
  obtain ⟨hstatus, hby, hat⟩ := Key.not_mem_changing_iff.1 hkey
  rw [moved, stampModified_get?_other hby hat, KeyMap.get?_insert, if_neg hstatus]

namespace Workspace

variable {ws : Workspace} {settings : Settings} {actor : Actor} {schema : AppSchema}
  {graph : ProcessGraph} {refresh : Refresh}

theorem initialStatus_eq (henabled : schema.processEnabled = true)
    (hgraph : ws.processes.get? schema.id = some graph) {initial : ProcessStatus}
    (hinitial : graph.initialStatus = .ok initial) :
    ws.initialStatus schema = .ok (some initial.id.text) := by
  rw [initialStatus, if_pos henabled, requireProcess_eq_ok.2 hgraph, Outcome.ok_bind, hinitial]
  rfl

theorem draft_status (hvalid : schema.validate = .ok ()) (henabled : schema.processEnabled = true)
    (hgraph : ws.processes.get? schema.id = some graph) {initial : ProcessStatus}
    (hinitial : graph.initialStatus = .ok initial) {input : Fields}
    (h : ws.draft settings actor schema input = .ok refresh) :
    refresh.data.get? Key.status = some (.text initial.id.text) := by
  obtain ⟨status, hstatus, hmetadata⟩ := draft_metadata hvalid h
  rw [initialStatus_eq henabled hgraph hinitial] at hstatus
  obtain rfl := Except.ok.inj hstatus
  rw [hmetadata Key.status (by decide), withStatus, KeyMap.get?_insert, if_pos rfl]

theorem revision_status (hvalid : schema.validate = .ok ())
    (henabled : schema.processEnabled = true) {record : Record} {changes : Fields}
    (h : ws.revision settings actor schema record changes = .ok refresh) :
    refresh.data.get? Key.status = record.data.get? Key.status := by
  rw [revision_metadata hvalid h (by decide), stampModified_get?_other (by decide) (by decide),
    AppSchema.freeStatus, if_pos henabled]
  rfl

/-- A user may take an action on a record where the process of its app says so. -/
theorem authorize_ok {record : Record} {id : String} {action : ProcessAction}
    (h : ws.authorize actor schema record id = .ok action) :
    ∃ graph, ws.processes.get? schema.id = some graph ∧
      graph.authorize record.status id actor.id (ws.assigneesOf schema.id record.id.text) =
        .ok action := by
  rw [authorize] at h
  split at h
  · split at h
    · cases h
    case h_2 graph hgraph => exact ⟨graph, hgraph, h⟩
  · cases h

end Workspace

end RecordApps
