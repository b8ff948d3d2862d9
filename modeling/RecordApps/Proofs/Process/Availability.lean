import RecordApps.Proofs.Engine.Reachable
import RecordApps.Proofs.Engine.RecordFrame
import RecordApps.Proofs.Process.Status

/-! # Which actions are available

The actions that are listed for a record are those that would be applied. One path looks for
edges that lead away from the status, the other one looks up an action by its id; the two agree
because the ids of the actions of a stored graph are distinct.
-/

namespace RecordApps

namespace ProcessGraph

variable {graph : ProcessGraph} {current : Option String} {actor : String}
  {assignees : List String}

/-- Among the edges that lead away from a status, no permitted action is missed. -/
theorem filter_actionsFrom (hvalid : graph.validate = .ok ()) (current : Option String)
    (actor : String) (assignees : List String) :
    ((graph.actionsFrom (current.getD "")).filter fun action =>
        (graph.authorize current action.id.text actor assignees).isOk) =
      graph.actions.filter fun action =>
        (graph.authorize current action.id.text actor assignees).isOk := by
  rw [actionsFrom, List.filter_filter]
  refine List.filter_congr fun action hmem => ?_
  cases hpermitted : graph.authorize current action.id.text actor assignees with
  | error reason => rfl
  | ok found =>
      obtain ⟨hfound, hid, hcurrent, -⟩ := authorize_ok hpermitted
      obtain rfl := eq_of_action_id hvalid hfound hmem hid
      rw [hcurrent]
      simp [Except.isOk, Except.toBool]

end ProcessGraph

namespace Engine

open Workspace

variable {α : Type} {settings : Settings} {ws ws' : Workspace} {actor : Actor} {app : AppId}
  {schema : AppSchema} {record : Record} {id action : String}

/-! ## Requests to act are answered -/

theorem transition_answers (settings : Settings) (actor : Actor) (action : String)
    (hrecord : ws.store.find? schema.code.text record.id.text = some record) :
    ∃ outcome ws', run settings ws (transition actor schema record action) =
      (.ok outcome, ws') := by
  simp only [transition, run_get_bind]
  cases ws.authorize actor schema record action with
  | error reason => exact ⟨_, _, rfl⟩
  | ok taken =>
      obtain ⟨store, hstore⟩ :=
        RecordStore.update_self (record.moved actor settings.now taken) hrecord rfl
      have hwrite : run settings ws (updateRecordStore schema.code.text
            (record.moved actor settings.now taken) record.status) = (.ok (), _) :=
        run_updateRecordStore hstore
      simp only [run_read_bind]
      exact ⟨_, _, run_bind_eq_ok.2
        ⟨(), _, hwrite, run_bind_eq_ok.2 ⟨⟨⟩, _, run_setAssignees _ _, rfl⟩⟩⟩

theorem executeAction_answers (settings : Settings) (action : String)
    (hschema : ws.schemas.get? app = some schema)
    (hrecord : ws.store.find? schema.code.text id = some record)
    (hview : (ws.access actor schema (some record)).record.mayView = true) :
    ∃ outcome ws', run settings ws (executeAction actor app id action) = (.ok outcome, ws') := by
  have hfound : ws.store.find? schema.code.text record.id.text = some record := by
    rw [RecordStore.find?_id hrecord, hrecord]
  obtain ⟨moved, after, hmoved⟩ := transition_answers settings actor action hfound
  simp only [executeAction, run_get_bind, run_read_bind]
  rw [run_ok_bind (requireSchema_eq_ok.2 hschema), run_ok_bind (requireRecord_eq_ok.2 hrecord),
    run_ok_bind (requireAccess_eq_ok.2 ⟨rfl, hview⟩), run_bind, hmoved]
  cases moved with
  | rejected reason => exact ⟨_, _, rfl⟩
  | applied next source target => exact ⟨_, _, rfl⟩

/-- Whether a request to act is applied. -/
def applies (settings : Settings) (ws : Workspace) (actor : Actor) (app : AppId)
    (id action : String) : Bool :=
  match (run settings ws (executeAction actor app id action)).1 with
  | .ok (.applied _ _ _ _) => true
  | .ok (.rejected _) => false
  | .error _ => false

theorem applies_eq (settings : Settings) (action : String)
    (hschema : ws.schemas.get? app = some schema)
    (hrecord : ws.store.find? schema.code.text id = some record)
    (hview : (ws.access actor schema (some record)).record.mayView = true) :
    applies settings ws actor app id action = (ws.authorize actor schema record action).isOk := by
  obtain ⟨outcome, ws', ran⟩ := executeAction_answers settings action hschema hrecord hview
  obtain ⟨stored, found, moved, hstored, hfound, -, hmoved, hshown⟩ := executeAction_ok ran
  obtain rfl : stored = schema := Option.some.inj (hstored.symm.trans hschema)
  obtain rfl : found = record := Option.some.inj (hfound.symm.trans hrecord)
  rw [applies, ran]
  rcases transition_ok hmoved with ⟨reason, hrefused, rfl, -⟩ | ⟨taken, _, hallowed, -, rfl, -⟩
  · rw [hrefused]
    cases outcome with
    | rejected reason => rfl
    | applied => exact hshown.elim
  · rw [hallowed]
    cases outcome with
    | rejected reason => exact hshown.elim
    | applied => rfl

/-! ## Stored processes are valid -/

/-- What a request does to the processes: nothing, or it saves a valid one. -/
inductive ProcessStep (ws ws' : Workspace) : Prop where
  | kept : ws'.processes = ws.processes → ProcessStep ws ws'
  | saved {graph : ProcessGraph} : graph.validate = .ok () →
      ws'.processes = ws.processes.insert graph.app graph → ProcessStep ws ws'

theorem processCall_processes (call : ProcessCall α) {answer : α}
    (ran : run settings ws call.perform = (.ok answer, ws')) : ProcessStep ws ws' := by
  cases call with
  | save graph =>
      obtain ⟨hvalid, -, rfl⟩ := saveProcess_ok ran
      exact .saved hvalid rfl
  | switch app enabled =>
      obtain ⟨_, -, -, saved⟩ := setProcessEnabled_ok ran
      obtain ⟨_, rfl⟩ := saveSchema_onlySchemas saved
      exact .kept rfl
  | assign schema record assignees => exact .kept (assign_step ran).definitions.processes
  | transition actor schema record action => exact .kept (transition_step ran).definitions.processes
  | initialStatus | actions => exact .kept (by rw [(processCall_onlyReads rfl).unchanged ran])

theorem serviceCall_processes (call : ServiceCall α) {answer : α}
    (ran : run settings ws call.perform = (.ok answer, ws')) : ProcessStep ws ws' := by
  cases call with
  | records actor app call => exact .kept (recordCall_step call ran).definitions.processes
  | processes call => exact processCall_processes call ran
  | schemas call =>
      obtain ⟨_, rfl⟩ := schemaCall_onlySchemas call ran
      exact .kept rfl
  | permissions call =>
      obtain ⟨_, _, _, rfl⟩ := permissionCall_onlyRules call ran
      exact .kept rfl
  | notifications call =>
      obtain ⟨_, rfl⟩ := notificationCall_onlyRules call ran
      exact .kept rfl

end Engine

namespace Workspace

variable {ws ws' : Workspace} {settings : Settings} {actor : Actor} {app : AppId}
  {schema : AppSchema} {graph : ProcessGraph} {record : Record} {id : String}

/-- Every stored process is a valid graph. -/
def ValidProcesses (ws : Workspace) : Prop :=
  ∀ app graph, ws.processes.get? app = some graph → graph.validate = .ok ()

theorem ValidProcesses.step (h : ws.ValidProcesses) (hstep : Engine.ProcessStep ws ws') :
    ws'.ValidProcesses := by
  intro app graph hgraph
  cases hstep with
  | kept hkept => exact h app graph (hkept ▸ hgraph)
  | saved hvalid hsaved =>
      rw [hsaved, Table.get?_insert] at hgraph
      split at hgraph
      case isTrue =>
        cases hgraph
        exact hvalid
      case isFalse => exact h app graph hgraph

theorem Reachable.validProcesses (h : ws.Reachable) : ws.ValidProcesses := by
  induction h with
  | empty =>
      intro app graph hgraph
      cases hgraph
  | served settings call _ ih =>
      exact Engine.serve_keeps ih fun ran => ih.step (Engine.serviceCall_processes call ran)
  | restored _ ran _ ih =>
      obtain ⟨_, -, rfl⟩ := Engine.restoreRecord_ok ran
      exact ih
  | assigned app record assignees _ ih => exact ih

/-! ## Lists and moves agree -/

theorem authorize_eq (henabled : schema.processEnabled = true)
    (hgraph : ws.processes.get? schema.id = some graph) (actor : Actor) (record : Record)
    (action : String) :
    ws.authorize actor schema record action =
      graph.authorize record.status action actor.id
        (ws.assigneesOf schema.id record.id.text) := by
  simp only [authorize, henabled, hgraph, if_true]

theorem actionsOn_eq (henabled : schema.processEnabled = true)
    (hgraph : ws.processes.get? schema.id = some graph) (hvalid : graph.validate = .ok ())
    (hschema : ws.schemas.get? app = some schema)
    (hrecord : ws.store.find? schema.code.text id = some record)
    (hview : (ws.access actor schema (some record)).record.mayView = true) :
    ws.actionsOn actor app id = .ok (graph.actions.filter fun action =>
      (ws.authorize actor schema record action.id.text).isOk) := by
  rw [actionsOn, requireSchema_eq_ok.2 hschema, Outcome.ok_bind, requireRecord_eq_ok.2 hrecord,
    Outcome.ok_bind, requireAccess_eq_ok.2 ⟨rfl, hview⟩, Outcome.ok_bind, availableActions,
    if_pos henabled, requireProcess_eq_ok.2 hgraph, Outcome.ok_bind]
  simp only [authorize_eq henabled hgraph]
  exact congrArg Except.ok (ProcessGraph.filter_actionsFrom hvalid _ _ _)

/-- The actions that are listed for a record tell the truth. They are those of the graph, in its
    order, for which a request of the same actor would be applied, and no other request would. -/
theorem available_actions_applied (settings : Settings) (h : ws.Reachable)
    (hschema : ws.schemas.get? app = some schema) (henabled : schema.processEnabled = true)
    (hgraph : ws.processes.get? app = some graph)
    (hrecord : ws.store.find? schema.code.text id = some record)
    (hview : (ws.access actor schema (some record)).record.mayView = true) :
    ∃ listed, ws.actionsOn actor app id = .ok listed ∧
      listed = graph.actions.filter (fun action =>
        Engine.applies settings ws actor app id action.id.text) ∧
      ∀ action, Engine.applies settings ws actor app id action = true ↔
        action ∈ listed.map (·.id.text) := by
  obtain rfl := h.coherent.own_id hschema
  have hvalid := h.validProcesses _ _ hgraph
  have happlies := fun action =>
    Engine.applies_eq settings action hschema hrecord hview
  refine ⟨_, actionsOn_eq henabled hgraph hvalid hschema hrecord hview, ?_, fun action => ?_⟩
  · simp only [happlies]
  · rw [happlies, List.mem_map]
    constructor
    · intro hallowed
      cases htaken : ws.authorize actor schema record action with
      | error reason => rw [htaken] at hallowed; cases hallowed
      | ok taken =>
          rw [authorize_eq henabled hgraph] at htaken
          obtain ⟨hmem, hid, -⟩ := ProcessGraph.authorize_ok htaken
          refine ⟨taken, List.mem_filter.2 ⟨hmem, ?_⟩, hid⟩
          rw [hid]
          exact hallowed
    · rintro ⟨taken, hmem, rfl⟩
      exact (List.mem_filter.1 hmem).2

/-- The clerk may finish the order, and is told so; there is nothing else to do. -/
theorem available_actions_applied_orders :
    Orders.workspace.Reachable ∧
    Orders.workspace.schemas.get? Orders.app = some Orders.schema ∧
    Orders.workspace.processes.get? Orders.app = some Orders.graph ∧
    ∃ listed, Orders.workspace.actionsOn Orders.clerk Orders.app "r" = .ok listed ∧
      "finish" ∈ listed.map (·.id.text) ∧ "cancel" ∉ listed.map (·.id.text) := by
  have hreachable : Orders.workspace.Reachable := defined_reachable.served _ _
  have hschema : Orders.workspace.schemas.get? Orders.app = some Orders.schema := rfl
  have hgraph : Orders.workspace.processes.get? Orders.app = some Orders.graph := rfl
  obtain ⟨record, hrecord, hview⟩ : ∃ record,
      Orders.workspace.store.find? "orders" "r" = some record ∧
        (Orders.workspace.access Orders.clerk Orders.schema (some record)).record.mayView = true :=
    ⟨_, rfl, rfl⟩
  obtain ⟨listed, hlisted, -, happlied⟩ := available_actions_applied Orders.settings hreachable
    hschema rfl hgraph hrecord hview
  refine ⟨hreachable, hschema, hgraph, listed, hlisted, (happlied "finish").1 rfl, ?_⟩
  intro hcancel
  have happlies := (happlied "cancel").2 hcancel
  cases happlies

end Workspace

end RecordApps
