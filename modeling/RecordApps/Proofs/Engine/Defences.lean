import RecordApps.Proofs.Faults
import RecordApps.Proofs.Process.Availability
import RecordApps.Proofs.Schema.History
import RecordApps.Proofs.Records.CalculatedValues

/-! # Branches that are never taken

Some branches of the services guard against definitions that no save lets through: a graph without
an initial status, a final status that takes assignees, formulas that cannot be read or ordered.
Every stored definition has been checked when it was saved, and no later request breaks it.
-/

namespace RecordApps

open Outcome

namespace ProcessGraph

variable {graph : ProcessGraph}

theorem checkStatuses_ok {seen : List String} {statuses : List ProcessStatus}
    (h : checkStatuses seen statuses = .ok ()) :
    ∀ status ∈ statuses, status.validate = .ok () := by
  induction statuses generalizing seen with
  | nil => simp
  | cons head rest ih =>
      rw [checkStatuses, check_bind_eq_ok, check_bind_eq_ok] at h
      exact List.forall_mem_cons.2 ⟨h.1, ih h.2.2⟩

theorem final_takes_none (h : graph.validate = .ok ()) {id : String} {status : ProcessStatus}
    (hstatus : graph.status? id = some status) :
    (status.final && status.takesAssignees) = false := by
  rw [validate, check_bind_eq_ok, check_bind_eq_ok] at h
  have hvalid := checkStatuses_ok h.2.1 status (List.mem_of_find?_eq_some hstatus)
  rwa [ProcessStatus.validate, ensure_eq_ok, Bool.not_eq_true'] at hvalid

theorem not_openAssignment (h : graph.validate = .ok ()) (current : Option String)
    (id actor status : String) (assignees : List String) :
    graph.authorize current id actor assignees ≠ .error (.openAssignment status) := by
  rw [authorize]
  cases graph.action? id with
  | none => simp
  | some action =>
      have hends : (graph.status? action.target.text).any
          (fun s => s.final && s.takesAssignees) = false := by
        cases htarget : graph.status? action.target.text with
        | none => rfl
        | some target => simpa using final_takes_none h htarget
      dsimp only
      rw [hends]
      split
      case isTrue => simp
      case isFalse =>
        split
        case isTrue => simp
        case isFalse => simp

end ProcessGraph

/-! ## Derived values -/

namespace Refresh

/-- Fields could be computed, and those without a value lack it for the record at hand. -/
structure Calculable (report : DerivedReport) : Prop where
  ordered : report.configurationError = none
  readable : ∀ code position cause,
    report.formulaErrors.get? code ≠ some (.malformed position cause)

theorem refreshLookup_calculable {store : RecordStore} {changed : Option (List String)}
    {state : Refresh} (h : Calculable state.report) (f : FieldDefinition) :
    Calculable (state.refreshLookup store changed f).report := by
  rw [refreshLookup]
  split
  · dsimp only
    split
    · rw [applyLookup]
      split <;> exact ⟨h.ordered, h.readable⟩
    · exact h
  · exact h

theorem calculate_calculable {state : Refresh} (h : Calculable state.report) (c : Calculation) :
    Calculable (state.calculate c).report := by
  rw [calculate]
  cases hresult : c.formula.evaluate state.data with
  | ok result =>
      dsimp only
      split <;> exact ⟨h.ordered, h.readable⟩
  | error cause =>
      refine ⟨h.ordered, fun code position broken => ?_⟩
      rw [KeyMap.get?_insert]
      split
      case isTrue =>
        rcases Formula.evaluate_error hresult with rfl | rfl <;> simp
      case isFalse => exact h.readable code position broken

theorem foldl_calculable {ι : Type} {step : Refresh → ι → Refresh}
    (hstep : ∀ {state}, Calculable state.report → ∀ i, Calculable (step state i).report)
    (items : List ι) {state : Refresh} (h : Calculable state.report) :
    Calculable (items.foldl step state).report := by
  induction items generalizing state with
  | nil => exact h
  | cons head rest ih => exact ih (hstep h head)

end Refresh

theorem AppSchema.recompute_calculable {schema : AppSchema} (h : schema.validate = .ok ())
    (store : RecordStore) (data : Fields) (changed : Option (List String)) :
    Refresh.Calculable (schema.recompute store data changed).report := by
  obtain ⟨-, -, ⟨order, horder⟩, -⟩ := validate_ok h
  rw [recompute, Refresh.calculateAll, horder]
  refine Refresh.foldl_calculable Refresh.calculate_calculable order ?_
  refine Refresh.foldl_calculable Refresh.refreshLookup_calculable schema.activeFields ?_
  exact ⟨rfl, fun code position cause => by simp [DerivedReport.empty]⟩

/-! ## Requests about records -/

namespace Workspace

variable {ws : Workspace} {settings : Settings}

theorem requireProcess_explained (schema : AppSchema) :
    (ws.requireProcess schema).RaisesOnly (Fault.Explained settings) := by
  rw [requireProcess]
  cases ws.processes.get? schema.id with
  | none => exact .error trivial
  | some graph => exact .ok graph

theorem initialStatus_explained (h : ws.ValidProcesses) (schema : AppSchema) :
    (ws.initialStatus schema).RaisesOnly (Fault.Explained settings) := by
  rw [initialStatus]
  split
  · refine .bind (requireProcess_explained schema) fun graph hgraph => ?_
    have hvalid := h _ _ (requireProcess_eq_ok.1 hgraph)
    obtain ⟨status, -, hinitial⟩ := ProcessGraph.single_initial hvalid
    rw [hinitial]
    exact .ok _
  · exact .ok none

theorem availableActions_explained (actor : Actor) (schema : AppSchema) (record : Record) :
    (ws.availableActions actor schema record).RaisesOnly (Fault.Explained settings) := by
  rw [availableActions]
  split
  · exact .bind (requireProcess_explained schema) fun graph _ => .ok _
  · exact .ok []

theorem assignment_explained (schema : AppSchema) (record : Record) (assignees : List String) :
    (ws.assignment schema record assignees).RaisesOnly (Fault.Explained settings) := by
  rw [assignment]
  refine .bind (requireProcess_explained schema) fun graph _ => ?_
  dsimp only
  cases (graph.status? (record.status.getD "")).bind ProcessStatus.assigneeType with
  | none => exact .error trivial
  | some type =>
      refine .bind (RaisesOnly.ensure _ _).explained fun _ _ => ?_
      exact .bind (RaisesOnly.ensure _ _).explained fun _ _ => .ok _

theorem notifications_explained (app : AppId) (trigger : Trigger) (record : Record) :
    (ws.notifications settings app trigger record).RaisesOnly (Fault.Explained settings) := by
  refine .bind (requireSchema_raises app).explained fun schema _ => ?_
  split
  · exact .ok _
  case isFalse hunreachable => exact .error ⟨rfl, by simpa using hunreachable⟩

theorem actionsOn_explained (actor : Actor) (app : AppId) (id : String) :
    (ws.actionsOn actor app id).RaisesOnly (Fault.Explained settings) := by
  refine .bind (requireSchema_raises app).explained fun schema _ => ?_
  refine .bind (requireRecord_raises schema id).explained fun record _ => ?_
  refine .bind (requireAccess_raises actor schema record).explained fun _ _ => ?_
  exact availableActions_explained actor schema record

theorem comment_explained (actor : Actor) (app : AppId) (id text : String) :
    (ws.comment settings actor app id text).RaisesOnly (Fault.Explained settings) := by
  refine .bind (RaisesOnly.ensure _ _).explained fun _ _ => ?_
  refine .bind (requireSchema_raises app).explained fun schema _ => ?_
  refine .bind (requireRecord_raises schema id).explained fun record _ => ?_
  refine .bind (requireAccess_raises actor schema record).explained fun _ _ => ?_
  exact notifications_explained app .commentAdded record

end Workspace

namespace Engine

variable {α : Type} {settings : Settings} {ws : Workspace} {actor : Actor} {app : AppId}

open Workspace

theorem transition_explained (schema : AppSchema) (record : Record) (action : String) :
    (run settings ws (transition actor schema record action)).1.RaisesOnly
      (Fault.Explained settings) := by
  simp only [transition, run_get_bind]
  cases ws.authorize actor schema record action with
  | error reason => exact .ok _
  | ok taken =>
      simp only [run_read_bind]
      refine run_bind_raises ?_ fun _ _ _ => ?_
      · exact (updateRecordStore_raises _ _ _).explained
      · exact run_bind_raises (.ok _) fun _ _ _ => .ok _

theorem executeAction_explained (id action : String) :
    (run settings ws (executeAction actor app id action)).1.RaisesOnly
      (Fault.Explained settings) := by
  simp only [executeAction, run_read_bind, run_get_bind]
  refine run_lift_raises (requireSchema_raises app).explained fun schema _ => ?_
  refine run_lift_raises (requireRecord_raises schema id).explained fun record _ => ?_
  refine run_lift_raises (requireAccess_raises actor schema record).explained fun _ _ => ?_
  refine run_bind_raises (transition_explained schema record action) fun outcome _ _ => ?_
  cases outcome with
  | applied | rejected => exact .ok _

theorem assignRecord_explained (id : String) (assignees : List String) :
    (run settings ws (assignRecord actor app id assignees)).1.RaisesOnly
      (Fault.Explained settings) := by
  simp only [assignRecord, run_get_bind]
  refine run_lift_raises (requireSchema_raises app).explained fun schema _ => ?_
  refine run_lift_raises (requireRecord_raises schema id).explained fun record _ => ?_
  refine run_lift_raises (requireAccess_raises actor schema record).explained fun _ _ => ?_
  split
  · simp only [assign, run_get_bind]
    exact run_lift_raises (assignment_explained schema record assignees) fun _ _ => .ok _
  · exact .error trivial

/-- No request about records reports a breakdown, as long as the notification rules can be
    reached. -/
theorem recordCall_explained (h : ws.ValidProcesses) (call : RecordCall α) :
    (run settings ws (call.perform actor app)).1.RaisesOnly (Fault.Explained settings) := by
  cases call with
  | create input =>
      exact createRecord_raises (fun _ hordinary => hordinary.explained settings)
        (fun schema _ => initialStatus_explained h schema) input
  | update id changes => exact (updateRecord_raises id changes).explained
  | delete id => exact (deleteRecord_raises id).explained
  | act id action => exact executeAction_explained id action
  | assign id assignees => exact assignRecord_explained id assignees
  | read id =>
      simp only [RecordCall.perform, run_read_bind, run_get_bind, run_lift]
      exact (readRecord_raises id).explained
  | list filter =>
      simp only [RecordCall.perform, run_read_bind, run_get_bind, run_lift]
      exact (listRecords_raises filter).explained
  | related id field =>
      simp only [RecordCall.perform, run_get_bind, run_lift]
      exact (relatedRecords_raises id field).explained
  | actions id =>
      simp only [RecordCall.perform, run_get_bind, run_lift]
      exact actionsOn_explained actor app id
  | comment id text =>
      simp only [RecordCall.perform, run_read_bind, run_get_bind, run_lift]
      exact comment_explained actor app id text

theorem executeAction_not_openAssignment (h : ws.ValidProcesses) (id action status : String) :
    (run settings ws (executeAction actor app id action)).1 ≠
      .ok (.rejected (.openAssignment status)) := by
  intro hrejected
  obtain ⟨schema, record, moved, -, -, -, hmoved, hshown⟩ :=
    executeAction_ok (Prod.ext hrejected rfl)
  obtain ⟨reason, hrefused, rfl, -⟩ | ⟨_, _, -, -, rfl, -⟩ := transition_ok hmoved
  · obtain rfl : .openAssignment status = reason := hshown
    rw [authorize] at hrefused
    split at hrefused
    · split at hrefused
      · cases hrefused
      · exact ProcessGraph.not_openAssignment (h _ _ ‹_›) _ _ _ _ _ hrefused
    · cases hrefused
  · exact hshown

end Engine

namespace Workspace

variable {ws : Workspace}

/-- What guards against broken definitions never comes up. In every workspace that comes about, no
    request about records reports a breakdown other than notification rules that cannot be
    reached, the calculated fields of every stored app can be read and put in order whatever the
    record and whichever of its fields have changed, and no action is refused for an open
    assignment on a final status. -/
theorem defences_never_met (h : ws.Reachable) (settings : Settings) :
    (∀ {α : Type} (actor : Actor) (app : AppId) (call : RecordCall α) (cause : Breakdown),
      (Engine.run settings ws (call.perform actor app)).1 = .error (.internal cause) →
        cause = .storeUnavailable ∧ settings.rulesReachable = false) ∧
    (∀ (app : AppId) (schema : AppSchema), ws.schemas.get? app = some schema →
      ∀ (store : RecordStore) (data : Fields) (changed : Option (List String)),
        (schema.recompute store data changed).report.configurationError = none ∧
        ∀ code position cause,
          (schema.recompute store data changed).report.formulaErrors.get? code ≠
            some (.malformed position cause)) ∧
    ∀ (actor : Actor) (app : AppId) (id action status : String),
      (Engine.run settings ws (Engine.executeAction actor app id action)).1 ≠
        .ok (.rejected (.openAssignment status)) := by
  refine ⟨fun actor app call cause => ?_, fun app schema hschema store data changed => ?_, ?_⟩
  · exact Engine.recordCall_explained h.validProcesses call (.internal cause)
  · obtain ⟨hordered, hreadable⟩ :=
      AppSchema.recompute_calculable (h.schema_saved hschema).1 store data changed
    exact ⟨hordered, hreadable⟩
  · exact fun actor app => Engine.executeAction_not_openAssignment h.validProcesses

end Workspace

namespace Orders

/-- The priced orders go through the process, the charge is no longer in use, and there is one
    order. -/
def managed : Workspace :=
  let ws := priced.serve settings (.processes (.save graph))
  let ws := ws.serve settings (.processes (.switch app true))
  let ws := ws.serve settings (.schemas (.retireField clerk app "charge"))
  ws.serve settings
    (.records clerk app (.create (.ofList [("price", .int 2), ("amount", .int 3)])))

end Orders

namespace Workspace

/-- In the small app, the total is still calculated, and to finish the order breaks nothing. -/
theorem defences_never_met_orders :
    Orders.managed.Reachable ∧
    (∃ schema, Orders.managed.schemas.get? Orders.app = some schema ∧
      schema.processEnabled = true ∧
      ∀ store data, (schema.recompute store data none).report.configurationError = none) ∧
    (Orders.managed.store.records "orders").length = 1 ∧
    ∀ cause, (Engine.run Orders.settings Orders.managed
      (Engine.executeAction Orders.clerk Orders.app "r" "finish")).1 ≠
        .error (.internal cause) := by
  have hreachable : Orders.managed.Reachable :=
    Reachable.empty.served _ _ |>.served _ _ |>.served _ _ |>.served _ _ |>.served _ _
      |>.served _ _
  obtain ⟨hexplained, hcalculable, -⟩ := defences_never_met hreachable Orders.settings
  refine ⟨hreachable, ?_, by decide +kernel, fun cause hbroken => ?_⟩
  · obtain ⟨schema, hschema, henabled⟩ : ∃ schema,
        Orders.managed.schemas.get? Orders.app = some schema ∧ schema.processEnabled = true :=
      ⟨_, by with_unfolding_all rfl, by with_unfolding_all rfl⟩
    exact ⟨schema, hschema, henabled, fun store data => (hcalculable _ _ hschema store data none).1⟩
  · obtain ⟨-, hunreachable⟩ :=
      hexplained Orders.clerk Orders.app (.act "r" "finish") cause hbroken
    cases hunreachable

end Workspace

end RecordApps
