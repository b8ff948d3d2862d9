import RecordApps.Proofs.Engine.Reachable
import RecordApps.Proofs.Engine.RecordFrame
import RecordApps.Proofs.Process.Status

/-! # Statuses follow the graph

A run is a sequence of requests about records and of moves and assignments by the process
service, whose callers may hold records as they were read long ago. Along a run, records of an
app that is managed by a process start in the initial status of its graph, and nothing but an
applied action changes a status, from the source of the action to its target.
-/

namespace RecordApps

namespace Workspace

/-- The schema a caller holds is one of an app, as far as its id and its code go. -/
def Knows (ws : Workspace) (schema : AppSchema) : Prop :=
  ∃ stored, ws.schemas.get? schema.id = some stored ∧ stored.code = schema.code

end Workspace

/-- The calls that work on records. The process service is handed a schema of some app and any
    record. -/
def ServiceCall.OnRecords (ws : Workspace) : {α : Type} → ServiceCall α → Prop
  | _, .records _ _ _ => True
  | _, .processes (.transition _ schema _ _) => ws.Knows schema
  | _, .processes (.assign schema _ _) => ws.Knows schema
  | _, _ => False

namespace Workspace

/-- The runs from a workspace: any number of calls that work on records, refused or not, by any
    actors at any time. -/
inductive Runs (start : Workspace) : Workspace → Prop where
  /-- No call. -/
  | nil : Runs start start
  /-- One more call. -/
  | step {α : Type} {ws : Workspace} (settings : Settings) (call : ServiceCall α) :
      Runs start ws → call.OnRecords ws → Runs start (ws.serve settings call)

/-- An app with a valid schema that is managed by a valid process. -/
structure Managed (ws : Workspace) (app : AppId) (schema : AppSchema) (graph : ProcessGraph) :
    Prop where
  coherent : ws.Coherent
  has_schema : ws.schemas.get? app = some schema
  schema_valid : schema.validate = .ok ()
  enabled : schema.processEnabled = true
  has_graph : ws.processes.get? app = some graph
  graph_valid : graph.validate = .ok ()

theorem Managed.defines {ws : Workspace} {app : AppId} {schema : AppSchema}
    {graph : ProcessGraph} (h : ws.Managed app schema graph) : ws.Defines app schema :=
  ⟨h.coherent, h.has_schema, h.schema_valid⟩

end Workspace

/-- The answer to a call says that an actor has moved a record of an app by an action, from one
    status to another. -/
inductive Applied : {α : Type} → ServiceCall α → α → (actor : Actor) → (app : AppId) →
    (id action source target : String) → Prop where
  /-- A request of the actor. -/
  | act {actor : Actor} {app : AppId} {id action source target : String}
      {view : Option RecordView} {notifications : List Notification} :
      Applied (.records actor app (.act id action)) (.applied source target view notifications)
        actor app id action source target
  /-- A call of the process service. -/
  | transition {actor : Actor} {schema : AppSchema} {record next : Record}
      {action source target : String} :
      Applied (.processes (.transition actor schema record action)) (.applied next source target)
        actor schema.id record.id.text action source target

/-- The answer to a call says that a record has been moved. -/
def MovedBy {α : Type} (call : ServiceCall α) (answer : α) (app : AppId) (a b : Record) : Prop :=
  ∃ actor action source target, Applied call answer actor app a.id.text action source target ∧
    a.status = some source ∧ b.status = some target

/-- A move along an edge of the graph by an actor who may take it, from the status that is
    stored before; nobody is assigned afterwards. -/
structure Lawful (graph : ProcessGraph) (code : String) (ws ws' : Workspace) (actor : Actor)
    (app : AppId) (id action source target : String) : Prop where
  /-- The action is one of the graph, and the actor may take it. -/
  edge : ∃ taken ∈ graph.actions, taken.id.text = action ∧ taken.source.text = source ∧
    taken.target.text = target ∧ ∃ status, graph.status? source = some status ∧
      (taken.type = .nonAssignee ∨ status.assigneeType = none ∨
        actor.id ∈ ws.assigneesOf app id)
  /-- The stored record changes its status from the source to the target. -/
  moved : ∃ before after, ws.store.find? code id = some before ∧
    ws'.store.find? code id = some after ∧ before.number = after.number ∧
    before.status = some source ∧ after.status = some target
  /-- Nobody is assigned. -/
  released : ws'.assigneesOf app id = []

/-- How a step follows the graph: new records start in the initial status, and a record that is
    there before and after keeps its status unless it is moved. -/
structure Follows (graph : ProcessGraph) (code : String) (ws ws' : Workspace)
    (moved : Record → Record → Prop) : Prop where
  created : ∀ b ∈ ws'.store.records code, (∀ a ∈ ws.store.records code, a.number ≠ b.number) →
    ∃ initial, graph.statuses.filter (·.initial) = [initial] ∧ b.status = some initial.id.text
  survived : ∀ a ∈ ws.store.records code, ∀ b ∈ ws'.store.records code, a.number = b.number →
    b.status = a.status ∨ moved a b

theorem Follows.of_records {graph : ProcessGraph} {code : String} {ws ws' : Workspace}
    {moved : Record → Record → Prop} (hordered : ws.store.Ordered)
    (h : ws'.store.records code = ws.store.records code) : Follows graph code ws ws' moved where
  created b hb hnew := absurd rfl (hnew b (h ▸ hb))
  survived a ha b hb hnumber := by
    rw [h] at hb
    exact .inl (congrArg Record.status ((hordered code).eq_of_number hb ha hnumber.symm))

theorem Follows.of_withApp {graph : ProcessGraph} {code other : String} {ws ws' : Workspace}
    {moved : Record → Record → Prop} {records : AppRecords} (hordered : ws.store.Ordered)
    (hother : other ≠ code) (hstore : ws'.store = ws.store.withApp other records) :
    Follows graph code ws ws' moved := by
  refine .of_records hordered ?_
  rw [hstore, RecordStore.records_withApp, if_neg (Ne.symm hother)]

namespace Engine

variable {α : Type} {settings : Settings} {ws ws' : Workspace} {actor : Actor} {app : AppId}
  {schema : AppSchema} {graph : ProcessGraph}

open Workspace

/-! ## One move -/

theorem transition_lawful {record next : Record} {action source target : String}
    (hgraph : ws.processes.get? schema.id = some graph) (hvalid : graph.validate = .ok ())
    (ran : run settings ws (transition actor schema record action) =
      (.ok (.applied next source target), ws')) :
    Lawful graph schema.code.text ws ws' actor schema.id record.id.text action source target := by
  obtain ⟨_, -, hrejected, -⟩ | ⟨taken, store, hauthorized, hupdate, happlied, rfl⟩ :=
    transition_ok ran
  · cases hrejected
  obtain ⟨rfl, rfl, rfl⟩ := TransitionOutcome.applied.inj happlied
  obtain ⟨graph', hgraph', hauthorized⟩ := authorize_ok hauthorized
  obtain rfl : graph = graph' := Option.some.inj (hgraph.symm.trans hgraph')
  obtain ⟨hmem, haction, hcurrent, hmay⟩ := ProcessGraph.authorize_ok hauthorized
  obtain ⟨status, hstatus⟩ := ProcessGraph.source_status hvalid hmem
  obtain ⟨before, _, _, hfind, hbefore, hnumber, -⟩ := RecordStore.update_ok hupdate
  constructor
  · refine ⟨taken, hmem, haction, rfl, rfl, status, hstatus, ?_⟩
    refine hmay.imp_right (Or.imp_left fun htakes => ?_)
    rw [ProcessGraph.takesAssignees, hstatus] at htakes
    simpa [ProcessStatus.takesAssignees] using htakes
  · exact ⟨before, record.moved actor settings.now taken, hfind, RecordStore.find?_update hupdate,
      hnumber, hbefore.trans hcurrent, Record.moved_status _ _ _ _⟩
  · rw [assigneesOf_withAssignees, if_pos ⟨rfl, rfl⟩]

theorem applied_lawful (h : ws.Managed app schema graph) {call : ServiceCall α} {answer : α}
    (hcall : call.OnRecords ws) (ran : run settings ws call.perform = (.ok answer, ws'))
    {id action source target : String}
    (happlied : Applied call answer actor app id action source target) :
    Lawful graph schema.code.text ws ws' actor app id action source target := by
  have hown := h.coherent.own_id h.has_schema
  cases happlied with
  | act =>
      obtain ⟨schema', record, moved, hschema', hrecord, -, hmoved, htold⟩ := executeAction_ok ran
      obtain rfl : schema = schema' := Option.some.inj (h.has_schema.symm.trans hschema')
      cases moved with
      | rejected => exact htold.elim
      | applied next source' target' =>
          obtain ⟨rfl, rfl, -⟩ := htold
          subst hown
          exact RecordStore.find?_id hrecord ▸ transition_lawful h.has_graph h.graph_valid hmoved
  | transition =>
      obtain ⟨stored, hstored, hcode⟩ := hcall
      obtain rfl : schema = stored := Option.some.inj (h.has_schema.symm.trans hstored)
      rw [hcode]
      exact transition_lawful h.has_graph h.graph_valid ran

/-! ## One call -/

variable {moved : Record → Record → Prop}

theorem createRecord_initial (h : ws.Managed app schema graph) {input : Fields}
    {outcome : MutationOutcome}
    (ran : run settings ws (createRecord actor app input) = (.ok outcome, ws')) :
    ∃ record initial,
      ws'.store.records schema.code.text = ws.store.records schema.code.text ++ [record] ∧
      graph.statuses.filter (·.initial) = [initial] ∧
      record.status = some initial.id.text := by
  obtain ⟨schema', refresh, record, store, hschema', hdraft, hinsert, rfl, -⟩ := createRecord_ok ran
  obtain rfl : schema = schema' := Option.some.inj (h.has_schema.symm.trans hschema')
  obtain ⟨initial, hsingle, hinitial⟩ := ProcessGraph.single_initial h.graph_valid
  have hgraph : ws.processes.get? schema.id = some graph := by
    rw [h.coherent.own_id hschema', h.has_graph]
  have hstatus := draft_status h.schema_valid h.enabled hgraph hinitial hdraft
  obtain ⟨-, -, -, hdata, rfl⟩ := RecordStore.insert_ok hinsert
  refine ⟨record, initial, ?_, hsingle, ?_⟩
  · exact (RecordStore.records_withApp _ _ _ _).trans (if_pos rfl)
  · rw [Record.status, hdata, hstatus]
    rfl

theorem createRecord_follows (h : ws.Managed app schema graph) {other : AppId} {input : Fields}
    {outcome : MutationOutcome}
    (ran : run settings ws (createRecord actor other input) = (.ok outcome, ws')) :
    Follows graph schema.code.text ws ws' moved := by
  obtain ⟨schema', _, _, store, hschema', -, hinsert, hws', -⟩ := createRecord_ok ran
  by_cases hcode : schema'.code.text = schema.code.text
  · obtain ⟨rfl, rfl⟩ := h.defines.same_app hschema' hcode
    obtain ⟨record, initial, hrecords, hsingle, hstatus⟩ := createRecord_initial h ran
    constructor
    · intro b hb hnew
      rw [hrecords, List.mem_append, List.mem_singleton] at hb
      rcases hb with hb | rfl
      · exact absurd rfl (hnew b hb)
      · exact ⟨initial, hsingle, hstatus⟩
    · intro a ha b hb hnumber
      subst hws'
      exact .inl (congrArg Record.status
        (RecordStore.survivor_of_insert h.coherent.ordered hinsert ha hb hnumber))
  · obtain ⟨-, -, -, -, rfl⟩ := RecordStore.insert_ok hinsert
    exact .of_withApp h.coherent.ordered hcode (congrArg Workspace.store hws')

theorem updateRecord_follows (h : ws.Managed app schema graph) {other : AppId} {id : String}
    {changes : Fields} {outcome : MutationOutcome}
    (ran : run settings ws (updateRecord actor other id changes) = (.ok outcome, ws')) :
    Follows graph schema.code.text ws ws' moved := by
  obtain ⟨schema', stored, refresh, store, hschema', hstored, hrevision, hupdate, rfl, -⟩ :=
    updateRecord_ok ran
  by_cases hcode : schema'.code.text = schema.code.text
  · obtain ⟨rfl, rfl⟩ := h.defines.same_app hschema' hcode
    have hstatus := revision_status h.schema_valid h.enabled hrevision
    constructor
    · intro b hb hnew
      obtain ⟨a, ha, hnumber⟩ := RecordStore.number_of_update hupdate hb
      exact absurd hnumber (hnew a ha)
    · intro a ha b hb hnumber
      obtain rfl | ⟨rfl, -, -, hsame⟩ :=
        RecordStore.survivor_of_update h.coherent.ordered hupdate ha hb hnumber
      · exact .inl rfl
      · rw [hsame, Record.status, hstatus]
        exact .inl rfl
  · obtain ⟨_, _, _, -, -, -, -, -, -, rfl⟩ := RecordStore.update_ok hupdate
    exact .of_withApp h.coherent.ordered hcode rfl

theorem deleteRecord_follows (h : ws.Managed app schema graph) {other : AppId} {id : String}
    {outcome : MutationOutcome}
    (ran : run settings ws (deleteRecord actor other id) = (.ok outcome, ws')) :
    Follows graph schema.code.text ws ws' moved := by
  obtain ⟨schema', record, store, hschema', hrecord, -, hdelete, rfl, -⟩ := deleteRecord_ok ran
  by_cases hcode : schema'.code.text = schema.code.text
  · rw [← hcode]
    constructor
    · intro b hb hnew
      exact absurd rfl (hnew b (RecordStore.mem_of_delete hdelete hb))
    · intro a ha b hb hnumber
      have hb := RecordStore.mem_of_delete hdelete hb
      exact .inl (congrArg Record.status ((h.coherent.ordered _).eq_of_number hb ha hnumber.symm))
  · obtain ⟨_, _, _, -, -, rfl⟩ := RecordStore.delete_ok hdelete
    exact .of_withApp h.coherent.ordered hcode rfl

theorem transition_follows (h : ws.Managed app schema graph) {schema' : AppSchema}
    (hknown : ws.Knows schema') {record : Record} {action : String} {outcome : TransitionOutcome}
    (ran : run settings ws (transition actor schema' record action) = (.ok outcome, ws'))
    (hmoved : ∀ {next source target a b}, outcome = .applied next source target →
      schema'.id = app → a.id.text = record.id.text → a.status = some source →
      b.status = some target → moved a b) :
    Follows graph schema.code.text ws ws' moved := by
  obtain ⟨_, -, -, rfl⟩ | ⟨taken, store, hauthorized, hupdate, happlied, rfl⟩ := transition_ok ran
  · exact .of_records h.coherent.ordered rfl
  obtain ⟨stored, hstored, hcodes⟩ := hknown
  by_cases hcode : schema'.code.text = schema.code.text
  · obtain ⟨happ, rfl⟩ := h.defines.same_app hstored (hcodes ▸ hcode)
    obtain ⟨graph', -, hauthorized⟩ := authorize_ok hauthorized
    obtain ⟨-, -, hcurrent, -⟩ := ProcessGraph.authorize_ok hauthorized
    rw [← hcode]
    constructor
    · intro b hb hnew
      obtain ⟨a, ha, hnumber⟩ := RecordStore.number_of_update hupdate hb
      exact absurd hnumber (hnew a ha)
    · intro a ha b hb hnumber
      obtain rfl | ⟨rfl, -, hid, hsame⟩ :=
        RecordStore.survivor_of_update h.coherent.ordered hupdate ha hb hnumber
      · exact .inl rfl
      · exact .inr (hmoved happlied happ hid (hsame.trans hcurrent) (Record.moved_status _ _ _ _))
  · obtain ⟨_, _, _, -, -, -, -, -, -, rfl⟩ := RecordStore.update_ok hupdate
    exact .of_withApp h.coherent.ordered hcode rfl

theorem assign_follows (h : ws.Managed app schema graph) {schema' : AppSchema} {record : Record}
    {assignees : List String}
    (ran : run settings ws (assign schema' record assignees) = (.ok (), ws')) :
    Follows graph schema.code.text ws ws' moved := by
  obtain ⟨_, -, rfl⟩ := assign_ok ran
  exact .of_records h.coherent.ordered rfl

/-- A call that works on records follows the graph of every app that is managed, with the moves
    that its answer tells of. -/
theorem serviceCall_follows (h : ws.Managed app schema graph) {call : ServiceCall α} {answer : α}
    (hcall : call.OnRecords ws) (ran : run settings ws call.perform = (.ok answer, ws')) :
    Follows graph schema.code.text ws ws' (MovedBy call answer app) := by
  cases call with
  | records actor other call =>
      have ran : run settings ws (call.perform actor other) = (.ok answer, ws') := ran
      cases call with
      | create input => exact createRecord_follows h ran
      | update id changes => exact updateRecord_follows h ran
      | delete id => exact deleteRecord_follows h ran
      | assign id assignees =>
          obtain ⟨_, _, -, -, -, -, assigned⟩ := assignRecord_ok ran
          exact assign_follows h assigned
      | act id action =>
          obtain ⟨schema', record, moved, hschema', hrecord, -, hmoved, htold⟩ :=
            executeAction_ok ran
          obtain rfl := h.coherent.own_id hschema'
          refine transition_follows h ⟨schema', hschema', rfl⟩ hmoved ?_
          intro next source target a b houtcome happ hid ha hb
          subst houtcome
          cases answer with
          | rejected => exact htold.elim
          | applied =>
              obtain ⟨rfl, rfl, -⟩ := htold
              rw [← happ, MovedBy, hid, RecordStore.find?_id hrecord]
              exact ⟨actor, action, _, _, .act, ha, hb⟩
      | read | list | related | actions | comment =>
          obtain rfl := (recordCall_onlyReads rfl).unchanged ran
          exact .of_records h.coherent.ordered rfl
  | processes call =>
      cases call with
      | transition actor schema' record action =>
          refine transition_follows h hcall ran ?_
          intro next source target a b houtcome happ hid ha hb
          subst houtcome
          rw [← happ, MovedBy, hid]
          exact ⟨actor, action, source, target, .transition, ha, hb⟩
      | assign schema' record assignees => exact assign_follows h ran
      | save | switch | initialStatus | actions => exact hcall.elim
  | schemas | permissions | notifications => exact hcall.elim

/-! ## Runs -/

theorem serviceCall_definitions {call : ServiceCall α} {answer : α} (hcall : call.OnRecords ws)
    (ran : run settings ws call.perform = (.ok answer, ws')) : ws.SameDefinitions ws' := by
  cases call with
  | records actor other call => exact (recordCall_step call ran).definitions
  | processes call =>
      cases call with
      | transition actor schema record action => exact (transition_step ran).definitions
      | assign schema record assignees => exact (assign_step ran).definitions
      | save | switch | initialStatus | actions => exact hcall.elim
  | schemas | permissions | notifications => exact hcall.elim

theorem serviceCall_managed (h : ws.Managed app schema graph) {call : ServiceCall α}
    (hcall : call.OnRecords ws) : (ws.serve settings call).Managed app schema graph := by
  obtain hrefused | ⟨answer, ran⟩ := serve_cases settings ws call
  · rwa [hrefused]
  · have hsame := serviceCall_definitions hcall ran
    exact ⟨serviceCall_coherent h.coherent call ran, by rw [hsame.schemas, h.has_schema],
      h.schema_valid, h.enabled, by rw [hsame.processes, h.has_graph], h.graph_valid⟩

theorem runs_managed {start : Workspace} (h : start.Managed app schema graph)
    (hruns : start.Runs ws) : ws.Managed app schema graph := by
  induction hruns with
  | nil => exact h
  | step settings call _ hcall ih => exact serviceCall_managed ih hcall

/-- Statuses follow the graph. After any run, a record that is created is the last one of its app
    and starts in the one initial status. Whatever is called next, records that are new start
    there, and a record that is there before and after keeps its status unless the answer tells
    that it was moved. A move that is told of is lawful. -/
theorem statuses_follow_graph {start : Workspace} (h : start.Managed app schema graph)
    (hruns : start.Runs ws) (settings : Settings) :
    (∀ actor input outcome ws',
      run settings ws (createRecord actor app input) = (.ok outcome, ws') →
        ∃ record initial,
          ws'.store.records schema.code.text = ws.store.records schema.code.text ++ [record] ∧
          graph.statuses.filter (·.initial) = [initial] ∧
          record.status = some initial.id.text) ∧
    (∀ {α : Type} (call : ServiceCall α) outcome ws', call.OnRecords ws →
      run settings ws call.perform = (outcome, ws') →
        Follows graph schema.code.text ws ws' fun a b =>
          ∃ answer, outcome = .ok answer ∧ MovedBy call answer app a b) ∧
    ∀ {α : Type} (call : ServiceCall α) answer ws' actor id action source target,
      call.OnRecords ws → run settings ws call.perform = (.ok answer, ws') →
        Applied call answer actor app id action source target →
          Lawful graph schema.code.text ws ws' actor app id action source target := by
  have h := runs_managed h hruns
  refine ⟨?_, ?_, ?_⟩
  · intro actor input outcome ws' ran
    exact createRecord_initial h ran
  · intro α call outcome ws' hcall ran
    cases outcome with
    | error fault =>
        obtain rfl := serviceCall_atomic call settings ws fault ws' ran
        exact .of_records h.coherent.ordered rfl
    | ok answer =>
        have hfollows := serviceCall_follows h hcall ran
        exact ⟨hfollows.created, fun a ha b hb hnumber =>
          (hfollows.survived a ha b hb hnumber).imp_right fun hmoved => ⟨answer, rfl, hmoved⟩⟩
  · intro α call answer ws' actor id action source target hcall ran happlied
    exact applied_lawful h hcall ran happlied

/-- In the small app, which is managed, the clerk creates an order and finishes it. -/
theorem statuses_follow_graph_orders :
    Orders.defined.Managed Orders.app Orders.schema Orders.graph ∧
    Orders.defined.Runs Orders.workspace ∧
    ∃ answer ws', run Orders.settings Orders.workspace
        (ServiceCall.records Orders.clerk Orders.app (.act "r" "finish")).perform =
          (.ok answer, ws') ∧
      Lawful Orders.graph "orders" Orders.workspace ws' Orders.clerk Orders.app "r" "finish"
        "open" "done" := by
  have hmanaged : Orders.defined.Managed Orders.app Orders.schema Orders.graph :=
    ⟨defined_reachable.coherent, rfl, rfl, rfl, rfl, rfl⟩
  have hruns : Orders.defined.Runs Orders.workspace := .step _ _ .nil trivial
  refine ⟨hmanaged, hruns, ?_⟩
  have hlawful := (statuses_follow_graph hmanaged hruns Orders.settings).2.2
    (.records Orders.clerk Orders.app (.act "r" "finish"))
  exact ⟨_, _, rfl, hlawful _ _ _ _ _ _ _ trivial rfl .act⟩

end Engine

end RecordApps
