import RecordApps.Proofs.Process.Status
import RecordApps.Proofs.Records.Constraints
import RecordApps.Proofs.Records.Identity

/-! # Whom a record is assigned to

Users are assigned to a record while it stays in a status that takes assignees. A move out of the
status releases them. Two other requests end the stay as well, and do not: deleting the record,
and giving it another status as free text while its process is off. Without these, a record has
the users of its present stay only; with these, it keeps those of an earlier one.
-/

namespace RecordApps

namespace Workspace

/-- The record of an app with an id. -/
def recordOf? (ws : Workspace) (app : AppId) (id : String) : Option Record :=
  (ws.schemas.get? app).bind fun schema => ws.store.find? schema.code.text id

def HasStatus (ws : Workspace) (app : AppId) (id : String) (status : Option String) : Prop :=
  ∃ record, ws.recordOf? app id = some record ∧ record.status = status

variable {ws ws' : Workspace} {app other : AppId} {id : String} {status : Option String}

theorem recordOf?_eq_some {record : Record} :
    ws.recordOf? app id = some record ↔
      ∃ schema, ws.schemas.get? app = some schema ∧
        ws.store.find? schema.code.text id = some record :=
  Option.bind_eq_some_iff

/-- A schema that only differs in other parts than its code leaves the records of all apps where
    they are. -/
theorem recordOf?_insert {schema schema' : AppSchema} (hschema : ws.schemas.get? other = some schema)
    (hcode : schema'.code = schema.code) :
    { ws with schemas := ws.schemas.insert other schema' }.recordOf? app id =
      ws.recordOf? app id := by
  rw [recordOf?, Table.get?_insert]
  split
  case isTrue happ => rw [happ, recordOf?, hschema, Option.bind_some, Option.bind_some, hcode]
  case isFalse => rfl

end Workspace

/-- The calls of a run: requests about records, and switching processes on and off. -/
def ServiceCall.OnStays : {α : Type} → ServiceCall α → Prop
  | _, .records _ _ _ => True
  | _, .processes (.switch _ _) => True
  | _, _ => False

/-- A request that asks for the end of a stay without a move: to delete the record, or to give it
    another status as free text. -/
def ServiceCall.EndsStay (ws : Workspace) (app : AppId) (id : String) :
    {α : Type} → ServiceCall α → Prop
  | _, .records _ app' (.delete id') => app' = app ∧ id' = id
  | _, .records _ app' (.update id' changes) => app' = app ∧ id' = id ∧
      ∃ schema record value, ws.schemas.get? app = some schema ∧
        ws.recordOf? app id = some record ∧
        (schema.freeStatus changes).get? Key.status = some value ∧ value.text? ≠ record.status
  | _, _ => False

/-- Such a request is answered while somebody is assigned. -/
def ServiceCall.Disturbs (settings : Settings) (ws : Workspace) (app : AppId) (id : String)
    {α : Type} (call : ServiceCall α) : Prop :=
  call.EndsStay ws app id ∧ ws.assigneesOf app id ≠ [] ∧
    ∃ answer ws', Engine.run settings ws call.perform = (.ok answer, ws')

namespace Engine

open Workspace

variable {α : Type} {settings : Settings} {ws ws' : Workspace} {app : AppId} {id : String}
  {status : Option String}

/-! ## One call -/

/-- A request about another record, or to another app, leaves a record as it is. -/
theorem recordCall_recordOf? (h : ws.Coherent) {actor : Actor} {other : AppId} (call : RecordCall α)
    {answer : α} (ran : run settings ws (call.perform actor other) = (.ok answer, ws'))
    (hother : other ≠ app ∨ call.record? ≠ some id) {record : Record}
    (hrecord : ws.recordOf? app id = some record) : ws'.recordOf? app id = some record := by
  obtain ⟨schema, hschema, hfound⟩ := recordOf?_eq_some.1 hrecord
  have hsame := (recordCall_step call ran).definitions
  refine recordOf?_eq_some.2 ⟨schema, hsame.schemas ▸ hschema, ?_⟩
  refine recordCall_find? call ran (hother.imp_left fun hne schema' hschema' hcode => ?_) hfound
  exact hne (h.own_code hschema' hschema (NonBlank.eq_of_text hcode.symm))

theorem recordCall_assigneesOf (h : ws.Coherent) {actor : Actor} {other : AppId}
    (call : RecordCall α) {answer : α}
    (ran : run settings ws (call.perform actor other) = (.ok answer, ws'))
    (hother : other ≠ app ∨ call.record? ≠ some id) :
    ws'.assigneesOf app id = ws.assigneesOf app id := by
  cases call with
  | create input =>
      obtain ⟨_, _, _, _, -, -, -, rfl, -⟩ := createRecord_ok ran
      rfl
  | update id' changes =>
      obtain ⟨_, _, _, _, -, -, -, -, rfl, -⟩ := updateRecord_ok ran
      rfl
  | delete id' =>
      obtain ⟨_, _, _, -, -, -, -, rfl, -⟩ := deleteRecord_ok ran
      rfl
  | act id' action =>
      obtain ⟨schema, record, _, hschema, hrecord, -, moved, -⟩ := executeAction_ok ran
      obtain ⟨_, -, -, rfl⟩ | ⟨_, store, -, -, -, rfl⟩ := transition_ok moved
      · rfl
      · rw [assigneesOf_withAssignees, if_neg]
        · rfl
        · rintro ⟨rfl, rfl⟩
          exact hother.elim (· (h.own_id hschema).symm)
            (· (congrArg some (RecordStore.find?_id hrecord).symm))
  | assign id' users =>
      obtain ⟨schema, record, hschema, hrecord, -, -, assigned⟩ := assignRecord_ok ran
      obtain ⟨named, -, rfl⟩ := assign_ok assigned
      rw [assigneesOf_withAssignees, if_neg]
      rintro ⟨rfl, rfl⟩
      exact hother.elim (· (h.own_id hschema).symm)
        (· (congrArg some (RecordStore.find?_id hrecord).symm))
  | read | list | related | actions | comment =>
      obtain rfl := (recordCall_onlyReads rfl).unchanged ran
      rfl

/-- After an update, a record has the status that its payload gives as free text, or else the one it
    had. -/
theorem updateRecord_status (hws : ws.Sound) {actor : Actor} {changes : Fields}
    {outcome : MutationOutcome}
    (ran : run settings ws (updateRecord actor app id changes) = (.ok outcome, ws')) :
    ∃ schema stored next, ws.schemas.get? app = some schema ∧ ws.recordOf? app id = some stored ∧
      ws'.recordOf? app id = some next ∧
      next.data.get? Key.status =
        ((schema.freeStatus changes).get? Key.status).or (stored.data.get? Key.status) := by
  obtain ⟨schema, stored, refresh, store, hschema, hstored, hrevision, hupdate, rfl, -⟩ :=
    updateRecord_ok ran
  obtain rfl := RecordStore.find?_id hstored
  refine ⟨schema, stored, { stored with data := refresh.data }, hschema,
    recordOf?_eq_some.2 ⟨schema, hschema, hstored⟩,
    recordOf?_eq_some.2 ⟨schema, hschema, RecordStore.find?_update hupdate⟩, ?_⟩
  have hdata : refresh.data.get? Key.status = _ :=
    revision_metadata (hws.schema_valid hschema) hrevision (by decide)
  rwa [stampModified_get?_other (by decide) (by decide), KeyMap.get?_insertAll_entries] at hdata

theorem updateRecord_stays (hws : ws.Sound) {actor : Actor} {changes : Fields}
    {outcome : MutationOutcome}
    (ran : run settings ws (updateRecord actor app id changes) = (.ok outcome, ws'))
    (hstays : ¬(ServiceCall.records actor app (.update id changes)).EndsStay ws app id)
    (hstatus : ws.HasStatus app id status) : ws'.HasStatus app id status := by
  obtain ⟨schema, stored, next, hschema, hstored, hnext, hdata⟩ := updateRecord_status hws ran
  obtain ⟨record, hrecord, rfl⟩ := hstatus
  obtain rfl := Option.some.inj (hstored.symm.trans hrecord)
  refine ⟨next, hnext, ?_⟩
  rw [Record.status, hdata]
  cases hfree : (schema.freeStatus changes).get? Key.status with
  | none => rfl
  | some value =>
      by_contra hother
      exact hstays ⟨rfl, rfl, schema, stored, value, hschema, hrecord, hfree, hother⟩

/-- What a call does to the stay of a record: it goes on, it ends with the users left behind or
    released, or users are assigned by request. -/
inductive StayStep (settings : Settings) (ws ws' : Workspace) (app : AppId) (id : String)
    (call : ServiceCall α) : Prop where
  | kept : ws'.assigneesOf app id = ws.assigneesOf app id →
      (∀ {status}, ws.HasStatus app id status → ws'.HasStatus app id status) →
      StayStep settings ws ws' app id call
  | ended : ws'.assigneesOf app id = ws.assigneesOf app id → call.EndsStay ws app id →
      StayStep settings ws ws' app id call
  | released : ws'.assigneesOf app id = [] → StayStep settings ws ws' app id call
  | assigned {actor : Actor} {users : List String} :
      run settings ws (assignRecord actor app id users) = (.ok (), ws') →
      StayStep settings ws ws' app id call

theorem serviceCall_stayStep (hws : ws.Sound) {call : ServiceCall α} (hcall : call.OnStays)
    {answer : α} (ran : run settings ws call.perform = (.ok answer, ws')) :
    StayStep settings ws ws' app id call := by
  cases call with
  | records actor other call =>
      have ran : run settings ws (call.perform actor other) = (.ok answer, ws') := ran
      by_cases htarget : other = app ∧ call.record? = some id
      · obtain ⟨rfl, hid⟩ := htarget
        cases call with
        | create | list => cases hid
        | update id' changes =>
            obtain rfl := Option.some.inj hid
            have husers : ws'.assigneesOf other id' = ws.assigneesOf other id' := by
              obtain ⟨_, _, _, _, -, -, -, -, rfl, -⟩ := updateRecord_ok ran
              rfl
            by_cases hends :
                (ServiceCall.records actor other (.update id' changes)).EndsStay ws other id'
            · exact .ended husers hends
            · exact .kept husers (updateRecord_stays hws ran hends)
        | delete id' =>
            obtain rfl := Option.some.inj hid
            obtain ⟨_, _, _, -, -, -, -, rfl, -⟩ := deleteRecord_ok ran
            exact .ended rfl ⟨rfl, rfl⟩
        | act id' action =>
            obtain rfl := Option.some.inj hid
            obtain ⟨schema, record, _, hschema, hrecord, -, moved, -⟩ := executeAction_ok ran
            obtain ⟨_, -, -, rfl⟩ | ⟨_, store, -, -, -, rfl⟩ := transition_ok moved
            · exact .kept rfl fun hstatus => hstatus
            · refine .released ?_
              rw [assigneesOf_withAssignees, hws.own_id hschema, RecordStore.find?_id hrecord]
              exact if_pos ⟨rfl, rfl⟩
        | assign id' users =>
            obtain rfl := Option.some.inj hid
            exact .assigned ran
        | read | related | actions | comment =>
            obtain rfl := (recordCall_onlyReads rfl).unchanged ran
            exact .kept rfl fun hstatus => hstatus
      · rw [not_and_or] at htarget
        refine .kept (recordCall_assigneesOf hws.toCoherent call ran htarget) ?_
        rintro status ⟨record, hrecord, hstatus⟩
        exact ⟨record, recordCall_recordOf? hws.toCoherent call ran htarget hrecord, hstatus⟩
  | processes call =>
      cases call with
      | switch other enabled =>
          obtain ⟨schema, hschema, -, saved⟩ := setProcessEnabled_ok ran
          obtain ⟨-, -, -, rfl⟩ := saveSchema_ok saved
          obtain rfl := hws.own_id hschema
          refine .kept rfl ?_
          rintro status ⟨record, hrecord, hstatus⟩
          refine ⟨record, ?_, hstatus⟩
          rw [← hrecord]
          exact recordOf?_insert hschema rfl
      | save | initialStatus | assign | actions | transition => exact hcall.elim
  | schemas | permissions | notifications => exact hcall.elim

theorem deleteRecord_recordOf? (h : ws.Coherent) {ids : Nat → String}
    (hidentified : ws.Identified ids) {actor : Actor} {outcome : MutationOutcome}
    (ran : run settings ws (deleteRecord actor app id) = (.ok outcome, ws')) :
    ws'.recordOf? app id = none := by
  obtain ⟨schema, stored, store, hschema, hstored, -, hdelete, rfl, -⟩ := deleteRecord_ok ran
  rw [recordOf?, hschema, Option.bind_some]
  cases hfound : store.find? schema.code.text id with
  | none => rfl
  | some b =>
      have hmem := RecordStore.mem_of_find? hfound
      obtain ⟨-, rfl⟩ := hidentified.unique (RecordStore.mem_of_delete hdelete hmem)
        (RecordStore.mem_of_find? hstored)
        ((RecordStore.find?_id hfound).trans (RecordStore.find?_id hstored).symm)
      exact absurd rfl (RecordStore.number_ne_of_delete h.ordered hdelete hstored hmem)

theorem disturbs_leaves (hws : ws.Sound) {ids : Nat → String} (hidentified : ws.Identified ids)
    {call : ServiceCall α} (hdisturbs : call.Disturbs settings ws app id)
    (hstatus : ws.HasStatus app id status) :
    (ws.serve settings call).assigneesOf app id = ws.assigneesOf app id ∧
      ¬(ws.serve settings call).HasStatus app id status := by
  obtain ⟨hends, -, answer, ws', ran⟩ := hdisturbs
  rw [show ws.serve settings call = ws' from congrArg Prod.snd ran]
  obtain ⟨record, hrecord, rfl⟩ := hstatus
  cases call with
  | records actor other call =>
      have ran : run settings ws (call.perform actor other) = (.ok answer, ws') := ran
      cases call with
      | update id' changes =>
          obtain ⟨rfl, rfl, schema, stored, value, hschema, hstored, hfree, hother⟩ := hends
          obtain ⟨schema', stored', next, hschema', hstored', hnext, hdata⟩ :=
            updateRecord_status hws ran
          obtain rfl := Option.some.inj (hschema.symm.trans hschema')
          obtain rfl := Option.some.inj (hstored.symm.trans hrecord)
          constructor
          · obtain ⟨_, _, _, _, -, -, -, -, rfl, -⟩ := updateRecord_ok ran
            rfl
          · rintro ⟨next', hnext', hstatus⟩
            obtain rfl := Option.some.inj (hnext.symm.trans hnext')
            rw [Record.status, hdata, hfree] at hstatus
            exact hother hstatus
      | delete id' =>
          obtain ⟨rfl, rfl⟩ := hends
          have hgone := deleteRecord_recordOf? hws.toCoherent hidentified ran
          obtain ⟨_, _, _, -, -, -, -, rfl, -⟩ := deleteRecord_ok ran
          constructor
          · rfl
          · rintro ⟨next, hnext, -⟩
            rw [hgone] at hnext
            cases hnext
      | create | read | list | related | act | actions | assign | comment => exact hends.elim
  | schemas | processes | permissions | notifications => exact hends.elim

/-- An action that is applied leads away from the status of the record. A normal one is applied by
    an assigned user, where the status takes assignees. -/
theorem executeAction_assigned (hws : ws.Coherent) {actor : Actor} {graph : ProcessGraph}
    (hgraph : ws.processes.get? app = some graph) {action source target : String}
    {view : Option RecordView} {notifications : List Notification}
    (ran : run settings ws (executeAction actor app id action) =
      (.ok (.applied source target view notifications), ws')) :
    ws.HasStatus app id (some source) ∧ ∃ taken ∈ graph.actions, taken.id.text = action ∧
      taken.source.text = source ∧
      (taken.type = .normal → graph.takesAssignees source = true →
        actor.id ∈ ws.assigneesOf app id) := by
  obtain ⟨schema, record, outcome, hschema, hrecord, -, moved, htold⟩ := executeAction_ok ran
  obtain rfl := hws.own_id hschema
  obtain rfl := RecordStore.find?_id hrecord
  obtain ⟨_, -, rfl, -⟩ | ⟨taken, store, hauthorized, -, rfl, -⟩ := transition_ok moved
  · exact htold.elim
  obtain ⟨rfl, rfl, -⟩ := htold
  obtain ⟨graph', hgraph', hauthorized⟩ := authorize_ok hauthorized
  obtain rfl := Option.some.inj (hgraph.symm.trans hgraph')
  obtain ⟨hmem, haction, hcurrent, hmay⟩ := ProcessGraph.authorize_ok hauthorized
  refine ⟨⟨record, recordOf?_eq_some.2 ⟨schema, hschema, hrecord⟩, hcurrent⟩, taken, hmem, haction,
    rfl, fun hnormal htakes => ?_⟩
  rcases hmay with hfree | hopen | hassigned
  · rw [hnormal] at hfree
    cases hfree
  · rw [htakes] at hopen
    cases hopen
  · exact hassigned

end Engine

namespace Workspace

/-! ## Runs -/

/-- The calls of a run in which nothing disturbs the stays of a record. -/
def Undisturbed (app : AppId) (id : String) (settings : Settings) (ws : Workspace) {α : Type}
    (call : ServiceCall α) : Prop :=
  call.OnStays ∧ ¬call.Disturbs settings ws app id

/-- A record has a status, and these users. -/
structure During (ws : Workspace) (app : AppId) (id : String) (status : Option String)
    (users : List String) : Prop where
  status : ws.HasStatus app id status
  users : ws.assigneesOf app id = users

/-- A request in the course of a run has assigned the users of a record, and ever since then the
    record has been in the same status, with the same users. -/
def AssignedSince (step : Workspace → Workspace → Prop) (start ws : Workspace) (app : AppId)
    (id : String) (status : Option String) (users : List String) : Prop :=
  ∃ before after settings actor named, Relation.ReflTransGen step start before ∧
    Engine.run settings before (Engine.assignRecord actor app id named) = (.ok (), after) ∧
    before.HasStatus app id status ∧ after.During app id status users ∧
    Relation.ReflTransGen (fun ws ws' => step ws ws' ∧ ws'.During app id status users) after ws

variable {ids : Nat → String} {start ws ws' : Workspace} {app : AppId} {id : String}

namespace AssignedSince

variable {step : Workspace → Workspace → Prop} {status : Option String} {users : List String}

theorem during (h : AssignedSince step start ws app id status users) :
    ws.During app id status users := by
  obtain ⟨_, _, _, _, _, -, -, -, hafter, hsince⟩ := h
  cases hsince with
  | refl => exact hafter
  | tail _ hstep => exact hstep.2

theorem tail (h : AssignedSince step start ws app id status users) (hstep : step ws ws')
    (hduring : ws'.During app id status users) :
    AssignedSince step start ws' app id status users := by
  obtain ⟨before, after, settings, actor, named, hrun, hassign, hthen, hafter, hsince⟩ := h
  exact ⟨before, after, settings, actor, named, hrun, hassign, hthen, hafter,
    hsince.tail ⟨hstep, hduring⟩⟩

theorem now (hbefore : Relation.ReflTransGen step start ws) {settings : Settings} {actor : Actor}
    {named : List String}
    (hassign : Engine.run settings ws (Engine.assignRecord actor app id named) = (.ok (), ws')) :
    ∃ status, AssignedSince step start ws' app id status (ws'.assigneesOf app id) := by
  obtain ⟨schema, record, hschema, hrecord, -, -, hgiven⟩ := Engine.assignRecord_ok hassign
  have hthen : ws.HasStatus app id record.status :=
    ⟨record, recordOf?_eq_some.2 ⟨schema, hschema, hrecord⟩, rfl⟩
  obtain ⟨_, -, hafter⟩ := Engine.assign_ok hgiven
  have hstays : ws'.HasStatus app id record.status := by
    rw [hafter]
    exact hthen
  exact ⟨record.status, ws, ws', settings, actor, named, hbefore, hassign, hthen, ⟨hstays, rfl⟩,
    .refl⟩

end AssignedSince

/-- Where nothing disturbs the stays of a record, its users belong to the present one. -/
theorem RunsOf.assignedSince (hsound : start.Sound) (hnobody : start.assigneesOf app id = [])
    (hruns : start.RunsOf ids (Undisturbed app id) ws) (hassigned : ws.assigneesOf app id ≠ []) :
    ∃ status, AssignedSince (Serves ids (Undisturbed app id)) start ws app id status
      (ws.assigneesOf app id) := by
  induction hruns with
  | refl => exact absurd hnobody hassigned
  | @tail ws _ hbefore hstep ih =>
      have hws := RunsOf.sound hbefore hsound
      have hserved := hstep
      obtain ⟨settings, call, -, hcall, hundisturbed⟩ := hstep
      obtain hrefused | ⟨answer, ran⟩ := Engine.serve_cases settings ws call
      · rw [hrefused] at hassigned ⊢
        exact ih hassigned
      cases Engine.serviceCall_stayStep hws hcall ran with
      | kept hsame hstays =>
          rw [hsame] at hassigned ⊢
          obtain ⟨status, hsince⟩ := ih hassigned
          exact ⟨status, hsince.tail hserved ⟨hstays hsince.during.status, hsame⟩⟩
      | ended hsame hends =>
          rw [hsame] at hassigned
          exact absurd ⟨hends, hassigned, answer, _, ran⟩ hundisturbed
      | released hnone => exact absurd hnone hassigned
      | assigned hassign => exact AssignedSince.now hbefore hassign

/-- Whom a record is assigned to. Where nothing disturbs the stays of a record, its users have been
    assigned in its present stay, and a normal action out of a status that takes assignees is
    applied by one of them. A disturbance at any point of a run leaves the users to a record that
    is gone or has another status. -/
theorem users_belong_to_stay (hinjective : Function.Injective ids) (hsound : start.Sound)
    (hempty : ∀ code, start.store.records code = [])
    (hnobody : ∀ app id, start.assigneesOf app id = []) (app : AppId) (id : String) :
    (∀ ws, start.RunsOf ids (Undisturbed app id) ws →
      (ws.assigneesOf app id ≠ [] → ∃ status,
        AssignedSince (Serves ids (Undisturbed app id)) start ws app id status
          (ws.assigneesOf app id)) ∧
      ∀ settings actor graph action source target view notifications ws',
        ws.processes.get? app = some graph →
        Engine.run settings ws (Engine.executeAction actor app id action) =
          (.ok (.applied source target view notifications), ws') →
        ∃ taken ∈ graph.actions, taken.id.text = action ∧ taken.source.text = source ∧
          (taken.type = .normal → graph.takesAssignees source = true →
            actor.id ∈ ws.assigneesOf app id ∧
            AssignedSince (Serves ids (Undisturbed app id)) start ws app id (some source)
              (ws.assigneesOf app id))) ∧
    ∀ ws, start.RunsOf ids (fun _ _ {_} call => call.OnStays) ws →
      ∀ (settings : Settings) {α : Type} (call : ServiceCall α) (status : Option String),
        call.Disturbs settings ws app id → ws.HasStatus app id status →
        (ws.serve settings call).assigneesOf app id = ws.assigneesOf app id ∧
          ¬(ws.serve settings call).HasStatus app id status := by
  constructor
  · intro ws hruns
    refine ⟨hruns.assignedSince hsound (hnobody app id), ?_⟩
    intro settings actor graph action source target view notifications ws' hgraph ran
    have hws := (RunsOf.sound hruns hsound).toCoherent
    obtain ⟨⟨record, hrecord, hcurrent⟩, taken, hmem, haction, hsource, hmay⟩ :=
      Engine.executeAction_assigned hws hgraph ran
    refine ⟨taken, hmem, haction, hsource, fun hnormal htakes => ?_⟩
    have hassigned := hmay hnormal htakes
    obtain ⟨status, hsince⟩ := hruns.assignedSince hsound (hnobody app id)
      (List.ne_nil_of_mem hassigned)
    obtain ⟨record', hrecord', rfl⟩ := hsince.during.status
    obtain rfl := Option.some.inj (hrecord.symm.trans hrecord')
    exact ⟨hassigned, hcurrent ▸ hsince⟩
  · intro ws hruns settings α call status hdisturbs hstatus
    exact Engine.disturbs_leaves (hruns.sound hsound)
      (hruns.identified hinjective hsound (.of_nil hempty)) hdisturbs hstatus

end Workspace

namespace Orders

/-- Open orders are handled by one user, who finishes them. -/
def handled : ProcessGraph :=
  { graph with
    statuses := graph.statuses.map fun status =>
      if status.initial then { status with assigneeType := some .one } else status }

def handling : Workspace :=
  defined.serve settings (.processes (.save handled))

theorem handling_sound : handling.Sound :=
  (Workspace.defined_reachable.served settings (.processes (.save handled))).sound

def ordering : ServiceCall MutationOutcome :=
  .records clerk app (.create (.ofList [("item", .text "tea")]))

def assigning : ServiceCall Unit :=
  .records clerk app (.assign "r" ["clerk"])

def switching (enabled : Bool) : ServiceCall Unit :=
  .processes (.switch app enabled)

def relabelling (status : String) : ServiceCall MutationOutcome :=
  .records clerk app (.update "r" (.ofList [(Key.status, .text status)]))

def deleting : ServiceCall MutationOutcome :=
  .records clerk app (.delete "r")

/-- An open order is assigned to the clerk. -/
def given : Workspace :=
  (handling.serve settings ordering).serve settings assigning

/-- Its process is switched off, -/
def unmanaged : Workspace :=
  given.serve settings (switching false)

/-- its status is overwritten, -/
def relabelled : Workspace :=
  unmanaged.serve settings (relabelling "done")

/-- and then what it was is put back, and the process is switched on again. -/
def reopened : Workspace :=
  (relabelled.serve settings (relabelling "open")).serve settings (switching true)

end Orders

namespace Workspace

/-- The clerk stays assigned to an order that is done, or gone, and finishes the order that was
    opened again, without being assigned since then. -/
theorem stale_user_finishes :
    let Runs := Orders.handling.RunsOf Orders.settings.newRecordId fun _ _ {_} call => call.OnStays
    let removed := Orders.given.serve Orders.settings Orders.deleting
    Orders.given.During Orders.app "r" (some "open") ["clerk"] ∧
    (Runs Orders.relabelled ∧ Orders.relabelled.During Orders.app "r" (some "done") ["clerk"]) ∧
    (Runs removed ∧ removed.recordOf? Orders.app "r" = none ∧
      removed.assigneesOf Orders.app "r" = ["clerk"]) ∧
    Runs Orders.reopened ∧ ∃ view notifications ws', Engine.run Orders.settings Orders.reopened
        (Engine.executeAction Orders.clerk Orders.app "r" "finish") =
      (.ok (.applied "open" "done" view notifications), ws') := by
  intro Runs removed
  have hgiven : Runs Orders.given :=
    .tail (.single (.call _ Orders.ordering rfl trivial)) (.call _ Orders.assigning rfl trivial)
  have hrelabelled : Runs Orders.relabelled :=
    .tail (.tail hgiven (.call _ (Orders.switching false) rfl trivial))
      (.call _ (Orders.relabelling "done") rfl trivial)
  have hreopened : Runs Orders.reopened :=
    .tail (.tail hrelabelled (.call _ (Orders.relabelling "open") rfl trivial))
      (.call _ (Orders.switching true) rfl trivial)
  have hremoved : Runs removed := .tail hgiven (.call _ Orders.deleting rfl trivial)
  exact ⟨⟨⟨_, rfl, rfl⟩, rfl⟩, ⟨hrelabelled, ⟨_, rfl, rfl⟩, rfl⟩, ⟨hremoved, rfl, rfl⟩, hreopened,
    _, _, _, rfl⟩

/-- The order that was just assigned to the clerk is finished by the clerk. Once its process is off,
    the next status that is written over its own leaves the clerk assigned. -/
theorem users_belong_to_stay_orders :
    AssignedSince (Serves Orders.settings.newRecordId (Undisturbed Orders.app "r")) Orders.handling
      Orders.given Orders.app "r" (some "open") ["clerk"] ∧
    (∃ view notifications ws', Engine.run Orders.settings Orders.given
        (Engine.executeAction Orders.clerk Orders.app "r" "finish") =
      (.ok (.applied "open" "done" view notifications), ws')) ∧
    (Orders.relabelling "done").Disturbs Orders.settings Orders.unmanaged Orders.app "r" ∧
    Orders.relabelled.assigneesOf Orders.app "r" = ["clerk"] ∧
    ¬Orders.relabelled.HasStatus Orders.app "r" (some "open") := by
  have hgiven : Orders.handling.RunsOf Orders.settings.newRecordId (Undisturbed Orders.app "r")
      Orders.given :=
    .tail (.single (.call _ Orders.ordering rfl ⟨trivial, fun h => h.1⟩))
      (.call _ Orders.assigning rfl ⟨trivial, fun h => h.1⟩)
  have hunmanaged : Orders.handling.RunsOf Orders.settings.newRecordId
      (fun _ _ {_} call => call.OnStays) Orders.unmanaged :=
    .tail (.tail (.single (.call _ Orders.ordering rfl trivial))
      (.call _ Orders.assigning rfl trivial)) (.call _ (Orders.switching false) rfl trivial)
  have hdisturbs :
      (Orders.relabelling "done").Disturbs Orders.settings Orders.unmanaged Orders.app "r" :=
    ⟨⟨rfl, rfl, _, _, _, rfl, rfl, rfl, by decide⟩, by decide, _, _, rfl⟩
  have hmain := users_belong_to_stay Orders.newRecordId_injective Orders.handling_sound
    (fun _ => rfl) (fun _ _ => rfl) Orders.app "r"
  obtain ⟨hassigned, hfinished⟩ := hmain.1 Orders.given hgiven
  obtain ⟨view, notifications, ws', ran⟩ : ∃ view notifications ws',
      Engine.run Orders.settings Orders.given
        (Engine.executeAction Orders.clerk Orders.app "r" "finish") =
      (.ok (.applied "open" "done" view notifications), ws') := ⟨_, _, _, rfl⟩
  obtain ⟨taken, hmem, -, -, hmay⟩ := hfinished _ _ Orders.handled _ _ _ _ _ _ rfl ran
  obtain rfl := List.mem_singleton.1 hmem
  obtain ⟨hleft, hmoved⟩ := hmain.2 _ hunmanaged Orders.settings _ _ hdisturbs ⟨_, rfl, rfl⟩
  exact ⟨(hmay rfl rfl).2, ⟨view, notifications, ws', ran⟩, hdisturbs, hleft, hmoved⟩

end Workspace

end RecordApps
