import RecordApps.Proofs.Engine.Reachable
import RecordApps.Proofs.Engine.RecordFrame
import RecordApps.Proofs.Process.Status

/-! # Runs of requests about records

A request about records adds a record behind all others, replaces one by a revision or moves it,
drops one, or leaves the records of an app alone. What is true of every draft and every revision,
and has nothing to do with metadata, is therefore true of every record along a run.
-/

namespace RecordApps

theorem Record.moved_get? (record : Record) (actor : Actor) (now : String) (action : ProcessAction)
    {key : String} (hkey : Key.isReserved key = false) :
    (record.moved actor now action).data.get? key = record.data.get? key := by
  refine record.moved_get?_other actor now action fun hmem => ?_
  have hreserved : ∀ key ∈ Key.changing, Key.isReserved key = true := by decide
  rw [hreserved key hmem] at hkey
  cases hkey

namespace Workspace

/-- The runs from a workspace, where the n-th record that is created gets the n-th id: any number
    of requests about records, refused or not, by any actors at any time. -/
inductive RecordRuns (ids : Nat → String) (start : Workspace) : Workspace → Prop where
  | nil : RecordRuns ids start start
  | step {α : Type} {ws : Workspace} (settings : Settings) (actor : Actor) (app : AppId)
      (call : RecordCall α) : settings.newRecordId = ids → RecordRuns ids start ws →
      RecordRuns ids start (ws.serve settings (.records actor app call))

/-- One request about records takes a workspace to another. -/
def Requests (settings : Settings) (ws ws' : Workspace) : Prop :=
  ∃ (α : Type) (actor : Actor) (app : AppId) (call : RecordCall α),
    ws' = ws.serve settings (.records actor app call)

/-- What a request does to the records of the app with a schema. -/
inductive Writes (settings : Settings) (ws ws' : Workspace) (schema : AppSchema) : Prop where
  | kept : ws'.store.records schema.code.text = ws.store.records schema.code.text →
      ws.created ≤ ws'.created → Writes settings ws ws' schema
  | created {actor : Actor} {input : Fields} {refresh : Refresh} {record : Record} :
      ws.draft settings actor schema input = .ok refresh → record.data = refresh.data →
      record.id.text = settings.newRecordId (ws.created + 1) → ws'.created = ws.created + 1 →
      ws'.store.records schema.code.text = ws.store.records schema.code.text ++ [record] →
      Writes settings ws ws' schema
  | revised {actor : Actor} {changes : Fields} {refresh : Refresh} {stored : Record}
      {before after : List Record} :
      ws.revision settings actor schema stored changes = .ok refresh →
      ws.store.records schema.code.text = before ++ stored :: after →
      ws'.store.records schema.code.text =
        before ++ { stored with data := refresh.data } :: after →
      ws'.created = ws.created → Writes settings ws ws' schema
  | moved (actor : Actor) (action : ProcessAction) {stored : Record} {before after : List Record} :
      ws.store.records schema.code.text = before ++ stored :: after →
      ws'.store.records schema.code.text =
        before ++ stored.moved actor settings.now action :: after →
      ws'.created = ws.created → Writes settings ws ws' schema
  | deleted {stored : Record} {before after : List Record} :
      ws.store.records schema.code.text = before ++ stored :: after →
      ws'.store.records schema.code.text = before ++ after →
      ws'.created = ws.created → Writes settings ws ws' schema

/-- A request writes a record: it adds the record, or it revises it. With it stand the codes of the
    fields whose lookups are refreshed, none if all of them are. -/
inductive Written (settings : Settings) (ws ws' : Workspace) (schema : AppSchema) :
    Record → Option (List String) → Prop where
  | created {actor : Actor} {input : Fields} {refresh : Refresh} {record : Record} :
      ws.draft settings actor schema input = .ok refresh → record.data = refresh.data →
      ws'.store.records schema.code.text = ws.store.records schema.code.text ++ [record] →
      Written settings ws ws' schema record none
  | revised {actor : Actor} {changes : Fields} {refresh : Refresh} {stored : Record}
      {before after : List Record} :
      ws.revision settings actor schema stored changes = .ok refresh →
      ws.store.records schema.code.text = before ++ stored :: after →
      ws'.store.records schema.code.text =
        before ++ { stored with data := refresh.data } :: after →
      Written settings ws ws' schema { stored with data := refresh.data }
        (some (changedCodes stored.data changes))

theorem Writes.refl (settings : Settings) (ws : Workspace) (schema : AppSchema) :
    Writes settings ws ws schema :=
  .kept rfl (le_refl _)

end Workspace

namespace Engine

variable {α : Type} {settings : Settings} {ws ws' : Workspace} {actor : Actor} {app other : AppId}
  {schema : AppSchema}

open Workspace

/-! ## One request -/

theorem createRecord_writes (h : ws.Defines app schema) {input : Fields} {outcome : MutationOutcome}
    (ran : run settings ws (createRecord actor other input) = (.ok outcome, ws')) :
    Writes settings ws ws' schema := by
  obtain ⟨schema', refresh, record, store, hschema', hdraft, hinsert, rfl, -⟩ := createRecord_ok ran
  obtain ⟨-, hid, -, hdata, rfl⟩ := RecordStore.insert_ok hinsert
  by_cases hcode : schema'.code.text = schema.code.text
  · obtain ⟨-, rfl⟩ := h.same_app hschema' hcode
    refine .created hdraft hdata hid rfl ?_
    rw [RecordStore.records_withApp, if_pos rfl]
    rfl
  · refine .kept ?_ (Nat.le_succ _)
    rw [RecordStore.records_withApp, if_neg (Ne.symm hcode)]

theorem updateRecord_writes (h : ws.Defines app schema) {id : String} {changes : Fields}
    {outcome : MutationOutcome}
    (ran : run settings ws (updateRecord actor other id changes) = (.ok outcome, ws')) :
    Writes settings ws ws' schema := by
  obtain ⟨schema', stored, refresh, store, hschema', hstored, hrevision, hupdate, rfl, -⟩ :=
    updateRecord_ok ran
  obtain ⟨before, after, hsplit, rfl⟩ := RecordStore.update_found hstored hupdate rfl
  by_cases hcode : schema'.code.text = schema.code.text
  · obtain ⟨-, rfl⟩ := h.same_app hschema' hcode
    refine .revised hrevision hsplit ?_ rfl
    rw [RecordStore.records_withApp, if_pos rfl]
  · refine .kept ?_ (le_refl _)
    rw [RecordStore.records_withApp, if_neg (Ne.symm hcode)]

theorem deleteRecord_writes (h : ws.Defines app schema) {id : String} {outcome : MutationOutcome}
    (ran : run settings ws (deleteRecord actor other id) = (.ok outcome, ws')) :
    Writes settings ws ws' schema := by
  obtain ⟨schema', record, store, hschema', -, -, hdelete, rfl, -⟩ := deleteRecord_ok ran
  obtain ⟨stored, before, after, -, hsplit, rfl⟩ := RecordStore.delete_ok hdelete
  by_cases hcode : schema'.code.text = schema.code.text
  · obtain ⟨-, rfl⟩ := h.same_app hschema' hcode
    refine .deleted hsplit ?_ rfl
    rw [RecordStore.records_withApp, if_pos rfl]
  · refine .kept ?_ (le_refl _)
    rw [RecordStore.records_withApp, if_neg (Ne.symm hcode)]

theorem executeAction_writes (h : ws.Defines app schema) {id action : String}
    {outcome : ActionOutcome}
    (ran : run settings ws (executeAction actor other id action) = (.ok outcome, ws')) :
    Writes settings ws ws' schema := by
  obtain ⟨schema', stored, _, hschema', hstored, -, htransition, -⟩ := executeAction_ok ran
  obtain ⟨_, -, -, rfl⟩ | ⟨taken, store, -, hupdate, -, rfl⟩ := transition_ok htransition
  · exact .refl _ _ _
  obtain ⟨before, after, hsplit, rfl⟩ := RecordStore.update_found hstored hupdate rfl
  by_cases hcode : schema'.code.text = schema.code.text
  · obtain ⟨-, rfl⟩ := h.same_app hschema' hcode
    refine .moved actor taken hsplit ?_ rfl
    exact (RecordStore.records_withApp _ _ _ _).trans (if_pos rfl)
  · refine .kept ?_ (le_refl _)
    exact (RecordStore.records_withApp _ _ _ _).trans (if_neg (Ne.symm hcode))

theorem recordCall_writes (h : ws.Defines app schema) (call : RecordCall α) {answer : α}
    (ran : run settings ws (call.perform actor other) = (.ok answer, ws')) :
    Writes settings ws ws' schema := by
  cases call with
  | create input => exact createRecord_writes h ran
  | update id changes => exact updateRecord_writes h ran
  | delete id => exact deleteRecord_writes h ran
  | act id action => exact executeAction_writes h ran
  | assign id assignees =>
      obtain ⟨_, _, -, -, -, -, assigned⟩ := assignRecord_ok ran
      obtain ⟨_, -, rfl⟩ := assign_ok assigned
      exact .kept rfl (le_refl _)
  | read | list | related | actions | comment =>
      exact (recordCall_onlyReads rfl).unchanged ran ▸ .refl _ _ _

theorem recordCall_defines (h : ws.Defines app schema) (call : RecordCall α) {answer : α}
    (ran : run settings ws (call.perform actor other) = (.ok answer, ws')) :
    ws'.Defines app schema := by
  have hstep := recordCall_step call ran
  exact ⟨h.coherent.of_recordStep hstep, by rw [hstep.definitions.schemas, h.has_schema],
    h.schema_valid⟩

end Engine

namespace Workspace

variable {ids : Nat → String} {start ws : Workspace} {app : AppId} {schema : AppSchema}

/-! ## Runs -/

theorem Requests.recordRuns {settings : Settings} {ws' : Workspace}
    (h : Requests settings ws ws') (hids : settings.newRecordId = ids) :
    ws.RecordRuns ids ws' := by
  obtain ⟨α, actor, app, call, rfl⟩ := h
  exact .step settings actor app call hids .nil

theorem RecordRuns.trans {mid : Workspace} (h : start.RecordRuns ids mid)
    (h' : mid.RecordRuns ids ws) : start.RecordRuns ids ws := by
  induction h' with
  | nil => exact h
  | step settings actor app call hids _ ih => exact .step settings actor app call hids ih

/-- What holds at the start and is kept by every step of the run, whatever it writes, holds along
    the run. -/
theorem RecordRuns.along {P : Workspace → Prop} (hruns : start.RecordRuns ids ws)
    (hdefines : start.Defines app schema) (hstart : P start)
    (hwrites : ∀ {settings : Settings} {ws ws' : Workspace}, settings.newRecordId = ids →
      start.RecordRuns ids ws → Requests settings ws ws' → ws.Defines app schema →
      Writes settings ws ws' schema → P ws → P ws') :
    ws.Defines app schema ∧ P ws := by
  induction hruns with
  | nil => exact ⟨hdefines, hstart⟩
  | @step α ws settings actor other call hids hbefore ih =>
      obtain ⟨hdefines, hkept⟩ := ih
      have hstep : Requests settings ws (ws.serve settings (.records actor other call)) :=
        ⟨α, actor, other, call, rfl⟩
      obtain hrefused | ⟨answer, ran⟩ := Engine.serve_cases settings ws (.records actor other call)
      · rw [hrefused]
        exact ⟨hdefines, hkept⟩
      · exact ⟨Engine.recordCall_defines hdefines call ran,
          hwrites hids hbefore hstep hdefines (Engine.recordCall_writes hdefines call ran) hkept⟩

/-- The same for what is kept by every way of writing records, wherever the run comes from. -/
theorem RecordRuns.invariant {P : Workspace → Prop} (hruns : start.RecordRuns ids ws)
    (hdefines : start.Defines app schema) (hstart : P start)
    (hwrites : ∀ {settings : Settings} {ws ws' : Workspace}, settings.newRecordId = ids →
      ws.Defines app schema → Writes settings ws ws' schema → P ws → P ws') :
    ws.Defines app schema ∧ P ws :=
  hruns.along hdefines hstart fun hids _ _ => hwrites hids

/-- What every record has when it is written, if those before it had it, and what neither metadata
    nor the rest of the run undo, all records have that are made along a run. -/
theorem RecordRuns.forall_records {P : Workspace → Record → Prop} (hruns : start.RecordRuns ids ws)
    (hdefines : start.Defines app schema)
    (hstart : start.store.records schema.code.text = [])
    (hlater : ∀ {ws ws' : Workspace} {record : Record}, ws.RecordRuns ids ws' → P ws record →
      P ws' record)
    (hmetadata : ∀ {ws : Workspace} {record record' : Record},
      (∀ key, Key.isReserved key = false → record'.data.get? key = record.data.get? key) →
      record'.number = record.number → P ws record → P ws record')
    (hwritten : ∀ {settings : Settings} {ws ws' : Workspace} {record changed},
      settings.newRecordId = ids → start.RecordRuns ids ws → Requests settings ws ws' →
      (∀ stored ∈ ws.store.records schema.code.text, P ws stored) →
      Written settings ws ws' schema record changed → P ws' record) :
    ∀ record ∈ ws.store.records schema.code.text, P ws record := by
  refine (hruns.along (P := fun ws => ∀ record ∈ ws.store.records schema.code.text, P ws record)
    hdefines (by simp [hstart]) ?_).2
  intro settings ws ws' hids hbefore hstep _ hwrites hall
  have hkept : ∀ record ∈ ws.store.records schema.code.text, P ws' record :=
    fun record hrecord => hlater (hstep.recordRuns hids) (hall record hrecord)
  cases hwrites with
  | kept hrecords => exact hrecords ▸ hkept
  | created hdrafted hdata _ _ hrecords =>
      have hrecord := hwritten hids hbefore hstep hall (.created hdrafted hdata hrecords)
      simp only [hrecords, List.forall_mem_append, List.forall_mem_singleton]
      exact ⟨hkept, hrecord⟩
  | revised hrevised hsplit hrecords =>
      have hrecord := hwritten hids hbefore hstep hall (.revised hrevised hsplit hrecords)
      simp only [hsplit, hrecords, List.forall_mem_append, List.forall_mem_cons] at hkept ⊢
      exact ⟨hkept.1, hrecord, hkept.2.2⟩
  | @moved actor action stored before after hsplit hrecords =>
      simp only [hsplit, hrecords, List.forall_mem_append, List.forall_mem_cons] at hkept ⊢
      obtain ⟨hbefores, hstored, hafters⟩ := hkept
      have hsame (key : String) (hkey : Key.isReserved key = false) :
          (stored.moved actor settings.now action).data.get? key = stored.data.get? key :=
        stored.moved_get? actor settings.now action hkey
      exact ⟨hbefores, hmetadata hsame rfl hstored, hafters⟩
  | deleted hsplit hrecords =>
      simp only [hsplit, hrecords, List.forall_mem_append, List.forall_mem_cons] at hkept ⊢
      exact ⟨hkept.1, hkept.2.2⟩

/-- The same for what the data of drafts and revisions have without regard to the run. -/
theorem RecordRuns.forall_data {P : Fields → Prop} (hruns : start.RecordRuns ids ws)
    (hdefines : start.Defines app schema)
    (hstart : start.store.records schema.code.text = [])
    (hmetadata : ∀ {data data' : Fields},
      (∀ key, Key.isReserved key = false → data'.get? key = data.get? key) → P data → P data')
    (hdraft : ∀ {ws : Workspace} {settings actor input refresh},
      ws.draft settings actor schema input = .ok refresh → P refresh.data)
    (hrevision : ∀ {ws : Workspace} {settings actor stored changes refresh},
      ws.revision settings actor schema stored changes = .ok refresh → P refresh.data) :
    ∀ record ∈ ws.store.records schema.code.text, P record.data := by
  refine hruns.forall_records (P := fun _ record => P record.data) hdefines hstart (fun _ h => h)
    (fun hsame _ => hmetadata hsame) fun _ _ _ _ hwritten => ?_
  cases hwritten with
  | created hdrafted hdata => exact hdata ▸ hdraft hdrafted
  | revised hrevised => exact hrevision hrevised

end Workspace

end RecordApps
