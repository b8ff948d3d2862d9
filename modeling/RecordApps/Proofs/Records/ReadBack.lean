import RecordApps.Proofs.Access.Filtering
import RecordApps.Proofs.Records.Identity
import RecordApps.Proofs.RecordStore.Runs

/-! # Reading what was written

An operation answers with the record as it is about to be stored, while a reader gets what the
store finds under the id, by the rules that apply to it then. Neither the rules nor the schema are
touched by a write, and the store finds a record that was just written. So the two agree, also
about what the actor may not see.
-/

namespace RecordApps

/-- A record is shown exactly where it can be read, and left out where reading it is forbidden. -/
def ReadsAs (shown : Option RecordView) (answer : Outcome RecordView) : Prop :=
  (∀ view, shown = some view ↔ answer = .ok view) ∧
  (shown = none ↔ ∃ cause, answer = .error (.forbidden cause))

namespace Workspace

variable {α : Type} {settings later : Settings} {ws : Workspace} {actor : Actor} {app : AppId}
  {schema : AppSchema} {id : String} {record : Record} {past : List RecordStore}

theorem readRecord_of_found (hschema : ws.schemas.get? app = some schema)
    (hfound : ws.store.find? schema.code.text id = some record) :
    ws.readRecord settings actor app id =
      match ws.view? settings actor schema record with
      | some view => .ok view
      | none => .error (.forbidden (.view actor.id record.id.text)) := by
  simp only [readRecord, requireSchema_eq_ok.2 hschema, requireRecord_eq_ok.2 hfound,
    Outcome.ok_bind, requireAccess, view?]
  split <;> rfl

theorem readRecord_of_missing (hschema : ws.schemas.get? app = some schema)
    (hmissing : ws.store.find? schema.code.text id = none) :
    ws.readRecord settings actor app id = .error (.notFound (.record id schema.code.text)) := by
  simp only [readRecord, requireSchema_eq_ok.2 hschema, Outcome.ok_bind, requireRecord, hmissing]
  rfl

theorem view?_readsAs (hsymbol : later.currencySymbol = settings.currencySymbol)
    (hschema : ws.schemas.get? app = some schema)
    (hfound : ws.store.find? schema.code.text id = some record) :
    ReadsAs (ws.view? settings actor schema record) (ws.readRecord later actor app id) := by
  have hview : ws.view? later actor schema record = ws.view? settings actor schema record := by
    rw [view?, view?, hsymbol]
  rw [readRecord_of_found hschema hfound, hview]
  cases ws.view? settings actor schema record with
  | none => simp [ReadsAs]
  | some view => simp [ReadsAs]

/-! ## Requests as writes to the store -/

/-- The id that the next record would get is not in use. -/
def NextIdFresh (settings : Settings) (ws : Workspace) : Prop :=
  ∀ code, ws.store.find? code (settings.newRecordId (ws.created + 1)) = none

theorem run_of_serve (hrun : RecordStore.Run StoreWrite.FreshId past ws.store)
    (hfresh : ws.NextIdFresh settings) (call : ServiceCall α) :
    ∃ past, RecordStore.Run StoreWrite.FreshId past (ws.serve settings call).store := by
  obtain hrefused | ⟨answer, ran⟩ := Engine.serve_cases settings ws call
  · rw [hrefused]
    exact ⟨past, hrun⟩
  cases Engine.serviceCall_store call ran with
  | kept hstore => exact ⟨past, hstore ▸ hrun⟩
  | @inserted code data record hinsert =>
      have hdone := StoreWrite.perform_insert_eq_ok.2 ⟨record, hinsert⟩
      exact ⟨_, hrun.performed (.insert code _ data) (hfresh code) hdone⟩
  | @updated code record expected hupdate =>
      exact ⟨_, hrun.performed (.update code record expected) trivial hupdate⟩
  | @deleted code id hdelete =>
      exact ⟨_, hrun.performed (.delete code id) trivial hdelete⟩

end Workspace

namespace Engine

variable {settings later : Settings} {ws ws' : Workspace} {actor : Actor} {app : AppId}
  {past : List RecordStore}

open Workspace

theorem createRecord_readsAs (hsymbol : later.currencySymbol = settings.currencySymbol)
    (hfresh : ws.NextIdFresh settings) {input : Fields} {outcome : MutationOutcome}
    (ran : run settings ws (createRecord actor app input) = (.ok outcome, ws')) :
    ∃ schema record, ws.schemas.get? app = some schema ∧
      ws'.store.records schema.code.text = ws.store.records schema.code.text ++ [record] ∧
      ReadsAs outcome.record (ws'.readRecord later actor app record.id.text) := by
  obtain ⟨schema, _, record, store, hschema, -, hinsert, rfl, rfl⟩ := createRecord_ok ran
  have hfound := RecordStore.find?_inserted (hfresh _) hinsert
  obtain ⟨-, hid, -, -, rfl⟩ := RecordStore.insert_ok hinsert
  rw [← hid] at hfound
  refine ⟨schema, record, hschema, ?_, view?_readsAs hsymbol hschema hfound⟩
  exact (RecordStore.records_withApp _ _ _ _).trans (if_pos rfl)

theorem updateRecord_readsAs (hsymbol : later.currencySymbol = settings.currencySymbol)
    {id : String} {changes : Fields} {outcome : MutationOutcome}
    (ran : run settings ws (updateRecord actor app id changes) = (.ok outcome, ws')) :
    ReadsAs outcome.record (ws'.readRecord later actor app id) := by
  obtain ⟨schema, stored, _, store, hschema, hstored, -, hupdate, rfl, rfl⟩ := updateRecord_ok ran
  exact view?_readsAs hsymbol hschema (RecordStore.find?_replaced hstored hupdate rfl)

theorem executeAction_readsAs (hsymbol : later.currencySymbol = settings.currencySymbol)
    {id action source target : String} {view : Option RecordView} {sent : List Notification}
    (ran : run settings ws (executeAction actor app id action) =
      (.ok (.applied source target view sent), ws')) :
    ReadsAs view (ws'.readRecord later actor app id) := by
  obtain ⟨schema, stored, moved, hschema, hstored, -, htransition, hmoved⟩ := executeAction_ok ran
  obtain ⟨_, -, rfl, -⟩ | ⟨taken, store, -, hupdate, rfl, rfl⟩ := transition_ok htransition
  · exact hmoved.elim
  · obtain ⟨-, -, rfl, -⟩ := hmoved
    exact view?_readsAs hsymbol hschema (RecordStore.find?_replaced hstored hupdate rfl)

theorem deleteRecord_readsAs (hrun : RecordStore.Run StoreWrite.FreshId past ws.store)
    {id : String} {outcome : MutationOutcome}
    (ran : run settings ws (deleteRecord actor app id) = (.ok outcome, ws')) :
    outcome.record = none ∧
      ∃ code, ws'.readRecord later actor app id = .error (.notFound (.record id code)) := by
  obtain ⟨schema, _, store, hschema, -, -, hdelete, rfl, rfl⟩ := deleteRecord_ok ran
  exact ⟨rfl, _, readRecord_of_missing hschema (hrun.distinctIds.find?_delete hdelete)⟩

/-- What a request answers with is what the same actor reads afterwards, at any time. -/
theorem outcomes_agree_with_reads (actor : Actor) (app : AppId)
    (hrun : RecordStore.Run StoreWrite.FreshId past ws.store)
    (hfresh : ws.NextIdFresh settings) (hsymbol : later.currencySymbol = settings.currencySymbol) :
    (∀ input outcome ws', run settings ws (createRecord actor app input) = (.ok outcome, ws') →
      ∃ schema record, ws.schemas.get? app = some schema ∧
        ws'.store.records schema.code.text = ws.store.records schema.code.text ++ [record] ∧
        ReadsAs outcome.record (ws'.readRecord later actor app record.id.text)) ∧
    (∀ id changes outcome ws',
      run settings ws (updateRecord actor app id changes) = (.ok outcome, ws') →
        ReadsAs outcome.record (ws'.readRecord later actor app id)) ∧
    (∀ id action source target view sent ws',
      run settings ws (executeAction actor app id action) =
          (.ok (.applied source target view sent), ws') →
        ReadsAs view (ws'.readRecord later actor app id)) ∧
    (∀ id outcome ws', run settings ws (deleteRecord actor app id) = (.ok outcome, ws') →
      outcome.record = none ∧
        ∃ code, ws'.readRecord later actor app id = .error (.notFound (.record id code))) := by
  refine ⟨?created, ?updated, ?moved, ?deleted⟩
  case created => exact fun _ _ _ ran => createRecord_readsAs hsymbol hfresh ran
  case updated => exact fun _ _ _ _ ran => updateRecord_readsAs hsymbol ran
  case moved => exact fun _ _ _ _ _ _ _ ran => executeAction_readsAs hsymbol ran
  case deleted => exact fun _ _ _ ran => deleteRecord_readsAs hrun ran

theorem outcomes_agree_with_reads_orders :
    ∃ past, RecordStore.Run StoreWrite.FreshId past Orders.workspace.store ∧
      Orders.workspace.NextIdFresh Orders.settings ∧
      ∃ outcome ws', run Orders.settings Orders.workspace (updateRecord Orders.clerk Orders.app "r"
          (.ofList [("item", .text "coffee")])) = (.ok outcome, ws') ∧
        outcome.record.isSome = true ∧
        ReadsAs outcome.record (ws'.readRecord Orders.settings Orders.clerk Orders.app "r") := by
  have hstart : RecordStore.Run StoreWrite.FreshId [] Orders.defined.store := .start
  have hnothing : Orders.defined.NextIdFresh Orders.settings := fun _ => rfl
  obtain ⟨past, hrun⟩ := run_of_serve hstart hnothing
    (.records Orders.clerk Orders.app (.create (.ofList [("item", .text "tea")])))
  have hstore : Orders.workspace.store =
      RecordStore.empty.withApp "orders" ⟨1, [Orders.order ""]⟩ := rfl
  have hfresh : Orders.workspace.NextIdFresh Orders.settings := by
    intro code
    rw [RecordStore.find?_eq_none_iff, hstore, RecordStore.records_withApp]
    split
    · exact List.forall_mem_singleton.2 (by decide)
    · exact fun _ hmem => absurd hmem List.not_mem_nil
  obtain ⟨outcome, ws', ran, hshown⟩ : ∃ outcome ws', run Orders.settings Orders.workspace
      (updateRecord Orders.clerk Orders.app "r" (.ofList [("item", .text "coffee")])) =
        (.ok outcome, ws') ∧ outcome.record.isSome = true := ⟨_, _, rfl, rfl⟩
  have hsymbol : Orders.settings.currencySymbol = Orders.settings.currencySymbol := rfl
  obtain ⟨-, hupdated, -⟩ :=
    outcomes_agree_with_reads Orders.clerk Orders.app hrun hfresh hsymbol
  exact ⟨past, hrun, hfresh, outcome, ws', ran, hshown, hupdated _ _ _ _ ran⟩

end Engine

end RecordApps
