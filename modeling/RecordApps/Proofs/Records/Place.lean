import RecordApps.Proofs.Access.Filtering
import RecordApps.Proofs.Access.Mediation
import RecordApps.Proofs.Records.Constraints
import RecordApps.Proofs.Records.Identity
import RecordApps.Proofs.Records.WrittenValues

/-! # Where records stay

Rules, schemas and users are kept by the id of an app, records by its code. A saved schema may
give its app another code, and a code that was given up may be taken by another app. Records do
not move along: they stay with the code they were created under, for whichever app has it.
-/

namespace RecordApps

namespace Workspace

def HasCode (ws : Workspace) (app : AppId) (code : String) : Prop :=
  ∃ schema, ws.schemas.get? app = some schema ∧ schema.code.text = code

theorem Coherent.one_app {ws : Workspace} (h : ws.Coherent) {app other : AppId} {code : String}
    (happ : ws.HasCode app code) (hother : ws.HasCode other code) : other = app := by
  obtain ⟨schema, hschema, rfl⟩ := happ
  obtain ⟨schema', hschema', hcode⟩ := hother
  exact h.own_code hschema' hschema (NonBlank.eq_of_text hcode)

end Workspace

namespace RecordCall

/-- The ids of the records that an answer tells something about. -/
def shown : {α : Type} → RecordCall α → α → List String
  | _, .create _, outcome | _, .update _ _, outcome | _, .delete _, outcome =>
      outcome.record.toList.map RecordView.id ++ outcome.notifications.map Notification.record
  | _, .read _, view => [view.id]
  | _, .list _, views => views.map RecordView.id
  | _, .related _ _, found => found.map RelatedRecord.id
  | _, .act _ _, .applied _ _ view notifications =>
      view.toList.map RecordView.id ++ notifications.map Notification.record
  | _, .comment _ _, notifications => notifications.map Notification.record
  | _, _, _ => []

/-- A request for the related records of a field that is configured with a code. -/
def Relates (ws : Workspace) (app : AppId) (code : String) : {α : Type} → RecordCall α → Prop
  | _, .related _ field => ∃ schema config, ws.schemas.get? app = some schema ∧
      (schema.field? field).map FieldDefinition.type = some (.relatedRecords config) ∧
      config.app = code
  | _, _ => False

def Deletes (id : String) : {α : Type} → RecordCall α → Prop
  | _, .delete id' => id' = id
  | _, _ => False

end RecordCall

namespace Workspace

variable {ws : Workspace} {settings : Settings} {actor : Actor} {app : AppId} {schema : AppSchema}
  {record : Record}

theorem view?_id {view : RecordView} (h : ws.view? settings actor schema record = some view) :
    view.id = record.id.text := by
  obtain ⟨-, rfl⟩ := view?_eq_some.1 h
  rfl

theorem notifications_record {trigger : Trigger} {told : List Notification}
    (h : ws.notifications settings app trigger record = .ok told) {n : Notification}
    (hn : n ∈ told) : n.record = record.id.text := by
  simp only [notifications, Outcome.bind_eq_ok] at h
  obtain ⟨schema, -, h⟩ := h
  split at h
  case isFalse => cases h
  case isTrue =>
    obtain rfl := Outcome.pure_eq_ok.1 h
    obtain ⟨rule, -, rfl⟩ := List.mem_map.1 (List.mem_of_mem_filter hn)
    rfl

theorem notificationsAfter_record {trigger : Trigger} {n : Notification}
    (hn : n ∈ ws.notificationsAfter settings app trigger record) : n.record = record.id.text := by
  rw [notificationsAfter] at hn
  split at hn
  case h_1 told htold => exact notifications_record htold hn
  case h_2 => cases hn

theorem told_id {trigger : Trigger} {id : String}
    (h : id ∈ (ws.view? settings actor schema record).toList.map RecordView.id ++
      (ws.notificationsAfter settings app trigger record).map Notification.record) :
    id = record.id.text := by
  rcases List.mem_append.1 h with h | h
  · obtain ⟨view, hview, rfl⟩ := List.mem_map.1 h
    exact view?_id (Option.mem_toList.1 hview)
  · obtain ⟨n, hn, rfl⟩ := List.mem_map.1 h
    exact notificationsAfter_record hn

end Workspace

namespace Engine

open Workspace

variable {α : Type} {settings : Settings} {ids : Nat → String} {ws ws' : Workspace} {actor : Actor}
  {app : AppId} {code id : String}

/-! ## One request -/

/-- A request shows a record that it has just created, or records that are stored under the code of
    its app, or related records that are stored under the code they are configured with. -/
theorem recordCall_shown (call : RecordCall α) {answer : α}
    (ran : run settings ws (call.perform actor app) = (.ok answer, ws'))
    (hshown : id ∈ call.shown answer) :
    id = settings.newRecordId (ws.created + 1) ∨
      ∃ code, (ws.HasCode app code ∨ call.Relates ws app code) ∧
        ∃ record ∈ ws.store.records code, record.id.text = id := by
  have hown : ∀ {schema record id}, ws.schemas.get? app = some schema →
      ws.store.find? schema.code.text id = some record →
      ∃ code, (ws.HasCode app code ∨ call.Relates ws app code) ∧
        ∃ stored ∈ ws.store.records code, stored.id.text = id := by
    intro schema record id hschema hrecord
    exact ⟨_, .inl ⟨schema, hschema, rfl⟩, record, RecordStore.mem_of_find? hrecord,
      RecordStore.find?_id hrecord⟩
  cases call with
  | create input =>
      obtain ⟨_, _, record, _, -, -, hinsert, -, rfl⟩ := createRecord_ok ran
      obtain ⟨-, hid, -⟩ := RecordStore.insert_ok hinsert
      exact .inl ((told_id hshown).trans hid)
  | update id' changes =>
      obtain ⟨schema, stored, _, _, hschema, hstored, -, -, -, rfl⟩ := updateRecord_ok ran
      obtain rfl := RecordStore.find?_id hstored
      obtain rfl := told_id hshown
      exact .inr (hown hschema hstored)
  | delete id' =>
      obtain ⟨schema, record, _, hschema, hrecord, -, -, -, rfl⟩ := deleteRecord_ok ran
      obtain rfl := RecordStore.find?_id hrecord
      obtain ⟨n, hn, rfl⟩ := List.mem_map.1 hshown
      rw [notificationsAfter_record hn]
      exact .inr (hown hschema hrecord)
  | act id' action =>
      obtain ⟨schema, record, moved, hschema, hrecord, -, hmoved, htold⟩ := executeAction_ok ran
      obtain rfl := RecordStore.find?_id hrecord
      obtain ⟨_, -, rfl, -⟩ | ⟨_, _, -, -, rfl, -⟩ := transition_ok hmoved
      · cases answer with
        | applied => exact htold.elim
        | rejected => cases hshown
      · cases answer with
        | rejected => exact htold.elim
        | applied source target view notifications =>
            obtain ⟨-, -, rfl, rfl⟩ := htold
            obtain rfl := told_id hshown
            exact .inr (hown hschema hrecord)
  | read id' =>
      have h := answer_of_run_settings ran
      simp only [readRecord, Outcome.bind_eq_ok, requireSchema_eq_ok, requireRecord_eq_ok] at h
      obtain ⟨schema, hschema, record, hrecord, access, -, h⟩ := h
      obtain rfl := RecordStore.find?_id hrecord
      obtain rfl := Outcome.pure_eq_ok.1 h
      obtain rfl := List.mem_singleton.1 hshown
      exact .inr (hown hschema hrecord)
  | list filter =>
      obtain ⟨schema, hschema, -, hviews⟩ := listRecords_authorized (answer_of_run_settings ran)
      obtain ⟨view, hview, rfl⟩ := List.mem_map.1 hshown
      obtain ⟨record, hrecord, hid, -⟩ := hviews view hview
      exact .inr ⟨_, .inl ⟨schema, hschema, rfl⟩, record, hrecord, hid⟩
  | related id' field =>
      obtain ⟨-, schema, config, remote, hschema, hconfig, hremote, hfound⟩ :=
        relatedRecords_authorized (answer_of_run ran)
      obtain ⟨related, hrelated, rfl⟩ := List.mem_map.1 hshown
      obtain ⟨record, hrecord, hid, -⟩ := hfound related hrelated
      have hcode : remote.code.text = config.app := by simpa using List.find?_some hremote
      exact .inr ⟨_, .inr ⟨schema, config, hschema, hconfig, hcode.symm⟩, record, hrecord, hid⟩
  | comment id' text =>
      have h := answer_of_run_settings ran
      simp only [comment, Outcome.bind_eq_ok, requireSchema_eq_ok, requireRecord_eq_ok] at h
      obtain ⟨_, -, schema, hschema, record, hrecord, _, -, h⟩ := h
      obtain rfl := RecordStore.find?_id hrecord
      obtain ⟨n, hn, rfl⟩ := List.mem_map.1 hshown
      rw [notifications_record h hn]
      exact .inr (hown hschema hrecord)
  | actions | assign => cases hshown

/-- A request that does not delete a record leaves it under its code, with its number. -/
theorem recordCall_keeps (call : RecordCall α) {answer : α}
    (ran : run settings ws (call.perform actor app) = (.ok answer, ws')) {record : Record}
    (hfound : ws.store.find? code id = some record) (hdelete : ¬call.Deletes id) :
    ∃ next, ws'.store.find? code id = some next ∧ next.number = record.number := by
  by_cases hother : (∀ schema, ws.schemas.get? app = some schema → code ≠ schema.code.text) ∨
      call.record? ≠ some id
  · exact ⟨record, recordCall_find? call ran hother hfound, rfl⟩
  · push Not at hother
    obtain ⟨⟨schema, hschema, rfl⟩, hid⟩ := hother
    cases call with
    | create | list => cases hid
    | update id' changes =>
        obtain rfl := Option.some.inj hid
        obtain ⟨schema', stored, _, _, hschema', hstored, -, hupdate, rfl, -⟩ := updateRecord_ok ran
        obtain rfl := Option.some.inj (hschema.symm.trans hschema')
        obtain rfl := Option.some.inj (hfound.symm.trans hstored)
        obtain rfl := RecordStore.find?_id hstored
        have hnext := RecordStore.find?_update hupdate
        exact ⟨_, hnext, rfl⟩
    | act id' action =>
        obtain rfl := Option.some.inj hid
        obtain ⟨schema', stored, _, hschema', hstored, -, hmoved, -⟩ := executeAction_ok ran
        obtain rfl := Option.some.inj (hschema.symm.trans hschema')
        obtain rfl := Option.some.inj (hfound.symm.trans hstored)
        obtain rfl := RecordStore.find?_id hstored
        obtain ⟨_, -, -, rfl⟩ | ⟨_, _, -, hupdate, -, rfl⟩ := transition_ok hmoved
        · exact ⟨record, hfound, rfl⟩
        · have hnext := RecordStore.find?_update hupdate
          exact ⟨_, hnext, rfl⟩
    | delete id' => exact absurd (Option.some.inj hid) hdelete
    | assign id' users =>
        obtain ⟨_, _, -, -, -, -, hassigned⟩ := assignRecord_ok ran
        obtain ⟨_, -, rfl⟩ := assign_ok hassigned
        exact ⟨record, hfound, rfl⟩
    | read | related | actions | comment =>
        exact ⟨record, (recordCall_onlyReads rfl).unchanged ran ▸ hfound, rfl⟩

end Engine

/-- The calls of a run: requests about records, and saving schemas. -/
def ServiceCall.OnPlaces : {α : Type} → ServiceCall α → Prop
  | _, .records _ _ _ => True
  | _, .schemas (.save _) => True
  | _, _ => False

def ServiceCall.Deletes (id : String) : {α : Type} → ServiceCall α → Prop
  | _, .records _ _ call => call.Deletes id
  | _, _ => False

namespace Workspace

open Engine

variable {ids : Nat → String} {start ws : Workspace} {code id : String}

/-! ## Runs -/

/-- The calls of a run in which a record is not deleted. -/
def Keeping (id : String) (settings : Settings) (ws : Workspace) {α : Type}
    (call : ServiceCall α) : Prop :=
  call.OnPlaces ∧ ¬(call.Deletes id ∧ ∃ answer ws', run settings ws call.perform = (.ok answer, ws'))

theorem RunsOf.keeps {record : Record} (hruns : start.RunsOf ids (Keeping id) ws)
    (hfound : start.store.find? code id = some record) :
    ∃ stored, ws.store.find? code id = some stored ∧ stored.number = record.number := by
  induction hruns with
  | refl => exact ⟨record, hfound, rfl⟩
  | @tail ws _ _ hstep ih =>
      obtain ⟨settings, call, -, hcall, hkept⟩ := hstep
      obtain hrefused | ⟨answer, ran⟩ := serve_cases settings ws call
      · rwa [hrefused]
      obtain ⟨stored, hstored, hnumber⟩ := ih
      cases call with
      | records actor app call =>
          obtain ⟨next, hnext, hsame⟩ :=
            recordCall_keeps call ran hstored fun hdelete => hkept ⟨hdelete, answer, _, ran⟩
          exact ⟨next, hnext, hsame.trans hnumber⟩
      | schemas call =>
          cases call with
          | save schema =>
              obtain ⟨-, -, -, hsaved⟩ := saveSchema_ok ran
              rw [hsaved]
              exact ⟨stored, hstored, hnumber⟩
          | find | addField | retireField => exact hcall.elim
      | processes | permissions | notifications => exact hcall.elim

/-- An app finds a record exactly if it has the code that the record is stored under. -/
theorem Identified.requireRecord_eq (h : ws.Identified ids) {stored : Record}
    (hstored : ws.store.find? code id = some stored) (schema : AppSchema) :
    ws.requireRecord schema id = if schema.code.text = code then .ok stored
      else .error (.notFound (.record id schema.code.text)) := by
  split
  case isTrue hcode =>
    subst hcode
    exact requireRecord_eq_ok.2 hstored
  case isFalse hcode =>
    have hnone : ws.store.find? schema.code.text id = none := by
      cases hfound : ws.store.find? schema.code.text id with
      | none => rfl
      | some other =>
          have hsame := (RecordStore.find?_id hfound).trans (RecordStore.find?_id hstored).symm
          exact absurd (h.unique (RecordStore.mem_of_find? hfound)
            (RecordStore.mem_of_find? hstored) hsame).1 hcode
    rw [requireRecord, hnone]

/-- A request to an app with another code leaves a record as it is, and does not show it but as a
    related record of a field that is configured with the code. -/
theorem Identified.elsewhere (hinjective : Function.Injective ids) (h : ws.Identified ids)
    {settings : Settings} (hids : settings.newRecordId = ids) {actor : Actor} {other : AppId}
    {α : Type} (call : RecordCall α) {answer : α} {ws' : Workspace}
    (ran : run settings ws (call.perform actor other) = (.ok answer, ws')) {stored : Record}
    (hstored : ws.store.find? code id = some stored) (hother : ¬ws.HasCode other code) :
    ws'.store.find? code id = some stored ∧
      (id ∈ call.shown answer → call.Relates ws other code) := by
  constructor
  · refine recordCall_find? call ran (.inl fun schema hschema hcode => ?_) hstored
    exact hother ⟨schema, hschema, hcode.symm⟩
  · intro hshown
    obtain ⟨hmem, rfl⟩ := h.find?_iff.1 hstored
    rcases recordCall_shown call ran hshown with hnew | ⟨code', hreads, record, hrecord, hid⟩
    · exact absurd hnew (h.fresh hinjective hmem (congrFun hids _))
    · obtain ⟨rfl, -⟩ := h.unique hrecord hmem hid
      exact hreads.resolve_left hother

/-- Records stay with a code, not with an app. What is created through an app is stored under the
    code that the app has then, and stays there with its number until it is deleted. An app finds
    it exactly while it has the code, which at most one app has; requests to other apps leave it as
    it is, and do not show it but as a related record of a field that is configured with the code. -/
theorem record_stays_with_code (hinjective : Function.Injective ids) (hsound : start.Sound)
    (hempty : ∀ code, start.store.records code = []) {born created : Workspace}
    (hborn : start.RunsOf ids (fun _ _ {_} call => call.OnPlaces) born) {settings : Settings}
    (hids : settings.newRecordId = ids) {actor : Actor} {app : AppId} {input : Fields}
    {outcome : MutationOutcome}
    (ran : run settings born (createRecord actor app input) = (.ok outcome, created)) :
    ∃ code record, born.HasCode app code ∧ record.id.text = ids (born.created + 1) ∧
      created.store.records code = born.store.records code ++ [record] ∧
      ∀ ws, created.RunsOf ids (Keeping record.id.text) ws →
        ∃ stored, stored.id = record.id ∧ stored.number = record.number ∧
          (∀ schema : AppSchema, ws.requireRecord schema record.id.text =
            if schema.code.text = code then .ok stored
            else .error (.notFound (.record record.id.text schema.code.text))) ∧
          (ws.HasCode app code → ∀ other, ws.HasCode other code → other = app) ∧
          ∀ settings, settings.newRecordId = ids → ∀ actor other {α : Type} (call : RecordCall α)
            answer ws', run settings ws (call.perform actor other) = (.ok answer, ws') →
            ¬ws.HasCode other code → ws'.store.find? code record.id.text = some stored ∧
              (record.id.text ∈ call.shown answer → call.Relates ws other code) := by
  have hbornSound := RunsOf.sound hborn hsound
  have hbornIds := RunsOf.identified hinjective hborn hsound (.of_nil hempty)
  have hcreatedSound := hbornSound.answered (.records actor app (.create input)) ran
  have hcreatedIds := hbornIds.answered hinjective hids hbornSound.ordered
    (.records actor app (.create input)) ran
  obtain ⟨schema, refresh, record, store, hschema, -, hinsert, hcreated, -⟩ := createRecord_ok ran
  obtain ⟨-, hid, -, -, hstore⟩ := RecordStore.insert_ok hinsert
  have hrecords : created.store.records schema.code.text =
      born.store.records schema.code.text ++ [record] := by
    rw [hcreated, hstore]
    exact (RecordStore.records_withApp _ _ _ _).trans (if_pos rfl)
  have hmem : record ∈ created.store.records schema.code.text := by
    rw [hrecords]
    exact List.mem_append_right _ (List.mem_singleton_self _)
  refine ⟨_, record, ⟨schema, hschema, rfl⟩, hid.trans (congrFun hids _), hrecords, ?_⟩
  intro ws hruns
  have hws := RunsOf.sound hruns hcreatedSound
  have hwsIds := RunsOf.identified hinjective hruns hcreatedSound hcreatedIds
  obtain ⟨stored, hstored, hnumber⟩ := hruns.keeps (hcreatedIds.find?_iff.2 ⟨hmem, rfl⟩)
  refine ⟨stored, NonBlank.eq_of_text (RecordStore.find?_id hstored), hnumber,
    hwsIds.requireRecord_eq hstored, fun happ other => hws.one_app happ, ?_⟩
  intro settings hids actor other α call answer ws' ran hother
  exact hwsIds.elsewhere hinjective hids call ran hstored hother

end Workspace

namespace Orders

def placing : ServiceCall MutationOutcome :=
  .records clerk app (.create .empty)

/-- An order is placed. -/
def placed : Workspace :=
  copying.serve settings placing

/-- The schema of the orders under another code, -/
def salesSchema : AppSchema :=
  { copyingSchema with code := ⟨"sales", by decide⟩ }

/-- and that of the customers under the code of the orders. -/
def takingSchema : AppSchema :=
  { customerSchema with code := schema.code }

/-- The two schemas are saved one after the other. -/
def renamed : Workspace :=
  (placed.serve settings (.schemas (.save salesSchema))).serve settings
    (.schemas (.save takingSchema))

theorem copying_sound : copying.Sound :=
  (Workspace.Reachable.empty.served _ _ |>.served _ _ |>.served _ _ |>.served _ _).sound

theorem renamed_run : placed.RunsOf settings.newRecordId (Workspace.Keeping "r") renamed :=
  .tail (.single (.call _ (.schemas (.save salesSchema)) rfl ⟨trivial, fun h => h.1⟩))
    (.call _ (.schemas (.save takingSchema)) rfl ⟨trivial, fun h => h.1⟩)

end Orders

namespace Workspace

open Engine

/-- Once the schemas are saved, the app of the orders does not find the order that was created
    through it, and the app of the customers shows and deletes it. -/
theorem order_goes_to_customers :
    (∃ outcome, run Orders.settings Orders.copying
      (createRecord Orders.clerk Orders.app .empty) = (.ok outcome, Orders.placed)) ∧
    Orders.placed.RunsOf Orders.settings.newRecordId (Keeping "r") Orders.renamed ∧
    Orders.renamed.readRecord Orders.settings Orders.clerk Orders.app "r" =
      .error (.notFound (.record "r" "sales")) ∧
    (∃ view, Orders.renamed.readRecord Orders.settings Orders.clerk Orders.customers "r" =
      .ok view ∧ view.id = "r") ∧
    ∃ outcome ws', run Orders.settings Orders.renamed
        (deleteRecord Orders.clerk Orders.customers "r") = (.ok outcome, ws') ∧
      ws'.store.find? "orders" "r" = none :=
  ⟨⟨_, rfl⟩, Orders.renamed_run, rfl, ⟨_, rfl, rfl⟩, _, _, rfl, rfl⟩

/-- The first order is found by the app of the customers, which has the code of the orders by then,
    and a request to the app of the orders does not show it any more. -/
theorem record_stays_with_code_orders :
    ∃ stored, stored.id.text = "r" ∧ stored.number = 1 ∧
      Orders.renamed.requireRecord Orders.takingSchema "r" = .ok stored ∧
      Orders.renamed.requireRecord Orders.salesSchema "r" =
        .error (.notFound (.record "r" "sales")) ∧
      ∃ views, run Orders.settings Orders.renamed
          ((RecordCall.list .all).perform Orders.clerk Orders.app) = (.ok views, Orders.renamed) ∧
        "r" ∉ (RecordCall.list .all).shown views := by
  obtain ⟨outcome, ran⟩ : ∃ outcome, run Orders.settings Orders.copying
      (createRecord Orders.clerk Orders.app .empty) = (.ok outcome, Orders.placed) := ⟨_, rfl⟩
  obtain ⟨code, record, ⟨schema, hschema, rfl⟩, hid, hrecords, hstays⟩ :=
    record_stays_with_code Orders.newRecordId_injective Orders.copying_sound (fun _ => rfl) .refl rfl
      ran
  obtain rfl : Orders.copyingSchema = schema := Option.some.inj hschema
  have hid : record.id.text = "r" := hid
  have hnumber : record.number = 1 := by
    have hnumbers : (Orders.placed.store.records "orders").map Record.number = [1] := rfl
    rw [show Orders.placed.store.records "orders" = [record] from hrecords] at hnumbers
    exact (List.cons.inj hnumbers).1
  rw [hid] at hstays
  obtain ⟨stored, hsame, hstored, hfinds, -, helsewhere⟩ := hstays _ Orders.renamed_run
  obtain ⟨views, hviews⟩ : ∃ views, run Orders.settings Orders.renamed
      ((RecordCall.list .all).perform Orders.clerk Orders.app) = (.ok views, Orders.renamed) :=
    ⟨_, rfl⟩
  refine ⟨stored, hsame ▸ hid, hstored.trans hnumber, (hfinds _).trans (if_pos rfl),
    (hfinds _).trans (if_neg (by decide)), views, hviews, ?_⟩
  refine (helsewhere _ rfl _ _ (.list .all) _ _ hviews ?_).2
  rintro ⟨schema, hschema, hcode⟩
  obtain rfl : Orders.salesSchema = schema := Option.some.inj hschema
  exact absurd hcode (by decide)

end Workspace

end RecordApps
