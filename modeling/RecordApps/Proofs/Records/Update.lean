import RecordApps.Proofs.Access.Resolution
import RecordApps.Proofs.Derived.Frame
import RecordApps.Proofs.Engine.RecordFrame
import RecordApps.Proofs.RecordStore

/-! # What an update may touch

An update writes one record. Under the keys of this record it writes what the actor may write,
who has changed it and when, and derived values: lookups copy only where their own key has been
changed, and calculated fields are computed anew. Everything else stays as it is.
-/

namespace RecordApps

/-- The changed fields are those of the payload that are not the same as what is stored. -/
theorem mem_changedCodes {stored changes : Fields} {code : String}
    (h : code ∈ changedCodes stored changes) :
    ∃ v, changes.get? code = some v ∧ ∀ w, stored.get? code = some w → v.same w = false := by
  obtain ⟨v, hv⟩ := KeyMap.mem_keys_iff.1 h
  obtain ⟨hchange, hdiffers⟩ := KeyMap.get?_filter_eq_some_iff.1 hv
  refine ⟨v, hchange, fun w hw => ?_⟩
  rw [hw] at hdiffers
  simpa using hdiffers

namespace Workspace

variable {ws ws' : Workspace} {settings : Settings} {actor : Actor} {schema : AppSchema}
  {stored : Record} {changes : Fields}

/-- The keys of a stored record that may have other values after an update. -/
inductive MayTouch (ws : Workspace) (actor : Actor) (schema : AppSchema) (stored : Record)
    (changes : Fields) : String → Prop where
  | modifier : MayTouch ws actor schema stored changes Key.updatedBy
  | modifiedTime : MayTouch ws actor schema stored changes Key.updatedAt
  /-- A calculated field in use. -/
  | calculated {f : FieldDefinition} {config : FormulaConfig} : f ∈ schema.activeFields →
      f.type = .calculated config → MayTouch ws actor schema stored changes f.code.text
  /-- A target of a lookup in use whose own value is changed. -/
  | copied {f : FieldDefinition} {config : LookupConfig} {copy : LookupCopy} {v : Value} :
      f ∈ schema.activeFields → f.type = .lookup config → copy ∈ config.copies →
      changes.get? f.code.text = some v →
      (∀ w, stored.data.get? f.code.text = some w → v.same w = false) →
      MayTouch ws actor schema stored changes copy.target
  /-- A key of the payload that the actor may edit on the stored record. -/
  | edited {key : String} : changes.contains key = true →
      (ws.access actor schema (some stored)).fields.level key = .edit →
      MayTouch ws actor schema stored changes key
  /-- The status, where no process manages it. -/
  | status : changes.contains Key.status = true → schema.processEnabled = false →
      MayTouch ws actor schema stored changes Key.status

/-- Two workspaces that differ in one record of the app with a code. -/
structure DiffersAt (ws ws' : Workspace) (code : String) (stored next : Record) : Prop where
  definitions : ws.SameDefinitions ws'
  assignees : ws'.assignees = ws.assignees
  created : ws'.created = ws.created
  others : ∀ other, other ≠ code → ws'.store.app other = ws.store.app other
  lastNumber : (ws'.store.app code).lastNumber = (ws.store.app code).lastNumber
  records : ∃ before after, ws.store.records code = before ++ stored :: after ∧
    ws'.store.records code = before ++ next :: after
  id : next.id = stored.id
  number : next.number = stored.number

theorem stampModified_putWhere (data : Fields) (now : String) :
    KeyMap.PutWhere (ws.MayTouch actor schema stored changes) data
      (stampModified actor now data) :=
  (KeyMap.PutWhere.insert .modifier _).trans (.insert .modifiedTime _)

theorem written_mayTouch
    (h : (ws.access actor schema (some stored)).fields.checkAllWritable schema changes = .ok ())
    {key : String} (hkey : key ∈ changes.keys) :
    ws.MayTouch actor schema stored changes key := by
  have hcontains := KeyMap.contains_iff.2 hkey
  have hwritable := Outcome.forM_eq_ok.1 h key hkey
  rcases KeyMap.checkWritable_ok hwritable with ⟨rfl, hprocess⟩ | ⟨-, hlevel⟩
  · exact .status hcontains hprocess
  · exact .edited hcontains hlevel

theorem derived_mayTouch {key : String}
    (h : schema.Derives (some (changedCodes stored.data changes)) key) :
    ws.MayTouch actor schema stored changes key := by
  cases h with
  | calculated hf htype => exact .calculated hf htype
  | copied hf htype hchanged hcopy =>
      obtain ⟨v, hv, hdiffers⟩ := mem_changedCodes (List.contains_iff_mem.1 hchanged)
      exact .copied hf htype hcopy hv hdiffers

theorem revision_putWhere {refresh : Refresh}
    (h : ws.revision settings actor schema stored changes = .ok refresh) :
    KeyMap.PutWhere (ws.MayTouch actor schema stored changes) stored.data refresh.data := by
  obtain ⟨-, hwritable, -, rfl, -, -⟩ := revision_ok h
  have hwritten : KeyMap.PutWhere (ws.MayTouch actor schema stored changes) stored.data
      (stored.data.insertAll changes.entries) :=
    .insertAll changes fun key hkey => written_mayTouch hwritable hkey
  refine hwritten.trans (.trans (stampModified_putWhere _ settings.now) ?_)
  exact (AppSchema.recompute_putWhere _).mono fun key => derived_mayTouch

end Workspace

namespace Engine

variable {settings : Settings} {ws ws' : Workspace} {actor : Actor} {app : AppId}

/-- An update that succeeds changes no record but the one it is about, drops none of its keys,
    and gives another value to none but those that it may touch. -/
theorem update_touches {id : String} {changes : Fields} {outcome : MutationOutcome}
    (ran : run settings ws (updateRecord actor app id changes) = (.ok outcome, ws')) :
    ∃ schema stored next,
      ws.schemas.get? app = some schema ∧
      ws.store.find? schema.code.text id = some stored ∧
      ws'.store.find? schema.code.text id = some next ∧
      ws.DiffersAt ws' schema.code.text stored next ∧
      (∀ key, stored.data.contains key = true → next.data.contains key = true) ∧
      ∀ key, next.data.get? key ≠ stored.data.get? key →
        ws.MayTouch actor schema stored changes key := by
  obtain ⟨schema, stored, refresh, store, hschema, hstored, hrevision, hupdate, rfl, -⟩ :=
    updateRecord_ok ran
  have hid : stored.id.text = id := RecordStore.find?_id hstored
  have hput := Workspace.revision_putWhere hrevision
  refine ⟨schema, stored, { stored with data := refresh.data }, hschema, hstored, ?_, ?_, ?_, ?_⟩
  · exact hid ▸ RecordStore.find?_update hupdate
  · obtain ⟨before, after, hsplit, rfl⟩ := RecordStore.update_found hstored hupdate rfl
    constructor
    case definitions => exact ⟨rfl, rfl, rfl, rfl, rfl, rfl⟩
    case others =>
      intro other hother
      rw [RecordStore.app_withApp, if_neg hother]
    case lastNumber => rw [RecordStore.app_withApp, if_pos rfl]
    case records =>
      refine ⟨before, after, hsplit, ?_⟩
      rw [RecordStore.records_withApp, if_pos rfl]
    case assignees | created | id | number => rfl
  · intro key hkey
    exact hput.contains hkey
  · intro key hkey
    by_contra hmay
    exact hkey (hput.get?_eq hmay)

/-- In the small app, the clerk changes the item of the first order. -/
theorem update_touches_orders :
    let changes := KeyMap.ofList [("item", .text "coffee")]
    ∃ outcome ws', run Orders.settings Orders.workspace
        (updateRecord Orders.clerk Orders.app "r" changes) = (.ok outcome, ws') ∧
      ∃ stored next,
        Orders.workspace.store.find? "orders" "r" = some stored ∧
        ws'.store.find? "orders" "r" = some next ∧
        Orders.workspace.DiffersAt ws' "orders" stored next ∧
        (∀ key, stored.data.contains key = true → next.data.contains key = true) ∧
        ∀ key, next.data.get? key ≠ stored.data.get? key →
          Orders.workspace.MayTouch Orders.clerk Orders.schema stored changes key := by
  intro changes
  obtain ⟨outcome, ws', ran⟩ : ∃ outcome ws', run Orders.settings Orders.workspace
      (updateRecord Orders.clerk Orders.app "r" changes) = (.ok outcome, ws') := ⟨_, _, rfl⟩
  obtain ⟨schema, stored, next, hschema, hrest⟩ := update_touches ran
  obtain rfl : Orders.schema = schema := Option.some.inj hschema
  exact ⟨outcome, ws', ran, stored, next, hrest⟩

end Engine

end RecordApps
