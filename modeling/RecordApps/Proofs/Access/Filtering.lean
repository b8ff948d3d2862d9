import RecordApps.Proofs.Access.Noninterference
import RecordApps.Proofs.Access.Resolution
import RecordApps.Proofs.Engine.Reachable
import RecordApps.Proofs.Schema.Validity

/-! # Filters and what is shown

A filter is put to the stored data of a record, while a view shows the metadata and fills in the
automatic fields. Over the other fields the two agree: to filter the records is to filter their
views. A filter that names a piece of metadata lists nothing, and one that names an automatic field
never meets the value that is shown.
-/

namespace RecordApps

namespace AppSchema

variable {schema : AppSchema} {record : Record} {code : String}

theorem isAuto_of_autoValue? {type : FieldType} {v : Value} (h : type.autoValue? record = some v) :
    type.isAuto = true := by
  cases type <;> first | rfl | cases h

theorem autoValue?_of_lookup {v : Value}
    (h : (schema.autoValues record).reverse.lookup code = some v) :
    ∃ f ∈ schema.activeFields, f.code.text = code ∧ f.type.autoValue? record = some v := by
  obtain ⟨before, after, hsplit, -⟩ := List.lookup_eq_some_iff.1 h
  have hmem : (code, v) ∈ schema.autoValues record := by
    rw [← List.mem_reverse, hsplit]
    exact List.mem_append_right _ List.mem_cons_self
  obtain ⟨f, hf, hvalue⟩ := List.mem_filterMap.1 hmem
  obtain ⟨shown, hshown, hpair⟩ := Option.map_eq_some_iff.1 hvalue
  obtain ⟨hcode, rfl⟩ := Prod.mk.inj hpair
  exact ⟨f, hf, hcode, hshown⟩

theorem projectedData_get?_plain
    (hplain : ∀ f ∈ schema.activeFields, f.code.text = code → f.type.isAuto = false) :
    (schema.projectedData record).get? code = record.data.get? code := by
  rw [projectedData, KeyMap.get?_insertAll]
  cases hauto : (schema.autoValues record).reverse.lookup code with
  | none => rfl
  | some v =>
      obtain ⟨f, hf, hcode, hshown⟩ := autoValue?_of_lookup hauto
      have hnot := hplain f hf hcode
      rw [isAuto_of_autoValue? hshown] at hnot
      cases hnot

end AppSchema

namespace RecordFilter

variable {schema : AppSchema} {filter : RecordFilter} {access : Access} {record : Record}

/-- A filter over input and calculated fields. -/
def Plain (filter : RecordFilter) (schema : AppSchema) : Prop :=
  ∀ code ∈ filter.fieldCodes, Key.isReserved code = false ∧
    ∀ f ∈ schema.activeFields, f.code.text = code → f.type.isAuto = false

theorem holdsValue_view {code : String} (hreserved : Key.isReserved code = false)
    (hplain : ∀ f ∈ schema.activeFields, f.code.text = code → f.type.isAuto = false)
    (symbol : String) (expected : Value) :
    holdsValue (RecordView.ofRecord schema symbol record access).data code expected =
      (holdsValue record.data code expected && access.fields.level code != .hidden) := by
  have hdata : (RecordView.ofRecord schema symbol record access).data.value code =
      if access.fields.level code != .hidden then record.data.value code else .null := by
    have hread : access.fields.mayRead code = (access.fields.level code != .hidden) := by
      rw [KeyMap.mayRead, hreserved, Bool.false_or]
    simp only [RecordView.ofRecord, KeyMap.redact, KeyMap.value, KeyMap.get?_filter_key, hread,
      AppSchema.projectedData_get?_plain hplain]
    split <;> rfl
  rw [holdsValue, holdsValue, hdata]
  cases access.fields.level code != .hidden with
  | true => rw [if_pos rfl, Bool.and_true]
  | false => rw [if_neg Bool.false_ne_true, Bool.and_false]; rfl

theorem accepts_view (hplain : filter.Plain schema) (symbol : String) :
    filter.accepts (RecordView.ofRecord schema symbol record access).data =
      (filter.accepts record.data && Workspace.maySeeFilter access filter) := by
  rw [accepts, accepts, Workspace.maySeeFilter, fieldCodes, List.all_map, Bool.eq_iff_iff,
    Bool.and_eq_true, List.all_eq_true, List.all_eq_true, List.all_eq_true, ← forall₂_and]
  refine forall₂_congr fun entry hentry => ?_
  obtain ⟨code, expected⟩ := entry
  obtain ⟨hreserved, hauto⟩ := hplain code (List.mem_map_of_mem hentry)
  rw [← Bool.and_eq_true, Bool.eq_iff_iff.1 (holdsValue_view hreserved hauto symbol expected)]
  rfl

theorem accepts_eq_false {code : String} {data : Fields} (hcode : code ∈ filter.fieldCodes)
    (hnone : data.get? code = none) : filter.accepts data = false := by
  obtain ⟨⟨_, expected⟩, hentry, rfl⟩ := List.mem_map.1 hcode
  refine List.all_eq_false.2 ⟨_, hentry, ?_⟩
  simp only [holdsValue, KeyMap.value, hnone]
  exact Bool.false_ne_true

end RecordFilter

namespace Workspace

variable {ws : Workspace} {settings : Settings} {actor : Actor} {app : AppId}
  {schema : AppSchema} {filter : RecordFilter}

theorem listed?_plain (hplain : filter.Plain schema) (record : Record) :
    ws.listed? settings actor schema filter record =
      (ws.view? settings actor schema record).filter fun view => filter.accepts view.data := by
  rw [listed?, view?]
  split
  case isTrue hpasses =>
    split
    case isTrue =>
      rw [Option.filter_some, RecordFilter.accepts_view hplain, if_pos hpasses]
    case isFalse => rfl
  case isFalse hfails =>
    split
    case isTrue =>
      rw [Option.filter_some, RecordFilter.accepts_view hplain, if_neg hfails]
    case isFalse => rfl

theorem listRecords_eq (hschema : ws.schemas.get? app = some schema) (filter : RecordFilter) :
    ws.listRecords settings actor app filter =
      if ((ws.ruleSet schema.id).appCapabilities actor).mayView then
        .ok (filter.cut ((ws.store.records schema.code.text).filterMap
          (ws.listed? settings actor schema filter)))
      else .error (.forbidden (.viewApp actor.id schema.code.text)) :=
  withStore_listRecords hschema filter

theorem view?_eq_some {record : Record} {view : RecordView} :
    ws.view? settings actor schema record = some view ↔
      (ws.access actor schema (some record)).record.mayView = true ∧
        RecordView.ofRecord schema settings.currencySymbol record
          (ws.access actor schema (some record)) = view := by
  simp only [view?]
  split
  case isTrue hview => simp [hview]
  case isFalse hview => simp [hview]

theorem readRecord_eq_ok {id : String} {view : RecordView}
    (hschema : ws.schemas.get? app = some schema) :
    ws.readRecord settings actor app id = .ok view ↔
      ∃ record, ws.store.find? schema.code.text id = some record ∧
        ws.view? settings actor schema record = some view := by
  simp only [readRecord, requireSchema_eq_ok.2 hschema, Outcome.ok_bind, Outcome.bind_eq_ok,
    Outcome.pure_eq_ok, requireRecord_eq_ok, requireAccess_eq_ok, view?_eq_some]
  refine exists_congr fun record => and_congr_right fun _ => ?_
  constructor
  · rintro ⟨_, ⟨rfl, hview⟩, hshown⟩
    exact ⟨hview, hshown⟩
  · rintro ⟨hview, hshown⟩
    exact ⟨_, ⟨rfl, hview⟩, hshown⟩

theorem listRecords_view? {views : List RecordView}
    (hschema : ws.schemas.get? app = some schema)
    (h : ws.listRecords settings actor app filter = .ok views) :
    ∀ view ∈ views, ∃ record, ws.view? settings actor schema record = some view := by
  rw [listRecords_eq hschema] at h
  split at h
  case isFalse => cases h
  case isTrue =>
    cases h
    intro view hmem
    obtain ⟨record, -, hlisted⟩ := List.mem_filterMap.1 (RecordFilter.mem_of_mem_cut hmem)
    rw [listed?] at hlisted
    split at hlisted
    case isTrue => exact ⟨record, hlisted⟩
    case isFalse => cases hlisted

/-- What is chosen among the views by a filter may be chosen among all views that are listed. -/
theorem listRecords_of_views (hschema : ws.schemas.get? app = some schema)
    (choose : List RecordView → List RecordView)
    (hchosen : filter.cut ((ws.store.records schema.code.text).filterMap
      (ws.listed? settings actor schema filter)) =
        choose ((ws.store.records schema.code.text).filterMap
          (ws.view? settings actor schema))) :
    ws.listRecords settings actor app filter =
      (ws.listRecords settings actor app .all).map choose := by
  rw [listRecords_eq hschema, listRecords_eq hschema, hchosen]
  split <;> rfl

theorem listRecords_nothing (hschema : ws.schemas.get? app = some schema)
    (hnone : ∀ record ∈ ws.store.records schema.code.text,
      ws.listed? settings actor schema filter record = none) :
    ws.listRecords settings actor app filter =
      (ws.listRecords settings actor app .all).map fun _ => [] := by
  refine listRecords_of_views hschema (fun _ => []) ?_
  rw [List.filterMap_eq_nil_iff.2 hnone, RecordFilter.cut]
  cases filter.limit with
  | none => rfl
  | some limit => exact List.take_nil

theorem maySeeFilter_reserved (hvalid : schema.validate = .ok ()) {code : String}
    (hcode : code ∈ filter.fieldCodes) (hreserved : Key.isReserved code = true)
    (record : Option Record) : maySeeFilter (ws.access actor schema record) filter = false := by
  rw [maySeeFilter, List.all_eq_false]
  refine ⟨code, hcode, ?_⟩
  have hnone : (ws.access actor schema record).fields.get? code = none := by
    rw [access, RuleSet.access_fields, RuleSet.fieldAccess_get?, if_neg]
    intro hmem
    obtain ⟨f, hf, rfl⟩ := List.mem_map.1 hmem
    rw [AppSchema.code_not_reserved hvalid (List.mem_filter.1 hf).1] at hreserved
    cases hreserved
  rw [KeyMap.level, hnone]
  exact Bool.false_ne_true

/-- Filtering commutes with viewing over input and calculated fields: the records that a filter
    lists are those that are listed without it whose view passes the filter, up to its limit. A
    filter that names a piece of metadata lists nothing, and neither does one that names a code,
    such as that of an automatic field, under which no record stores a value. -/
theorem filter_commutes_with_view (settings : Settings) (actor : Actor)
    (hschema : ws.schemas.get? app = some schema) (filter : RecordFilter) :
    (filter.Plain schema → ws.listRecords settings actor app filter =
      (ws.listRecords settings actor app .all).map fun views =>
        filter.cut (views.filter fun view => filter.accepts view.data)) ∧
    (schema.validate = .ok () → (∃ code ∈ filter.fieldCodes, Key.isReserved code = true) →
      ws.listRecords settings actor app filter =
        (ws.listRecords settings actor app .all).map fun _ => []) ∧
    ((∃ code ∈ filter.fieldCodes, ∀ record ∈ ws.store.records schema.code.text,
        record.data.get? code = none) →
      ws.listRecords settings actor app filter =
        (ws.listRecords settings actor app .all).map fun _ => []) := by
  refine ⟨?_, ?_, ?_⟩
  · intro hplain
    refine listRecords_of_views hschema
      (fun views => filter.cut (views.filter fun view => filter.accepts view.data)) ?_
    rw [List.filter_filterMap]
    exact congrArg filter.cut (List.filterMap_congr fun record _ => listed?_plain hplain record)
  · rintro hvalid ⟨code, hcode, hreserved⟩
    refine listRecords_nothing hschema fun record _ => ?_
    rw [listed?, maySeeFilter_reserved hvalid hcode hreserved, Bool.and_false]
    rfl
  · rintro ⟨code, hcode, hraw⟩
    refine listRecords_nothing hschema fun record hrecord => ?_
    rw [listed?, RecordFilter.accepts_eq_false hcode (hraw record hrecord)]
    rfl

end Workspace

namespace Orders

/-- Orders that show their number, without a process. -/
def numberedSchema : AppSchema :=
  { schema with
    processEnabled := false
    fields :=
      [line ⟨"title", by decide⟩, { line ⟨"no", by decide⟩ with type := .recordNumber }] }

/-- The app with these orders, and one of them that is open. -/
def numbered : Workspace :=
  let ws := Workspace.empty.serve settings (.schemas (.save numberedSchema))
  let ws := ws.serve settings (.permissions (.saveApp clerkRow))
  ws.serve settings
    (.records clerk app (.create (.ofList [("title", .text "tea"), ("status", .text "open")])))

end Orders

namespace Workspace

/-- The clerk sees the status and the number of the order, and finds it by neither. -/
theorem shown_values_not_found :
    Orders.numbered.Reachable ∧
    ((Orders.numbered.listRecords Orders.settings Orders.clerk Orders.app .all).map
      fun views => views.map fun view => (view.data.value "status", view.data.value "no")) =
        .ok [(.text "open", .int 1)] ∧
    Orders.numbered.listRecords Orders.settings Orders.clerk Orders.app
      (.having "status" (.text "open")) = .ok [] ∧
    Orders.numbered.listRecords Orders.settings Orders.clerk Orders.app
      (.having "no" (.int 1)) = .ok [] := by
  refine ⟨?_, ?_, ?_, ?_⟩
  · exact Reachable.empty.served _ _ |>.served _ _ |>.served _ _
  · rfl
  · rfl
  · rfl

/-- In the small app, the one order is found by its item as its view is, and not by its status. -/
theorem filter_commutes_with_view_orders :
    Orders.workspace.schemas.get? Orders.app = some Orders.schema ∧
    (RecordFilter.having "item" (.text "tea")).Plain Orders.schema ∧
    Orders.workspace.listRecords Orders.settings Orders.clerk Orders.app
        (.having "item" (.text "tea")) =
      (Orders.workspace.listRecords Orders.settings Orders.clerk Orders.app .all).map
        (fun views => views.filter fun view =>
          (RecordFilter.having "item" (.text "tea")).accepts view.data) ∧
    Orders.schema.validate = .ok () ∧ Key.isReserved "status" = true ∧
    Orders.workspace.listRecords Orders.settings Orders.clerk Orders.app
        (.having "status" (.text "open")) =
      (Orders.workspace.listRecords Orders.settings Orders.clerk Orders.app .all).map
        fun _ => [] := by
  have hschema : Orders.workspace.schemas.get? Orders.app = some Orders.schema := rfl
  have hvalid : Orders.schema.validate = .ok () := by with_unfolding_all rfl
  have hplain : (RecordFilter.having "item" (.text "tea")).Plain Orders.schema := by
    intro code hcode
    obtain rfl := List.mem_singleton.1 hcode
    exact ⟨rfl, by decide⟩
  obtain ⟨hitem, -, -⟩ := filter_commutes_with_view Orders.settings Orders.clerk hschema
    (.having "item" (.text "tea"))
  obtain ⟨-, hstatus, -⟩ := filter_commutes_with_view Orders.settings Orders.clerk hschema
    (.having "status" (.text "open"))
  exact ⟨hschema, hplain, hitem hplain, hvalid, rfl,
    hstatus hvalid ⟨"status", List.mem_cons_self, rfl⟩⟩

end Workspace

end RecordApps
