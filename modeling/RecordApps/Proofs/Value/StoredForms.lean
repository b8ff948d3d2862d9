import RecordApps.Notification.Rule
import RecordApps.Process.Stored
import RecordApps.Proofs.Field.Stored
import RecordApps.Proofs.Service

/-! # What is stored is read as it was

Every definition that is stored, and every record, is read again from its stored form, whatever it
was read from: with aliases of names, with defaults and nulls, or from a list.
-/

namespace RecordApps

open Decode

/-! ## Conditions -/

theorem Connective.faithful : Faithful ofValue? fun logic => .text logic.name := by
  intro _ logic _
  cases logic <;> rfl

theorem Comparison.ofName_name (s : String) : ofName (ofName s).name = ofName s := by
  cases hlookup : names.lookup s with
  | none =>
      have hname : ofName s = .unknown s := by rw [ofName, hlookup, Option.getD_none]
      rw [hname, name, hname]
  | some operator =>
      have hname : ofName s = operator := by rw [ofName, hlookup, Option.getD_some]
      obtain ⟨before, after, hsplit, -⟩ := List.lookup_eq_some_iff.1 hlookup
      have hmem : (s, operator) ∈ names := hsplit ▸ List.mem_append_right _ List.mem_cons_self
      rw [hname]
      have hall : ∀ row ∈ names, ofName row.2.name = row.2 := by decide
      exact hall _ hmem

theorem Comparison.faithful : Faithful ofValue? fun operator => .text operator.name := by
  intro v operator h
  cases v with
  | text s =>
      cases h
      exact congrArg some (ofName_name s)
  | null | bool | int | float | list | object => cases h

theorem Condition.faithful : Faithful ofValue? toValue := by
  refine .ofFields fun c h => ?_
  obtain ⟨field, hfield, h⟩ := h.bind
  obtain ⟨operator, hoperator, h⟩ := h.bind
  obtain ⟨value, hvalue, h⟩ := h.bind
  obtain ⟨values, hvalues, h⟩ := h.bind
  obtain rfl := h.pure
  refine .bind (.required hfield NonBlank.faithful rfl) <|
    .bind (.required hoperator Comparison.faithful rfl) <| .bind ?_ <| .bind ?_ (.pure _)
  · cases value with
    | none => exact .absent (by cases values <;> rfl)
    | some v => exact .maybeAny hvalue rfl
  · cases values with
    | none => exact .absent (by cases value <;> rfl)
    | some vs => exact .maybe hvalues .items (by simp) (by cases value <;> rfl)

theorem ConditionGroup.faithful : Faithful ofValue? toValue := by
  refine .ofFields fun g h => ?_
  obtain ⟨logic, hlogic, h⟩ := h.bind
  obtain ⟨conditions, hconditions, h⟩ := h.bind
  obtain rfl := h.pure
  exact .bind (.orElse hlogic Connective.faithful rfl rfl) <|
    .bind (.orElse hconditions (.listOf Condition.faithful) rfl rfl) (.pure _)

/-! ## Permissions -/

theorem TargetType.lookup_name (type : TargetType) : names.lookup type.name = some type := by
  cases type <;> rfl

theorem RecordTargetType.lookup_name (type : RecordTargetType) :
    names.lookup type.name = some type := by
  cases type <;> rfl

theorem AccessLevel.lookup_name (level : AccessLevel) : names.lookup level.name = some level := by
  cases level <;> rfl

theorem AppCapabilities.reads {c : AppCapabilities} {entries : List (String × Value)}
    (h : Yields reader c)
    (hentries : c.entries.Forall fun entry => entries.lookup entry.1 = some entry.2) :
    Reads entries reader c := by
  obtain ⟨mayView, hview, h⟩ := h.bind
  obtain ⟨mayAdd, hadd, h⟩ := h.bind
  obtain ⟨mayEdit, hedit, h⟩ := h.bind
  obtain ⟨mayDelete, hdelete, h⟩ := h.bind
  obtain ⟨mayManage, hmanage, h⟩ := h.bind
  obtain ⟨mayExport, hexport, h⟩ := h.bind
  obtain ⟨mayImport, himport, h⟩ := h.bind
  obtain rfl := h.pure
  obtain ⟨add, delete, edit, exporting, importing, manage, view⟩ := hentries
  exact .bind (.orElse hview .flag rfl view) <| .bind (.orElse hadd .flag rfl add) <|
    .bind (.orElse hedit .flag rfl edit) <| .bind (.orElse hdelete .flag rfl delete) <|
    .bind (.orElse hmanage .flag rfl manage) <| .bind (.orElse hexport .flag rfl exporting) <|
    .bind (.orElse himport .flag rfl importing) (.pure _)

theorem RecordCapabilities.reads {c : RecordCapabilities} {entries : List (String × Value)}
    (h : Yields reader c)
    (hentries : c.entries.Forall fun entry => entries.lookup entry.1 = some entry.2) :
    Reads entries reader c := by
  obtain ⟨mayView, hview, h⟩ := h.bind
  obtain ⟨mayEdit, hedit, h⟩ := h.bind
  obtain ⟨mayDelete, hdelete, h⟩ := h.bind
  obtain rfl := h.pure
  obtain ⟨delete, edit, view⟩ := hentries
  exact .bind (.orElse hview .flag rfl view) <| .bind (.orElse hedit .flag rfl edit) <|
    .bind (.orElse hdelete .flag rfl delete) (.pure _)

theorem AppPermission.faithful : Faithful ofValue? toValue := by
  refine .ofKeyedFields fun row h => ?_
  obtain ⟨id, hid, h⟩ := h.bind
  obtain ⟨app, happ, h⟩ := h.bind
  obtain ⟨targetType, htype, h⟩ := h.bind
  obtain ⟨targetId, htarget, h⟩ := h.bind
  obtain ⟨capabilities, hcapabilities, h⟩ := h.bind
  obtain ⟨priority, hpriority, h⟩ := h.bind
  obtain ⟨includeDescendants, hinclude, h⟩ := h.bind
  obtain rfl := h.pure
  exact .bind (.required hid NonBlank.faithful rfl) <| .bind (.required happ AppId.faithful rfl) <|
    .bind (.required htype (.nameWith TargetType.lookup_name) rfl) <|
    .bind (.maybe htarget .text (by simp) rfl) <| .bind
    (AppCapabilities.reads hcapabilities ⟨rfl, rfl, rfl, rfl, rfl, rfl, rfl⟩) <|
    .bind (.orElse hpriority (.wholeWithin _ _) rfl rfl) <|
    .bind (.orElse hinclude .flag rfl rfl) (.pure _)

theorem FieldPermission.faithful : Faithful ofValue? toValue := by
  refine .ofFields fun row h => ?_
  obtain ⟨id, hid, h⟩ := h.bind
  obtain ⟨app, happ, h⟩ := h.bind
  obtain ⟨field, hfield, h⟩ := h.bind
  obtain ⟨targetType, htype, h⟩ := h.bind
  obtain ⟨targetId, htarget, h⟩ := h.bind
  obtain ⟨level, hlevel, h⟩ := h.bind
  obtain ⟨priority, hpriority, h⟩ := h.bind
  obtain ⟨includeDescendants, hinclude, h⟩ := h.bind
  obtain rfl := h.pure
  exact .bind (.required hid NonBlank.faithful rfl) <| .bind (.required happ AppId.faithful rfl) <|
    .bind (.required hfield NonBlank.faithful rfl) <|
    .bind (.required htype (.nameWith TargetType.lookup_name) rfl) <|
    .bind (.maybe htarget .text (by simp) rfl) <|
    .bind (.required hlevel (.nameWith AccessLevel.lookup_name) rfl) <|
    .bind (.orElse hpriority (.wholeWithin _ _) rfl rfl) <|
    .bind (.orElse hinclude .flag rfl rfl) (.pure _)

theorem RecordRule.faithful : Faithful ofValue? toValue := by
  refine .ofKeyedFields fun rule h => ?_
  obtain ⟨id, hid, h⟩ := h.bind
  obtain ⟨app, happ, h⟩ := h.bind
  obtain ⟨condition, hcondition, h⟩ := h.bind
  obtain ⟨targetType, htype, h⟩ := h.bind
  obtain ⟨targetId, htarget, h⟩ := h.bind
  obtain ⟨targetField, hfield, h⟩ := h.bind
  obtain ⟨capabilities, hcapabilities, h⟩ := h.bind
  obtain ⟨priority, hpriority, h⟩ := h.bind
  obtain rfl := h.pure
  exact .bind (.required hid NonBlank.faithful rfl) <| .bind (.required happ AppId.faithful rfl) <|
    .bind (.orElse hcondition ConditionGroup.faithful rfl rfl) <|
    .bind (.required htype (.nameWith RecordTargetType.lookup_name) rfl) <|
    .bind (.maybe htarget .text (by simp) rfl) <| .bind (.maybe hfield .text (by simp) rfl) <|
    .bind (RecordCapabilities.reads hcapabilities ⟨rfl, rfl, rfl⟩) <|
    .bind (.orElse hpriority (.wholeWithin _ _) rfl rfl) (.pure _)

/-! ## Processes -/

theorem AssigneeType.lookup_name (type : AssigneeType) : names.lookup type.name = some type := by
  cases type <;> rfl

theorem ActionType.lookup_name (type : ActionType) : names.lookup type.name = some type := by
  cases type <;> rfl

theorem ProcessStatus.faithful : Faithful ofValue? toValue := by
  refine .ofFields fun status h => ?_
  obtain ⟨id, hid, h⟩ := h.bind
  obtain ⟨name, hname, h⟩ := h.bind
  obtain ⟨initial, hinitial, h⟩ := h.bind
  obtain ⟨final, hfinal, h⟩ := h.bind
  obtain ⟨assigneeType, hassignee, h⟩ := h.bind
  obtain rfl := h.pure
  exact .bind (.required hid NonBlank.faithful rfl) <|
    .bind (.required hname NonBlank.faithful rfl) <| .bind (.orElse hinitial .flag rfl rfl) <|
    .bind (.orElse hfinal .flag rfl rfl) <|
    .bind (.maybe hassignee (.nameWith AssigneeType.lookup_name) (by simp)
      (by cases assigneeType <;> rfl)) (.pure _)

theorem ProcessAction.faithful : Faithful ofValue? toValue := by
  refine .ofFields fun action h => ?_
  obtain ⟨id, hid, h⟩ := h.bind
  obtain ⟨name, hname, h⟩ := h.bind
  obtain ⟨source, hsource, h⟩ := h.bind
  obtain ⟨target, htarget, h⟩ := h.bind
  obtain ⟨type, htype, h⟩ := h.bind
  obtain rfl := h.pure
  exact .bind (.required hid NonBlank.faithful rfl) <|
    .bind (.required hname NonBlank.faithful rfl) <|
    .bind (.required hsource NonBlank.faithful rfl) <|
    .bind (.required htarget NonBlank.faithful rfl) <|
    .bind (.orElse htype (.nameWith ActionType.lookup_name) rfl rfl) (.pure _)

theorem ProcessGraph.faithful : Faithful ofValue? toValue := by
  refine .ofFields fun graph h => ?_
  obtain ⟨app, happ, h⟩ := h.bind
  obtain ⟨statuses, hstatuses, h⟩ := h.bind
  obtain ⟨actions, hactions, h⟩ := h.bind
  obtain rfl := h.pure
  exact .bind (.required happ AppId.faithful rfl) <|
    .bind (.required hstatuses (.listOf ProcessStatus.faithful) rfl) <|
    .bind (.orElse hactions (.listOf ProcessAction.faithful) rfl rfl) (.pure _)

/-! ## Notifications and records -/

theorem Trigger.lookup_name (trigger : Trigger) : names.lookup trigger.name = some trigger := by
  cases trigger <;> rfl

theorem NotifyType.lookup_name (type : NotifyType) : names.lookup type.name = some type := by
  cases type <;> rfl

theorem NotificationRule.faithful : Faithful ofValue? toValue := by
  refine .ofFields fun rule h => ?_
  obtain ⟨id, hid, h⟩ := h.bind
  obtain ⟨app, happ, h⟩ := h.bind
  obtain ⟨trigger, htrigger, h⟩ := h.bind
  obtain ⟨condition, hcondition, h⟩ := h.bind
  obtain ⟨notifyType, htype, h⟩ := h.bind
  obtain ⟨targetId, htarget, h⟩ := h.bind
  obtain ⟨targetField, hfield, h⟩ := h.bind
  obtain ⟨title, htitle, h⟩ := h.bind
  obtain ⟨message, hmessage, h⟩ := h.bind
  obtain rfl := h.pure
  exact .bind (.required hid NonBlank.faithful rfl) <| .bind (.required happ AppId.faithful rfl) <|
    .bind (.required htrigger (.nameWith Trigger.lookup_name) rfl) <|
    .bind (.maybe hcondition ConditionGroup.faithful (by simp [ConditionGroup.toValue]) rfl) <|
    .bind (.required htype (.nameWith NotifyType.lookup_name) rfl) <|
    .bind (.maybe htarget .text (by simp) rfl) <| .bind (.maybe hfield .text (by simp) rfl) <|
    .bind (.required htitle .text rfl) <| .bind (.orElse hmessage .text rfl rfl) (.pure _)

theorem Record.faithful : Faithful ofValue? toValue := by
  refine .ofFields fun record h => ?_
  obtain ⟨id, hid, h⟩ := h.bind
  obtain ⟨number, hnumber, h⟩ := h.bind
  obtain ⟨data, hdata, h⟩ := h.bind
  obtain rfl := h.pure
  exact .bind (.required hid NonBlank.faithful rfl) <|
    .bind (.required hnumber (.natBelow _) rfl) <| .bind (.required hdata .fields rfl) (.pure _)

/-! ## Everything that is stored -/

/-- Definitions and records survive being stored. Whatever value a schema (with all types of fields
    and the columns of its subtables), a permission row or rule, a process, a notification rule, a
    group of conditions or a record is read from, the same is read from its stored form. -/
theorem stored_forms_faithful :
    Faithful AppSchema.ofValue? AppSchema.toValue ∧
    Faithful AppPermission.ofValue? AppPermission.toValue ∧
    Faithful FieldPermission.ofValue? FieldPermission.toValue ∧
    Faithful RecordRule.ofValue? RecordRule.toValue ∧
    Faithful ProcessGraph.ofValue? ProcessGraph.toValue ∧
    Faithful NotificationRule.ofValue? NotificationRule.toValue ∧
    Faithful ConditionGroup.ofValue? ConditionGroup.toValue ∧
    Faithful Record.ofValue? Record.toValue :=
  ⟨AppSchema.faithful, AppPermission.faithful, FieldPermission.faithful, RecordRule.faithful,
    ProcessGraph.faithful, NotificationRule.faithful, ConditionGroup.faithful, Record.faithful⟩

namespace Orders

/-- Orders with a table of lines, whose one column is a number of at least one, given by the place
    of its type. -/
def linesForm : Value :=
  let column : Value := .object
    [("id", .text "amount"), ("field_code", .text "amount"),
     ("field_type", .object [("type", .int 2), ("min", .int 1)])]
  let lines : Value := .object
    [("id", .text "lines"), ("field_code", .text "lines"),
     ("field_type", .object [("type", .text "subtable"), ("fields", .list [column])])]
  .object [("app_id", .text "00000000000000000000000000000000"), ("app_code", .text "orders"),
    ("fields", .list [lines])]

/-- A rule without all that may be left out, with a null. -/
def ruleForm : Value :=
  .object
    [("id", .text "tell"), ("app_id", .text "00000000000000000000000000000000"),
     ("trigger_type", .text "record_added"), ("notify_type", .text "creator"),
     ("condition", .object [("logic", .text "and"), ("conditions", .list
        [.object [("field", .text "item"), ("operator", .text "like"), ("value", .null)]])]),
     ("title_template", .text "New order")]

end Orders

/-- In the small app, both are read again, though they are stored in another form. -/
theorem stored_forms_faithful_orders :
    (∃ schema, AppSchema.ofValue? Orders.linesForm = some schema ∧
      (schema.fields.map (·.type.columns.length)) = [1] ∧
      AppSchema.ofValue? schema.toValue = some schema) ∧
    ∃ rule, NotificationRule.ofValue? Orders.ruleForm = some rule ∧
      (rule.condition.map (·.fieldCodes)) = some ["item"] ∧
      NotificationRule.ofValue? rule.toValue = some rule := by
  obtain ⟨hschema, -, -, -, -, hrule, -⟩ := stored_forms_faithful
  refine ⟨⟨_, rfl, rfl, hschema Orders.linesForm _ rfl⟩, ⟨_, rfl, rfl, hrule Orders.ruleForm _ rfl⟩⟩

end RecordApps
