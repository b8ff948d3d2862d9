import RecordApps.Proofs.Access.Filtering
import RecordApps.Proofs.Access.Tables
import RecordApps.Proofs.Schema.History

/-! # What the rows of fields enforce

The row that decides for a field keeps its value out of every view, and writes to it out of every
update. A row on a metadata key is accepted as well, but changes nothing: metadata are shown to
everyone who may view the record, and written by nobody, except for the status of an app without
a process.
-/

namespace RecordApps

theorem AccessLevel.eq_hidden_of_rank_le {level : AccessLevel} (h : level.rank ≤ hidden.rank) :
    level = .hidden := by
  cases level with
  | hidden => rfl
  | view | edit => cases h

theorem AccessLevel.eq_edit_of_le_rank {level : AccessLevel} (h : edit.rank ≤ level.rank) :
    level = .edit := by
  cases level with
  | edit => rfl
  | hidden => cases h
  | view => exact absurd h (by decide)

namespace RuleSet

variable {rules : RuleSet} {actor : Actor} {schema : AppSchema} {code : String}
  {row : FieldPermission}

/-- The row that decides for an actor on a field. -/
def FixedBy (rules : RuleSet) (actor : Actor) (code : String) (row : FieldPermission) : Prop :=
  Ranked.Tops (fun row : FieldPermission => row.field.text == code && row.target.covers actor)
    rules.field row

theorem FixedBy.fieldLevel? (h : rules.FixedBy actor code row)
    (hids : (rules.field.map Ranked.id).Nodup) : rules.fieldLevel? actor code = some row.level := by
  rw [RuleSet.fieldLevel?, ((Ranked.deciding_decidedBy hids).some_iff row).2 h]
  rfl

theorem FixedBy.level_le (h : rules.FixedBy actor code row)
    (hids : (rules.field.map Ranked.id).Nodup) (schema : AppSchema) (record : Option Record) :
    ((rules.access actor schema record).fields.level code).rank ≤ row.level.rank := by
  rw [access_fields, KeyMap.level, fieldAccess_get?, h.fieldLevel? hids]
  split
  · exact AccessLevel.rank_lower_le_left _ _
  · exact Nat.zero_le _

/-- The rules without the rows on a field. -/
def withoutRowsOn (rules : RuleSet) (code : String) : RuleSet :=
  { rules with field := rules.field.filter fun row => row.field.text != code }

theorem fieldLevel?_withoutRowsOn {other : String} (hne : other ≠ code) :
    (rules.withoutRowsOn code).fieldLevel? actor other = rules.fieldLevel? actor other := by
  have hsame : (rules.withoutRowsOn code).field.filter
        (fun row => row.field.text == other && row.target.covers actor) =
      rules.field.filter fun row => row.field.text == other && row.target.covers actor := by
    rw [withoutRowsOn, List.filter_filter]
    refine List.filter_congr fun row _ => ?_
    by_cases hrow : row.field.text = other
    · simp [hrow, hne]
    · simp [hrow]
  rw [fieldLevel?, fieldLevel?, Ranked.deciding, Ranked.deciding, hsame]

theorem access_withoutRowsOn (hvalid : schema.validate = .ok ())
    (hreserved : Key.isReserved code = true) (record : Option Record) :
    (rules.withoutRowsOn code).access actor schema record = rules.access actor schema record := by
  have hfields : ∀ capabilities, (rules.withoutRowsOn code).fieldAccess actor schema capabilities =
      rules.fieldAccess actor schema capabilities := by
    intro capabilities
    rw [fieldAccess, fieldAccess]
    refine congrArg KeyMap.ofList (List.map_congr_left fun f hf => ?_)
    have hne : f.code.text ≠ code := by
      intro hsame
      have hfree := AppSchema.code_not_reserved hvalid (List.mem_filter.1 hf).1
      rw [hsame, hreserved] at hfree
      cases hfree
    rw [fieldLevel?_withoutRowsOn hne]
  simp only [access, hfields]
  rfl

end RuleSet

/-- The views of records in an answer. -/
def RecordCall.views : {α : Type} → RecordCall α → α → List RecordView
  | _, .create _, outcome => outcome.record.toList
  | _, .update _ _, outcome => outcome.record.toList
  | _, .delete _, outcome => outcome.record.toList
  | _, .read _, view => [view]
  | _, .list _, views => views
  | _, .act _ _, .applied _ _ view _ => view.toList
  | _, .act _ _, .rejected _ => []
  | _, .related _ _, _ => []
  | _, .actions _, _ => []
  | _, .assign _ _, _ => []
  | _, .comment _ _, _ => []

namespace Workspace

variable {ws ws' : Workspace} {settings : Settings} {actor : Actor} {app : AppId}
  {schema : AppSchema} {record : Record} {view : RecordView} {code : String}
  {row : FieldPermission}

theorem SameDefinitions.view? (h : ws.SameDefinitions ws') :
    ws'.view? settings actor schema record = ws.view? settings actor schema record := by
  rw [Workspace.view?, Workspace.view?, Workspace.access, Workspace.access, h.ruleSet]

theorem view_hides (hids : ((ws.ruleSet schema.id).field.map Ranked.id).Nodup)
    (hrow : (ws.ruleSet schema.id).FixedBy actor code row) (hhidden : row.level = .hidden)
    (hreserved : Key.isReserved code = false)
    (h : ws.view? settings actor schema record = some view) : view.data.get? code = none := by
  have hlevel := hrow.level_le hids schema (some record)
  rw [hhidden] at hlevel
  obtain ⟨-, rfl⟩ := view?_eq_some.1 h
  rw [RecordView.ofRecord, KeyMap.redact, KeyMap.get?_filter_key, if_neg]
  rw [KeyMap.mayRead, hreserved, access, AccessLevel.eq_hidden_of_rank_le hlevel]
  decide

end Workspace

namespace Engine

open Workspace

variable {α : Type} {settings : Settings} {ws ws' : Workspace} {actor : Actor} {app : AppId}
  {schema : AppSchema}

/-- All that is shown of a record is shown by the rules that the request met. -/
theorem recordCall_views (hschema : ws.schemas.get? app = some schema) (call : RecordCall α)
    {answer : α} (ran : run settings ws (call.perform actor app) = (.ok answer, ws')) :
    ∀ view ∈ call.views answer, ∃ record, ws.view? settings actor schema record = some view := by
  have hsame := (recordCall_step call ran).definitions
  have hafter : ∀ {record : Record} {view : RecordView},
      view ∈ (ws'.view? settings actor schema record).toList →
        ∃ record, ws.view? settings actor schema record = some view := by
    intro record view hview
    rw [hsame.view?, Option.mem_toList] at hview
    exact ⟨record, hview⟩
  have hown : ∀ {stored}, ws.schemas.get? app = some stored → stored = schema := by
    intro stored hstored
    exact Option.some.inj (hstored.symm.trans hschema)
  intro view hview
  cases call with
  | create input =>
      obtain ⟨_, _, _, _, hstored, -, -, -, rfl⟩ := createRecord_ok ran
      obtain rfl := hown hstored
      exact hafter hview
  | update id changes =>
      obtain ⟨_, _, _, _, hstored, -, -, -, -, rfl⟩ := updateRecord_ok ran
      obtain rfl := hown hstored
      exact hafter hview
  | delete id =>
      obtain ⟨_, _, _, -, -, -, -, -, rfl⟩ := deleteRecord_ok ran
      cases hview
  | act id action =>
      obtain ⟨_, _, moved, hstored, -, -, -, hshown⟩ := executeAction_ok ran
      obtain rfl := hown hstored
      cases answer with
      | rejected reason => cases hview
      | applied source target shown notifications =>
          cases moved with
          | rejected reason => cases hshown
          | applied next source' target' =>
              obtain ⟨-, -, rfl, -⟩ := hshown
              exact hafter hview
  | read id =>
      obtain rfl := List.mem_singleton.1 hview
      obtain ⟨record, -, hshown⟩ := (readRecord_eq_ok hschema).1 (answer_of_run_settings ran)
      exact ⟨record, hshown⟩
  | list filter => exact listRecords_view? hschema (answer_of_run_settings ran) view hview
  | related | actions | assign | comment => cases hview

theorem updateRecord_refused (hschema : ws.schemas.get? app = some schema) {code : String}
    (hlevel : ∀ record, (ws.access actor schema (some record)).fields.level code ≠ .edit)
    (hstatus : ¬(code = Key.status ∧ schema.processEnabled = false)) {id : String}
    {changes : Fields} (hcode : code ∈ changes.keys) :
    ∃ fault, run settings ws (updateRecord actor app id changes) = (.error fault, ws) := by
  rcases hran : run settings ws (updateRecord actor app id changes) with ⟨fault | answer, ws'⟩
  · exact ⟨fault, by rw [updateRecord_atomic _ _ _ _ _ _ _ _ hran]⟩
  · obtain ⟨stored, record, _, _, hstored, -, hrevision, -⟩ := updateRecord_ok hran
    obtain rfl : stored = schema := Option.some.inj (hstored.symm.trans hschema)
    obtain ⟨-, hwritable, -⟩ := revision_ok hrevision
    rcases KeyMap.checkWritable_ok (Outcome.forM_eq_ok.1 hwritable code hcode) with
      hfree | ⟨-, hedit⟩
    · exact absurd hfree hstatus
    · exact absurd hedit (hlevel record)

/-- The row that decides for an actor on a field is enforced. If it hides the field, no answer
    shows the field; if it does not let the actor edit it, no update writes it. Metadata keys are
    not hidden by any row, and only the status of an app without a process is written: rows on
    them change nothing. -/
theorem field_rows_enforced (settings : Settings) (h : ws.Reachable) (actor : Actor)
    (hschema : ws.schemas.get? app = some schema) {code : String} {row : FieldPermission}
    (hrow : (ws.ruleSet app).FixedBy actor code row) :
    (row.level = .hidden → Key.isReserved code = false →
      ∀ {α : Type} (call : RecordCall α) answer ws',
        run settings ws (call.perform actor app) = (.ok answer, ws') →
          ∀ view ∈ call.views answer, view.data.get? code = none) ∧
    (row.level ≠ .edit → ¬(code = Key.status ∧ schema.processEnabled = false) →
      ∀ id (changes : Fields), code ∈ changes.keys →
        ∃ fault, run settings ws (updateRecord actor app id changes) = (.error fault, ws)) ∧
    (Key.isReserved code = true → ∀ record,
      ((ws.ruleSet app).withoutRowsOn code).access actor schema record =
        ws.access actor schema record) := by
  obtain rfl := h.coherent.own_id hschema
  have hids := (h.distinct schema.id).field
  refine ⟨?_, ?_, ?_⟩
  · intro hhidden hreserved α call answer ws' ran view hview
    obtain ⟨record, hshown⟩ := recordCall_views hschema call ran view hview
    exact view_hides hids hrow hhidden hreserved hshown
  · intro hlevel hstatus id changes hcode
    refine updateRecord_refused hschema (fun record hedit => hlevel ?_) hstatus hcode
    have hle := hrow.level_le hids schema (some record)
    rw [access] at hedit
    rw [hedit] at hle
    exact AccessLevel.eq_edit_of_le_rank hle
  · intro hreserved record
    exact RuleSet.access_withoutRowsOn (h.sound.schema_valid hschema) hreserved record

/-- Nobody sees or writes the margin of an order. -/
theorem field_rows_enforced_margin :
    Orders.workspace.Reachable ∧
    Orders.workspace.schemas.get? Orders.app = some Orders.schema ∧
    (Orders.workspace.ruleSet Orders.app).FixedBy Orders.clerk "margin" Orders.marginRow ∧
    (∃ view, run Orders.settings Orders.workspace
        ((RecordCall.read "r").perform Orders.clerk Orders.app) = (.ok view, Orders.workspace) ∧
      view.data.get? "margin" = none) ∧
    ∃ fault, run Orders.settings Orders.workspace
      (updateRecord Orders.clerk Orders.app "r" (.ofList [("margin", .text "high")])) =
        (.error fault, Orders.workspace) := by
  have hreachable : Orders.workspace.Reachable := defined_reachable.served _ _
  have hrow : (Orders.workspace.ruleSet Orders.app).FixedBy Orders.clerk "margin"
      Orders.marginRow := by
    refine ⟨List.mem_singleton_self _, rfl, fun other hother _ => ?_⟩
    obtain rfl := List.mem_singleton.1 hother
    simp
  have hschema : Orders.workspace.schemas.get? Orders.app = some Orders.schema := rfl
  obtain ⟨hhides, hrefuses, -⟩ :=
    field_rows_enforced Orders.settings hreachable Orders.clerk hschema hrow
  refine ⟨hreachable, hschema, hrow, ⟨_, rfl, ?_⟩, ?_⟩
  · exact hhides rfl rfl (.read "r") _ _ rfl _ (List.mem_singleton_self _)
  · refine hrefuses (by decide) ?_ "r" (.ofList [("margin", .text "high")]) List.mem_cons_self
    rintro ⟨hcode, -⟩
    exact absurd hcode (by decide)

end Engine

namespace Orders

/-- Nobody is to see the status. -/
def statusRow : FieldPermission :=
  { marginRow with id := ⟨"state", by decide⟩, field := ⟨"status", by decide⟩ }

/-- The open order with this row. -/
def statusHidden : Workspace :=
  numbered.serve settings (.permissions (.saveField statusRow))

end Orders

namespace Engine

open Workspace

/-- The row decides for the clerk, who reads the status of the order all the same, and writes
    it. -/
theorem status_row_unenforced :
    Orders.statusHidden.Reachable ∧
    (Orders.statusHidden.ruleSet Orders.app).FixedBy Orders.clerk "status" Orders.statusRow ∧
    Orders.statusRow.level = .hidden ∧
    ((Orders.statusHidden.readRecord Orders.settings Orders.clerk Orders.app "r").map
      fun view => view.data.get? "status") = .ok (some (.text "open")) ∧
    ∃ outcome ws', run Orders.settings Orders.statusHidden (updateRecord Orders.clerk Orders.app "r"
      (.ofList [("status", .text "closed")])) = (.ok outcome, ws') := by
  refine ⟨?_, ?_, rfl, rfl, ⟨_, _, rfl⟩⟩
  · exact Reachable.empty.served _ _ |>.served _ _ |>.served _ _ |>.served _ _
  · refine ⟨List.mem_singleton_self _, rfl, fun other hother _ => ?_⟩
    obtain rfl := List.mem_singleton.1 hother
    simp

end Engine

end RecordApps
