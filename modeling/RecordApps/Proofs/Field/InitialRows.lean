import Mathlib.Data.List.Find
import RecordApps.Proofs.Field.Stored
import RecordApps.Proofs.Field.Subtable
import RecordApps.Proofs.Schema.Dependencies

/-! # Rows that records start with

A subtable that asks for rows starts with rows, and every cell of them with what its column starts
with. A column may ask for a value and start with none. A record is stored with such rows, while the
field that they are the value of refuses them, so that they cannot be sent back.
-/

namespace RecordApps

section Columns

variable {columns : List FieldDefinition} {column : FieldDefinition} {key : String} {v : Value}

theorem mem_initialCells :
    (key, v) ∈ initialCells columns ↔
      ∃ column ∈ columns, column.code.text = key ∧ column.initialValue = some v := by
  induction columns with
  | nil => simp [initialCells]
  | cons column rest ih =>
      rw [initialCells]
      cases hinitial : column.initialValue with
      | none => simp [ih, hinitial]
      | some shown => simp [ih, hinitial, eq_comm]

theorem initialCells_keys (hdistinct : (columns.map (·.code.text)).Nodup) :
    ((initialCells columns).map Prod.fst).Nodup := by
  have hsub : ((initialCells columns).map Prod.fst).Sublist (columns.map (·.code.text)) := by
    clear hdistinct
    induction columns with
    | nil => exact .slnil
    | cons column rest ih =>
        rw [initialCells]
        cases column.initialValue with
        | none => exact ih.cons _
        | some shown => exact ih.cons_cons _
  exact hsub.nodup hdistinct

theorem checkCell_eq (code : String) (hdistinct : (columns.map (·.code.text)).Nodup)
    (hcolumn : column ∈ columns) (v : Value) :
    checkCell code column.code.text v columns = column.checkValue v := by
  induction columns with
  | nil => cases hcolumn
  | cons head rest ih =>
      obtain ⟨hhead, hrest⟩ := List.nodup_cons.1 hdistinct
      rw [checkCell]
      rcases List.mem_cons.1 hcolumn with rfl | hcolumn
      · rw [if_pos rfl]
      · have hother : head.code.text ≠ column.code.text :=
          fun hsame => hhead (List.mem_map.2 ⟨column, hcolumn, hsame.symm⟩)
        rw [if_neg hother, ih hrest hcolumn]

end Columns

namespace SubtableConfig

variable {config : SubtableConfig} {column : FieldDefinition} {key : String} {v : Value}

/-- The first column that asks for a value and starts without. -/
def emptyColumn? (config : SubtableConfig) : Option FieldDefinition :=
  config.columns.find? fun column => column.required && isEmptyField column.initialValue

theorem get?_initialRow (h : config.Outlined) (hcolumn : column ∈ config.columns) :
    config.initialRow.get? column.code.text = column.initialValue := by
  have hkeys := initialCells_keys h.distinct
  refine Option.ext fun v => ?_
  rw [initialRow, KeyMap.get?_ofList, Rows.lookup_reverse hkeys, Rows.lookup_eq_some_iff_mem hkeys,
    mem_initialCells]
  constructor
  · rintro ⟨other, hother, hcode, hv⟩
    obtain rfl := List.inj_on_of_nodup_map h.distinct hother hcolumn hcode
    exact hv
  · intro hv
    exact ⟨column, hcolumn, rfl, hv⟩

theorem checkRowCount_initial (code : String) (h : config.Outlined) :
    config.checkRowCount code (config.minRows.getD 0) = .ok () := by
  rw [checkRowCount]
  cases hmin : config.minRows with
  | none => cases config.maxRows <;> rfl
  | some low =>
      cases hmax : config.maxRows with
      | none => simp [ensure]
      | some high => simp [ensure, h.bounds low high hmin hmax]

theorem checkRequiredCells_initial (code : String) (h : config.Outlined) :
    checkRequiredCells code config.columns config.initialRow.entries =
      Outcome.refuseFound (fun column => .requiredCellMissing code column.code.text)
        config.emptyColumn? := by
  have hfound : (config.columns.filter (·.required)).find?
      (fun column => !!isEmptyField (config.initialRow.get? column.code.text)) =
        config.emptyColumn? := by
    rw [List.find?_filter, emptyColumn?]
    refine List.find?_congr fun column hcolumn => ?_
    rw [get?_initialRow h hcolumn, Bool.not_not, Bool.decide_and, Bool.decide_eq_true,
      Bool.decide_eq_true]
  rw [← hfound]
  exact Outcome.forM_ensure
    (fun column : FieldDefinition => !isEmptyField (config.initialRow.get? column.code.text))
    (fun column => .requiredCellMissing code column.code.text) _

/-- Of the cells that a row starts with, only those may be refused that are empty. -/
theorem checkRow_initial (code : String) (h : config.Outlined)
    (htakes : ∀ column ∈ config.columns, column.TakesInitial) :
    config.checkRow code (.object config.initialRow.entries) =
      Outcome.refuseFound (fun column => .requiredCellMissing code column.code.text)
        config.emptyColumn? := by
  have hcells : forM config.initialRow.entries
      (fun cell => checkCell code cell.1 cell.2 config.columns) = .ok () := by
    refine Outcome.forM_eq_ok.2 fun ⟨key, v⟩ hcell => ?_
    obtain ⟨column, hcolumn, rfl, hv⟩ :=
      mem_initialCells.1 (KeyMap.mem_of_get?_ofList (KeyMap.mem_entries_iff.1 hcell))
    rw [checkCell_eq code h.distinct hcolumn]
    exact htakes column hcolumn v hv
  show (forM config.initialRow.entries _ >>= fun _ => checkRequiredCells _ _ _) = _
  rw [hcells, Outcome.ok_bind, checkRequiredCells_initial code h]

/-- The rows that records start with are refused exactly if they are empty where a column asks for a
    value. -/
theorem checkRows_initial (code : String) (h : config.Outlined)
    (htakes : ∀ column ∈ config.columns, column.TakesInitial) (hrows : config.minRows.getD 0 ≠ 0) :
    config.checkRows code (.list (List.replicate (config.minRows.getD 0)
      (.object config.initialRow.entries))) =
      Outcome.refuseFound (fun column => .requiredCellMissing code column.code.text)
        config.emptyColumn? := by
  rw [checkRows_list, List.length_replicate, checkRowCount_initial code h, Outcome.ok_bind,
    Outcome.forM_replicate _ _ hrows, checkRow_initial code h htakes]

end SubtableConfig

namespace FieldDefinition

variable {f : FieldDefinition} {config : SubtableConfig} {v : Value}

/-- The first column that asks for a value and is empty in the rows that records start with, if they
    start with rows that the field does not name itself. -/
def emptyColumn? (f : FieldDefinition) : Option FieldDefinition :=
  match f.defaultValue, f.type with
  | none, .subtable config => if config.minRows.getD 0 = 0 then none else config.emptyColumn?
  | _, _ => none

theorem FitsCell.takesInitial (h : f.FitsCell) (hvalid : f.validate = .ok ()) : f.TakesInitial := by
  refine takesInitial_of_valid hvalid (.inl ?_)
  cases htype : f.type with
  | subtable => rw [FitsCell, htype] at h; rcases h with h | h <;> cases h
  | _ => rfl

theorem emptyColumn?_eq_none (hrows : f.type.requiresRows = false ∨ f.defaultValue.isSome = true) :
    f.emptyColumn? = none := by
  rw [emptyColumn?]
  split
  case h_1 config hdefault htype =>
    have hzero := hrows.resolve_right (by rw [hdefault]; exact Bool.false_ne_true)
    rw [htype] at hzero
    exact if_pos (by simpa [FieldType.requiresRows] using hzero)
  case h_2 => rfl

/-- A field refuses what its records start with exactly if that is made of rows which are empty
    where a column asks for a value. -/
theorem checkValue_initialValue (hvalid : f.validate = .ok ())
    (hcolumns : ∀ column ∈ f.type.columns, column.validate = .ok ())
    (hv : f.initialValue = some v) :
    f.checkValue v =
      Outcome.refuseFound (fun column => .requiredCellMissing f.code.text column.code.text)
        f.emptyColumn? := by
  by_cases hrows : f.type.requiresRows = false ∨ f.defaultValue.isSome = true
  · rw [emptyColumn?_eq_none hrows]
    exact takesInitial_of_valid hvalid hrows v hv
  · obtain ⟨hrequires, hdefault⟩ := not_or.1 hrows
    have hnone : f.defaultValue = none := by simpa using hdefault
    cases htype : f.type with
    | subtable config =>
        have hsome : config.minRows.getD 0 ≠ 0 := by
          rw [htype] at hrequires
          simpa [FieldType.requiresRows] using hrequires
        have houtlined := ((validate_subtable htype).1 hvalid).2.1
        have htakes : ∀ column ∈ config.columns, column.TakesInitial := fun column hcolumn =>
          (houtlined.entered column hcolumn).takesInitial
            (hcolumns column (htype ▸ hcolumn))
        have hrow : v = .list (List.replicate (config.minRows.getD 0)
            (.object config.initialRow.entries)) := by
          rw [initialValue_eq, hnone, Option.none_or, htype, config.initialValue_rows] at hv
          exact (Option.some.inj hv).symm
        rw [checkValue_eq, hrow, htype, emptyColumn?, hnone, htype]
        simp only [if_neg hsome]
        exact SubtableConfig.checkRows_initial _ houtlined htakes hsome
    | _ =>
        rw [htype] at hrequires
        exact absurd rfl hrequires

/-- Whatever records start with is entered by clients, unless it is filled in otherwise. -/
theorem acceptsInput_of_initialValue (hvalid : f.validate = .ok ()) (hv : f.initialValue = some v) :
    f.type.acceptsInput = true := by
  rw [initialValue_eq] at hv
  split at hv
  case isTrue => cases hv
  case isFalse hstored =>
    cases hdefault : f.defaultValue with
    | some given =>
        simp only [validate, Outcome.check_bind_eq_ok] at hvalid
        obtain ⟨-, -, -, -, -, -, hchecked⟩ := hvalid
        rw [checkDefault, hdefault, Outcome.check_bind_eq_ok, ensure_eq_ok] at hchecked
        exact hchecked.1
    | none =>
        rw [hdefault, Option.none_or] at hv
        cases htype : f.type with
        | calculated => rw [htype] at hv; cases hv
        | recordNumber | creator | createdTime | modifier | modifiedTime | label | space | hr
        | relatedRecords =>
            rw [htype] at hstored
            exact absurd rfl hstored
        | _ => rfl

end FieldDefinition

theorem AppSchema.checkEntry_eq {schema : AppSchema} {f : FieldDefinition}
    (hvalid : schema.validate = .ok ()) (hf : f ∈ schema.activeFields)
    (haccepts : f.type.acceptsInput = true) (v : Value) :
    schema.checkEntry f.code.text v = f.checkValue v := by
  have hstatus : f.code.text ≠ Key.status := by
    intro hcode
    have hreserved := code_not_reserved hvalid hf
    rw [hcode] at hreserved
    cases hreserved
  have hfield : schema.field? f.code.text = some f := 
    (field?_eq_some_iff (codesDistinct hvalid)).2 ⟨hf, rfl⟩
  rw [checkEntry, beq_false_of_ne hstatus, Bool.false_and, if_neg Bool.false_ne_true, hfield]
  simp [haccepts, ensure]

/-- What records start with may be sent back, unless it is made of rows that are empty where a
    column asks for a value. A valid field with valid columns takes its initial value, but for
    subtables which name no default, ask for rows, and have a required column that starts empty;
    these refuse it, for the first such column. The same holds of every schema that has the
    field. -/
theorem initial_values_taken_unless_empty {f : FieldDefinition} {v : Value}
    (hvalid : f.validate = .ok ()) (hcolumns : ∀ column ∈ f.type.columns, column.validate = .ok ())
    (hv : f.initialValue = some v) :
    (f.checkValue v = .ok () ↔ f.emptyColumn? = none) ∧
    f.checkValue v =
      Outcome.refuseFound (fun column => .requiredCellMissing f.code.text column.code.text)
        f.emptyColumn? ∧
    ∀ schema : AppSchema, schema.validate = .ok () → f ∈ schema.activeFields →
      schema.checkEntry f.code.text v =
        Outcome.refuseFound (fun column => .requiredCellMissing f.code.text column.code.text)
          f.emptyColumn? := by
  have hchecked := FieldDefinition.checkValue_initialValue hvalid hcolumns hv
  refine ⟨?_, hchecked, ?_⟩
  · rw [hchecked]
    cases f.emptyColumn? <;> simp [Outcome.refuseFound]
  · intro schema hschema hf
    have haccepts := FieldDefinition.acceptsInput_of_initialValue hvalid hv
    exact (AppSchema.checkEntry_eq hschema hf haccepts v).trans hchecked

namespace Orders

/-- Goods that have to be named. -/
def wanted : FieldDefinition :=
  { line ⟨"goods", by decide⟩ with required := true }

/-- The lines of an order, of which there is at least one. -/
def wantedLines : FieldDefinition :=
  { linesOf [] with type := .subtable ⟨some 1, none, true, true, [wanted]⟩ }

/-- Orders that are made of such lines. -/
def wantedSchema : AppSchema :=
  { schema with
    processEnabled := false
    fields := [wantedLines] }

theorem wantedLines_valid : wantedLines.validate = .ok () ∧
    ∀ column ∈ wantedLines.type.columns, column.validate = .ok () := by
  refine ⟨by with_unfolding_all rfl, fun column hcolumn => ?_⟩
  obtain rfl := List.mem_singleton.1 hcolumn
  with_unfolding_all rfl

/-- The clerk places an order and leaves its lines as they are. -/
def blankOrder : Workspace :=
  let ws := Workspace.empty.serve settings (.schemas (.save wantedSchema))
  let ws := ws.serve settings (.permissions (.saveApp clerkRow))
  ws.serve settings (.records clerk app (.create .empty))

end Orders

/-- The order is stored with one line without goods. It cannot be sent back. -/
theorem initial_rows_refused :
    Orders.wantedLines.validate = .ok () ∧
    (∀ column ∈ Orders.wantedLines.type.columns, column.validate = .ok ()) ∧
    Orders.wantedLines.initialValue = some (.list [.object [("goods", .text "")]]) ∧
    Orders.wantedLines.checkValue (.list [.object [("goods", .text "")]]) =
      .error (.invalid (.requiredCellMissing "lines" "goods")) ∧
    (Orders.blankOrder.store.records "orders").map (·.data.get? "lines") =
      [some (.list [.object [("goods", .text "")]])] ∧
    Engine.run Orders.settings Orders.blankOrder (ServiceCall.records Orders.clerk Orders.app
      (.update "r" (.ofList [("lines", .list [.object [("goods", .text "")]])]))).perform =
        (.error (.invalid (.requiredCellMissing "lines" "goods")), Orders.blankOrder) := by
  obtain ⟨hvalid, hcolumns⟩ := Orders.wantedLines_valid
  exact ⟨hvalid, hcolumns, by with_unfolding_all rfl, by with_unfolding_all rfl,
    by with_unfolding_all rfl, by with_unfolding_all rfl⟩

/-- The lines that want goods do not take what they start with, alone or in the schema. -/
theorem initial_values_taken_unless_empty_orders :
    Orders.wantedLines.validate = .ok () ∧
    (∀ column ∈ Orders.wantedLines.type.columns, column.validate = .ok ()) ∧
    Orders.wantedLines.initialValue = some (.list [.object [("goods", .text "")]]) ∧
    Orders.wantedLines.checkValue (.list [.object [("goods", .text "")]]) ≠ .ok () ∧
    Orders.wantedSchema.checkEntry "lines" (.list [.object [("goods", .text "")]]) =
      .error (.invalid (.requiredCellMissing "lines" "goods")) := by
  obtain ⟨hvalid, hcolumns⟩ := Orders.wantedLines_valid
  have hv : Orders.wantedLines.initialValue = some (.list [.object [("goods", .text "")]]) := by
    with_unfolding_all rfl
  obtain ⟨htaken, -, hentry⟩ := initial_values_taken_unless_empty hvalid hcolumns hv
  refine ⟨hvalid, hcolumns, hv, ?_, ?_⟩
  · rw [Ne, htaken]
    exact Option.some_ne_none Orders.wanted
  · exact hentry Orders.wantedSchema (by with_unfolding_all rfl) (List.mem_singleton_self _)

end RecordApps
