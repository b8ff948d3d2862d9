import RecordApps.Proofs.Field.Initial
import RecordApps.Proofs.Schema.History

/-! # What a valid subtable says of its columns

A field is checked before it is stored, the columns of a subtable with it, but those in outline
only: there are some, each has a code of its own, and each is of a type that can be entered. Nothing
else about a column is looked at, so that a column may be stored which no app could have as a field.
-/

namespace RecordApps

namespace FieldDefinition

/-- The values of the field are entered in one cell. -/
def FitsCell (f : FieldDefinition) : Prop :=
  f.type.category = .input ∨ f.type.category = .entitySelect

instance (f : FieldDefinition) : Decidable f.FitsCell :=
  inferInstanceAs (Decidable (_ ∨ _))

/-- What is looked at of a column: its code, and the family of its type. -/
def outline (f : FieldDefinition) : String × FieldCategory :=
  (f.code.text, f.type.category)

end FieldDefinition

namespace SubtableConfig

variable {config : SubtableConfig} {columns columns' : List FieldDefinition}

/-- The columns can make up rows, as far as that can be told from their outlines. -/
structure Outlined (config : SubtableConfig) : Prop where
  bounds : ∀ low high, config.minRows = some low → config.maxRows = some high → low ≤ high
  nonempty : config.columns ≠ []
  entered : ∀ column ∈ config.columns, column.FitsCell
  distinct : (config.columns.map (·.code.text)).Nodup

theorem checkColumns_eq_ok {seen : List String} :
    checkColumns seen columns = .ok () ↔
      (∀ column ∈ columns, column.FitsCell ∧ column.code.text ∉ seen) ∧
        (columns.map (·.code.text)).Nodup := by
  induction columns generalizing seen with
  | nil => simp [checkColumns]
  | cons column rest ih =>
      have hfits : (column.type.category == .input ||
          column.type.category == .entitySelect) = true ↔ column.FitsCell := by
        rw [Bool.or_eq_true, beq_iff_eq, beq_iff_eq, FieldDefinition.FitsCell]
      rw [checkColumns, Outcome.check_bind_eq_ok, Outcome.check_bind_eq_ok, ensure_eq_ok,
        ensure_eq_ok, hfits, ih, List.forall_mem_cons, List.map_cons, List.nodup_cons]
      simp only [Bool.not_eq_true', List.contains_eq_mem, decide_eq_false_iff_not, List.mem_cons,
        not_or, List.mem_map, not_exists, not_and]
      constructor
      · rintro ⟨hcolumn, hseen, hrest, hnodup⟩
        exact ⟨⟨⟨hcolumn, hseen⟩, fun f hf => ⟨(hrest f hf).1, (hrest f hf).2.2⟩⟩,
          fun f hf => (hrest f hf).2.1, hnodup⟩
      · rintro ⟨⟨⟨hcolumn, hseen⟩, hrest⟩, hother, hnodup⟩
        exact ⟨hcolumn, hseen, fun f hf => ⟨(hrest f hf).1, hother f hf, (hrest f hf).2⟩, hnodup⟩

theorem validate_eq_ok : config.validate = .ok () ↔ config.Outlined := by
  have hrows : config.validate = .ok () ↔
      (∀ low high, config.minRows = some low → config.maxRows = some high → low ≤ high) ∧
        (!config.columns.isEmpty) = true ∧ checkColumns [] config.columns = .ok () := by
    rw [validate]
    cases config.minRows <;> cases config.maxRows <;> simp [-Outcome.bind_eq_ok]
  rw [hrows, checkColumns_eq_ok, Bool.not_eq_true', List.isEmpty_eq_false_iff]
  constructor
  · rintro ⟨hbounds, hnonempty, hcolumns, hdistinct⟩
    exact ⟨hbounds, hnonempty, fun column h => (hcolumns column h).1, hdistinct⟩
  · rintro ⟨hbounds, hnonempty, hentered, hdistinct⟩
    exact ⟨hbounds, hnonempty, fun column h => ⟨hentered column h, List.not_mem_nil⟩, hdistinct⟩

theorem Outlined.of_outline (h : config.Outlined)
    (hsame : columns.map (·.outline) = config.columns.map (·.outline)) :
    Outlined { config with columns } where
  bounds := h.bounds
  nonempty := by
    rintro rfl
    exact h.nonempty (List.map_eq_nil_iff.1 hsame.symm)
  entered column hcolumn := by
    obtain ⟨other, hother, heq⟩ := List.mem_map.1 (hsame ▸ List.mem_map_of_mem hcolumn)
    have hcategory : other.type.category = column.type.category := (Prod.mk.inj heq).2
    have hfits := h.entered other hother
    rwa [FieldDefinition.FitsCell, hcategory] at hfits
  distinct := by
    have hcodes : columns.map (·.code.text) = config.columns.map (·.code.text) := by
      have := congrArg (List.map Prod.fst) hsame
      rwa [List.map_map, List.map_map] at this
    exact hcodes ▸ h.distinct

end SubtableConfig

namespace FieldDefinition

variable {f : FieldDefinition} {config : SubtableConfig} {columns : List FieldDefinition}

/-- The field with other columns. -/
def withColumns (f : FieldDefinition) (config : SubtableConfig)
    (columns : List FieldDefinition) : FieldDefinition :=
  { f with type := .subtable { config with columns } }

/-- What is looked at of a field of rows, but for its rows. -/
structure HoldsRows (f : FieldDefinition) : Prop where
  code : checkFieldCode f.code.text = .ok ()
  no_options : f.options = []
  not_unique : f.unique = false
  placed : 0 < f.layout.span

/-- A field of rows is valid if its columns are in outline, whatever they are otherwise, and its
    default is made of them. -/
theorem validate_subtable (htype : f.type = .subtable config) :
    f.validate = .ok () ↔ f.HoldsRows ∧ config.Outlined ∧ f.checkDefault = .ok () := by
  have hrows : f.type.validate = config.validate := by rw [htype]; rfl
  have hoptions : f.checkOptions = .ok () ↔ f.options = [] := by
    rw [checkOptions, htype]
    simp [FieldType.usesOptions]
  have hunique : (!f.unique || f.mayBeUnique) = true ↔ f.unique = false := by
    rw [mayBeUnique, htype]
    simp [FieldType.isMultiValued]
  have hrequired : (!f.required || f.type.acceptsInput) = true := by
    rw [htype]
    simp [FieldType.acceptsInput, FieldType.category]
  simp only [validate, Outcome.check_bind_eq_ok, ensure_eq_ok, hrows,
    SubtableConfig.validate_eq_ok, hoptions, hunique, hrequired, decide_eq_true_eq, true_and]
  constructor
  · rintro ⟨hcode, houtlined, hoptions, hunique, hspan, hdefault⟩
    exact ⟨⟨hcode, hoptions, hunique, hspan⟩, houtlined, hdefault⟩
  · rintro ⟨⟨hcode, hoptions, hunique, hspan⟩, houtlined, hdefault⟩
    exact ⟨hcode, houtlined, hoptions, hunique, hspan, hdefault⟩

/-- Columns may be exchanged for any of the same outlines that take the default. -/
theorem validate_withColumns (htype : f.type = .subtable config) (hvalid : f.validate = .ok ())
    (hsame : columns.map (·.outline) = config.columns.map (·.outline)) :
    (f.withColumns config columns).validate = .ok () ↔
      (f.withColumns config columns).checkDefault = .ok () := by
  obtain ⟨hholds, houtlined, -⟩ := (validate_subtable htype).1 hvalid
  have hother : (f.withColumns config columns).HoldsRows :=
    ⟨hholds.code, hholds.no_options, hholds.not_unique, hholds.placed⟩
  have hcolumns : SubtableConfig.Outlined { config with columns } := houtlined.of_outline hsame
  exact (validate_subtable rfl).trans ((and_iff_right hother).trans (and_iff_right hcolumns))

end FieldDefinition

namespace Orders

variable {columns : List FieldDefinition}

/-- The lines of an order. -/
def linesOf (columns : List FieldDefinition) : FieldDefinition :=
  { line ⟨"lines", by decide⟩ with type := .subtable ⟨none, none, true, true, columns⟩ }

/-- Orders that are made of lines. -/
def linesSchema (columns : List FieldDefinition) : AppSchema :=
  { schema with fields := [linesOf columns] }

theorem linesOf_valid (hnonempty : columns ≠ []) (hentered : ∀ column ∈ columns, column.FitsCell)
    (hdistinct : (columns.map (·.code.text)).Nodup) : (linesOf columns).validate = .ok () := by
  refine (FieldDefinition.validate_subtable rfl).2 ⟨⟨?_, rfl, rfl, Int.one_pos⟩, ?_, rfl⟩
  · show checkFieldCode "lines" = .ok ()
    with_unfolding_all rfl
  · exact ⟨nofun, hnonempty, hentered, hdistinct⟩

theorem linesSchema_valid (h : (linesOf columns).validate = .ok ()) :
    (linesSchema columns).validate = .ok () := by
  refine AppSchema.validate_eq_ok_iff.2 ⟨?_, ?_, [], rfl⟩
  · exact Outcome.check_bind_eq_ok.2 ⟨h, rfl⟩
  · intro f hf
    obtain rfl := List.mem_singleton.1 hf
    rfl

/-- The app whose orders are made of lines. -/
def withLines (columns : List FieldDefinition) : Workspace :=
  Workspace.empty.serve settings (.schemas (.save (linesSchema columns)))

theorem withLines_schemas (h : (linesOf columns).validate = .ok ()) :
    (withLines columns).schemas.get? app = some (linesSchema columns) := by
  have ran : Engine.run settings .empty (Engine.saveSchema (linesSchema columns)) =
      (.ok (), { Workspace.empty with
        schemas := Workspace.empty.schemas.insert app (linesSchema columns).persisted }) :=
    Engine.run_saveSchema (linesSchema_valid h) nofun nofun
  have hsaved : withLines columns = { Workspace.empty with
      schemas := Workspace.empty.schemas.insert app (linesSchema columns).persisted } :=
    congrArg Prod.snd ran
  rw [hsaved, Table.get?_insert, if_pos rfl]
  rfl

end Orders

/-- Columns are checked in outline only. A field of rows is valid exactly if what is looked at of
    the field itself is as it should be, its columns are in outline, and it takes its own default;
    so its columns may be exchanged for any others of the same codes and families of types that take
    the default. The columns of all schemas that are ever stored are in outline; and whatever is in
    outline, may be stored. -/
theorem columns_checked_in_outline {f : FieldDefinition} {config : SubtableConfig}
    (htype : f.type = .subtable config) :
    (f.validate = .ok () ↔ f.HoldsRows ∧ config.Outlined ∧ f.checkDefault = .ok ()) ∧
    (f.validate = .ok () → ∀ columns, columns.map (·.outline) = config.columns.map (·.outline) →
      ((f.withColumns config columns).validate = .ok () ↔
        (f.withColumns config columns).checkDefault = .ok ())) ∧
    (∀ ws : Workspace, ws.Reachable → ∀ app schema, ws.schemas.get? app = some schema →
      f ∈ schema.fields → config.Outlined) ∧
    (config.Outlined → ∃ ws : Workspace, ws.Reachable ∧ ∃ app schema,
      ws.schemas.get? app = some schema ∧ ∃ g ∈ schema.fields, ∃ other,
        g.type = .subtable other ∧ other.columns = config.columns) := by
  refine ⟨FieldDefinition.validate_subtable htype, ?_, ?_, ?_⟩
  · intro hvalid columns hsame
    exact FieldDefinition.validate_withColumns htype hvalid hsame
  · intro ws h app schema hschema hf
    have hvalid := (AppSchema.validate_ok (h.sound.schema_valid hschema)).1 f hf
    exact ((FieldDefinition.validate_subtable htype).1 hvalid).2.1
  · intro houtlined
    have hvalid := Orders.linesOf_valid houtlined.nonempty houtlined.entered houtlined.distinct
    exact ⟨Orders.withLines config.columns, Workspace.Reachable.empty.served _ _, Orders.app,
      Orders.linesSchema config.columns, Orders.withLines_schemas hvalid,
      Orders.linesOf config.columns, List.mem_singleton_self _, _, rfl, rfl⟩

namespace Orders

/-- Columns that no app could have as fields: the code is no identifier or belongs to the metadata,
    there is nothing to choose from, no number is within the bounds, there is no place in the form,
    and the default is no text. -/
def badColumns : List FieldDefinition :=
  [line ⟨"unit price", by decide⟩,
   line ⟨"updated_at", by decide⟩,
   { line ⟨"kind", by decide⟩ with type := .dropdown },
   { line ⟨"pieces", by decide⟩ with type := .number (some 2) (some 1) },
   { line ⟨"discount", by decide⟩ with layout := { FieldLayout.initial with span := 0 } },
   { line ⟨"remark", by decide⟩ with defaultValue := some (.int 5) }]

end Orders

/-- They are the columns of a field that is valid, also when it has been read from its stored
    form. -/
theorem bad_columns_accepted :
    (Orders.linesOf Orders.badColumns).validate = .ok () ∧
    FieldDefinition.ofValue? (Orders.linesOf Orders.badColumns).toValue =
      some (Orders.linesOf Orders.badColumns) ∧
    ∀ column ∈ Orders.badColumns, column.validate ≠ .ok () := by
  refine ⟨Orders.linesOf_valid (by decide) (by decide) (by decide), rfl, ?_⟩
  have hrefused : Orders.badColumns.all (!·.validate.isOk) = true := by decide +kernel
  intro column hcolumn hvalid
  have := List.all_eq_true.1 hrefused column hcolumn
  rw [hvalid] at this
  cases this

/-- So they are stored; and they may be exchanged for required ones. -/
theorem columns_checked_in_outline_orders :
    (Orders.linesOf Orders.badColumns).type =
      .subtable ⟨none, none, true, true, Orders.badColumns⟩ ∧
    (Orders.linesOf Orders.badColumns).HoldsRows ∧
    ((Orders.linesOf Orders.badColumns).withColumns ⟨none, none, true, true, Orders.badColumns⟩
      (Orders.badColumns.map fun column => { column with required := true })).validate = .ok () ∧
    ∃ ws : Workspace, ws.Reachable ∧ ∃ app schema, ws.schemas.get? app = some schema ∧
      ∃ g ∈ schema.fields, ∃ other, g.type = .subtable other ∧
        other.columns = Orders.badColumns := by
  have htype : (Orders.linesOf Orders.badColumns).type =
      .subtable ⟨none, none, true, true, Orders.badColumns⟩ := rfl
  have hvalid : (Orders.linesOf Orders.badColumns).validate = .ok () :=
    Orders.linesOf_valid (by decide) (by decide) (by decide)
  obtain ⟨hlooked, hexchanged, -, hstored⟩ := columns_checked_in_outline htype
  obtain ⟨hholds, houtlined, -⟩ := hlooked.1 hvalid
  exact ⟨htype, hholds, (hexchanged hvalid _ rfl).2 rfl, hstored houtlined⟩

end RecordApps
