import RecordApps.Proofs.Value.Decoding
import RecordApps.Schema.Stored

/-! # Fields are read as they were written

Types are read again with what they are configured by, and fields with their columns. Columns are
written by the names of their types, whatever they were read from, and are nested less deep than
the field.
-/

namespace RecordApps

open Decode

/-! ## Configurations -/

theorem LookupCopy.faithful : Faithful LookupCopy.ofValue? LookupCopy.toValue := by
  refine .ofFields fun copy h => ?_
  obtain ⟨source, hsource, h⟩ := h.bind
  obtain ⟨target, htarget, h⟩ := h.bind
  obtain rfl := h.pure
  exact .bind (.required hsource .text rfl) (.bind (.required htarget .text rfl) (.pure _))

theorem LookupConfig.reads {config : LookupConfig} (h : Yields reader config) :
    Reads config.entries reader config := by
  obtain ⟨app, happ, h⟩ := h.bind
  obtain ⟨keyField, hkey, h⟩ := h.bind
  obtain ⟨copies, hcopies, h⟩ := h.bind
  obtain rfl := h.pure
  exact .bind (.required happ .text rfl) (.bind (.required hkey .text rfl)
    (.bind (.orElse hcopies (.listOf LookupCopy.faithful) rfl rfl) (.pure _)))

theorem RelatedConfig.reads {config : RelatedConfig} (h : Yields reader config) :
    Reads config.entries reader config := by
  obtain ⟨app, happ, h⟩ := h.bind
  obtain ⟨keyField, hkey, h⟩ := h.bind
  obtain ⟨thisField, hthis, h⟩ := h.bind
  obtain ⟨displayFields, hdisplay, h⟩ := h.bind
  obtain rfl := h.pure
  exact .bind (.required happ .text rfl) (.bind (.required hkey .text rfl)
    (.bind (.required hthis .text rfl)
      (.bind (.orElse hdisplay (.listOf .text) rfl rfl) (.pure _))))

theorem FormulaFormat.lookup_name (format : FormulaFormat) :
    names.lookup format.name = some format := by
  cases format <;> rfl

theorem FormulaConfig.reads {config : FormulaConfig} (h : Yields reader config) :
    Reads config.entries reader config := by
  obtain ⟨formula, hformula, h⟩ := h.bind
  obtain ⟨format, hformat, h⟩ := h.bind
  obtain ⟨decimals, hdecimals, h⟩ := h.bind
  obtain rfl := h.pure
  exact .bind (.required hformula .text rfl)
    (.bind (.orElse hformat (.nameWith FormulaFormat.lookup_name) rfl rfl)
      (.bind (.orElse hdecimals (.natBelow 256) rfl rfl) (.pure _)))

theorem LinkType.lookup_name (flavour : LinkType) : names.lookup flavour.name = some flavour := by
  cases flavour <;> rfl

theorem FieldOption.faithful : Faithful FieldOption.ofValue? FieldOption.toValue := by
  refine .ofFields fun o h => ?_
  obtain ⟨value, hvalue, h⟩ := h.bind
  obtain ⟨label, hlabel, h⟩ := h.bind
  obtain rfl := h.pure
  exact .bind (.required hvalue .text rfl) (.bind (.required hlabel .text rfl) (.pure _))

theorem FieldLayout.faithful : Faithful FieldLayout.ofValue? FieldLayout.toValue := by
  refine .ofFields fun layout h => ?_
  obtain ⟨order, horder, h⟩ := h.bind
  obtain ⟨row, hrow, h⟩ := h.bind
  obtain ⟨column, hcolumn, h⟩ := h.bind
  obtain ⟨span, hspan, h⟩ := h.bind
  obtain rfl := h.pure
  exact .bind (.required horder (.wholeWithin _ _) rfl)
    (.bind (.required hrow (.wholeWithin _ _) rfl)
      (.bind (.required hcolumn (.wholeWithin _ _) rfl)
        (.bind (.required hspan (.wholeWithin _ _) rfl) (.pure _))))

/-! ## Types -/

theorem fieldValues_eq (columns : List FieldDefinition) :
    fieldValues columns = columns.map FieldDefinition.toValue := by
  induction columns with
  | nil => rfl
  | cons column rest ih => rw [fieldValues, ih, List.map_cons]

namespace FieldType

variable {column column' : Decoder FieldDefinition} {t : FieldType}

/-- The columns of a subtable. -/
def columns : FieldType → List FieldDefinition
  | .subtable config => config.columns
  | _ => []

/-- A type is read from what it is configured by and its name. -/
def Reread (column : Decoder FieldDefinition) (t : FieldType) : Prop :=
  ∃ read, (variants column).lookup t.name = some read ∧ read (.keyed t.entries) = some t

theorem reread_of_bare {a : FieldType} {source : Source} (h : bare a source = some t)
    (ha : a.Reread column) : t.Reread column :=
  (Yields.of_readAll h).pure ▸ ha

theorem reread_of_maxLength {type : Option Nat → FieldType} {source : Source}
    (h : readAll (do return type (← maybe "max" word32)) source = some t)
    (htype : ∀ max, Yields (maybe "max" word32) max → (type max).Reread column) :
    t.Reread column := by
  obtain ⟨max, hmax, h⟩ := (Yields.of_readAll h).bind
  exact h.pure ▸ htype max hmax

theorem reread_of_several {type : Bool → FieldType} {source : Source}
    (h : readAll (do return type (← orElse "allow_multiple" flag false)) source = some t)
    (htype : ∀ several, (type several).Reread column) : t.Reread column := by
  obtain ⟨several, -, h⟩ := (Yields.of_readAll h).bind
  exact h.pure ▸ htype several

theorem reread_of_subtable {source : Source}
    (h : readAll (do
      let minRows ← maybe "min_rows" word32
      let maxRows ← maybe "max_rows" word32
      let allowAdd ← orElse "allow_add" flag true
      let allowDelete ← orElse "allow_delete" flag true
      let columns ← orElse "fields" (listOf column) []
      return .subtable ⟨minRows, maxRows, allowAdd, allowDelete, columns⟩) source = some t)
    (hcolumns : ∀ c ∈ t.columns, (∃ v, column v = some c) → column' c.toValue = some c) :
    t.Reread column' := by
  obtain ⟨minRows, hmin, h⟩ := (Yields.of_readAll h).bind
  obtain ⟨maxRows, hmax, h⟩ := h.bind
  obtain ⟨allowAdd, hadd, h⟩ := h.bind
  obtain ⟨allowDelete, hdelete, h⟩ := h.bind
  obtain ⟨cols, hcols, h⟩ := h.bind
  obtain rfl := h.pure
  have hread : listOf column' (.list (fieldValues cols)) = some cols := by
    rw [fieldValues_eq]
    exact mapM_encode fun c hc => hcolumns c hc (hcols.exists_of_listOf hc)
  exact ⟨_, rfl, Reads.readAll (.bind (.maybe hmin (.natBelow _) (by simp [Value.ofNat]) rfl)
    (.bind (.maybe hmax (.natBelow _) (by simp [Value.ofNat]) rfl)
      (.bind (.orElse hadd .flag rfl rfl) (.bind (.orElse hdelete .flag rfl rfl)
        (.bind (.absentOr rfl hread) (.pure _))))))⟩

theorem variants_reread {variant : String × (Source → Option FieldType)}
    (hvariant : variant ∈ variants column) {source : Source} (h : variant.2 source = some t)
    (hcolumns : ∀ c ∈ t.columns, (∃ v, column v = some c) → column' c.toValue = some c) :
    t.Reread column' := by
  simp only [variants, List.mem_cons, List.not_mem_nil, or_false] at hvariant
  rcases hvariant with rfl | rfl | rfl | rfl | rfl | rfl | rfl | rfl | rfl | rfl | rfl | rfl | rfl |
    rfl | rfl | rfl | rfl | rfl | rfl | rfl | rfl | rfl | rfl | rfl | rfl | rfl | rfl | rfl
  any_goals exact reread_of_bare h ⟨_, rfl, rfl⟩
  · refine reread_of_maxLength h fun max hmax => ⟨_, rfl, ?_⟩
    exact Reads.readAll (.bind (.maybe hmax (.natBelow _) (by simp [Value.ofNat]) rfl) (.pure _))
  · refine reread_of_maxLength h fun max hmax => ⟨_, rfl, ?_⟩
    exact Reads.readAll (.bind (.maybe hmax (.natBelow _) (by simp [Value.ofNat]) rfl) (.pure _))
  · obtain ⟨min, hmin, h⟩ := (Yields.of_readAll h).bind
    obtain ⟨max, hmax, h⟩ := h.bind
    obtain rfl := h.pure
    exact ⟨_, rfl, Reads.readAll (.bind (.maybe hmin .number (by simp) rfl)
      (.bind (.maybe hmax .number (by simp) rfl) (.pure _)))⟩
  · obtain ⟨flavour, hflavour, h⟩ := (Yields.of_readAll h).bind
    obtain rfl := h.pure
    exact ⟨_, rfl, Reads.readAll (.bind (.required hflavour (.nameWith LinkType.lookup_name) rfl)
      (.pure _))⟩
  · obtain ⟨config, hconfig, h⟩ := (Yields.of_readAll h).bind
    obtain rfl := h.pure
    exact ⟨_, rfl, Reads.readAll (.bind (LookupConfig.reads hconfig) (.pure _))⟩
  · obtain ⟨config, hconfig, h⟩ := (Yields.of_readAll h).bind
    obtain rfl := h.pure
    exact ⟨_, rfl, Reads.readAll (.bind (RelatedConfig.reads hconfig) (.pure _))⟩
  · obtain ⟨config, hconfig, h⟩ := (Yields.of_readAll h).bind
    obtain rfl := h.pure
    exact ⟨_, rfl, Reads.readAll (.bind (FormulaConfig.reads hconfig) (.pure _))⟩
  · exact reread_of_several h fun _ => ⟨_, rfl, rfl⟩
  · exact reread_of_several h fun _ => ⟨_, rfl, rfl⟩
  · exact reread_of_several h fun _ => ⟨_, rfl, rfl⟩
  · exact reread_of_subtable h hcolumns
  · obtain ⟨maxMegabytes, hsize, h⟩ := (Yields.of_readAll h).bind
    obtain ⟨maxFiles, hfiles, h⟩ := h.bind
    obtain rfl := h.pure
    exact ⟨_, rfl, Reads.readAll (.bind (.required hsize (.natBelow _) rfl)
      (.bind (.required hfiles (.natBelow _) rfl) (.pure _)))⟩

theorem lookup_entries (t : FieldType) (v : Value) :
    (t.entries ++ [("type", v)]).lookup "type" = some v := by
  cases t with
  | subtable config => obtain ⟨_, _, _, _, _⟩ := config; rfl
  | _ => rfl

theorem filter_entries (t : FieldType) (v : Value) :
    (t.entries ++ [("type", v)]).filter (·.1 != "type") = t.entries := by
  cases t with
  | subtable config => obtain ⟨_, _, _, _, _⟩ := config; rfl
  | _ => rfl

theorem Reread.ofValue? (h : t.Reread column) (byPlace : Bool) :
    ofValue? column byPlace (.object (t.entries ++ [("type", .text t.name)])) = some t := by
  obtain ⟨read, hlookup, hread⟩ := h
  simp only [FieldType.ofValue?, tagged, lookup_entries, filter_entries]
  cases byPlace with
  | false => simp [byName, hlookup, hread]
  | true => simp [byNameOrPlace, hlookup, hread]

theorem ofValue?_eq_some {byPlace : Bool} {v : Value} (h : ofValue? column byPlace v = some t) :
    ∃ variant ∈ variants column, ∃ source, variant.2 source = some t := by
  obtain ⟨tag, read, source, hchosen, hread⟩ := exists_of_tagged h
  obtain ⟨name, hvariant⟩ : ∃ name, (name, read) ∈ variants column := by
    cases byPlace with
    | false => exact mem_of_byName hchosen
    | true => exact mem_of_byNameOrPlace hchosen
  exact ⟨_, hvariant, source, hread⟩

end FieldType

namespace Value

theorem depth_le_items {v : Value} {items : List Value} (h : v ∈ items) :
    v.depth ≤ depthOfItems items := by
  induction items with
  | nil => cases h
  | cons head rest ih =>
      rw [depthOfItems]
      rcases List.mem_cons.1 h with rfl | h
      · exact Nat.le_max_left _ _
      · exact Nat.le_trans (ih h) (Nat.le_max_right _ _)

theorem depth_le_entries {key : String} {v : Value} {entries : List (String × Value)}
    (h : (key, v) ∈ entries) : v.depth ≤ depthOfEntries entries := by
  induction entries with
  | nil => cases h
  | cons head rest ih =>
      rw [depthOfEntries]
      rcases List.mem_cons.1 h with rfl | h
      · exact Nat.le_max_left _ _
      · exact Nat.le_trans (ih h) (Nat.le_max_right _ _)

end Value

namespace FieldDefinition

/-- What is given of a field as long as it is drafted. -/
def draft (f : FieldDefinition) : Draft :=
  ⟨f.id.text, f.code.text, f.type, f.labels, f.descriptions, f.required, f.unique, f.defaultValue,
    f.options, f.layout⟩

/-- The fields of the stored form. -/
def entries (f : FieldDefinition) : List (String × Value) :=
  [("default_value", f.defaultValue.getD .null),
   ("description", .ofTexts f.descriptions),
   ("field_code", f.code.toValue),
   ("field_type", .object (f.type.entries ++ [("type", .text f.type.name)])),
   ("id", f.id.toValue),
   ("is_active", .bool f.active),
   ("is_temporary", .bool f.temporary),
   ("label", .ofTexts f.labels),
   ("layout", f.layout.toValue),
   ("options", .list (f.options.map FieldOption.toValue)),
   ("required", .bool f.required),
   ("unique_field", .bool f.unique)]

theorem toValue_eq (f : FieldDefinition) : f.toValue = .object f.entries := by
  cases f
  rfl

theorem ofDraft?_draft (f : FieldDefinition) : ofDraft? f.draft f.active f.temporary = some f := by
  cases f
  simp [ofDraft?, draft, NonBlank.ofText?_text]

theorem draft_of_ofDraft? {d : Draft} {active temporary : Bool} {f : FieldDefinition}
    (h : ofDraft? d active temporary = some f) :
    d = f.draft ∧ active = f.active ∧ temporary = f.temporary := by
  obtain ⟨id, hid, h⟩ := Option.bind_eq_some_iff.1 h
  obtain ⟨code, hcode, h⟩ := Option.bind_eq_some_iff.1 h
  cases h
  simp [draft, NonBlank.text_of_ofText? hid, NonBlank.text_of_ofText? hcode]

theorem draftReader_reads {type type' : Decoder FieldType} {f : FieldDefinition}
    (h : Yields (draftReader type) f.draft)
    (htype : ∀ v, type v = some f.type →
      type' (.object (f.type.entries ++ [("type", .text f.type.name)])) = some f.type) :
    Reads f.entries (draftReader type') f.draft := by
  obtain ⟨id, hid, h⟩ := h.bind
  obtain ⟨code, hcode, h⟩ := h.bind
  obtain ⟨fieldType, hread, h⟩ := h.bind
  obtain ⟨labels, hlabels, h⟩ := h.bind
  obtain ⟨descriptions, hdescriptions, h⟩ := h.bind
  obtain ⟨required, hrequired, h⟩ := h.bind
  obtain ⟨unique, hunique, h⟩ := h.bind
  obtain ⟨defaultValue, hdefault, h⟩ := h.bind
  obtain ⟨options, hoptions, h⟩ := h.bind
  obtain ⟨layout, hlayout, h⟩ := h.bind
  cases h.pure
  have hreread :
      type' (.object (f.type.entries ++ [("type", .text f.type.name)])) = some f.type := by
    obtain ⟨v, hv⟩ | habsent := hread.absentOr
    · exact htype v hv
    · cases habsent
  exact .bind (.required hid .text rfl) <| .bind (.required hcode .text rfl) <|
    .bind (.absentOr rfl hreread) <| .bind (.orElse hlabels .texts rfl rfl) <|
    .bind (.orElse hdescriptions .texts rfl rfl) <| .bind (.orElse hrequired .flag rfl rfl) <|
    .bind (.orElse hunique .flag rfl rfl) <| .bind (.maybeAny hdefault rfl) <|
    .bind (.orElse hoptions (.listOf FieldOption.faithful) rfl rfl) <|
    .bind (.orElse hlayout FieldLayout.faithful rfl rfl) (.pure _)

theorem depth_column {f c : FieldDefinition} (hc : c ∈ f.type.columns) :
    c.toValue.depth < f.toValue.depth := by
  cases htype : f.type with
  | subtable config =>
      obtain ⟨minRows, maxRows, allowAdd, allowDelete, columns⟩ := config
      rw [htype] at hc
      have hcolumn : c.toValue.depth ≤ Value.depthOfItems (fieldValues columns) := by
        rw [fieldValues_eq]
        exact Value.depth_le_items (List.mem_map_of_mem hc)
      have hcolumns : ("fields", Value.list (fieldValues columns)) ∈
          f.type.entries ++ [("type", .text f.type.name)] := by
        rw [htype]
        simp [FieldType.entries]
      have hfield : ("field_type", Value.object (f.type.entries ++ [("type", .text f.type.name)])) ∈
          f.entries := by
        simp [entries]
      have hcolumns := Value.depth_le_entries hcolumns
      have hfield := Value.depth_le_entries hfield
      have hdepth : f.toValue.depth = Value.depthOfEntries f.entries + 1 := by
        rw [toValue_eq, Value.depth]
      simp only [Value.depth] at hcolumns hfield
      omega
  | _ =>
      rw [htype] at hc
      cases hc

theorem ofValueWithin?_toValue {depth : Nat} {byPlace : Bool} {v : Value} {f : FieldDefinition}
    (h : ofValueWithin? depth byPlace v = some f) {depth' : Nat} (byPlace' : Bool)
    (hdepth : f.toValue.depth ≤ depth') : ofValueWithin? depth' byPlace' f.toValue = some f := by
  induction depth generalizing byPlace v f depth' byPlace' with
  | zero => cases h
  | succ depth ih =>
      obtain ⟨d, hdraft, h⟩ := (Yields.of_ofFields h).bind
      obtain ⟨active, hactive, h⟩ := h.bind
      obtain ⟨temporary, htemporary, h⟩ := h.bind
      obtain ⟨rfl, rfl, rfl⟩ : d = f.draft ∧ active = f.active ∧ temporary = f.temporary := by
        split at h
        case h_1 g hg => exact h.pure ▸ draft_of_ofDraft? hg
        case h_2 =>
          obtain ⟨source, source', h⟩ := h
          cases h
      obtain ⟨depth', rfl⟩ : ∃ rest, depth' = rest + 1 := by
        rw [toValue_eq, Value.depth] at hdepth
        exact Nat.exists_eq_add_one.2 (by omega)
      have htype : ∀ v, FieldType.ofValue? (ofValueWithin? depth true) byPlace v = some f.type →
          FieldType.ofValue? (ofValueWithin? depth' true) byPlace'
            (.object (f.type.entries ++ [("type", .text f.type.name)])) = some f.type := by
        intro v hv
        obtain ⟨variant, hvariant, source, hread⟩ := FieldType.ofValue?_eq_some hv
        refine (FieldType.variants_reread hvariant hread fun c hc hcolumn => ?_).ofValue? byPlace'
        obtain ⟨v, hcolumn⟩ := hcolumn
        exact ih hcolumn true (Nat.le_of_lt_succ (Nat.lt_of_lt_of_le (depth_column hc) hdepth))
      rw [toValue_eq]
      refine Reads.readAll (.bind (draftReader_reads hdraft htype) <|
        .bind (.orElse hactive .flag rfl rfl) <| .bind (.orElse htemporary .flag rfl rfl) ?_)
      rw [ofDraft?_draft]
      exact .pure f

theorem faithful : Faithful FieldDefinition.ofValue? toValue :=
  fun _ _ h => ofValueWithin?_toValue h false (Nat.le_refl _)

end FieldDefinition

theorem AppSchema.faithful : Faithful AppSchema.ofValue? toValue := by
  refine .ofFields fun schema h => ?_
  obtain ⟨id, hid, h⟩ := h.bind
  obtain ⟨code, hcode, h⟩ := h.bind
  obtain ⟨processEnabled, henabled, h⟩ := h.bind
  obtain ⟨fields, hfields, h⟩ := h.bind
  obtain rfl := h.pure
  exact .bind (.required hid AppId.faithful rfl) <| .bind (.required hcode NonBlank.faithful rfl) <|
    .bind (.orElse henabled .flag rfl rfl) <|
    .bind (.required hfields (.listOf FieldDefinition.faithful) rfl) (.pure _)

end RecordApps
