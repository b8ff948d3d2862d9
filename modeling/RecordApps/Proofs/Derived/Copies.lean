import RecordApps.Proofs.Derived.Frame

/-! # What lookups copy

The lookups of a valid schema read keys that none of them writes, so what each of them finds is
settled by the data that a refresh starts with. A refresh therefore puts one list of copies into the
data, later ones in place of earlier ones, before any field is calculated.
-/

namespace RecordApps

variable {store : RecordStore} {changed : Option (List String)} {data data' : Fields}

/-- What a lookup has found, if it was asked at all. -/
abbrev LookupAnswer := Option (Except LookupMiss Fields)

/-- A refresh finds a value to copy into a field: a lookup in use, if it is among the changed fields,
    finds a record of the other app for its key, and takes the value from that record. -/
def AppSchema.Copies (schema : AppSchema) (store : RecordStore) (data : Fields)
    (changed : Option (List String)) (code : String) (v : Value) : Prop :=
  ∃ f ∈ schema.activeFields, ∃ config, f.type = .lookup config ∧
    changed.all (·.contains f.code.text) = true ∧
    ∃ source, config.source? store (data.value f.code.text) = some source ∧
      ∃ copy ∈ config.copies, copy.target = code ∧ v = source.value copy.source

namespace LookupAnswer

/-- The values that an answer brings. -/
def copies : LookupAnswer → List (String × Value)
  | some (.ok copied) => copied.entries
  | _ => []

/-- The report with an answer to a lookup. -/
def noted (report : DerivedReport) (code : String) : LookupAnswer → DerivedReport
  | some (.ok _) => { report with lookupsApplied := report.lookupsApplied ++ [code] }
  | some (.error _) => { report with lookupsMissed := report.lookupsMissed ++ [code] }
  | none => report

/-- The answer that a field gets, if it is a lookup whose key has changed. -/
def ofField (store : RecordStore) (changed : Option (List String)) (data : Fields)
    (f : FieldDefinition) : LookupAnswer :=
  match f.type with
  | .lookup config =>
      if changed.all (·.contains f.code.text) then
        some (config.resolve store (data.value f.code.text))
      else none
  | _ => none

variable {f : FieldDefinition}

theorem ofField_congr (h : data.get? f.code.text = data'.get? f.code.text) :
    ofField store changed data f = ofField store changed data' f := by
  simp only [ofField, KeyMap.value, h]

theorem copies_of_mem {schema : AppSchema} (hf : f ∈ schema.activeFields) {target : String}
    {v : Value} (h : (target, v) ∈ (ofField store changed data f).copies) :
    schema.Copies store data changed target v := by
  rw [ofField] at h
  split at h
  case h_1 config htype =>
    split at h
    case isTrue hchanged =>
      cases hresolve : config.resolve store (data.value f.code.text) with
      | error miss => simp [hresolve, copies] at h
      | ok copied =>
          rw [hresolve] at h
          exact ⟨f, hf, config, htype, hchanged, LookupConfig.resolve_ok hresolve h⟩
    case isFalse => simp [copies] at h
  case h_2 => simp [copies] at h

end LookupAnswer

namespace Refresh

theorem refreshLookup_eq (state : Refresh) (f : FieldDefinition) :
    state.refreshLookup store changed f =
      let answer := LookupAnswer.ofField store changed state.data f
      ⟨state.data.insertAll answer.copies, answer.noted state.report f.code.text⟩ := by
  simp only [refreshLookup, LookupAnswer.ofField]
  cases f.type with
  | lookup config =>
      by_cases hchanged : changed.all (·.contains f.code.text) = true
      · simp only [hchanged, if_true, applyLookup]
        cases config.resolve store (state.data.value f.code.text) <;> rfl
      · simp only [hchanged]
        rfl
  | _ => rfl

theorem refreshLookup_eq_self {state : Refresh} {f : FieldDefinition}
    (h : ¬f.type.isLookup = true) : state.refreshLookup store changed f = state := by
  rw [refreshLookup]
  split
  case h_1 config htype =>
    rw [htype] at h
    exact absurd rfl h
  case h_2 => rfl

end Refresh

namespace AppSchema

variable {schema : AppSchema}

/-- The lookups in use. -/
def lookups (schema : AppSchema) : List FieldDefinition :=
  schema.activeFields.filter (·.type.isLookup)

/-- What the lookups find, one after the other. -/
def answers (schema : AppSchema) (store : RecordStore) (data : Fields)
    (changed : Option (List String)) : List (String × LookupAnswer) :=
  schema.lookups.map fun f => (f.code.text, .ofField store changed data f)

/-- Data and report once all lookups have been refreshed. -/
def looked (schema : AppSchema) (store : RecordStore) (data : Fields)
    (changed : Option (List String)) : Refresh :=
  schema.activeFields.foldl (Refresh.refreshLookup store changed) ⟨data, .empty⟩

theorem recompute_eq_calculateAll :
    schema.recompute store data changed =
      (schema.looked store data changed).calculateAll schema := rfl

theorem looked_eq_foldl_lookups :
    schema.looked store data changed =
      schema.lookups.foldl (Refresh.refreshLookup store changed) ⟨data, .empty⟩ := by
  rw [looked, lookups, List.foldl_filter]
  congr 1
  funext state f
  split
  case isTrue => rfl
  case isFalse hother => exact Refresh.refreshLookup_eq_self hother

section Valid

variable (hvalid : schema.validate = .ok ())

include hvalid

theorem not_copied {f g : FieldDefinition} (hf : f ∈ schema.lookups) (hg : g ∈ schema.lookups) :
    g.code.text ∉ (LookupAnswer.ofField store changed data f).copies.map Prod.fst := by
  intro hwritten
  obtain ⟨⟨key, v⟩, hmem, hkey⟩ := List.mem_map.1 hwritten
  obtain ⟨asked, hasked, config, htype, -, _, -, copy, hcopy, htarget, -⟩ :=
    LookupAnswer.copies_of_mem (List.mem_filter.1 hf).1 hmem
  obtain ⟨target, hactive, hcode, -, hother⟩ := copy_target_ok hvalid hasked htype hcopy
  obtain ⟨hlookup, hkept⟩ := List.mem_filter.1 hg
  obtain rfl := eq_of_code hvalid hlookup hactive (hkey.symm.trans (htarget.symm.trans hcode.symm))
  rw [hkept] at hother
  cases hother

/-- As no lookup writes the key of another one, each finds what it finds on the data at first. -/
theorem foldl_refreshLookup {fields : List FieldDefinition} (hfields : fields ⊆ schema.lookups)
    {state : Refresh}
    (hkeys : ∀ f ∈ schema.lookups, state.data.get? f.code.text = data.get? f.code.text) :
    let answers := fields.map fun f =>
      (f.code.text, LookupAnswer.ofField store changed data f)
    fields.foldl (Refresh.refreshLookup store changed) state =
      ⟨state.data.insertAll (answers.flatMap (·.2.copies)),
        answers.foldl (fun report answer => answer.2.noted report answer.1) state.report⟩ := by
  induction fields generalizing state with
  | nil => rfl
  | cons f rest ih =>
      obtain ⟨hf, hrest⟩ := List.cons_subset.1 hfields
      have hanswer : LookupAnswer.ofField store changed state.data f =
          LookupAnswer.ofField store changed data f := LookupAnswer.ofField_congr (hkeys f hf)
      rw [List.foldl_cons, Refresh.refreshLookup_eq, hanswer, ih hrest]
      · simp only [List.map_cons, List.flatMap_cons, List.foldl_cons, KeyMap.insertAll,
          Entries.insertAll, List.foldl_append]
      · exact fun g hg =>
          (KeyMap.get?_insertAll_of_notMem (not_copied hvalid hf hg)).trans (hkeys g hg)

theorem looked_eq :
    schema.looked store data changed =
      ⟨data.insertAll ((schema.answers store data changed).flatMap (·.2.copies)),
        (schema.answers store data changed).foldl
          (fun report answer => answer.2.noted report answer.1) .empty⟩ := by
  rw [looked_eq_foldl_lookups]
  exact foldl_refreshLookup hvalid (List.Subset.refl _) fun _ _ => rfl

end Valid

theorem answers_congr
    (h : ∀ f ∈ schema.lookups, data'.get? f.code.text = data.get? f.code.text) :
    schema.answers store data' changed = schema.answers store data changed := by
  refine List.map_congr_left fun f hf => ?_
  rw [LookupAnswer.ofField_congr (h f hf)]

end AppSchema

end RecordApps
