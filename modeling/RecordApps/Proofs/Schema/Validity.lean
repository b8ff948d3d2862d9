import RecordApps.Proofs.KeyMap
import RecordApps.Proofs.Outcome
import RecordApps.Schema.Validation

/-! # What a valid schema rules out

No two fields of a valid schema have the same code, and none has the key of a piece of metadata
as its code. Lookups copy into fields, so they do not write metadata.
-/

namespace RecordApps

theorem checkFieldCode_ok {code : String} (h : checkFieldCode code = .ok ()) :
    Key.isReserved code = false := by
  simp only [checkFieldCode, Outcome.check_bind_eq_ok, ensure_eq_ok] at h
  simpa using h.2

theorem FieldDefinition.validate_ok {f : FieldDefinition} (h : f.validate = .ok ()) :
    Key.isReserved f.code.text = false ∧ (f.required = true → f.type.acceptsInput = true) := by
  simp only [validate, Outcome.check_bind_eq_ok, ensure_eq_ok] at h
  obtain ⟨hcode, -, -, -, hrequired, -, -⟩ := h
  refine ⟨checkFieldCode_ok hcode, fun hset => ?_⟩
  simpa [hset] using hrequired

namespace AppSchema

variable {schema : AppSchema} {f g : FieldDefinition}

theorem checkFields_ok {app : String} {codes autoTypes : List String}
    {fields : List FieldDefinition} (h : checkFields app codes autoTypes fields = .ok ()) :
    (∀ f ∈ fields, f.validate = .ok () ∧ f.code.text ∉ codes) ∧
      (fields.map (·.code.text)).Nodup := by
  induction fields generalizing codes autoTypes with
  | nil => simp
  | cons head rest ih =>
      rw [checkFields, Outcome.check_bind_eq_ok, Outcome.check_bind_eq_ok,
        Outcome.check_bind_eq_ok] at h
      obtain ⟨hhead, hcode, -, hrest⟩ := h
      obtain ⟨hfields, hnodup⟩ := ih hrest
      have hfresh : head.code.text ∉ codes := by simpa using hcode
      refine ⟨List.forall_mem_cons.2 ⟨⟨hhead, hfresh⟩, fun f hf => ?_⟩, ?_⟩
      · exact ⟨(hfields f hf).1, fun hmem => (hfields f hf).2 (List.mem_cons_of_mem _ hmem)⟩
      · -- The codes of earlier fields are refused for all that follow.
        refine List.nodup_cons.2 ⟨fun hmem => ?_, hnodup⟩
        obtain ⟨f, hf, hsame⟩ := List.mem_map.1 hmem
        exact (hfields f hf).2 (hsame ▸ List.mem_cons_self)

/-- A schema is valid if its fields are, each refers to fields that suit it, and the calculated
    fields have an order. -/
theorem validate_eq_ok_iff :
    schema.validate = .ok () ↔
      checkFields schema.code.text [] [] schema.fields = .ok () ∧
        (∀ f ∈ schema.activeFields, schema.checkReferences f = .ok ()) ∧
        ∃ order, schema.calculationOrder = .ok order := by
  rw [validate, Outcome.check_bind_eq_ok, Outcome.check_bind_eq_ok, Outcome.bind_eq_ok,
    List.forM_eq_forM, Outcome.forM_eq_ok]
  refine and_congr_right fun _ => and_congr_right fun _ => exists_congr fun order => ?_
  exact and_iff_left rfl

theorem validate_ok (h : schema.validate = .ok ()) :
    (∀ f ∈ schema.fields, f.validate = .ok ()) ∧
      (∀ f ∈ schema.activeFields, schema.checkReferences f = .ok ()) ∧
      (∃ order, schema.calculationOrder = .ok order) ∧
      (schema.fields.map (·.code.text)).Nodup := by
  obtain ⟨hchecked, hreferences, horder⟩ := validate_eq_ok_iff.1 h
  obtain ⟨hfields, hnodup⟩ := checkFields_ok hchecked
  exact ⟨fun f hf => (hfields f hf).1, hreferences, horder, hnodup⟩

theorem mem_fields_of_active (h : f ∈ schema.activeFields) : f ∈ schema.fields :=
  (List.mem_filter.1 h).1

theorem code_not_reserved (hvalid : schema.validate = .ok ()) (hf : f ∈ schema.activeFields) :
    Key.isReserved f.code.text = false :=
  (FieldDefinition.validate_ok ((validate_ok hvalid).1 f (mem_fields_of_active hf))).1

theorem acceptsInput_of_required (hvalid : schema.validate = .ok ())
    (hf : f ∈ schema.activeFields) (hrequired : f.required = true) :
    f.type.acceptsInput = true :=
  (FieldDefinition.validate_ok ((validate_ok hvalid).1 f (mem_fields_of_active hf))).2 hrequired

theorem eq_of_code (hvalid : schema.validate = .ok ()) (hf : f ∈ schema.activeFields)
    (hg : g ∈ schema.activeFields) (hcode : f.code.text = g.code.text) : f = g :=
  List.inj_on_of_nodup_map (validate_ok hvalid).2.2.2 (mem_fields_of_active hf)
    (mem_fields_of_active hg) hcode

theorem field?_eq_some {code : String} (h : schema.field? code = some f) :
    f ∈ schema.activeFields ∧ f.code.text = code :=
  ⟨List.mem_of_find?_eq_some h, by simpa using List.find?_some h⟩

theorem requireField_ok {code : String} (h : schema.requireField code = .ok f) :
    f ∈ schema.activeFields ∧ f.code.text = code := by
  rw [requireField] at h
  split at h
  case h_1 found hfound =>
    obtain rfl := Except.ok.inj h
    exact field?_eq_some hfound
  case h_2 => cases h

/-- What a lookup copies goes into fields in use that take input and are no lookups. -/
theorem copy_target_ok (hvalid : schema.validate = .ok ()) (hf : f ∈ schema.activeFields)
    {config : LookupConfig} (htype : f.type = .lookup config) {copy : LookupCopy}
    (hcopy : copy ∈ config.copies) :
    ∃ target ∈ schema.activeFields, target.code.text = copy.target ∧
      target.type.acceptsInput = true ∧ target.type.isLookup = false := by
  have hreferences := (validate_ok hvalid).2.1 f hf
  rw [checkReferences, htype] at hreferences
  have hchecked := Outcome.forM_eq_ok.1 hreferences copy hcopy
  rw [checkCopyTarget, Outcome.bind_eq_ok] at hchecked
  obtain ⟨target, hrequired, hsuits⟩ := hchecked
  obtain ⟨hactive, hcode⟩ := requireField_ok hrequired
  rw [ensure_eq_ok, Bool.and_eq_true, Bool.not_eq_true'] at hsuits
  exact ⟨target, hactive, hcode, hsuits⟩

theorem copy_target_not_reserved (hvalid : schema.validate = .ok ())
    (hf : f ∈ schema.activeFields) {config : LookupConfig} (htype : f.type = .lookup config)
    {copy : LookupCopy} (hcopy : copy ∈ config.copies) :
    Key.isReserved copy.target = false := by
  obtain ⟨target, hactive, hcode, -⟩ := copy_target_ok hvalid hf htype hcopy
  exact hcode ▸ code_not_reserved hvalid hactive

end AppSchema

end RecordApps
