import RecordApps.Proofs.Schema.Persisted

/-! # Stable fields

A schema that replaces another has to have every saved field: the first field with its id counts,
and needs the same code. What one schema keeps of another the next one keeps too, and a code that
has been taken stays with its id. Of two saved fields with the same id only one comes first, so a
schema with such fields cannot be replaced by any other, itself included.
-/

namespace RecordApps.AppSchema

variable {schema schema' schema'' : AppSchema}

/-- All fields of a schema have been saved. -/
def AllSaved (schema : AppSchema) : Prop :=
  ∀ f ∈ schema.fields, f.temporary = false

theorem persisted_allSaved (schema : AppSchema) : schema.persisted.AllSaved := by
  intro f hf
  obtain ⟨_, -, rfl⟩ := List.mem_map.1 hf
  rfl

theorem AllSaved.persisted_eq_self (h : schema.AllSaved) : schema.persisted = schema := by
  have hfields : schema.fields.map FieldDefinition.saved = schema.fields := by
    refine (List.map_congr_left fun f hf => ?_).trans (List.map_id schema.fields)
    rw [FieldDefinition.saved, ← h f hf]
    cases f
    rfl
  exact congrArg (fun fields => { schema with fields := fields }) hfields

/-! ## Schemas that may replace another -/

theorem mem_of_find?_id {id : NonBlank} {fields : List FieldDefinition} {f : FieldDefinition}
    (h : fields.find? (·.id == id) = some f) : f ∈ fields ∧ f.id = id :=
  ⟨List.mem_of_find?_eq_some h, by simpa using List.find?_some h⟩

theorem checkStable_eq_ok {stored : FieldDefinition} :
    schema.checkStable stored = .ok () ↔
      ∃ f, schema.fields.find? (·.id == stored.id) = some f ∧ f.code = stored.code := by
  rw [checkStable]
  cases schema.fields.find? (·.id == stored.id) with
  | none => simp
  | some f => by_cases hcode : f.code = stored.code <;> simp [hcode]

theorem ensureStable_eq_ok (hsaved : schema.AllSaved) :
    schema'.ensureStable schema = .ok () ↔
      ∀ stored ∈ schema.fields, ∃ f, schema'.fields.find? (·.id == stored.id) = some f ∧
        f.code = stored.code := by
  have hall : schema.fields.filter (!·.temporary) = schema.fields :=
    List.filter_eq_self.2 fun f hf => by rw [hsaved f hf]; rfl
  rw [ensureStable, hall, List.forM_eq_forM, Outcome.forM_eq_ok]
  exact forall₂_congr fun stored _ => checkStable_eq_ok

theorem eq_of_field_code (hvalid : schema.validate = .ok ()) {f g : FieldDefinition}
    (hf : f ∈ schema.fields) (hg : g ∈ schema.fields) (hcode : f.code = g.code) : f = g :=
  List.inj_on_of_nodup_map (validate_ok hvalid).2.2.2 hf hg (congrArg NonBlank.text hcode)

theorem nodup_ids_of_ensureStable (hsaved : schema.AllSaved) (hvalid : schema.validate = .ok ())
    (h : schema'.ensureStable schema = .ok ()) : (schema.fields.map (·.id)).Nodup := by
  rw [ensureStable_eq_ok hsaved] at h
  have hfields : schema.fields.Nodup := .of_map _ (validate_ok hvalid).2.2.2
  refine hfields.map_on fun f hf g hg hid => ?_
  obtain ⟨first, hfirst, hcode⟩ := h f hf
  obtain ⟨other, hother, hcode'⟩ := h g hg
  rw [hid, hother] at hfirst
  obtain rfl := Option.some.inj hfirst
  exact eq_of_field_code hvalid hf hg (hcode.symm.trans hcode')

theorem ensureStable_self (hsaved : schema.AllSaved) (hids : (schema.fields.map (·.id)).Nodup) :
    schema.ensureStable schema = .ok () := by
  refine (ensureStable_eq_ok hsaved).2 fun stored hstored => ?_
  have hsome : (schema.fields.find? (·.id == stored.id)).isSome = true :=
    List.find?_isSome.2 ⟨stored, hstored, beq_self_eq_true stored.id⟩
  obtain ⟨f, hf⟩ := Option.isSome_iff_exists.1 hsome
  obtain ⟨hmem, hid⟩ := mem_of_find?_id hf
  obtain rfl := List.inj_on_of_nodup_map hids hmem hstored hid
  exact ⟨f, hf, rfl⟩

/-! ## What is kept -/

/-- Every field of the first schema is one of the second, by its id and its code. -/
def Keeps (schema schema' : AppSchema) : Prop :=
  ∀ f ∈ schema.fields, ∃ g ∈ schema'.fields, g.id = f.id ∧ g.code = f.code

namespace Keeps

theorem refl (schema : AppSchema) : schema.Keeps schema :=
  fun f hf => ⟨f, hf, rfl, rfl⟩

theorem trans (h : schema.Keeps schema') (h' : schema'.Keeps schema'') :
    schema.Keeps schema'' := by
  intro f hf
  obtain ⟨g, hg, hid, hcode⟩ := h f hf
  obtain ⟨k, hk, hid', hcode'⟩ := h' g hg
  exact ⟨k, hk, hid'.trans hid, hcode'.trans hcode⟩

theorem of_ensureStable (hsaved : schema.AllSaved) (h : schema'.ensureStable schema = .ok ()) :
    schema.Keeps schema' := by
  intro f hf
  obtain ⟨g, hg, hcode⟩ := (ensureStable_eq_ok hsaved).1 h f hf
  obtain ⟨hmem, hid⟩ := mem_of_find?_id hg
  exact ⟨g, hmem, hid, hcode⟩

theorem persisted (h : schema.Keeps schema') : schema.Keeps schema'.persisted := by
  intro f hf
  obtain ⟨g, hg, hsame⟩ := h f hf
  exact ⟨g.saved, List.mem_map_of_mem hg, hsame⟩

theorem id_of_code (h : schema.Keeps schema') (hvalid : schema'.validate = .ok ())
    {f g : FieldDefinition} (hf : f ∈ schema.fields) (hg : g ∈ schema'.fields)
    (hcode : g.code = f.code) : g.id = f.id := by
  obtain ⟨kept, hkept, hid, hcode'⟩ := h f hf
  rw [eq_of_field_code hvalid hg hkept (hcode.trans hcode'.symm), hid]

end Keeps

end RecordApps.AppSchema
