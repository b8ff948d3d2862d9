import RecordApps.Proofs.Engine.Atomic
import RecordApps.Proofs.Schema.Dependencies
import RecordApps.Proofs.Schema.Persisted

/-! # Taking fields out of use

A field may be taken out of use exactly if the schema stays valid without it. What a valid schema
refers to are fields in use, so a field that others depend on would be missed; and a field that no
other depends on is not, as every look-up of the others is answered as before. A field may depend
on itself: it goes together with its reference.
-/

namespace RecordApps.AppSchema

variable {schema schema' : AppSchema} {f : FieldDefinition} {code : String}

/-- The schema with the field under a code out of use, and nothing else changed. -/
def without (schema : AppSchema) (code : String) : AppSchema :=
  { schema with
    fields := schema.fields.map fun f =>
      if f.active && f.code.text == code then { f with active := false } else f }

/-! ## What is left -/

theorem without_activeFields (schema : AppSchema) (code : String) :
    (schema.without code).activeFields = schema.activeFields.filter (·.code.text != code) := by
  rw [activeFields, activeFields, without]
  induction schema.fields with
  | nil => rfl
  | cons head rest ih =>
      cases hactive : head.active
      · simpa [hactive] using ih
      · by_cases hcode : head.code.text = code <;> simpa [hactive, hcode] using ih

theorem mem_without_activeFields :
    f ∈ (schema.without code).activeFields ↔ f ∈ schema.activeFields ∧ f.code.text ≠ code := by
  rw [without_activeFields, List.mem_filter, bne_iff_ne]

theorem without_field? {other : String} (hother : other ≠ code) :
    (schema.without code).field? other = schema.field? other := by
  rw [field?, field?, without_activeFields, List.find?_filter]
  refine congrArg (List.find? · schema.activeFields) (funext fun f => ?_)
  by_cases hf : f.code.text = other
  · simp [hf, hother]
  · simp [hf]

theorem without_checkFields (h : checkFields schema.code.text [] [] schema.fields = .ok ()) :
    checkFields (schema.without code).code.text [] [] (schema.without code).fields = .ok () := by
  refine (checkFields_map (fun f => ?_) (fun f => ?_) (fun f => ?_) _ _ _ _).trans h
  all_goals
    split
    · cases f
      rfl
    · rfl

/-! ## Dependencies -/

theorem exists_dependency (hvalid : schema.validate = .ok ()) (hf : f ∈ schema.activeFields)
    {operand : String} (hoperand : operand ∈ f.type.dependencies) :
    ∃ g ∈ schema.activeFields, g.code.text = operand := by
  cases htype : f.type with
  | calculated config =>
      have hcomputable := (exists_calculationOrder_iff (codesDistinct hvalid)).1
        (validate_ok hvalid).2.2.1
      obtain ⟨formula, hparse, hoperands⟩ := hcomputable.readable f hf config htype
      rw [htype, FieldType.dependencies, hparse] at hoperand
      obtain ⟨g, hg, hcode, -⟩ := hoperands operand hoperand
      exact ⟨g, hg, hcode⟩
  | lookup config =>
      rw [htype, FieldType.dependencies, List.mem_map] at hoperand
      obtain ⟨copy, hcopy, rfl⟩ := hoperand
      obtain ⟨target, htarget, hcode, -⟩ := copy_target_ok hvalid hf htype hcopy
      exact ⟨target, htarget, hcode⟩
  | relatedRecords config =>
      rw [htype, FieldType.dependencies, List.mem_singleton] at hoperand
      subst hoperand
      have hreferences := (validate_ok hvalid).2.1 f hf
      rw [checkReferences, htype, Outcome.bind_eq_ok] at hreferences
      obtain ⟨g, hrequired, -⟩ := hreferences
      exact ⟨g, requireField_ok hrequired⟩
  | _ =>
      rw [htype] at hoperand
      cases hoperand

theorem checkReferences_congr (hcode : schema'.code = schema.code)
    (hfield : ∀ operand ∈ f.type.dependencies, schema'.field? operand = schema.field? operand)
    (h : schema.checkReferences f = .ok ()) : schema'.checkReferences f = .ok () := by
  have hrequire : ∀ operand ∈ f.type.dependencies,
      schema'.requireField operand = schema.requireField operand := by
    intro operand hoperand
    rw [requireField, requireField, hfield operand hoperand, hcode]
  cases htype : f.type with
  | lookup config =>
      rw [htype, FieldType.dependencies] at hrequire
      rw [checkReferences, htype] at h ⊢
      refine Outcome.forM_eq_ok.2 fun copy hcopy => ?_
      have hchecked := Outcome.forM_eq_ok.1 h copy hcopy
      rwa [checkCopyTarget, ← hrequire _ (List.mem_map_of_mem hcopy)] at hchecked
  | relatedRecords config =>
      rw [htype, FieldType.dependencies] at hrequire
      rw [checkReferences, htype] at h ⊢
      dsimp only at h ⊢
      rwa [hrequire _ (List.mem_singleton_self _)]
  | _ =>
      rw [checkReferences, htype]

theorem dependants_eq_nil_iff :
    schema.dependants code = [] ↔
      ∀ f ∈ schema.activeFields, f.code.text ≠ code → code ∉ f.type.dependencies := by
  simp [dependants, List.map_eq_nil_iff, List.filter_eq_nil_iff]

/-- Where no other field depends on a field, the formulas of the others can be computed without
    it. -/
theorem Computable.without (h : schema.Computable) (hfree : schema.dependants code = []) :
    (schema.without code).Computable where
  readable f hf config htype := by
    obtain ⟨hactive, hother⟩ := mem_without_activeFields.1 hf
    obtain ⟨formula, hparse, hoperands⟩ := h.readable f hactive config htype
    have hunread := dependants_eq_nil_iff.1 hfree f hactive hother
    rw [htype, FieldType.dependencies, hparse] at hunread
    refine ⟨formula, hparse, fun operand hoperand => ?_⟩
    obtain ⟨g, hg, rfl, hnumeric⟩ := hoperands operand hoperand
    refine ⟨g, mem_without_activeFields.2 ⟨hg, fun hcode => ?_⟩, rfl, hnumeric⟩
    exact hunread (hcode ▸ hoperand)
  acyclic other hcircle := by
    have hreads : ∀ code' operand, (schema.without code).Reads code' operand →
        schema.Reads code' operand := by
      rintro code' operand ⟨f, hf, hformula⟩
      exact ⟨f, (mem_without_activeFields.1 hf).1, hformula⟩
    exact h.acyclic other (Relation.TransGen.mono hreads _ _ hcircle)

/-- A valid schema stays valid without a field exactly if no other field depends on it. -/
theorem without_validate_iff (hvalid : schema.validate = .ok ()) :
    (schema.without code).validate = .ok () ↔ schema.dependants code = [] := by
  constructor
  · intro hleft
    refine dependants_eq_nil_iff.2 fun f hf hother hdepends => ?_
    obtain ⟨g, hg, hcode⟩ :=
      exists_dependency hleft (mem_without_activeFields.2 ⟨hf, hother⟩) hdepends
    exact (mem_without_activeFields.1 hg).2 hcode
  · intro hfree
    obtain ⟨hchecked, hreferences, horder⟩ := validate_eq_ok_iff.1 hvalid
    have hdistinct := codesDistinct hvalid
    refine validate_eq_ok_iff.2 ⟨without_checkFields hchecked, fun f hf => ?_, ?_⟩
    · obtain ⟨hactive, hother⟩ := mem_without_activeFields.1 hf
      have hunread := dependants_eq_nil_iff.1 hfree f hactive hother
      have hcode : (schema.without code).code = schema.code := rfl
      refine checkReferences_congr hcode (fun operand hoperand => ?_) (hreferences f hactive)
      exact without_field? fun hsame => hunread (hsame ▸ hoperand)
    · have hdistinct' : (schema.without code).CodesDistinct := by
        rw [CodesDistinct, without_activeFields]
        exact (List.filter_sublist.map _).nodup hdistinct
      rw [exists_calculationOrder_iff hdistinct'] at *
      exact ((exists_calculationOrder_iff hdistinct).1 horder).without hfree

/-! ## Retirement -/

/-- With distinct codes, the first active field under a code is the only one. -/
theorem retireFirst_eq {fields : List FieldDefinition}
    (hcodes : (fields.map (·.code.text)).Nodup) :
    retireFirst code fields =
      if fields.any fun f => f.active && f.code.text == code then
        some (fields.map fun f =>
          if f.active && f.code.text == code then { f with active := false } else f)
      else none := by
  induction fields with
  | nil => rfl
  | cons head rest ih =>
      obtain ⟨hfresh, hrest⟩ := List.nodup_cons.1 hcodes
      rw [retireFirst, List.any_cons, List.map_cons]
      split
      case isTrue hhead =>
        have hcode : head.code.text = code := by simpa using (Bool.and_eq_true_iff.1 hhead).2
        have hsame : (rest.map fun f =>
            if f.active && f.code.text == code then { f with active := false } else f) = rest := by
          refine (List.map_congr_left fun f hf => if_neg fun hmatches => hfresh ?_).trans
            (List.map_id rest)
          have hf' : f.code.text = code := by simpa using (Bool.and_eq_true_iff.1 hmatches).2
          exact List.mem_map.2 ⟨f, hf, hf'.trans hcode.symm⟩
        rw [hhead, Bool.true_or, if_pos rfl, hsame]
      case isFalse hhead =>
        rw [ih hrest, Bool.eq_false_iff.2 hhead, Bool.false_or]
        split <;> rfl

theorem retireField_of_dependants (h : schema.dependants code ≠ []) :
    schema.retireField code =
      .error (.conflict (.fieldReferenced code (schema.dependants code))) := by
  rw [retireField]
  exact if_neg (by simpa using h)

theorem retireField_of_free (hvalid : schema.validate = .ok ()) (hf : f ∈ schema.activeFields)
    (hfree : schema.dependants f.code.text = []) :
    schema.retireField f.code.text = .ok (schema.without f.code.text) := by
  have hany : (schema.fields.any fun g => g.active && g.code.text == f.code.text) = true :=
    List.any_eq_true.2 ⟨f, mem_fields_of_active hf, by simpa using (List.mem_filter.1 hf).2⟩
  rw [retireField, hfree, retireFirst_eq (validate_ok hvalid).2.2.2, if_pos hany]
  rfl

/-- A code without an active field has no dependants in a valid schema, and is not found. -/
theorem retireField_of_unknown (hvalid : schema.validate = .ok ())
    (hunknown : ∀ f ∈ schema.activeFields, f.code.text ≠ code) :
    schema.retireField code = .error (.notFound (.field code)) := by
  have hfree : schema.dependants code = [] := by
    refine dependants_eq_nil_iff.2 fun f hf _ hdepends => ?_
    obtain ⟨g, hg, hcode⟩ := exists_dependency hvalid hf hdepends
    exact hunknown g hg hcode
  have hany : ¬(schema.fields.any fun g => g.active && g.code.text == code) = true := by
    intro hany
    obtain ⟨g, hg, hmatches⟩ := List.any_eq_true.1 hany
    rw [Bool.and_eq_true, beq_iff_eq] at hmatches
    exact hunknown g (List.mem_filter.2 ⟨hg, hmatches.1⟩) hmatches.2
  rw [retireField, hfree, retireFirst_eq (validate_ok hvalid).2.2.2, if_neg hany]
  rfl

/-- Only harmful retirements are refused. A field of a valid schema is taken out of use exactly if
    it is active and the schema stays valid without it, and then nothing else changes. An active
    field without which the schema would not be valid is kept with a conflict, and a code without
    an active field is not found. A request that is refused changes nothing that is stored. -/
theorem retired_unless_harmful (hvalid : schema.validate = .ok ()) (code : String) :
    (∀ retired, schema.retireField code = .ok retired ↔
      (∃ f ∈ schema.activeFields, f.code.text = code) ∧
        (schema.without code).validate = .ok () ∧ retired = schema.without code) ∧
    ((∃ cause, schema.retireField code = .error (.conflict cause)) ↔
      (∃ f ∈ schema.activeFields, f.code.text = code) ∧
        (schema.without code).validate ≠ .ok ()) ∧
    ((∃ cause, schema.retireField code = .error (.notFound cause)) ↔
      ¬∃ f ∈ schema.activeFields, f.code.text = code) ∧
    ∀ (settings : Settings) (ws ws' : Workspace) (actor : Actor) (app : AppId) (fault : Fault),
      Engine.run settings ws (Engine.retireField actor app code) = (.error fault, ws') →
        ws' = ws := by
  have hrefused := fun settings ws ws' actor app fault =>
    Engine.retireField_atomic actor app code settings ws fault ws'
  by_cases hknown : ∃ f ∈ schema.activeFields, f.code.text = code
  case neg =>
    have hanswer := retireField_of_unknown hvalid fun f hf hcode => hknown ⟨f, hf, hcode⟩
    refine ⟨?_, ?_, ?_, hrefused⟩ <;> simp [hanswer, hknown]
  case pos =>
    obtain ⟨f, hf, rfl⟩ := hknown
    have hknown : ∃ g ∈ schema.activeFields, g.code.text = f.code.text := ⟨f, hf, rfl⟩
    rw [Ne, without_validate_iff hvalid]
    by_cases hfree : schema.dependants f.code.text = []
    case pos =>
      have hanswer := retireField_of_free hvalid hf hfree
      refine ⟨fun retired => ?_, ?_, ?_, hrefused⟩
      · rw [hanswer, Except.ok.injEq, eq_comm]
        exact ⟨fun hretired => ⟨hknown, hfree, hretired⟩, fun hretired => hretired.2.2⟩
      · simp [hanswer, hfree]
      · simp [hanswer, hknown]
    case neg =>
      have hanswer := retireField_of_dependants hfree
      refine ⟨?_, ?_, ?_, hrefused⟩ <;> simp [hanswer, hknown, hfree]

/-- No formula reads the gross, which may go; the tax is part of the gross, and stays. -/
theorem retired_unless_harmful_invoices :
    Invoices.schema.validate = .ok () ∧
    Invoices.schema.retireField "gross" = .ok (Invoices.schema.without "gross") ∧
    (∃ cause, Invoices.schema.retireField "tax" = .error (.conflict cause)) ∧
    ∃ cause, Invoices.schema.retireField "duty" = .error (.notFound cause) := by
  have hvalid : Invoices.schema.validate = .ok () := by with_unfolding_all rfl
  have hharmless : (Invoices.schema.without "gross").validate = .ok () := by
    with_unfolding_all rfl
  have hharmful : (Invoices.schema.without "tax").validate =
      .error (.invalid (.unknownOperand "gross" "tax")) := by
    with_unfolding_all rfl
  obtain ⟨hretired, -⟩ := retired_unless_harmful hvalid "gross"
  obtain ⟨-, hkept, -⟩ := retired_unless_harmful hvalid "tax"
  obtain ⟨-, -, hunknown, -⟩ := retired_unless_harmful hvalid "duty"
  refine ⟨hvalid, ?_, ?_, ?_⟩
  · exact (hretired _).2 ⟨by decide, hharmless, rfl⟩
  · exact hkept.2 ⟨by decide, by rw [hharmful]; exact nofun⟩
  · exact hunknown.2 (by decide)

end RecordApps.AppSchema
