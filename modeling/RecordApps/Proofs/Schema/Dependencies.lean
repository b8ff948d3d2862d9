import Mathlib.Data.List.Perm.Subperm
import Mathlib.Logic.Relation
import Mathlib.Order.WellFounded
import RecordApps.Proofs.Formula.Evaluation
import RecordApps.Proofs.Schema.CalculationOrder

/-! # Dependencies between calculated fields

The calculated fields have an order exactly if no field depends on itself. A visit fails only where
it meets a field that waits for it, and the fields that wait all lead to the one that is visited, so
they would close a circle. Conversely an order is a proof that the dependencies are well founded.
-/

namespace RecordApps

open Relation (TransGen)

namespace Calculation

variable {calculations : KeyMap Calculation} {order : List Calculation}

/-- The formula of a calculated field reads a field. -/
def Needs (calculations : KeyMap Calculation) (code operand : String) : Prop :=
  ∃ c, calculations.get? code = some c ∧ operand ∈ c.formula.fieldCodes

theorem acc_of_not_calculated {code : String} (h : ¬calculations.contains code = true) :
    Acc (Function.swap (Needs calculations)) code := by
  refine ⟨_, fun operand hneeds => ?_⟩
  obtain ⟨c, hc, -⟩ := hneeds
  exact absurd (KeyMap.contains_of_get? hc) h

namespace Topological

theorem nodup (h : Topological calculations order) : (order.map code).Nodup := by
  induction h with
  | nil => exact List.nodup_nil
  | snoc _ _ hfresh _ ih =>
      rw [List.map_append, List.map_singleton, ← List.concat_eq_append]
      exact ih.concat hfresh

theorem operand_before {before after : List Calculation} {c : Calculation}
    (h : Topological calculations (before ++ c :: after)) {operand : String}
    (hoperand : operand ∈ c.formula.fieldCodes)
    (hcalculated : calculations.contains operand = true) : operand ∈ before.map code := by
  generalize horder : before ++ c :: after = order at h
  induction h generalizing after with
  | nil => simp at horder
  | @snoc order last _ _ _ hlast ih =>
      rcases List.eq_nil_or_concat' after with rfl | ⟨after, final, rfl⟩
      · obtain ⟨rfl, hsame⟩ := List.append_inj' horder rfl
        obtain rfl := (List.cons.inj hsame).1
        exact hlast operand hoperand hcalculated
      · rw [← List.cons_append, ← List.append_assoc] at horder
        exact ih (List.append_inj' horder rfl).1

/-- No chain of dependencies is endless that begins with a field of the order. -/
theorem acc_needs (h : Topological calculations order) {code : String}
    (hcode : code ∈ order.map Calculation.code) :
    Acc (Function.swap (Needs calculations)) code := by
  induction h generalizing code with
  | nil => cases hcode
  | @snoc order last _ hget _ hoperands ih =>
      rw [List.map_append, List.mem_append] at hcode
      rcases hcode with hcode | hcode
      · exact ih hcode
      · obtain rfl := List.mem_singleton.1 hcode
        refine ⟨_, fun operand hneeds => ?_⟩
        obtain ⟨c, hc, hoperand⟩ := hneeds
        obtain rfl := Option.some.inj (hget.symm.trans hc)
        by_cases hcalculated : calculations.contains operand = true
        · exact ih (hoperands operand hoperand hcalculated)
        · exact acc_of_not_calculated hcalculated

section All

variable (h : Topological calculations order)
  (hall : ∀ {code c}, calculations.get? code = some c → c ∈ order)
  (hcodes : ∀ {code c}, calculations.get? code = some c → c.code = code)

include h hall hcodes

theorem wellFounded_needs : WellFounded (Function.swap (Needs calculations)) := by
  refine ⟨fun code => ?_⟩
  by_cases hcalculated : calculations.contains code = true
  · obtain ⟨c, hc⟩ := Option.isSome_iff_exists.1 hcalculated
    exact h.acc_needs (List.mem_map.2 ⟨c, hall hc, hcodes hc⟩)
  · exact acc_of_not_calculated hcalculated

theorem acyclic (code : String) : ¬TransGen (Needs calculations) code code := by
  intro hcircle
  have hirrefl := (h.wellFounded_needs hall hcodes).transGen.irrefl
  exact hirrefl.irrefl code (Relation.transGen_swap.2 hcircle)

end All

end Topological

/-- The fields on the path wait for a field: they are calculated, and each depends on it. -/
structure Waiting (calculations : KeyMap Calculation) (path : List String) (code : String) :
    Prop where
  nodup : path.Nodup
  calculated : ∀ waiting ∈ path, calculations.contains waiting = true
  depends : ∀ waiting ∈ path, TransGen (Needs calculations) waiting code

namespace Waiting

variable {path : List String} {code operand : String}

theorem nil : Waiting calculations [] code :=
  ⟨List.nodup_nil, by simp, by simp⟩

theorem cons (h : Waiting calculations path code) (hfree : code ∉ path)
    (hneeds : Needs calculations code operand) :
    Waiting calculations (code :: path) operand where
  nodup := List.nodup_cons.2 ⟨hfree, h.nodup⟩
  calculated := by
    obtain ⟨c, hc, -⟩ := hneeds
    exact List.forall_mem_cons.2 ⟨KeyMap.contains_of_get? hc, h.calculated⟩
  depends := List.forall_mem_cons.2
    ⟨.single hneeds, fun waiting hwaiting => (h.depends waiting hwaiting).tail hneeds⟩

theorem length_le (h : Waiting calculations path code) :
    path.length ≤ calculations.entries.length := by
  have hkeys : path ⊆ calculations.keys :=
    fun waiting hwaiting => KeyMap.contains_iff.1 (h.calculated waiting hwaiting)
  simpa [KeyMap.keys] using (List.subperm_of_subset h.nodup hkeys).length_le

end Waiting

section Acyclic

variable (hacyclic : ∀ code, ¬TransGen (Needs calculations) code code)

include hacyclic

/-- Where no field depends on itself, no visit fails: the room cannot run out before the path holds
    every calculated field, and no field on the path is met again. -/
theorem exists_visit_eq_ok {room : Nat} {path : List String} {code : String}
    (hroom : calculations.entries.length < room + path.length)
    (hwaiting : Waiting calculations path code) (ordered : List Calculation) :
    ∃ result, visit calculations room path ordered code = .ok result := by
  induction room generalizing path code ordered with
  | zero =>
      have hlength := hwaiting.length_le
      omega
  | succ room ih =>
      rw [visit]
      split
      · exact ⟨ordered, rfl⟩
      · split
        case isTrue hmet =>
          exact absurd (hwaiting.depends code (List.contains_iff_mem.1 hmet)) (hacyclic code)
        case isFalse hfree =>
          split
          case h_1 => exact ⟨ordered, rfl⟩
          case h_2 c hc =>
            have hoperands : ∀ operand ∈ c.formula.fieldCodes, ∀ ordered,
                ∃ result, visit calculations room (code :: path) ordered operand = .ok result := by
              intro operand hoperand ordered
              refine ih ?_ (hwaiting.cons (by simpa using hfree) ⟨c, hc, hoperand⟩) ordered
              rw [List.length_cons]
              omega
            obtain ⟨needed, hneeded⟩ := Outcome.exists_foldlM_eq_ok hoperands ordered
            exact ⟨needed ++ [c], by rw [hneeded]; rfl⟩

theorem exists_inOrder_eq_ok : ∃ order, inOrder calculations = .ok order :=
  Outcome.exists_foldlM_eq_ok
    (fun _ _ => exists_visit_eq_ok hacyclic (Nat.lt_succ_self _) .nil) []

end Acyclic

end Calculation

namespace FieldType

/-- Whether values are computed by a formula. -/
def isCalculated : FieldType → Bool
  | .calculated _ => true
  | _ => false

theorem isCalculated_iff {t : FieldType} :
    t.isCalculated = true ↔ ∃ config, t = .calculated config := by
  cases t <;> simp [isCalculated]

end FieldType

namespace AppSchema

variable {schema : AppSchema} {calculations : KeyMap Calculation} {order : List Calculation}
  {f : FieldDefinition} {c : Calculation} {code operand : String}

/-- A field in use has a formula that reads another field. -/
def Reads (schema : AppSchema) (code operand : String) : Prop :=
  ∃ f ∈ schema.activeFields, f.code.text = code ∧ ∃ config formula,
    f.type = .calculated config ∧ Formula.parse config.formula = .ok formula ∧
      operand ∈ formula.fieldCodes

/-- All formulas in use can be computed: they are readable and about numbers, and no field depends
    on itself, directly or through others. -/
structure Computable (schema : AppSchema) : Prop where
  readable : ∀ f ∈ schema.activeFields, ∀ config, f.type = .calculated config →
    ∃ formula, Formula.parse config.formula = .ok formula ∧
      ∀ operand ∈ formula.fieldCodes,
        ∃ g ∈ schema.activeFields, g.code.text = operand ∧ g.type.isNumeric = true
  acyclic : ∀ code, ¬TransGen schema.Reads code code

/-- No code is that of two fields in use. -/
def CodesDistinct (schema : AppSchema) : Prop :=
  (schema.activeFields.map (·.code.text)).Nodup

/-- The calculation of a field depends on the fields that are found under codes. -/
theorem calculation?_congr {schema' : AppSchema}
    (h : ∀ code, schema'.field? code = schema.field? code) (f : FieldDefinition) :
    schema'.calculation? f = schema.calculation? f := by
  have hoperand : schema'.checkOperand = schema.checkOperand := by
    funext code operand
    rw [checkOperand, checkOperand, h operand]
  rw [calculation?, calculation?, hoperand]

theorem codesDistinct (hvalid : schema.validate = .ok ()) : schema.CodesDistinct :=
  (List.filter_sublist.map _).nodup (validate_ok hvalid).2.2.2

section Distinct

variable (hdistinct : schema.CodesDistinct)

include hdistinct

theorem field?_eq_some_iff :
    schema.field? code = some f ↔ f ∈ schema.activeFields ∧ f.code.text = code := by
  refine ⟨field?_eq_some, ?_⟩
  rintro ⟨hf, rfl⟩
  obtain ⟨g, hg⟩ : ∃ g, schema.field? f.code.text = some g :=
    Option.isSome_iff_exists.1 (List.find?_isSome.2 ⟨f, hf, beq_self_eq_true _⟩)
  obtain ⟨hactive, hcode⟩ := field?_eq_some hg
  rw [hg, List.inj_on_of_nodup_map hdistinct hactive hf hcode]

theorem checkOperand_eq_ok_iff :
    schema.checkOperand code operand = .ok () ↔
      ∃ g ∈ schema.activeFields, g.code.text = operand ∧ g.type.isNumeric = true := by
  refine ⟨checkOperand_ok, ?_⟩
  rintro ⟨g, hg, hcode, hnumeric⟩
  rw [checkOperand, (field?_eq_some_iff hdistinct).2 ⟨hg, hcode⟩]
  exact ensure_eq_ok.2 hnumeric

theorem exists_get?_calculations (h : schema.calculations = .ok calculations)
    (hf : f ∈ schema.activeFields) {config : FormulaConfig} (htype : f.type = .calculated config) :
    ∃ c, calculations.get? f.code.text = some c ∧ c.field = f ∧
      Formula.parse config.formula = .ok c.formula ∧
      ∀ operand ∈ c.formula.fieldCodes, schema.checkOperand f.code.text operand = .ok () := by
  obtain ⟨c, hc⟩ := Option.isSome_iff_exists.1 (calculations_contains h hf htype)
  obtain ⟨hcode, hactive, hcalculation⟩ := calculations_get? h hc
  obtain ⟨-, ⟨config', htype', hparse⟩, hoperands⟩ := calculation?_ok hcalculation
  obtain rfl : c.field = f := List.inj_on_of_nodup_map hdistinct hactive hf hcode
  rw [htype] at htype'
  obtain rfl := FieldType.calculated.inj htype'
  exact ⟨c, hc, rfl, hparse, hoperands⟩

/-- The map of calculations holds those of the fields in use, each under its code. -/
theorem calculations_get?_iff (h : schema.calculations = .ok calculations) :
    calculations.get? code = some c ↔
      c.code = code ∧ c.field ∈ schema.activeFields ∧
        schema.calculation? c.field = .ok (some c) := by
  refine ⟨calculations_get? h, ?_⟩
  rintro ⟨rfl, hactive, hcalculation⟩
  obtain ⟨-, ⟨config, htype, -⟩, -⟩ := calculation?_ok hcalculation
  obtain ⟨d, hd, hfield, -⟩ := exists_get?_calculations hdistinct h hactive htype
  obtain ⟨-, -, hcalculation'⟩ := calculations_get? h hd
  rw [hfield, hcalculation] at hcalculation'
  obtain rfl := Option.some.inj (Except.ok.inj hcalculation')
  exact hd

theorem needs_iff_reads (h : schema.calculations = .ok calculations) :
    Calculation.Needs calculations code operand ↔ schema.Reads code operand := by
  constructor
  · rintro ⟨c, hc, hoperand⟩
    obtain ⟨hcode, hactive, hcalculation⟩ := calculations_get? h hc
    obtain ⟨-, ⟨config, htype, hparse⟩, -⟩ := calculation?_ok hcalculation
    exact ⟨c.field, hactive, hcode, config, c.formula, htype, hparse, hoperand⟩
  · rintro ⟨f, hactive, rfl, config, formula, htype, hparse, hoperand⟩
    obtain ⟨c, hc, -, hparse', -⟩ := exists_get?_calculations hdistinct h hactive htype
    rw [hparse] at hparse'
    obtain rfl := Except.ok.inj hparse'
    exact ⟨c, hc, hoperand⟩

theorem needs_eq_reads (h : schema.calculations = .ok calculations) :
    Calculation.Needs calculations = schema.Reads :=
  funext₂ fun _ _ => propext (needs_iff_reads hdistinct h)

/-- Where there is an order, no chain of formulas that read one another is endless. -/
theorem wellFounded_reads (h : schema.calculationOrder = .ok order) :
    WellFounded (Function.swap schema.Reads) := by
  obtain ⟨calculations, hcalculations, htopological, hall⟩ := calculationOrder_ok h
  rw [← needs_eq_reads hdistinct hcalculations]
  exact htopological.wellFounded_needs hall fun hc => (calculations_get? hcalculations hc).1

theorem exists_calculation?_eq_ok (h : schema.Computable) (hf : f ∈ schema.activeFields) :
    ∃ found, schema.calculation? f = .ok found := by
  rw [calculation?]
  split
  case h_1 config htype =>
    obtain ⟨formula, hparse, hoperands⟩ := h.readable f hf config htype
    have hchecked : formula.fieldCodes.forM (schema.checkOperand f.code.text) = .ok () :=
      Outcome.forM_eq_ok.2 fun operand hoperand =>
        (checkOperand_eq_ok_iff hdistinct).2 (hoperands operand hoperand)
    refine ⟨some ⟨f, formula⟩, ?_⟩
    simp only [hparse, hchecked]
    rfl
  case h_2 => exact ⟨none, rfl⟩

theorem exists_calculationOrder_iff :
    (∃ order, schema.calculationOrder = .ok order) ↔ schema.Computable := by
  constructor
  · rintro ⟨order, horder⟩
    obtain ⟨calculations, hcalculations, htopological, hall⟩ := calculationOrder_ok horder
    refine ⟨fun f hf config htype => ?_, ?_⟩
    · obtain ⟨c, -, -, hparse, hoperands⟩ :=
        exists_get?_calculations hdistinct hcalculations hf htype
      exact ⟨c.formula, hparse, fun operand hoperand => checkOperand_ok (hoperands operand hoperand)⟩
    · rw [← needs_eq_reads hdistinct hcalculations]
      exact htopological.acyclic hall fun hc => (calculations_get? hcalculations hc).1
  · intro h
    obtain ⟨found, hfound⟩ :=
      Outcome.exists_mapM_eq_ok.2 fun f hf => exists_calculation?_eq_ok hdistinct h hf
    obtain ⟨calculations, hcalculations⟩ :
        ∃ calculations, schema.calculations = .ok calculations :=
      ⟨_, by rw [AppSchema.calculations, hfound]; rfl⟩
    have hacyclic := h.acyclic
    rw [← needs_eq_reads hdistinct hcalculations] at hacyclic
    obtain ⟨order, horder⟩ := Calculation.exists_inOrder_eq_ok hacyclic
    exact ⟨order, by rw [calculationOrder, hcalculations, Outcome.ok_bind, horder]⟩

theorem calculationOrder_perm (h : schema.calculationOrder = .ok order) :
    (order.map (·.field)).Perm (schema.activeFields.filter (·.type.isCalculated)) := by
  obtain ⟨calculations, hcalculations, htopological, hall⟩ := calculationOrder_ok h
  have hfields : (order.map (·.field)).Nodup := by
    have hcodes := htopological.nodup
    rw [show Calculation.code = (·.code.text) ∘ Calculation.field from rfl, ← List.map_map]
      at hcodes
    exact hcodes.of_map
  refine (List.perm_ext_iff_of_nodup hfields (hdistinct.of_map.filter _)).2 fun f => ?_
  rw [List.mem_map, List.mem_filter]
  constructor
  · rintro ⟨c, hc, rfl⟩
    obtain ⟨hactive, hcalculation⟩ := calculationOrder_mem h hc
    obtain ⟨-, ⟨config, htype, -⟩, -⟩ := calculation?_ok hcalculation
    exact ⟨hactive, by rw [htype]; rfl⟩
  · rintro ⟨hactive, hcalculated⟩
    obtain ⟨config, htype⟩ := FieldType.isCalculated_iff.1 hcalculated
    obtain ⟨c, hc, hfield, -⟩ := exists_get?_calculations hdistinct hcalculations hactive htype
    exact ⟨c, hall hc, hfield⟩

theorem calculationOrder_reads {before after : List Calculation}
    (h : schema.calculationOrder = .ok (before ++ c :: after))
    (hreads : schema.Reads c.code operand) (hf : f ∈ schema.activeFields)
    (hcalculated : f.type.isCalculated = true) (hoperand : f.code.text = operand) :
    operand ∈ before.map Calculation.code := by
  obtain ⟨calculations, hcalculations, htopological, -⟩ := calculationOrder_ok h
  obtain ⟨d, hd, hmem⟩ := (needs_iff_reads hdistinct hcalculations).2 hreads
  have hc := htopological.get?_code (List.mem_append_right before List.mem_cons_self)
  obtain rfl := Option.some.inj (hc.symm.trans hd)
  obtain ⟨config, htype⟩ := FieldType.isCalculated_iff.1 hcalculated
  exact htopological.operand_before hmem
    (hoperand ▸ calculations_contains hcalculations hf htype)

theorem calculationOrder_of_perm {fields : List FieldDefinition}
    (hperm : fields.Perm schema.fields) (h : schema.calculationOrder = .ok order) :
    { schema with fields }.calculationOrder = .ok order := by
  have hactive : { schema with fields }.activeFields.Perm schema.activeFields := hperm.filter _
  have hdistinct' : { schema with fields }.CodesDistinct :=
    (hactive.map _).nodup_iff.2 hdistinct
  have hcalculation? (f : FieldDefinition) :
      { schema with fields }.calculation? f = schema.calculation? f := by
    refine calculation?_congr (fun code => Option.ext fun g => ?_) f
    rw [field?_eq_some_iff hdistinct', field?_eq_some_iff hdistinct, hactive.mem_iff]
  rw [calculationOrder, Outcome.bind_eq_ok] at h
  obtain ⟨calculations, hcalculations, hinOrder⟩ := h
  obtain ⟨calculations', hcalculations'⟩ :
      ∃ calculations', { schema with fields }.calculations = .ok calculations' := by
    obtain ⟨found, hfound, -⟩ := Outcome.bind_eq_ok.1 hcalculations
    have heach := Outcome.exists_mapM_eq_ok.1 ⟨found, hfound⟩
    obtain ⟨found', hfound'⟩ := Outcome.exists_mapM_eq_ok.2 fun f hf =>
      hcalculation? f ▸ heach f (hactive.mem_iff.1 hf)
    exact ⟨_, by rw [AppSchema.calculations, hfound']; rfl⟩
  have hsame : calculations' = calculations := by
    refine KeyMap.ext_get? fun code => Option.ext fun c => ?_
    rw [calculations_get?_iff hdistinct' hcalculations', calculations_get?_iff hdistinct
      hcalculations, hactive.mem_iff, hcalculation?]
  rw [calculationOrder, hcalculations', Outcome.ok_bind, hsame, hinOrder]

end Distinct

/-- The order of calculation is a topological sort. Where no two fields in use have the same code,
    there is an order if and only if every formula in use is readable and over numeric fields in use
    and no calculated field depends on itself, directly or through others. The order then holds
    every calculated field in use once, behind all calculated fields that its formula reads, and it
    is the same whatever the order of the fields in the schema. -/
theorem calculationOrder_sorts (hdistinct : schema.CodesDistinct) :
    ((∃ order, schema.calculationOrder = .ok order) ↔ schema.Computable) ∧
    ∀ order, schema.calculationOrder = .ok order →
      (order.map (·.field)).Perm (schema.activeFields.filter (·.type.isCalculated)) ∧
      (∀ before c after, order = before ++ c :: after → ∀ f ∈ schema.activeFields,
        f.type.isCalculated = true → schema.Reads c.field.code.text f.code.text →
          f.code.text ∈ before.map fun earlier => earlier.field.code.text) ∧
      ∀ fields : List FieldDefinition, fields.Perm schema.fields →
        { schema with fields }.calculationOrder = .ok order := by
  refine ⟨exists_calculationOrder_iff hdistinct, fun order horder => ⟨?_, ?_, ?_⟩⟩
  · exact calculationOrder_perm hdistinct horder
  · rintro before c after rfl f hf hcalculated hreads
    exact calculationOrder_reads hdistinct horder hreads hf hcalculated rfl
  · exact fun fields hperm => calculationOrder_of_perm hdistinct hperm horder

end AppSchema

namespace Invoices

/-- A field with a code. -/
def field (code : NonBlank) (type : FieldType) : FieldDefinition where
  id := code
  code := code
  type := type
  labels := .empty
  descriptions := .empty
  required := false
  unique := false
  defaultValue := none
  options := []
  layout := .initial
  active := true
  temporary := false

/-- A field with a code that is calculated by a formula. -/
def calculated (code : NonBlank) (formula : String) : FieldDefinition :=
  field code (.calculated ⟨formula, .number, 2⟩)

/-- Invoices with a sum that is calculated from the tax, which stands behind it. -/
def schema : AppSchema where
  id := ⟨List.replicate 32 'f', by decide⟩
  code := ⟨"invoices", by decide⟩
  processEnabled := false
  fields :=
    [field ⟨"net", by decide⟩ (.number none none), field ⟨"rate", by decide⟩ (.number none none),
     calculated ⟨"gross", by decide⟩ "net + tax",
     calculated ⟨"tax", by decide⟩ "net * rate"]

end Invoices

namespace AppSchema

theorem calculationOrder_sorts_invoices :
    Invoices.schema.CodesDistinct ∧ Invoices.schema.Computable ∧
    ∃ order, Invoices.schema.calculationOrder = .ok order ∧
      order.map (·.field.code.text) = ["tax", "gross"] ∧
      ∀ fields : List FieldDefinition, fields.Perm Invoices.schema.fields →
        { Invoices.schema with fields }.calculationOrder = .ok order := by
  have hdistinct : Invoices.schema.CodesDistinct := by
    unfold CodesDistinct
    decide
  have hcodes : Invoices.schema.calculationOrder.toOption.map (·.map (·.field.code.text)) =
      some ["tax", "gross"] := by
    with_unfolding_all rfl
  obtain ⟨order, horder, hsorted⟩ := Option.map_eq_some_iff.1 hcodes
  obtain ⟨hiff, hall⟩ := calculationOrder_sorts hdistinct
  have hok : Invoices.schema.calculationOrder = .ok order := by
    cases h : Invoices.schema.calculationOrder with
    | error fault => rw [h] at horder; cases horder
    | ok found => rw [h] at horder; cases horder; rfl
  exact ⟨hdistinct, hiff.1 ⟨order, hok⟩, order, hok, hsorted, (hall order hok).2.2⟩

end AppSchema

end RecordApps
