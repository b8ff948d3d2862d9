import RecordApps.Proofs.Derived.Copies
import RecordApps.Proofs.Schema.Dependencies

/-! # Derived values are the one solution

The formulas of a valid schema are equations for the values of the calculated fields, and they have
exactly one solution over the other data. A refresh finds it whatever the calculated fields held
before and wherever the formulas stand in the schema. So nothing is left to do for a second
refresh, and a change of a formula is seen by the fields that depend on it only.
-/

namespace RecordApps

open Relation (TransGen)

variable {store : RecordStore} {changed : Option (List String)} {data data' : Fields}

namespace Calculation

variable {calculations : KeyMap Calculation} {order : List Calculation} {c : Calculation}

theorem calculate_congr {state state' : Refresh} (hreport : state.report = state'.report)
    (hoperands : ∀ operand ∈ c.formula.fieldCodes,
      state.data.get? operand = state'.data.get? operand) :
    (state.calculate c).report = (state'.calculate c).report ∧
      ∀ key, key = c.code ∨ state.data.get? key = state'.data.get? key →
        (state.calculate c).data.get? key = (state'.calculate c).data.get? key := by
  constructor
  · rw [Refresh.calculate, Refresh.calculate, Formula.evaluate_congr hoperands, hreport]
    cases c.formula.evaluate state'.data <;> rfl
  · intro key hkey
    rw [calculate_data, calculate_data, KeyMap.get?_insert, KeyMap.get?_insert,
      valueOn_congr hoperands]
    split
    case isTrue => rfl
    case isFalse hne => exact hkey.resolve_left hne

/-- What is computed in a topological order depends only on what is not calculated: each formula
    finds its calculated operands computed before. -/
theorem Topological.foldl_congr (h : Topological calculations order) {state state' : Refresh}
    (hreport : state.report = state'.report)
    (hsame : ∀ key, ¬calculations.contains key = true →
      state.data.get? key = state'.data.get? key) :
    (order.foldl Refresh.calculate state).report =
        (order.foldl Refresh.calculate state').report ∧
      ∀ key, key ∈ order.map code ∨ ¬calculations.contains key = true →
        (order.foldl Refresh.calculate state).data.get? key =
          (order.foldl Refresh.calculate state').data.get? key := by
  induction h with
  | nil => exact ⟨hreport, fun key hkey => hsame key (hkey.resolve_left List.not_mem_nil)⟩
  | @snoc order last _ _ _ hoperands ih =>
      obtain ⟨hreports, hvalues⟩ := ih
      simp only [List.foldl_append, List.foldl_cons, List.foldl_nil]
      obtain ⟨hlast, hrest⟩ := calculate_congr (c := last) hreports fun operand hoperand =>
        hvalues operand (or_iff_not_imp_right.2 fun hcalculated =>
          hoperands operand hoperand (not_not.1 hcalculated))
      refine ⟨hlast, fun key hkey => hrest key ?_⟩
      rw [List.map_append, List.mem_append, List.map_singleton, List.mem_singleton] at hkey
      rcases hkey with (hkey | hkey) | hkey
      · exact .inr (hvalues key (.inl hkey))
      · exact .inl hkey
      · exact .inr (hvalues key (.inr hkey))

theorem foldl_calculate_of_solved {state : Refresh} (h : ∀ c ∈ order, c.Solved state.data) :
    (order.foldl Refresh.calculate state).data = state.data := by
  induction order generalizing state with
  | nil => rfl
  | cons c rest ih =>
      obtain ⟨hc, hrest⟩ := List.forall_mem_cons.1 h
      have hsame : (state.calculate c).data = state.data := by
        rw [calculate_data, KeyMap.insert_eq_self hc]
      rw [List.foldl_cons, ih (hsame ▸ hrest), hsame]

end Calculation

namespace AppSchema

variable {schema : AppSchema} {order : List Calculation}

/-- A key is the code of a calculated field in use. -/
def Calculates (schema : AppSchema) (key : String) : Prop :=
  ∃ f ∈ schema.activeFields, f.type.isCalculated = true ∧ f.code.text = key

/-- Every calculated field in use has the value of its formula, or null where that has none. -/
def Solves (schema : AppSchema) (data : Fields) : Prop :=
  ∀ f ∈ schema.activeFields, ∀ config formula, f.type = .calculated config →
    Formula.parse config.formula = .ok formula → Calculation.Solved ⟨f, formula⟩ data

theorem calculates_iff {calculations : KeyMap Calculation}
    (h : schema.calculations = .ok calculations) {key : String} :
    calculations.contains key = true ↔ schema.Calculates key := by
  constructor
  · intro hkey
    obtain ⟨c, hc⟩ := Option.isSome_iff_exists.1 hkey
    obtain ⟨hcode, hactive, hcalculation⟩ := calculations_get? h hc
    obtain ⟨-, ⟨config, htype, -⟩, -⟩ := calculation?_ok hcalculation
    exact ⟨c.field, hactive, FieldType.isCalculated_iff.2 ⟨config, htype⟩, hcode⟩
  · rintro ⟨f, hf, hcalculated, rfl⟩
    obtain ⟨config, htype⟩ := FieldType.isCalculated_iff.1 hcalculated
    exact calculations_contains h hf htype

theorem calculateAll_get? {state : Refresh} {key : String} (hkey : ¬schema.Calculates key) :
    (state.calculateAll schema).data.get? key = state.data.get? key := by
  rw [Refresh.calculateAll]
  split
  case h_1 order horder =>
    refine KeyMap.PutWhere.get?_eq (p := schema.Calculates) ?_ hkey
    refine KeyMap.PutWhere.foldl fun c hc state => (Refresh.calculate_putWhere state c).mono ?_
    rintro _ rfl
    obtain ⟨hactive, hcalculation⟩ := calculationOrder_mem horder hc
    obtain ⟨-, ⟨config, htype, -⟩, -⟩ := calculation?_ok hcalculation
    exact ⟨c.field, hactive, FieldType.isCalculated_iff.2 ⟨config, htype⟩, rfl⟩
  case h_2 => rfl

section Valid

variable (hvalid : schema.validate = .ok ())

include hvalid

theorem calculateAll_congr {state state' : Refresh} (hreport : state.report = state'.report)
    (hsame : ∀ key, ¬schema.Calculates key → state.data.get? key = state'.data.get? key) :
    state.calculateAll schema = state'.calculateAll schema := by
  obtain ⟨-, -, ⟨order, horder⟩, -⟩ := validate_ok hvalid
  obtain ⟨calculations, hcalculations, htopological, hall⟩ := calculationOrder_ok horder
  simp only [Refresh.calculateAll, horder]
  obtain ⟨hreports, hvalues⟩ := htopological.foldl_congr hreport fun key hkey =>
    hsame key fun hcalculates => hkey ((calculates_iff hcalculations).2 hcalculates)
  have hdata : (order.foldl Refresh.calculate state).data =
      (order.foldl Refresh.calculate state').data := by
    refine KeyMap.ext_get? fun key => hvalues key ?_
    rw [or_iff_not_imp_right, not_not]
    intro hcalculated
    obtain ⟨c, hc⟩ := Option.isSome_iff_exists.1 hcalculated
    exact List.mem_map.2 ⟨c, hall hc, (calculations_get? hcalculations hc).1⟩
  cases hleft : order.foldl Refresh.calculate state
  cases hright : order.foldl Refresh.calculate state'
  simp only [hleft, hright] at hdata hreports
  rw [hdata, hreports]

theorem solves_iff (horder : schema.calculationOrder = .ok order) :
    schema.Solves data ↔ ∀ c ∈ order, c.Solved data := by
  constructor
  · intro h c hc
    obtain ⟨hactive, hcalculation⟩ := calculationOrder_mem horder hc
    obtain ⟨-, ⟨config, htype, hparse⟩, -⟩ := calculation?_ok hcalculation
    exact h c.field hactive config c.formula htype hparse
  · intro h f hf config formula htype hparse
    obtain ⟨c, hc, rfl, hformula⟩ := exists_mem_calculationOrder hvalid horder hf htype
    rw [hparse] at hformula
    obtain rfl := Except.ok.inj hformula
    exact h c hc

theorem recompute_solves (store : RecordStore) (data : Fields) (changed : Option (List String)) :
    schema.Solves (schema.recompute store data changed).data := by
  obtain ⟨-, -, ⟨order, horder⟩, -⟩ := validate_ok hvalid
  exact (solves_iff hvalid horder).2 fun c hc => recompute_solved horder hc store data changed

theorem eq_recompute_of_solves
    (hsame : ∀ key, ¬schema.Calculates key →
      data'.get? key = (schema.recompute store data changed).data.get? key)
    (h : schema.Solves data') : data' = (schema.recompute store data changed).data := by
  obtain ⟨-, -, ⟨order, horder⟩, -⟩ := validate_ok hvalid
  rw [solves_iff hvalid horder] at h
  let solved : Refresh := ⟨data', (schema.looked store data changed).report⟩
  have hstays : (solved.calculateAll schema).data = data' := by
    simp only [Refresh.calculateAll, horder]
    exact Calculation.foldl_calculate_of_solved h
  have hrecompute : solved.calculateAll schema = schema.recompute store data changed :=
    calculateAll_congr hvalid rfl fun key hkey =>
      (hsame key hkey).trans (calculateAll_get? hkey)
  rw [← hrecompute, hstays]

theorem recompute_eq_of_looked
    (hreport : (schema.looked store data' changed).report =
      (schema.looked store data changed).report)
    (hsame : ∀ key, ¬schema.Calculates key →
      (schema.looked store data' changed).data.get? key =
        (schema.looked store data changed).data.get? key) :
    schema.recompute store data' changed = schema.recompute store data changed :=
  calculateAll_congr hvalid hreport hsame

theorem not_calculates_of_lookup {f : FieldDefinition} (hf : f ∈ schema.lookups) :
    ¬schema.Calculates f.code.text := by
  rintro ⟨g, hg, hcalculated, hcode⟩
  obtain ⟨hactive, hlookup⟩ := List.mem_filter.1 hf
  obtain rfl := eq_of_code hvalid hg hactive hcode
  obtain ⟨config, htype⟩ := FieldType.isCalculated_iff.1 hcalculated
  rw [htype] at hlookup
  cases hlookup

theorem not_derives_of_lookup {f : FieldDefinition} (hf : f ∈ schema.lookups) :
    ¬schema.Derives changed f.code.text := by
  intro hderives
  generalize hkey : f.code.text = key at hderives
  cases hderives with
  | calculated hg htype =>
      exact not_calculates_of_lookup hvalid hf
        ⟨_, hg, FieldType.isCalculated_iff.2 ⟨_, htype⟩, hkey.symm⟩
  | copied hg htype _ hcopy =>
      obtain ⟨hactive, hlookup⟩ := List.mem_filter.1 hf
      obtain ⟨target, htarget, hcode, -, hother⟩ := copy_target_ok hvalid hg htype hcopy
      obtain rfl := eq_of_code hvalid htarget hactive (hcode.trans hkey.symm)
      rw [hlookup] at hother
      cases hother

/-- A refresh leaves the keys of lookups, so that it would find the same copies once more. -/
theorem copies_recompute {code : String} {v : Value} (h : schema.Copies store data changed code v) :
    schema.Copies store (schema.recompute store data changed).data changed code v := by
  obtain ⟨f, hf, config, htype, hchanged, hsource⟩ := h
  have hlookup : f ∈ schema.lookups := List.mem_filter.2 ⟨hf, by rw [htype]; rfl⟩
  have hkey : (schema.recompute store data changed).data.get? f.code.text =
      data.get? f.code.text :=
    (recompute_putWhere data).get?_eq (not_derives_of_lookup hvalid hlookup)
  exact ⟨f, hf, config, htype, hchanged, by rwa [KeyMap.value, hkey]⟩

/-- A value after a refresh was there before, or was copied, or belongs to a calculated field. -/
theorem recompute_cases {key : String} {v : Value}
    (h : (schema.recompute store data changed).data.get? key = some v) :
    data.get? key = some v ∨ schema.Copies store data changed key v ∨ schema.Calculates key := by
  by_cases hkey : schema.Calculates key
  · exact .inr (.inr hkey)
  rw [recompute_eq_calculateAll, calculateAll_get? hkey, looked_eq hvalid] at h
  obtain hmem | hkept := KeyMap.mem_or_of_get?_insertAll h
  · obtain ⟨⟨_, answer⟩, hanswer, hcopied⟩ := List.mem_flatMap.1 hmem
    obtain ⟨f, hf, hpair⟩ := List.mem_map.1 hanswer
    obtain ⟨-, rfl⟩ := Prod.mk.inj hpair
    exact .inr (.inl (LookupAnswer.copies_of_mem (List.mem_filter.1 hf).1 hcopied))
  · exact .inl hkept

theorem recompute_congr
    (hsame : ∀ key, ¬schema.Calculates key → data'.get? key = data.get? key) :
    schema.recompute store data' changed = schema.recompute store data changed := by
  have hanswers : schema.answers store data' changed = schema.answers store data changed :=
    answers_congr fun f hf => hsame _ (not_calculates_of_lookup hvalid hf)
  refine recompute_eq_of_looked hvalid ?_ fun key hkey => ?_
  · rw [looked_eq hvalid, looked_eq hvalid, hanswers]
  · rw [looked_eq hvalid, looked_eq hvalid, hanswers, KeyMap.get?_insertAll,
      KeyMap.get?_insertAll, hsame key hkey]

/-- Lookups find the same keys once more, and what they copied is there already. -/
theorem recompute_recompute :
    schema.recompute store (schema.recompute store data changed).data changed =
      schema.recompute store data changed := by
  have hanswers : schema.answers store (schema.recompute store data changed).data changed =
      schema.answers store data changed :=
    answers_congr fun f hf => (recompute_putWhere data).get?_eq (not_derives_of_lookup hvalid hf)
  refine recompute_eq_of_looked hvalid ?_ fun key hkey => ?_
  · rw [looked_eq hvalid, looked_eq hvalid, hanswers]
  · have hkept : (schema.recompute store data changed).data.get? key =
        (schema.looked store data changed).data.get? key := calculateAll_get? hkey
    rw [looked_eq hvalid, hanswers, KeyMap.get?_insertAll, hkept, looked_eq hvalid,
      KeyMap.get?_insertAll, ← Option.or_assoc, Option.or_self]

end Valid

/-- Where the lookups keep their order, that of the other fields does not matter. -/
theorem recompute_of_perm (hvalid : schema.validate = .ok ()) {fields : List FieldDefinition}
    (hperm : fields.Perm schema.fields)
    (hlookups : { schema with fields }.lookups = schema.lookups) :
    { schema with fields }.recompute store data changed = schema.recompute store data changed := by
  obtain ⟨-, -, ⟨order, horder⟩, -⟩ := validate_ok hvalid
  have horder' := calculationOrder_of_perm (codesDistinct hvalid) hperm horder
  simp only [recompute_eq_calculateAll, looked_eq_foldl_lookups, hlookups, Refresh.calculateAll,
    horder, horder']

/-! ## Another formula -/

/-- A field with another formula, if it is calculated and has the code. -/
def reformulated (code : String) (config : FormulaConfig) (f : FieldDefinition) : FieldDefinition :=
  if f.code.text = code ∧ f.type.isCalculated = true then { f with type := .calculated config }
  else f

/-- The schema with another formula for a field. -/
def withFormula (schema : AppSchema) (code : String) (config : FormulaConfig) : AppSchema :=
  { schema with fields := schema.fields.map (reformulated code config) }

section Reformulated

variable {code : String} {config : FormulaConfig} {f : FieldDefinition}

theorem reformulated_of_ne (h : f.code.text ≠ code) : reformulated code config f = f :=
  if_neg fun hboth => h hboth.1

@[simp] theorem reformulated_code : (reformulated code config f).code = f.code := by
  rw [reformulated]
  split <;> rfl

@[simp] theorem reformulated_active : (reformulated code config f).active = f.active := by
  rw [reformulated]
  split <;> rfl

@[simp] theorem reformulated_isCalculated :
    (reformulated code config f).type.isCalculated = f.type.isCalculated := by
  rw [reformulated]
  split
  case isTrue hboth => exact hboth.2.symm
  case isFalse => rfl

theorem reformulated_of_isLookup (h : f.type.isLookup = true) :
    reformulated code config f = f := by
  refine if_neg fun hboth => ?_
  obtain ⟨other, htype⟩ := FieldType.isCalculated_iff.1 hboth.2
  rw [htype] at h
  cases h

@[simp] theorem reformulated_isLookup :
    (reformulated code config f).type.isLookup = f.type.isLookup := by
  rw [reformulated]
  split
  case isTrue hboth =>
    obtain ⟨other, htype⟩ := FieldType.isCalculated_iff.1 hboth.2
    rw [htype]
    rfl
  case isFalse => rfl

theorem withFormula_activeFields :
    (schema.withFormula code config).activeFields =
      schema.activeFields.map (reformulated code config) := by
  rw [activeFields, withFormula, List.filter_map]
  congr 1
  refine List.filter_congr fun f _ => ?_
  simp

theorem withFormula_lookups : (schema.withFormula code config).lookups = schema.lookups := by
  rw [lookups, withFormula_activeFields, List.filter_map]
  have hsame : ((·.type.isLookup) ∘ reformulated code config) = (·.type.isLookup) := by
    funext f
    simp
  rw [hsame]
  refine (List.map_congr_left fun f hf => ?_).trans (List.map_id _)
  exact reformulated_of_isLookup (List.mem_filter.1 hf).2

theorem withFormula_calculates {key : String} :
    (schema.withFormula code config).Calculates key ↔ schema.Calculates key := by
  simp [Calculates, withFormula_activeFields]

theorem withFormula_get? (hvalid : schema.validate = .ok ())
    (hvalid' : (schema.withFormula code config).validate = .ok ()) {key : String}
    (hne : key ≠ code) (hfree : ¬TransGen schema.Reads key code) :
    ((schema.withFormula code config).recompute store data changed).data.get? key =
      (schema.recompute store data changed).data.get? key := by
  have hlooked : (schema.withFormula code config).looked store data changed =
      schema.looked store data changed := by
    rw [looked_eq_foldl_lookups, looked_eq_foldl_lookups, withFormula_lookups]
  obtain ⟨-, -, ⟨order, horder⟩, -⟩ := validate_ok hvalid
  -- The induction goes from a field to those its formula reads.
  induction key using (wellFounded_reads (codesDistinct hvalid) horder).induction with
  | _ key ih =>
    by_cases hkey : schema.Calculates key
    · obtain ⟨f, hf, hcalculated, rfl⟩ := hkey
      obtain ⟨config', htype⟩ := FieldType.isCalculated_iff.1 hcalculated
      obtain ⟨c, -, rfl, hparse⟩ := exists_mem_calculationOrder hvalid horder hf htype
      have hf' : c.field ∈ (schema.withFormula code config).activeFields := by
        rw [withFormula_activeFields]
        exact List.mem_map.2 ⟨c.field, hf, reformulated_of_ne hne⟩
      have hsolved := recompute_solves hvalid store data changed
        c.field hf config' c.formula htype hparse
      have hsolved' := recompute_solves hvalid' store data changed
        c.field hf' config' c.formula htype hparse
      have hoperands : ∀ operand ∈ c.formula.fieldCodes,
          ((schema.withFormula code config).recompute store data changed).data.get? operand =
            (schema.recompute store data changed).data.get? operand := by
        intro operand hoperand
        have hreads : schema.Reads c.field.code.text operand :=
          ⟨c.field, hf, rfl, config', c.formula, htype, hparse, hoperand⟩
        refine ih operand hreads ?_ fun hdepends => hfree (.head hreads hdepends)
        rintro rfl
        exact hfree (.single hreads)
      exact hsolved'.trans ((congrArg some (Calculation.valueOn_congr hoperands)).trans
        hsolved.symm)
    · rw [recompute_eq_calculateAll, recompute_eq_calculateAll, calculateAll_get? hkey,
        calculateAll_get? (withFormula_calculates.not.2 hkey), hlooked]

end Reformulated

/-- A refresh computes the unique solution. In a valid schema, it keeps every value that stands
    neither under the code of a calculated field nor in a target of a lookup that is refreshed; over
    what is not calculated, its data are the only ones that solve all formulas. So the result does
    not depend on what the calculated fields held before, nor on where the formulas stand in the
    schema; a change of one formula leaves alone what does not depend on its field, directly or
    through others; and a second refresh changes nothing and reports the same. -/
theorem recompute_unique (hvalid : schema.validate = .ok ()) (store : RecordStore) (data : Fields)
    (changed : Option (List String)) :
    (∀ key, ¬schema.Derives changed key →
      (schema.recompute store data changed).data.get? key = data.get? key) ∧
    (∀ solution : Fields,
      (∀ key, ¬schema.Calculates key →
        solution.get? key = (schema.recompute store data changed).data.get? key) →
      (schema.Solves solution ↔ solution = (schema.recompute store data changed).data)) ∧
    (∀ data' : Fields, (∀ key, ¬schema.Calculates key → data'.get? key = data.get? key) →
      schema.recompute store data' changed = schema.recompute store data changed) ∧
    (∀ fields : List FieldDefinition, fields.Perm schema.fields →
      { schema with fields }.lookups = schema.lookups →
      { schema with fields }.recompute store data changed =
        schema.recompute store data changed) ∧
    (∀ code config, (schema.withFormula code config).validate = .ok () →
      ∀ key, key ≠ code → ¬TransGen schema.Reads key code →
        ((schema.withFormula code config).recompute store data changed).data.get? key =
          (schema.recompute store data changed).data.get? key) ∧
    schema.recompute store (schema.recompute store data changed).data changed =
      schema.recompute store data changed := by
  refine ⟨?_, ?_, ?_, ?_, ?_, recompute_recompute hvalid⟩
  · exact fun key hkey => (recompute_putWhere data).get?_eq hkey
  · intro solution hsame
    constructor
    · exact eq_recompute_of_solves hvalid hsame
    · rintro rfl
      exact recompute_solves hvalid store data changed
  · exact fun data' hsame => recompute_congr hvalid hsame
  · exact fun fields hperm hlookups => recompute_of_perm hvalid hperm hlookups
  · exact fun code config hvalid' key hne hfree => withFormula_get? hvalid hvalid' hne hfree

end AppSchema

namespace Invoices

/-- Invoices that copy the net sum from the list of articles. -/
def listed : AppSchema :=
  { schema with
    fields :=
      field ⟨"article", by decide⟩ (.lookup ⟨"articles", "name", [⟨"sum", "net"⟩]⟩) ::
        schema.fields }

/-- Tea is sold for two. -/
def articles : RecordStore :=
  RecordStore.empty.withApp "articles"
    ⟨1, [⟨⟨"first", by decide⟩, 1, .ofList [("name", .text "tea"), ("sum", .int 2)]⟩]⟩

/-- An invoice for tea, with some other tax. -/
def tea : Fields :=
  .ofList [("article", .text "tea"), ("rate", .int 3), ("tax", .int 7)]

end Invoices

namespace AppSchema

theorem recompute_unique_invoices :
    Invoices.listed.validate = .ok () ∧
    (Invoices.listed.recompute Invoices.articles Invoices.tea none).data.get? "article" =
      some (.text "tea") ∧
    (∀ solution : Fields,
      (∀ key, ¬Invoices.listed.Calculates key → solution.get? key =
        (Invoices.listed.recompute Invoices.articles Invoices.tea none).data.get? key) →
      (Invoices.listed.Solves solution ↔
        solution = (Invoices.listed.recompute Invoices.articles Invoices.tea none).data)) ∧
    Invoices.listed.recompute Invoices.articles
        (Invoices.listed.recompute Invoices.articles Invoices.tea none).data none =
      Invoices.listed.recompute Invoices.articles Invoices.tea none := by
  have hvalid : Invoices.listed.validate = .ok () := by with_unfolding_all rfl
  obtain ⟨hkept, hunique, -, -, -, hagain⟩ :=
    recompute_unique hvalid Invoices.articles Invoices.tea none
  obtain ⟨f, hf, hcode⟩ : ∃ f ∈ Invoices.listed.lookups, f.code.text = "article" :=
    ⟨_, List.mem_filter.2 ⟨List.mem_cons_self, rfl⟩, rfl⟩
  have harticle : ¬Invoices.listed.Derives none "article" := hcode ▸ not_derives_of_lookup hvalid hf
  exact ⟨hvalid, (hkept "article" harticle).trans rfl, hunique, hagain⟩

end AppSchema

end RecordApps
