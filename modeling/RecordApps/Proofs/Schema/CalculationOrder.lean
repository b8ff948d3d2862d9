import RecordApps.Proofs.Schema.Validity

/-! # The order of calculation

In the order in which the calculated fields are computed, every field comes after the calculated
fields that its formula reads, and none comes twice. All calculated fields in use are in it.
-/

namespace RecordApps

namespace Calculation

variable {calculations : KeyMap Calculation} {order : List Calculation} {c : Calculation}

/-- Every calculation of the order comes from the map and stands behind those its formula
    reads. -/
inductive Topological (calculations : KeyMap Calculation) : List Calculation → Prop where
  | nil : Topological calculations []
  | snoc {order : List Calculation} {c : Calculation} : Topological calculations order →
      calculations.get? c.code = some c → c.code ∉ order.map code →
      (∀ operand ∈ c.formula.fieldCodes,
        calculations.contains operand = true → operand ∈ order.map code) →
      Topological calculations (order ++ [c])

namespace Topological

theorem get?_code (h : Topological calculations order) (hc : c ∈ order) :
    calculations.get? c.code = some c := by
  induction h with
  | nil => cases hc
  | snoc _ hlast _ _ ih =>
      rcases List.mem_append.1 hc with hc | hc
      · exact ih hc
      · exact List.mem_singleton.1 hc ▸ hlast

theorem operand_mem (h : Topological calculations order) (hc : c ∈ order) {operand : String}
    (hoperand : operand ∈ c.formula.fieldCodes)
    (hcalculated : calculations.contains operand = true) : operand ∈ order.map code := by
  induction h with
  | nil => cases hc
  | @snoc order last _ _ _ hlast ih =>
      rw [List.map_append]
      rcases List.mem_append.1 hc with hc | hc
      · exact List.mem_append_left _ (ih hc)
      · obtain rfl := List.mem_singleton.1 hc
        exact List.mem_append_left _ (hlast operand hoperand hcalculated)

end Topological

/-- A longer order that is topological, with nothing new that waits on the path. -/
structure Extends (calculations : KeyMap Calculation) (path : List String)
    (order order' : List Calculation) : Prop where
  topological : Topological calculations order'
  added : ∃ added, order' = order ++ added ∧ ∀ c ∈ added, c.code ∉ path

namespace Extends

variable {path : List String} {order' order'' : List Calculation}

theorem refl (h : Topological calculations order) : Extends calculations path order order :=
  ⟨h, [], by simp, by simp⟩

theorem trans (h : Extends calculations path order order')
    (h' : Extends calculations path order' order'') : Extends calculations path order order'' := by
  obtain ⟨-, added, rfl, hadded⟩ := h
  obtain ⟨htopological, added', rfl, hadded'⟩ := h'
  refine ⟨htopological, added ++ added', List.append_assoc _ _ _, fun c hc => ?_⟩
  exact (List.mem_append.1 hc).elim (hadded c) (hadded' c)

theorem codes_subset (h : Extends calculations path order order') :
    order.map code ⊆ order'.map code := by
  obtain ⟨-, added, rfl, -⟩ := h
  rw [List.map_append]
  exact List.subset_append_left _ _

theorem snoc {waiting : String} (h : Extends calculations (waiting :: path) order order')
    (hc : calculations.get? waiting = some c) (hcode : c.code = waiting)
    (hfree : waiting ∉ order.map code) (hpath : waiting ∉ path)
    (hoperands : ∀ operand ∈ c.formula.fieldCodes,
      calculations.contains operand = true → operand ∈ order'.map code) :
    Extends calculations path order (order' ++ [c]) := by
  obtain ⟨htopological, added, rfl, hadded⟩ := h
  have hnew : c.code ∉ (order ++ added).map code := by
    rw [hcode, List.map_append, List.mem_append]
    rintro (hmem | hmem)
    · exact hfree hmem
    · obtain ⟨other, hother, hsame⟩ := List.mem_map.1 hmem
      exact hadded other hother (hsame ▸ List.mem_cons_self)
  refine ⟨htopological.snoc (hcode ▸ hc) hnew hoperands, added ++ [c], List.append_assoc _ _ _, ?_⟩
  intro other hother
  rcases List.mem_append.1 hother with hother | hother
  · exact fun hmem => hadded other hother (List.mem_cons_of_mem _ hmem)
  · rwa [List.mem_singleton.1 hother, hcode]

end Extends

theorem foldlM_visit_extends {room : Nat} {path : List String}
    (hvisit : ∀ {ordered code result}, Topological calculations ordered →
      visit calculations room path ordered code = .ok result →
        Extends calculations path ordered result ∧
          (calculations.contains code = true → code ∈ result.map Calculation.code))
    {codes : List String} {ordered result : List Calculation}
    (h : Topological calculations ordered)
    (hfold : codes.foldlM (visit calculations room path) ordered = .ok result) :
    Extends calculations path ordered result ∧
      ∀ code ∈ codes, calculations.contains code = true → code ∈ result.map Calculation.code := by
  induction codes generalizing ordered with
  | nil =>
      obtain rfl := Outcome.pure_eq_ok.1 hfold
      exact ⟨.refl h, by simp⟩
  | cons head rest ih =>
      rw [List.foldlM_cons, Outcome.bind_eq_ok] at hfold
      obtain ⟨mid, hmid, hrest⟩ := hfold
      obtain ⟨hfirst, hhead⟩ := hvisit h hmid
      obtain ⟨hlater, hcodes⟩ := ih hfirst.topological hrest
      refine ⟨hfirst.trans hlater, List.forall_mem_cons.2 ⟨?_, hcodes⟩⟩
      exact fun hcalculated => hlater.codes_subset (hhead hcalculated)

/-- A visit puts a field behind the fields it needs. Those on the path are not put in while their
    operands are visited, as a visit to them would go in circles. -/
theorem visit_extends (hcodes : ∀ {code c}, calculations.get? code = some c → c.code = code)
    {room : Nat} {path : List String} {ordered result : List Calculation} {code : String}
    (h : Topological calculations ordered)
    (hvisit : visit calculations room path ordered code = .ok result) :
    Extends calculations path ordered result ∧
      (calculations.contains code = true → code ∈ result.map Calculation.code) := by
  induction room generalizing path ordered result code with
  | zero => cases hvisit
  | succ room ih =>
      rw [visit] at hvisit
      split at hvisit
      case isTrue hdone =>
        obtain rfl := Except.ok.inj hvisit
        obtain ⟨c, hc, hsame⟩ := List.any_eq_true.1 hdone
        exact ⟨.refl h, fun _ => List.mem_map.2 ⟨c, hc, eq_of_beq hsame⟩⟩
      case isFalse hnew =>
        split at hvisit
        · cases hvisit
        case isFalse hpath =>
          split at hvisit
          case h_1 hnone =>
            obtain rfl := Except.ok.inj hvisit
            refine ⟨.refl h, fun hcalculated => ?_⟩
            rw [KeyMap.contains, hnone] at hcalculated
            cases hcalculated
          case h_2 c hc =>
            rw [Outcome.bind_eq_ok] at hvisit
            obtain ⟨needed, hneeded, hresult⟩ := hvisit
            obtain rfl := Outcome.pure_eq_ok.1 hresult
            obtain ⟨hextends, hoperands⟩ := foldlM_visit_extends ih h hneeded
            have hfree : code ∉ ordered.map Calculation.code := by
              intro hmem
              obtain ⟨other, hother, hsame⟩ := List.mem_map.1 hmem
              exact hnew (List.any_eq_true.2 ⟨other, hother, beq_iff_eq.2 hsame⟩)
            have hwaits : code ∉ path := by simpa using hpath
            refine ⟨hextends.snoc hc (hcodes hc) hfree hwaits hoperands, fun _ => ?_⟩
            rw [List.map_append, List.map_singleton, hcodes hc]
            exact List.mem_append_right _ List.mem_cons_self

theorem inOrder_ok (hcodes : ∀ {code c}, calculations.get? code = some c → c.code = code)
    (h : inOrder calculations = .ok order) :
    Topological calculations order ∧ ∀ {code c}, calculations.get? code = some c → c ∈ order := by
  obtain ⟨hextends, hall⟩ := foldlM_visit_extends (visit_extends hcodes) .nil h
  refine ⟨hextends.topological, fun {code c} hc => ?_⟩
  have hvisited := hall code (KeyMap.mem_keys_iff.2 ⟨c, hc⟩) (KeyMap.contains_of_get? hc)
  obtain ⟨d, hd, hsame⟩ := List.mem_map.1 hvisited
  have hfound := hextends.topological.get?_code hd
  rw [hsame, hc] at hfound
  exact Option.some.inj hfound ▸ hd

end Calculation

namespace AppSchema

variable {schema : AppSchema} {f : FieldDefinition} {c : Calculation}
  {calculations : KeyMap Calculation} {order : List Calculation}

/-- A field is calculated by the formula that its text is read as, over numeric fields in use. -/
theorem calculation?_ok (h : schema.calculation? f = .ok (some c)) :
    c.field = f ∧
      (∃ config, f.type = .calculated config ∧ Formula.parse config.formula = .ok c.formula) ∧
      ∀ operand ∈ c.formula.fieldCodes, schema.checkOperand f.code.text operand = .ok () := by
  rw [calculation?] at h
  split at h
  case h_1 config htype =>
    split at h
    · cases h
    case h_2 formula hparse =>
      rw [Outcome.check_bind_eq_ok] at h
      obtain ⟨hoperands, h⟩ := h
      obtain rfl := Option.some.inj (Outcome.pure_eq_ok.1 h)
      exact ⟨rfl, ⟨config, htype, hparse⟩, Outcome.forM_eq_ok.1 hoperands⟩
  case h_2 => cases h

theorem calculation?_isSome {config : FormulaConfig} {found : Option Calculation}
    (htype : f.type = .calculated config) (h : schema.calculation? f = .ok found) :
    ∃ c, found = some c := by
  rw [calculation?, htype] at h
  dsimp only at h
  split at h
  · cases h
  · rw [Outcome.check_bind_eq_ok] at h
    exact ⟨_, (Outcome.pure_eq_ok.1 h.2).symm⟩

theorem checkOperand_ok {code operand : String} (h : schema.checkOperand code operand = .ok ()) :
    ∃ f ∈ schema.activeFields, f.code.text = operand ∧ f.type.isNumeric = true := by
  rw [checkOperand] at h
  split at h
  · cases h
  case h_2 f hf =>
    obtain ⟨hactive, hcode⟩ := field?_eq_some hf
    exact ⟨f, hactive, hcode, ensure_eq_ok.1 h⟩

theorem calculations_get? (h : schema.calculations = .ok calculations) {code : String}
    (hc : calculations.get? code = some c) :
    c.code = code ∧ c.field ∈ schema.activeFields ∧ schema.calculation? c.field = .ok (some c) := by
  rw [AppSchema.calculations, Outcome.bind_eq_ok] at h
  obtain ⟨found, hfound, h⟩ := h
  obtain rfl := Outcome.pure_eq_ok.1 h
  obtain ⟨entry, hentry, hsome⟩ := List.mem_filterMap.1 (KeyMap.mem_of_get?_ofList hc)
  obtain ⟨c', rfl, heq⟩ := Option.map_eq_some_iff.1 hsome
  obtain ⟨hcode, rfl⟩ := Prod.mk.inj heq
  have hresult : (.ok (some c') : Outcome _) ∈ schema.activeFields.map schema.calculation? := by
    rw [Outcome.mapM_eq_ok.1 hfound]
    exact List.mem_map_of_mem hentry
  obtain ⟨f, hf, hcalculation⟩ := List.mem_map.1 hresult
  obtain rfl := (calculation?_ok hcalculation).1
  exact ⟨hcode, hf, hcalculation⟩

theorem calculations_contains (h : schema.calculations = .ok calculations)
    (hf : f ∈ schema.activeFields) {config : FormulaConfig} (htype : f.type = .calculated config) :
    calculations.contains f.code.text = true := by
  rw [AppSchema.calculations, Outcome.bind_eq_ok] at h
  obtain ⟨found, hfound, h⟩ := h
  obtain rfl := Outcome.pure_eq_ok.1 h
  have hresult : schema.calculation? f ∈ found.map .ok := by
    rw [← Outcome.mapM_eq_ok.1 hfound]
    exact List.mem_map_of_mem hf
  obtain ⟨entry, hentry, hcalculation⟩ := List.mem_map.1 hresult
  obtain ⟨c, rfl⟩ := calculation?_isSome htype hcalculation.symm
  have hcode : c.code = f.code.text := by
    rw [Calculation.code, (calculation?_ok hcalculation.symm).1]
  rw [KeyMap.contains_iff, KeyMap.mem_keys_ofList]
  exact List.mem_map.2 ⟨(c.code, c), List.mem_filterMap.2 ⟨some c, hentry, rfl⟩, hcode⟩

/-- The order of calculation is topological, and made of the calculated fields in use. -/
theorem calculationOrder_ok (h : schema.calculationOrder = .ok order) :
    ∃ calculations, schema.calculations = .ok calculations ∧
      Calculation.Topological calculations order ∧
      ∀ {code c}, calculations.get? code = some c → c ∈ order := by
  rw [calculationOrder, Outcome.bind_eq_ok] at h
  obtain ⟨calculations, hcalculations, hinOrder⟩ := h
  obtain ⟨htopological, hall⟩ :=
    Calculation.inOrder_ok (fun hc => (calculations_get? hcalculations hc).1) hinOrder
  exact ⟨calculations, hcalculations, htopological, hall⟩

theorem calculationOrder_mem (h : schema.calculationOrder = .ok order) (hc : c ∈ order) :
    c.field ∈ schema.activeFields ∧ schema.calculation? c.field = .ok (some c) := by
  obtain ⟨calculations, hcalculations, htopological, -⟩ := calculationOrder_ok h
  exact (calculations_get? hcalculations (htopological.get?_code hc)).2

theorem exists_mem_calculationOrder (hvalid : schema.validate = .ok ())
    (h : schema.calculationOrder = .ok order) (hf : f ∈ schema.activeFields)
    {config : FormulaConfig} (htype : f.type = .calculated config) :
    ∃ c ∈ order, c.field = f ∧ Formula.parse config.formula = .ok c.formula := by
  obtain ⟨calculations, hcalculations, -, hall⟩ := calculationOrder_ok h
  obtain ⟨c, hc⟩ := Option.isSome_iff_exists.1 (calculations_contains hcalculations hf htype)
  obtain ⟨hcode, hactive, hcalculation⟩ := calculations_get? hcalculations hc
  obtain rfl : c.field = f := eq_of_code hvalid hactive hf hcode
  obtain ⟨-, ⟨config', htype', hparse⟩, -⟩ := calculation?_ok hcalculation
  rw [htype] at htype'
  obtain rfl := FieldType.calculated.inj htype'
  exact ⟨c, hall hc, rfl, hparse⟩

end AppSchema

end RecordApps
