import RecordApps.Proofs.Derived.Calculated

/-! # Where derived values are written

A refresh writes the targets of the lookups that it refreshes, and the calculated fields. It
keeps every other value and drops no key. In a valid schema the fields it writes are in use, so
it leaves metadata alone.
-/

namespace RecordApps

variable {schema : AppSchema} {store : RecordStore} {changed : Option (List String)} {key : String}

namespace AppSchema

/-- The keys under which a refresh may write, given the fields that have changed. -/
inductive Derives (schema : AppSchema) (changed : Option (List String)) : String → Prop where
  /-- The code of a calculated field in use. -/
  | calculated {f : FieldDefinition} {config : FormulaConfig} : f ∈ schema.activeFields →
      f.type = .calculated config → Derives schema changed f.code.text
  /-- The target of a lookup in use, if the lookup is among the changed fields. -/
  | copied {f : FieldDefinition} {config : LookupConfig} {copy : LookupCopy} :
      f ∈ schema.activeFields → f.type = .lookup config →
      changed.all (·.contains f.code.text) = true → copy ∈ config.copies →
      Derives schema changed copy.target

theorem Derives.not_reserved (hvalid : schema.validate = .ok ()) (h : schema.Derives changed key) :
    Key.isReserved key = false := by
  cases h with
  | calculated hf htype => exact code_not_reserved hvalid hf
  | copied hf htype _ hcopy => exact copy_target_not_reserved hvalid hf htype hcopy

end AppSchema

namespace LookupConfig

/-- Only the targets of a lookup are written, with values of the record that it finds. -/
theorem resolve_ok {config : LookupConfig} {key : Value} {copied : Fields}
    (h : config.resolve store key = .ok copied) {target : String} {v : Value}
    (hmem : (target, v) ∈ copied.entries) : ∃ source, config.source? store key = some source ∧
      ∃ copy ∈ config.copies, copy.target = target ∧ v = source.value copy.source := by
  rw [resolve] at h
  split at h
  case h_1 source hsource =>
    obtain rfl := Except.ok.inj h
    rw [KeyMap.mem_entries_iff] at hmem
    obtain ⟨copy, hcopy, hpair⟩ := List.mem_map.1 (KeyMap.mem_of_get?_ofList hmem)
    obtain ⟨htarget, hvalue⟩ := Prod.mk.inj hpair
    exact ⟨source, hsource, copy, hcopy, htarget, hvalue.symm⟩
  case h_2 => cases h

end LookupConfig

namespace Refresh

theorem applyLookup_putWhere (state : Refresh) (code : String) (config : LookupConfig) :
    KeyMap.PutWhere (fun key => ∃ copy ∈ config.copies, copy.target = key) state.data
      (state.applyLookup store code config).data := by
  rw [applyLookup]
  split
  case h_1 copied hcopied =>
    refine KeyMap.PutWhere.insertAll _ fun key hkey => ?_
    obtain ⟨v, hv⟩ := KeyMap.mem_keys_iff.1 hkey
    obtain ⟨_, -, copy, hcopy, htarget, -⟩ :=
      LookupConfig.resolve_ok hcopied (KeyMap.mem_entries_iff.2 hv)
    exact ⟨copy, hcopy, htarget⟩
  case h_2 => exact .refl _

theorem refreshLookup_putWhere {f : FieldDefinition} (hf : f ∈ schema.activeFields)
    (state : Refresh) :
    KeyMap.PutWhere (schema.Derives changed) state.data
      (state.refreshLookup store changed f).data := by
  simp only [refreshLookup]
  split
  case h_1 config htype =>
    split
    case isTrue hrefreshed =>
      refine (applyLookup_putWhere state _ config).mono ?_
      rintro key ⟨copy, hcopy, rfl⟩
      exact .copied hf htype hrefreshed hcopy
    case isFalse => exact .refl _
  case h_2 => exact .refl _

theorem calculate_putWhere (state : Refresh) (c : Calculation) :
    KeyMap.PutWhere (· = c.code) state.data (state.calculate c).data := by
  rw [Calculation.calculate_data]
  refine KeyMap.PutWhere.insert ?_ _
  rfl

theorem calculateAll_putWhere (state : Refresh) :
    KeyMap.PutWhere (schema.Derives changed) state.data (state.calculateAll schema).data := by
  rw [calculateAll]
  split
  case h_1 order horder =>
    refine KeyMap.PutWhere.foldl fun c hc state => (calculate_putWhere state c).mono ?_
    rintro key rfl
    obtain ⟨hactive, hcalculation⟩ := AppSchema.calculationOrder_mem horder hc
    obtain ⟨-, ⟨config, htype, -⟩, -⟩ := AppSchema.calculation?_ok hcalculation
    exact .calculated hactive htype
  case h_2 => exact .refl _

end Refresh

namespace AppSchema

theorem recompute_putWhere (data : Fields) :
    KeyMap.PutWhere (schema.Derives changed) data (schema.recompute store data changed).data := by
  rw [recompute]
  refine .trans ?_ (Refresh.calculateAll_putWhere _)
  refine KeyMap.PutWhere.foldl fun f hf state => ?_
  exact Refresh.refreshLookup_putWhere hf state

theorem recompute_get? (hvalid : schema.validate = .ok ()) (hkey : Key.isReserved key = true)
    (data : Fields) : (schema.recompute store data changed).data.get? key = data.get? key := by
  refine (recompute_putWhere data).get?_eq fun hderived => ?_
  rw [hderived.not_reserved hvalid] at hkey
  cases hkey

end AppSchema

end RecordApps
