import RecordApps.Proofs.Derived.Solution
import RecordApps.Proofs.Field.Initial
import RecordApps.Proofs.Records.Run
import RecordApps.Schema.Input

/-! # Written values

Input is checked against its fields before it is written, and so are defaults when their fields
are. What a lookup copies is not checked: the other app has its own fields, and a copy takes a value
as it finds it. So a stored value is one that its field takes, or one that a lookup copied when the
record was written.
-/

namespace RecordApps

namespace AppSchema

variable {schema : AppSchema} {copied : String → Value → Prop} {key : String} {v : Value}
  {data : Fields}

/-- The field with the key, if it accepts input and takes its own initial value, takes the value,
    or the value has been copied. -/
def Fits (schema : AppSchema) (copied : String → Value → Prop) (key : String) (v : Value) : Prop :=
  ∀ f ∈ schema.activeFields, f.code.text = key → f.type.acceptsInput = true → f.TakesInitial →
    f.checkValue v = .ok () ∨ copied key v

theorem Fits.of_reserved (hvalid : schema.validate = .ok ()) (hkey : Key.isReserved key = true) :
    schema.Fits copied key v := by
  rintro f hf rfl
  rw [code_not_reserved hvalid hf] at hkey
  cases hkey

theorem Fits.of_field (hvalid : schema.validate = .ok ()) {f : FieldDefinition}
    (hf : f ∈ schema.activeFields)
    (h : f.type.acceptsInput = true → f.TakesInitial → f.checkValue v = .ok ()) :
    schema.Fits copied f.code.text v := by
  intro g hg hcode haccepts htakes
  obtain rfl := eq_of_code hvalid hg hf hcode
  exact .inl (h haccepts htakes)

/-! ## Input and initial values -/

theorem checkInput_ok (h : schema.checkInput data = .ok ()) (hv : data.get? key = some v) :
    key = Key.status ∨ ∃ f ∈ schema.activeFields,
      f.code.text = key ∧ f.type.acceptsInput = true ∧ f.checkValue v = .ok () := by
  rw [checkInput, List.forM_eq_forM, Outcome.forM_eq_ok] at h
  have hentry : schema.checkEntry key v = .ok () := h (key, v) (KeyMap.mem_entries_iff.2 hv)
  rw [checkEntry] at hentry
  split at hentry
  case isTrue hstatus => exact .inl (eq_of_beq (Bool.and_eq_true_iff.1 hstatus).1)
  case isFalse =>
    split at hentry
    case h_1 => cases hentry
    case h_2 f hf =>
      obtain ⟨hactive, hcode⟩ := field?_eq_some hf
      rw [Outcome.check_bind_eq_ok, ensure_eq_ok] at hentry
      exact .inr ⟨f, hactive, hcode, hentry⟩

theorem checkInput_fits (hvalid : schema.validate = .ok ())
    (h : schema.checkInput data = .ok ()) : data.Each (schema.Fits copied) := by
  intro key v hv
  rcases checkInput_ok h hv with rfl | ⟨f, hf, rfl, -, htaken⟩
  · exact .of_reserved hvalid rfl
  · exact .of_field hvalid hf fun _ _ => htaken

theorem initialData_fits (hvalid : schema.validate = .ok ())
    (h : schema.checkInput data = .ok ()) :
    (schema.initialData data).Each (schema.Fits copied) := by
  refine .insertAll (.ofList fun entry hentry => ?_) (checkInput_fits hvalid h)
  obtain ⟨f, hf, hvalue⟩ := List.mem_filterMap.1 hentry
  split at hvalue
  case isTrue => cases hvalue
  case isFalse =>
    obtain ⟨v, hv, rfl⟩ := Option.map_eq_some_iff.1 hvalue
    exact .of_field hvalid hf fun _ htakes => htakes v hv

theorem stampModified_fits (hvalid : schema.validate = .ok ()) (actor : Actor) (now : String)
    (h : data.Each (schema.Fits copied)) :
    (stampModified actor now data).Each (schema.Fits copied) :=
  (h.insert (.of_reserved hvalid rfl)).insert (.of_reserved hvalid rfl)

theorem stampCreated_fits (hvalid : schema.validate = .ok ()) (actor : Actor) (now : String)
    (h : data.Each (schema.Fits copied)) :
    (stampCreated actor now data).Each (schema.Fits copied) :=
  stampModified_fits hvalid actor now
    ((h.insert (.of_reserved hvalid rfl)).insert (.of_reserved hvalid rfl))

theorem withStatus_fits (hvalid : schema.validate = .ok ()) (status : Option String)
    (h : data.Each (schema.Fits copied)) : (withStatus data status).Each (schema.Fits copied) := by
  cases status with
  | none => exact h
  | some s => exact h.insert (.of_reserved hvalid rfl)

/-! ## Derived values -/

/-- What a refresh puts into the data is copied or calculated, and no input is accepted for calculated
    fields. -/
theorem recompute_fits (hvalid : schema.validate = .ok ()) {store : RecordStore}
    {changed : Option (List String)} (h : data.Each (schema.Fits copied))
    (hcopied : ∀ key v, (schema.recompute store data changed).data.get? key = some v →
      schema.Copies store (schema.recompute store data changed).data changed key v → copied key v) :
    (schema.recompute store data changed).data.Each (schema.Fits copied) := by
  intro key v hv
  rcases recompute_cases hvalid hv with hkept | hcopies | ⟨f, hf, hcalculated, rfl⟩
  · exact h key v hkept
  · exact fun _ _ _ _ _ => .inr (hcopied key v hv (copies_recompute hvalid hcopies))
  · refine .of_field hvalid hf fun haccepts => ?_
    obtain ⟨config, htype⟩ := FieldType.isCalculated_iff.1 hcalculated
    rw [htype] at haccepts
    cases haccepts

end AppSchema

namespace Workspace

variable {ids : Nat → String} {start ws : Workspace} {app : AppId} {schema : AppSchema}
  {number : Nat} {code : String} {v : Value}

/-- A lookup has copied a value into a field of the record with a number: a request of the run wrote
    this record with the value in the field, and a lookup that was refreshed then found a record of
    the other app, as that was before the request, for the key which it has in the record, and took
    the value from there. -/
def Copied (ids : Nat → String) (start ws : Workspace) (schema : AppSchema) (number : Nat)
    (code : String) (v : Value) : Prop :=
  ∃ (settings : Settings) (earlier later : Workspace) (record : Record)
    (changed : Option (List String)),
    settings.newRecordId = ids ∧ start.RecordRuns ids earlier ∧ Requests settings earlier later ∧
    later.RecordRuns ids ws ∧ Written settings earlier later schema record changed ∧
    record.number = number ∧ record.data.get? code = some v ∧
    schema.Copies earlier.store record.data changed code v

theorem Copied.later {ws' : Workspace} (h : Copied ids start ws schema number code v)
    (hlater : ws.RecordRuns ids ws') : Copied ids start ws' schema number code v := by
  obtain ⟨settings, earlier, later, record, changed, hids, hbefore, hstep, hafter, hwritten⟩ := h
  exact ⟨settings, earlier, later, record, changed, hids, hbefore, hstep, hafter.trans hlater,
    hwritten⟩

/-- The values of a record that a request writes fit, if those of the records before it do. -/
theorem Written.fits {settings : Settings} {earlier later : Workspace} {record : Record}
    {changed : Option (List String)} (hvalid : schema.validate = .ok ())
    (hids : settings.newRecordId = ids) (hruns : start.RecordRuns ids earlier)
    (hstep : Requests settings earlier later)
    (hstored : ∀ stored ∈ earlier.store.records schema.code.text,
      stored.data.Each (schema.Fits (Copied ids start later schema stored.number)))
    (hwritten : Written settings earlier later schema record changed) :
    record.data.Each (schema.Fits (Copied ids start later schema record.number)) := by
  have hcopied {key : String} {v : Value} (hv : record.data.get? key = some v)
      (hcopies : schema.Copies earlier.store record.data changed key v) :
      Copied ids start later schema record.number key v :=
    ⟨settings, earlier, later, record, changed, hids, hruns, hstep, .nil, hwritten, rfl, hv, hcopies⟩
  cases hwritten with
  | created hdraft hdata =>
      obtain ⟨-, -, hinput, ⟨status, -, rfl⟩, -, -⟩ := draft_ok hdraft
      rw [hdata] at hcopied ⊢
      refine AppSchema.recompute_fits hvalid (AppSchema.withStatus_fits hvalid status ?_)
        fun _ _ => hcopied
      exact AppSchema.stampCreated_fits hvalid _ settings.now
        (AppSchema.initialData_fits hvalid hinput)
  | @revised _ _ _ stored _ _ hrevision hsplit =>
      obtain ⟨-, -, hinput, rfl, -, -⟩ := revision_ok hrevision
      have hbefore := hstored stored (hsplit ▸ List.mem_append_right _ List.mem_cons_self)
      have hchanged := hbefore.insertAll (AppSchema.checkInput_fits hvalid hinput)
      exact AppSchema.recompute_fits hvalid
        (AppSchema.stampModified_fits hvalid _ settings.now hchanged) fun _ _ => hcopied

/-! ## Runs -/

end Workspace

namespace Orders

/-- The id of the app of customers. -/
def customers : AppId :=
  ⟨List.replicate 32 '1', by decide⟩

/-- Customers with a key and a name. -/
def customerSchema : AppSchema where
  id := customers
  code := ⟨"customers", by decide⟩
  processEnabled := false
  fields := [line ⟨"key", by decide⟩, line ⟨"name", by decide⟩]

/-- Orders that copy the name of the customer into a short text. -/
def copyingSchema : AppSchema :=
  { schema with
    processEnabled := false
    fields :=
      [{ line ⟨"customer", by decide⟩ with
          type := .lookup ⟨"customers", "key", [⟨"name", "short"⟩]⟩ },
       { line ⟨"short", by decide⟩ with type := .singleLineText (some 2) }] }

/-- The apps of customers and orders, where the clerk may do everything. -/
def copying : Workspace :=
  let ws := Workspace.empty.serve settings (.schemas (.save customerSchema))
  let ws := ws.serve settings (.schemas (.save copyingSchema))
  let ws := ws.serve settings (.permissions (.saveApp { clerkRow with app := customers }))
  ws.serve settings (.permissions (.saveApp clerkRow))

end Orders

namespace Workspace

end Workspace

end RecordApps
