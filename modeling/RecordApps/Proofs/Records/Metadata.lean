import RecordApps.Proofs.Access.Resolution
import RecordApps.Proofs.Derived.Frame
import RecordApps.Proofs.Engine.RecordEffect

/-! # Who writes metadata

The keys of the metadata are written by the engine. A payload may hold one of them only: the
status of an app without a process, which is free text. Defaults, copies of lookups and formulas
write fields, and no field has such a key. So the metadata of what is drafted or revised are the
stamps, the status, and what was there before.
-/

namespace RecordApps

/-- The metadata that may change after a record is made. -/
def Key.changing : List String :=
  [Key.status, Key.updatedBy, Key.updatedAt]

/-- The part of a payload that may go to the metadata. -/
def AppSchema.freeStatus (schema : AppSchema) (payload : Fields) : Fields :=
  if schema.processEnabled then .empty else payload.filter fun key _ => key == Key.status

variable {schema : AppSchema} {key : String}

theorem Key.not_mem_changing_iff :
    key ∉ Key.changing ↔ key ≠ Key.status ∧ key ≠ Key.updatedBy ∧ key ≠ Key.updatedAt := by
  simp [Key.changing]

theorem AppSchema.freeStatus_get?_other (hkey : key ≠ Key.status) (payload : Fields) :
    (schema.freeStatus payload).get? key = none := by
  rw [freeStatus]
  split
  · rfl
  · rw [KeyMap.get?_filter_key, if_neg (by simpa using hkey)]

/-- Under the keys of the metadata, a payload that may be written holds nothing else. -/
theorem KeyMap.checkAllWritable_get? {access : FieldAccess} {payload : Fields}
    (h : access.checkAllWritable schema payload = .ok ()) (hkey : Key.isReserved key = true) :
    payload.get? key = (schema.freeStatus payload).get? key := by
  cases hpayload : payload.get? key with
  | none =>
      rw [AppSchema.freeStatus]
      split
      · rfl
      · rw [get?_filter_key, hpayload, ite_self]
  | some v =>
      have hmem : key ∈ payload.keys := mem_keys_iff.2 ⟨v, hpayload⟩
      rcases checkWritable_ok (Outcome.forM_eq_ok.1 h key hmem) with ⟨rfl, hoff⟩ | ⟨hfield, -⟩
      · rw [AppSchema.freeStatus, if_neg (by simp [hoff]), get?_filter_key, hpayload]
        rfl
      · rw [hkey] at hfield
        cases hfield

theorem AppSchema.initialData_get? (hvalid : schema.validate = .ok ())
    (hkey : Key.isReserved key = true) (payload : Fields) :
    (schema.initialData payload).get? key = payload.get? key := by
  have hdefault : (KeyMap.ofList (schema.activeFields.filterMap fun f =>
      if payload.contains f.code.text then none
      else f.initialValue.map fun v => (f.code.text, v))).get? key = none := by
    by_contra hsome
    obtain ⟨v, hv⟩ := Option.ne_none_iff_exists'.1 hsome
    obtain ⟨f, hf, hentry⟩ := List.mem_filterMap.1 (KeyMap.mem_of_get?_ofList hv)
    split at hentry
    case isTrue => cases hentry
    case isFalse =>
      obtain ⟨_, -, hpair⟩ := Option.map_eq_some_iff.1 hentry
      obtain ⟨rfl, -⟩ := Prod.mk.inj hpair
      rw [code_not_reserved hvalid hf] at hkey
      cases hkey
  rw [initialData, KeyMap.get?_insertAll_entries, hdefault, Option.or_none]

/-! ## Stamps

What a stamp leaves under a key depends on what was there under this key only.
-/

section Stamps

variable {data data' : Fields} (h : data.get? key = data'.get? key) (actor : Actor) (now : String)

include h

theorem stampModified_get? :
    (stampModified actor now data).get? key = (stampModified actor now data').get? key := by
  simp only [stampModified, KeyMap.get?_insert, h]

theorem stampCreated_get? :
    (stampCreated actor now data).get? key = (stampCreated actor now data').get? key := by
  simp only [stampCreated, stampModified, KeyMap.get?_insert, h]

theorem withStatus_get? (status : Option String) :
    (withStatus data status).get? key = (withStatus data' status).get? key := by
  cases status with
  | none => exact h
  | some s => simp only [withStatus, KeyMap.get?_insert, h]

end Stamps

theorem stampModified_get?_other (hby : key ≠ Key.updatedBy) (hat : key ≠ Key.updatedAt)
    {actor : Actor} {now : String} {data : Fields} :
    (stampModified actor now data).get? key = data.get? key := by
  rw [stampModified, KeyMap.get?_insert, KeyMap.get?_insert, if_neg hat, if_neg hby]

namespace Workspace

variable {ws : Workspace} {settings : Settings} {actor : Actor} {refresh : Refresh}

/-- The metadata of a draft are the stamps, and the status its process or its payload gives. -/
theorem draft_metadata (hvalid : schema.validate = .ok ()) {input : Fields}
    (h : ws.draft settings actor schema input = .ok refresh) :
    ∃ status, ws.initialStatus schema = .ok status ∧ ∀ key, Key.isReserved key = true →
      refresh.data.get? key =
        (withStatus (stampCreated actor settings.now (schema.freeStatus input)) status).get? key := by
  obtain ⟨-, hwritable, -, ⟨status, hstatus, rfl⟩, -, -⟩ := draft_ok h
  refine ⟨status, hstatus, fun key hkey => ?_⟩
  rw [AppSchema.recompute_get? hvalid hkey]
  apply withStatus_get?
  apply stampCreated_get?
  rw [AppSchema.initialData_get? hvalid hkey, KeyMap.checkAllWritable_get? hwritable hkey]

/-- The metadata of a revision are those of the record, stamped, with the status that the payload
    gives. -/
theorem revision_metadata (hvalid : schema.validate = .ok ()) {stored : Record} {changes : Fields}
    (h : ws.revision settings actor schema stored changes = .ok refresh) {key : String}
    (hkey : Key.isReserved key = true) :
    refresh.data.get? key =
      (stampModified actor settings.now
        (stored.data.insertAll (schema.freeStatus changes).entries)).get? key := by
  obtain ⟨-, hwritable, -, rfl, -, -⟩ := revision_ok h
  rw [AppSchema.recompute_get? hvalid hkey]
  apply stampModified_get?
  rw [KeyMap.get?_insertAll_entries, KeyMap.get?_insertAll_entries,
    KeyMap.checkAllWritable_get? hwritable hkey]

theorem revision_get?_other (hvalid : schema.validate = .ok ()) {stored : Record} {changes : Fields}
    (h : ws.revision settings actor schema stored changes = .ok refresh) {key : String}
    (hkey : Key.isReserved key = true) (hother : key ∉ Key.changing) :
    refresh.data.get? key = stored.data.get? key := by
  obtain ⟨hstatus, hby, hat⟩ := Key.not_mem_changing_iff.1 hother
  rw [revision_metadata hvalid h hkey, stampModified_get?_other hby hat,
    KeyMap.get?_insertAll_entries, AppSchema.freeStatus_get?_other hstatus, Option.none_or]

end Workspace

end RecordApps
