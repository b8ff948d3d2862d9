import RecordApps.Proofs.Decimal.Comparison
import RecordApps.Proofs.Derived.Solution
import RecordApps.Proofs.Records.CalculatedValues
import RecordApps.Proofs.Records.Metadata
import RecordApps.Proofs.Records.Update
import RecordApps.Proofs.Records.WrittenValues

/-! # Updates that are repeated

An update puts the payload first and refreshes the lookups whose keys it has changed afterwards, so
that a copy wins over a value that the payload has for the same field. No lookup writes the key of
another one. So the keys are no news to the same payload at the second time, no lookup is refreshed,
and what the copies had replaced is put back. A payload of which nothing was replaced changes
nothing any more but the time of the update.
-/

namespace RecordApps

/-- No value is the float that is no number, as no number that is read from a text. -/
def KeyMap.NaNFree (data : Fields) : Prop :=
  ∀ key x, data.get? key = some (.float x) → x.isNaN = false

theorem FieldDefinition.key_of_lookup {f : FieldDefinition} {config : LookupConfig} {v : Value}
    (htype : f.type = .lookup config) (h : f.checkValue v = .ok ()) :
    v.isNull = true ∨ v.isNumber = true ∨ v.text?.isSome = true := by
  rw [checkValue_eq, htype] at h
  split at h
  case isTrue hnull => exact .inl hnull
  case isFalse =>
    rw [FieldType.checkValue, ensure_eq_ok, Bool.or_eq_true] at h
    exact .inr h

theorem Value.same_self {v : Value}
    (hkey : v.isNull = true ∨ v.isNumber = true ∨ v.text?.isSome = true)
    (hnumber : ∀ x, v = .float x → x.isNaN = false) : v.same v = true := by
  cases v with
  | null => rfl
  | int n => simp [same]
  | float x =>
      have hnumber : x.toModel.unpack.isNaN = false := hnumber x rfl
      rw [same]
      refine Binary.beq_self fun hnone => ?_
      rw [hnone] at hnumber
      cases hnumber
  | text s => simp [same]
  | bool | list | object => simp [isNull, isNumber, text?] at hkey

namespace Refresh

variable {schema : AppSchema} {store : RecordStore}

theorem calculateAll_of_computed {state : Refresh} (h : schema.Computed state.data) :
    (state.calculateAll schema).data = state.data := by
  rw [calculateAll]
  split
  case h_1 order horder => exact Calculation.foldl_calculate_of_solved (h order horder)
  case h_2 => rfl

theorem refreshLookup_unchanged {codes : List String} {f : FieldDefinition}
    (h : ∀ config, f.type = .lookup config → f.code.text ∉ codes) (state : Refresh) :
    state.refreshLookup store (some codes) f = state := by
  simp only [refreshLookup]
  split
  case h_1 config htype => rw [if_neg (by simpa using h config htype)]
  case h_2 => rfl

end Refresh

namespace AppSchema

variable {schema : AppSchema} {store : RecordStore} {codes : List String} {data changes : Fields}
  {actor : Actor} {now key : String} {v : Value}

/-- No lookup of the app has its code among the changed ones. -/
def NoLookupIn (schema : AppSchema) (codes : List String) : Prop :=
  ∀ f ∈ schema.activeFields, ∀ config, f.type = .lookup config → f.code.text ∉ codes

theorem recompute_of_noLookup (h : schema.NoLookupIn codes) :
    schema.recompute store data (some codes) = Refresh.calculateAll schema ⟨data, .empty⟩ := by
  have hkept : ∀ state, ∀ f ∈ schema.activeFields,
      Refresh.refreshLookup store (some codes) state f = state :=
    fun state f hf => Refresh.refreshLookup_unchanged (h f hf) state
  rw [recompute, List.foldl_ext _ (fun state _ => state) _ hkept, List.foldl_fixed]

/-- A lookup among the changed fields copies into the key. -/
def CopiesInto (schema : AppSchema) (codes : List String) (key : String) : Prop :=
  ∃ f ∈ schema.activeFields, f.code.text ∈ codes ∧
    ∃ config, f.type = .lookup config ∧ ∃ copy ∈ config.copies, copy.target = key

theorem NoLookupIn.not_copiesInto (h : schema.NoLookupIn codes) : ¬ schema.CopiesInto codes key := by
  rintro ⟨f, hf, hcode, config, htype, -⟩
  exact h f hf config htype hcode

theorem NoLookupIn.calculated (h : schema.NoLookupIn codes)
    (hderives : schema.Derives (some codes) key) :
    ∃ f ∈ schema.activeFields, ∃ config, f.type = .calculated config ∧ f.code.text = key := by
  cases hderives with
  | @calculated f config hf htype => exact ⟨f, hf, config, htype, rfl⟩
  | @copied f config copy hf htype hchanged _ =>
      exact absurd (List.contains_iff_mem.1 hchanged) (h f hf config htype)

/-- The data that are stored when a record with some data is changed. -/
def revised (schema : AppSchema) (store : RecordStore) (actor : Actor) (now : String)
    (data changes : Fields) : Fields :=
  (schema.recompute store (stampModified actor now (data.insertAll changes.entries))
    (some (changedCodes data changes))).data

theorem stampModified_updatedBy (actor : Actor) (now : String) (data : Fields) :
    (stampModified actor now data).get? Key.updatedBy = some (.text actor.id) := by
  rw [stampModified, KeyMap.get?_insert, KeyMap.get?_insert]
  rfl

/-- What an update leaves for the next one with the same payload by the same actor. -/
structure Settled (schema : AppSchema) (actor : Actor) (changes once : Fields) : Prop where
  noLookup : schema.NoLookupIn (changedCodes once changes)
  computed : schema.Computed once
  updatedBy : once.get? Key.updatedBy = some (.text actor.id)

section Input

variable (hvalid : schema.validate = .ok ()) (hinput : schema.checkInput changes = .ok ())

include hvalid hinput

theorem input_of_field {f : FieldDefinition} (hf : f ∈ schema.activeFields)
    (hv : changes.get? f.code.text = some v) :
    f.type.acceptsInput = true ∧ f.checkValue v = .ok () := by
  rcases checkInput_ok hinput hv with hstatus | ⟨g, hg, hcode, htaken⟩
  · have hplain := code_not_reserved hvalid hf
    rw [hstatus] at hplain
    cases hplain
  · obtain rfl := eq_of_code hvalid hg hf hcode
    exact htaken

theorem copiesInto_of_derives (hv : changes.get? key = some v)
    (h : schema.Derives (some codes) key) : schema.CopiesInto codes key := by
  cases h with
  | @calculated f config hf htype =>
      obtain ⟨haccepts, -⟩ := input_of_field hvalid hinput hf hv
      rw [htype] at haccepts
      cases haccepts
  | @copied f config copy hf htype hchanged hcopy =>
      exact ⟨f, hf, List.contains_iff_mem.1 hchanged, config, htype, copy, hcopy, rfl⟩

theorem input_not_stamped (hv : changes.get? key = some v) :
    key ≠ Key.updatedBy ∧ key ≠ Key.updatedAt := by
  rcases checkInput_ok hinput hv with rfl | ⟨f, hf, rfl, -⟩
  · decide
  · have hplain := code_not_reserved hvalid hf
    constructor
    all_goals
      intro hsame
      rw [hsame] at hplain
      cases hplain

theorem revised_get?_input (store : RecordStore) (actor : Actor) (now : String)
    (hv : changes.get? key = some v)
    (hcopied : ¬ schema.CopiesInto (changedCodes data changes) key) :
    (schema.revised store actor now data changes).get? key = some v := by
  rw [revised, (recompute_putWhere _).get?_eq fun hderives =>
    hcopied (copiesInto_of_derives hvalid hinput hv hderives)]
  obtain ⟨hby, hat⟩ := input_not_stamped hvalid hinput hv
  rw [stampModified_get?_other hby hat, KeyMap.get?_insertAll_entries, hv, Option.some_or]

theorem noLookupIn_revised (store : RecordStore) (actor : Actor) (now : String) (data : Fields)
    (hnumbers : changes.NaNFree) :
    schema.NoLookupIn (changedCodes (schema.revised store actor now data changes) changes) := by
  intro f hf config htype hchanged
  obtain ⟨v, hv, hdiffers⟩ := mem_changedCodes hchanged
  have hkept : ¬ schema.CopiesInto (changedCodes data changes) f.code.text := by
    rintro ⟨g, hg, -, _, hlookup, copy, hcopy, htarget⟩
    obtain ⟨target, hactive, hcode, -, hnot⟩ := copy_target_ok hvalid hg hlookup hcopy
    obtain rfl := eq_of_code hvalid hactive hf (hcode.trans htarget)
    rw [htype] at hnot
    cases hnot
  have hstored := revised_get?_input hvalid hinput store actor now hv hkept
  obtain ⟨-, htaken⟩ := input_of_field hvalid hinput hf hv
  have hsame : v.same v = true :=
    Value.same_self (f.key_of_lookup htype htaken) fun x hx => hnumbers _ x (hx ▸ hv)
  rw [hdiffers v hstored] at hsame
  cases hsame

theorem settled_revised (store : RecordStore) (actor : Actor) (now : String) (data : Fields)
    (hnumbers : changes.NaNFree) :
    schema.Settled actor changes (schema.revised store actor now data changes) where
  noLookup := noLookupIn_revised hvalid hinput store actor now data hnumbers
  computed := recompute_computed _ _
  updatedBy := by rw [revised, recompute_get? hvalid rfl, stampModified_updatedBy]

end Input

namespace Settled

variable {once : Fields}

/-- Where the whole payload is stored already, the time is all that is written. -/
theorem revised_eq (h : schema.Settled actor changes once) (hvalid : schema.validate = .ok ())
    (hheld : ∀ key v, changes.get? key = some v → once.get? key = some v) :
    schema.revised store actor now once changes = once.insert Key.updatedAt (.text now) := by
  have hmerged : once.insertAll changes.entries = once := by
    refine KeyMap.ext_get? fun key => ?_
    rw [KeyMap.get?_insertAll_entries]
    cases hv : changes.get? key with
    | none => exact Option.none_or
    | some v => rw [hheld key v hv, Option.some_or]
  have hstamped : stampModified actor now once = once.insert Key.updatedAt (.text now) := by
    rw [stampModified, KeyMap.insert_eq_self h.updatedBy]
  rw [revised, recompute_of_noLookup h.noLookup, hmerged, hstamped]
  refine Refresh.calculateAll_of_computed (h.computed.of_metadata hvalid fun key hkey => ?_)
  rw [KeyMap.get?_insert, if_neg]
  rintro rfl
  cases hkey

/-- Otherwise values of the payload are put back, and calculated fields follow them. -/
theorem revised_differs (h : schema.Settled actor changes once) (htime : key ≠ Key.updatedAt)
    (hdiffers : (schema.revised store actor now once changes).get? key ≠ once.get? key) :
    (∃ v, changes.get? key = some v ∧ once.get? key ≠ some v) ∨
    ∃ f ∈ schema.activeFields, ∃ config, f.type = .calculated config ∧ f.code.text = key := by
  by_contra hother
  obtain ⟨hheld, hcalculated⟩ := not_or.1 hother
  refine hdiffers ?_
  rw [revised, (recompute_putWhere _).get?_eq fun hput => hcalculated (h.noLookup.calculated hput)]
  by_cases hkey : key = Key.updatedBy
  · rw [hkey, stampModified_updatedBy, h.updatedBy]
  · rw [stampModified_get?_other hkey htime, KeyMap.get?_insertAll_entries]
    cases hv : changes.get? key with
    | none => exact Option.none_or
    | some v =>
        have hstored : once.get? key = some v := by
          by_contra hne
          exact hheld ⟨v, hv, hne⟩
        rw [hstored, Option.some_or]

end Settled

end AppSchema

namespace Engine

variable {settings later : Settings} {ws mid ws' : Workspace} {actor : Actor} {app : AppId}
  {schema : AppSchema} {id : String} {changes : Fields} {outcome outcome' : MutationOutcome}

theorem updateRecord_revised (hschema : ws.schemas.get? app = some schema)
    (ran : run settings ws (updateRecord actor app id changes) = (.ok outcome, mid)) :
    schema.checkInput changes = .ok () ∧
    ∃ stored once, ws.store.find? schema.code.text id = some stored ∧
      mid.store.find? schema.code.text id = some once ∧
      mid.schemas = ws.schemas ∧ once.id = stored.id ∧ once.number = stored.number ∧
      once.data = schema.revised ws.store actor settings.now stored.data changes := by
  obtain ⟨_, stored, refresh, store, hfound, hstored, hrevision, hupdate, rfl, -⟩ :=
    updateRecord_ok ran
  obtain rfl := Option.some.inj (hschema.symm.trans hfound)
  obtain ⟨-, -, hinput, rfl, -⟩ := Workspace.revision_ok hrevision
  exact ⟨hinput, stored, _, hstored, RecordStore.find?_replaced hstored hupdate rfl, rfl, rfl, rfl,
    rfl⟩

/-- An update that is repeated at once by the same actor stores the whole payload. It leaves the
    record as the first one did, the time apart, exactly if that had stored the whole payload too. A
    value of the payload that it had not stored is one that a lookup copies into, and the payload
    had changed the key of the lookup; beyond these values, only calculated fields can differ. -/
theorem update_repeated (hschema : ws.schemas.get? app = some schema)
    (hvalid : schema.validate = .ok ()) (hnumbers : changes.NaNFree)
    (first : run settings ws (updateRecord actor app id changes) = (.ok outcome, mid))
    (again : run later mid (updateRecord actor app id changes) = (.ok outcome', ws')) :
    ∃ stored once twice,
      ws.store.find? schema.code.text id = some stored ∧
      mid.store.find? schema.code.text id = some once ∧
      ws'.store.find? schema.code.text id = some twice ∧
      twice.id = once.id ∧ twice.number = once.number ∧
      (∀ key v, changes.get? key = some v → twice.data.get? key = some v) ∧
      ((∀ key, key ≠ Key.updatedAt → twice.data.get? key = once.data.get? key) ↔
        ∀ key v, changes.get? key = some v → once.data.get? key = some v) ∧
      (∀ key v, changes.get? key = some v → once.data.get? key ≠ some v →
        schema.CopiesInto (changedCodes stored.data changes) key) ∧
      (∀ key, key ≠ Key.updatedAt → twice.data.get? key ≠ once.data.get? key →
        (∃ v, changes.get? key = some v ∧ once.data.get? key ≠ some v) ∨
        ∃ f ∈ schema.activeFields, ∃ config, f.type = .calculated config ∧ f.code.text = key) := by
  obtain ⟨hinput, stored, once, hstored, honce, hschemas, -, -, hdata⟩ :=
    updateRecord_revised hschema first
  obtain ⟨-, found, twice, hfound, htwice, -, hid, hnumber, hdata'⟩ :=
    updateRecord_revised (hschemas ▸ hschema) again
  obtain rfl := Option.some.inj (honce.symm.trans hfound)
  have hsettled : schema.Settled actor changes once.data := by
    rw [hdata]
    exact AppSchema.settled_revised hvalid hinput ws.store actor settings.now stored.data hnumbers
  have hinputs : ∀ key v, changes.get? key = some v → twice.data.get? key = some v := by
    intro key v hv
    rw [hdata']
    exact AppSchema.revised_get?_input hvalid hinput mid.store actor later.now hv
      hsettled.noLookup.not_copiesInto
  refine ⟨stored, once, twice, hstored, honce, htwice, hid, hnumber, hinputs, ⟨?same, ?held⟩,
    ?copied, ?differs⟩
  case same =>
    intro hsame key v hv
    rw [← hsame key (AppSchema.input_not_stamped hvalid hinput hv).2]
    exact hinputs key v hv
  case held =>
    intro hheld key hkey
    rw [hdata', hsettled.revised_eq hvalid hheld, KeyMap.get?_insert, if_neg hkey]
  case copied =>
    intro key v hv hmissing
    by_contra hcopied
    rw [hdata] at hmissing
    exact hmissing
      (AppSchema.revised_get?_input hvalid hinput ws.store actor settings.now hv hcopied)
  case differs =>
    intro key hkey hdiffers
    rw [hdata'] at hdiffers
    exact hsettled.revised_differs hkey hdiffers

end Engine

namespace Orders

/-- The clerk adds a customer and an order of nobody. -/
def ownerless : Workspace :=
  let ws := copying.serve settings
    (.records clerk customers (.create (.ofList [("key", .text "C"), ("name", .text "Acme")])))
  ws.serve settings (.records clerk app (.create .empty))

end Orders

namespace Engine

theorem update_repeated_ownerless :
    let update := updateRecord Orders.clerk Orders.app "rr" (.ofList [("customer", .text "C")])
    ∃ outcome mid outcome' ws',
      run Orders.settings Orders.ownerless update = (.ok outcome, mid) ∧
      run Orders.settings mid update = (.ok outcome', ws') ∧
      ∃ once twice, mid.store.find? "orders" "rr" = some once ∧
        ws'.store.find? "orders" "rr" = some twice ∧
        ∀ key, key ≠ Key.updatedAt → twice.data.get? key = once.data.get? key := by
  intro update
  obtain ⟨outcome, mid, outcome', ws', first, again⟩ : ∃ outcome mid outcome' ws',
      run Orders.settings Orders.ownerless update = (.ok outcome, mid) ∧
      run Orders.settings mid update = (.ok outcome', ws') := ⟨_, _, _, _, rfl, rfl⟩
  have hschema : Orders.ownerless.schemas.get? Orders.app = some Orders.copyingSchema := rfl
  have hvalid : Orders.copyingSchema.validate = .ok () := by with_unfolding_all rfl
  have hnumbers : (KeyMap.ofList [("customer", Value.text "C")]).NaNFree := by
    intro key x hx
    cases List.mem_singleton.1 (KeyMap.mem_of_get?_ofList hx)
  obtain ⟨_, once, twice, -, honce, htwice, -, -, -, hsame, hcopied, -⟩ :=
    update_repeated hschema hvalid hnumbers first again
  refine ⟨outcome, mid, outcome', ws', first, again, once, twice, honce, htwice, hsame.2 ?_⟩
  intro key v hv
  by_contra hmissing
  obtain ⟨f, hf, -, config, htype, copy, hcopy, rfl⟩ := hcopied key v hv hmissing
  rcases List.mem_cons.1 hf with rfl | hf
  · cases htype
    obtain rfl := List.mem_singleton.1 hcopy
    cases hv
  · obtain rfl := List.mem_singleton.1 hf
    cases htype

theorem repeated_update_overwrites :
    let update := updateRecord Orders.clerk Orders.app "rr"
      (.ofList [("customer", .text "C"), ("short", .text "B")])
    Orders.copyingSchema.validate = .ok () ∧
    ∃ outcome mid outcome' ws',
      run Orders.settings Orders.ownerless update = (.ok outcome, mid) ∧
      run Orders.settings mid update = (.ok outcome', ws') ∧
      (mid.store.find? "orders" "rr").map (·.value "short") = some (.text "Acme") ∧
      (ws'.store.find? "orders" "rr").map (·.value "short") = some (.text "B") :=
  ⟨by with_unfolding_all rfl, _, _, _, _, rfl, rfl, rfl, rfl⟩

end Engine

end RecordApps
