import RecordApps.Proofs.Engine.RecordEffect

/-! # Which faults arise

A check refuses with faults of few kinds, and what is put together from checks has no others. All
checks of records blame the request, the rules or a clash: none of them reports a breakdown, and
none of them misses a process.
-/

namespace RecordApps

variable {α β : Type} {allowed allowed' : Fault → Prop}

namespace Fault

/-- Neither a breakdown nor a process that is missing. -/
def Ordinary : Fault → Prop
  | .internal _ | .notFound (.process _) => False
  | _ => True

/-- A breakdown is that of a rule store that cannot be reached. -/
def Explained (settings : Settings) : Fault → Prop
  | .internal cause => cause = .storeUnavailable ∧ settings.rulesReachable = false
  | _ => True

theorem Ordinary.explained {fault : Fault} (h : fault.Ordinary) (settings : Settings) :
    fault.Explained settings := by
  cases fault with
  | internal => exact h.elim
  | invalid | notFound | conflict | forbidden | overflow => trivial

end Fault

namespace Outcome

/-- Every fault of an outcome is an allowed one. -/
def RaisesOnly (allowed : Fault → Prop) (x : Outcome α) : Prop :=
  ∀ fault, x = .error fault → allowed fault

namespace RaisesOnly

theorem ok (a : α) : RaisesOnly allowed (.ok a : Outcome α) := fun _ h => by cases h

theorem error {fault : Fault} (h : allowed fault) :
    RaisesOnly allowed (.error fault : Outcome α) := by
  rintro _ ⟨⟩
  exact h

theorem mono {x : Outcome α} (h : x.RaisesOnly allowed)
    (weaker : ∀ fault, allowed fault → allowed' fault) : x.RaisesOnly allowed' :=
  fun fault raised => weaker fault (h fault raised)

theorem explained {x : Outcome α} (h : x.RaisesOnly Fault.Ordinary) {settings : Settings} :
    x.RaisesOnly (Fault.Explained settings) :=
  h.mono fun _ hordinary => hordinary.explained settings

theorem bind {x : Outcome α} {f : α → Outcome β} (hx : x.RaisesOnly allowed)
    (hf : ∀ a, x = .ok a → (f a).RaisesOnly allowed) : (x >>= f).RaisesOnly allowed := by
  cases x with
  | error fault => exact error (hx fault rfl)
  | ok a => exact hf a rfl

theorem forM {check : α → Outcome Unit} {items : List α}
    (h : ∀ item ∈ items, (check item).RaisesOnly allowed) :
    (forM items check).RaisesOnly allowed := by
  induction items with
  | nil => exact ok ()
  | cons head rest ih =>
      rw [List.forM_cons]
      exact bind (h head (by simp)) fun _ _ => ih fun item hitem => h item (by simp [hitem])

theorem ensure (holds : Bool) (cause : Invalid) :
    RaisesOnly Fault.Ordinary (ensure holds cause) := by
  cases holds with
  | false => exact error trivial
  | true => exact ok ()

end RaisesOnly

end Outcome

open Outcome

/-! ## Values of fields -/

namespace FieldType

theorem textOf_raises (code : String) (t : FieldType) (value : Value) :
    (t.textOf code value).RaisesOnly Fault.Ordinary := by
  cases value with
  | text s => exact .ok s
  | null | bool | int | float | list | object => exact .error trivial

theorem itemsOf_raises (code : String) (t : FieldType) (value : Value) :
    (t.itemsOf code value).RaisesOnly Fault.Ordinary := by
  cases value with
  | list items => exact .ok items
  | null | bool | int | float | text | object => exact .error trivial

theorem checkText_raises (code : String) (t : FieldType) (max : Option Nat) (value : Value) :
    (t.checkText code max value).RaisesOnly Fault.Ordinary := by
  refine .bind (t.textOf_raises code value) fun s _ => ?_
  cases max with
  | none => exact .ok ()
  | some limit => exact .ensure _ _

theorem checkNumber_raises (code : String) (t : FieldType) (min max : Option Float)
    (value : Value) : (t.checkNumber code min max value).RaisesOnly Fault.Ordinary := by
  rw [checkNumber]
  cases value.float? with
  | none => exact .error trivial
  | some x =>
      cases min with
      | none =>
          cases max with
          | none => exact .ok ()
          | some high => exact .ensure _ _
      | some low =>
          refine .bind (.ensure _ _) fun _ _ => ?_
          cases max with
          | none => exact .ok ()
          | some high => exact .ensure _ _

theorem checkForm_raises (code : String) (t : FieldType) (form : List Char → Bool)
    (value : Value) : (t.checkForm code form value).RaisesOnly Fault.Ordinary :=
  .bind (t.textOf_raises code value) fun _ _ => .ensure _ _

theorem checkChoice_raises (code : String) (t : FieldType) (options : List FieldOption)
    (value : Value) : (t.checkChoice code options value).RaisesOnly Fault.Ordinary :=
  .bind (t.textOf_raises code value) fun _ _ => .ensure _ _

theorem checkChoices_raises (code : String) (t : FieldType) (options : List FieldOption)
    (value : Value) : (t.checkChoices code options value).RaisesOnly Fault.Ordinary :=
  .bind (t.itemsOf_raises code value) fun _ _ =>
    .forM fun item _ => t.checkChoice_raises code options item

theorem checkIds_raises (code : String) (t : FieldType) (several : Bool) (value : Value) :
    (t.checkIds code several value).RaisesOnly Fault.Ordinary := by
  cases several with
  | false => exact .ensure _ _
  | true => exact .bind (t.itemsOf_raises code value) fun _ _ => .ensure _ _

theorem checkFiles_raises (code : String) (t : FieldType) (maxMegabytes maxFiles : Nat)
    (value : Value) :
    (t.checkFiles code maxMegabytes maxFiles value).RaisesOnly Fault.Ordinary := by
  refine .bind (t.itemsOf_raises code value) fun files _ => .bind (.ensure _ _) fun _ _ => ?_
  refine .forM fun file _ => ?_
  cases file with
  | object entries => exact .ensure _ _
  | null | bool | int | float | text | list => exact .error trivial

end FieldType

theorem SubtableConfig.checkRowCount_raises (code : String) (config : SubtableConfig)
    (count : Nat) : (config.checkRowCount code count).RaisesOnly Fault.Ordinary := by
  rw [checkRowCount]
  cases config.minRows with
  | none =>
      cases config.maxRows with
      | none => exact .ok ()
      | some high => exact .ensure _ _
  | some low =>
      refine .bind (.ensure _ _) fun _ _ => ?_
      cases config.maxRows with
      | none => exact .ok ()
      | some high => exact .ensure _ _

-- The check of a value descends into the columns of a subtable, and so does the proof.
mutual

theorem FieldType.checkValue_raises (code : String) (options : List FieldOption) (value : Value)
    (t : FieldType) : (t.checkValue code options value).RaisesOnly Fault.Ordinary := by
  cases t with
  | singleLineText | multiLineText | richEditor =>
      rw [FieldType.checkValue]
      exact FieldType.checkText_raises _ _ _ _
  | number => rw [FieldType.checkValue]; exact FieldType.checkNumber_raises _ _ _ _ _
  | date | time | datetime =>
      rw [FieldType.checkValue]
      exact FieldType.checkForm_raises _ _ _ _
  | link flavour =>
      rw [FieldType.checkValue]
      exact .bind (FieldType.textOf_raises _ _ _) fun _ _ => .ensure _ _
  | dropdown | radioButton =>
      rw [FieldType.checkValue]
      exact FieldType.checkChoice_raises _ _ _ _
  | checkbox | multiSelect =>
      rw [FieldType.checkValue]
      exact FieldType.checkChoices_raises _ _ _ _
  | userSelect | orgSelect | groupSelect =>
      rw [FieldType.checkValue]
      exact FieldType.checkIds_raises _ _ _ _
  | lookup => rw [FieldType.checkValue]; exact .ensure _ _
  | subtable config =>
      rw [FieldType.checkValue]
      exact SubtableConfig.checkRows_raises code value config
  | fileUpload => rw [FieldType.checkValue]; exact FieldType.checkFiles_raises _ _ _ _ _
  | recordNumber | creator | createdTime | modifier | modifiedTime | label | space | hr
  | relatedRecords | calculated =>
      rw [FieldType.checkValue]
      exact .error trivial

theorem SubtableConfig.checkRows_raises (code : String) (value : Value)
    (config : SubtableConfig) : (config.checkRows code value).RaisesOnly Fault.Ordinary := by
  obtain ⟨minRows, maxRows, allowAdd, allowDelete, columns⟩ := config
  cases value with
  | list rows =>
      rw [SubtableConfig.checkRows]
      refine .bind (SubtableConfig.checkRowCount_raises _ _ _) fun _ _ => .forM fun row _ => ?_
      cases row with
      | object cells =>
          refine .bind (.forM fun cell _ => checkCell_raises code cell.1 cell.2 columns) ?_
          exact fun _ _ => .forM fun column _ => .ensure _ _
      | null | bool | int | float | text | list => exact .error trivial
  | null | bool | int | float | text | object =>
      rw [SubtableConfig.checkRows]
      · exact .error trivial
      · simp

theorem checkCell_raises (code key : String) (value : Value) (columns : List FieldDefinition) :
    (checkCell code key value columns).RaisesOnly Fault.Ordinary := by
  cases columns with
  | nil => exact .error trivial
  | cons column rest =>
      rw [checkCell]
      split
      · exact FieldDefinition.checkValue_raises value column
      · exact checkCell_raises code key value rest

theorem FieldDefinition.checkValue_raises (value : Value) (f : FieldDefinition) :
    (f.checkValue value).RaisesOnly Fault.Ordinary := by
  obtain ⟨_, code, type, _, _, _, _, _, options, _, _, _⟩ := f
  rw [FieldDefinition.checkValue]
  split
  · exact .ok ()
  · exact FieldType.checkValue_raises code.text options value type

end

/-! ## Input -/

namespace AppSchema

variable {schema : AppSchema}

theorem checkEntry_raises (code : String) (value : Value) :
    (schema.checkEntry code value).RaisesOnly Fault.Ordinary := by
  rw [checkEntry]
  split
  · exact .ensure _ _
  · cases schema.field? code with
    | none => exact .error trivial
    | some f => exact .bind (.ensure _ _) fun _ _ => f.checkValue_raises value

theorem checkInput_raises (input : Fields) : (schema.checkInput input).RaisesOnly Fault.Ordinary :=
  .forM fun entry _ => checkEntry_raises entry.1 entry.2

theorem checkRequired_raises (data : Fields) :
    (schema.checkRequired data).RaisesOnly Fault.Ordinary :=
  .ensure _ _

end AppSchema

theorem KeyMap.checkAllWritable_raises (access : FieldAccess) (schema : AppSchema)
    (data : Fields) : (access.checkAllWritable schema data).RaisesOnly Fault.Ordinary := by
  refine .forM fun key _ => ?_
  rw [checkWritable]
  split
  · exact .ok ()
  · split
    · exact .error trivial
    · cases access.get? key with
      | none => exact .error trivial
      | some level =>
          cases level with
          | edit => exact .ok ()
          | view | hidden => exact .error trivial

/-! ## The store -/

theorem NonBlank.make_raises (text : String) : (NonBlank.make text).RaisesOnly Fault.Ordinary := by
  rw [make]
  cases ofText? text with
  | none => exact .error trivial
  | some s => exact .ok s

namespace RecordStore

variable {store : RecordStore}

theorem insert_raises (code id : String) (data : Fields) :
    (store.insert code id data).RaisesOnly Fault.Ordinary := by
  have hnumber : (checkedWord (store.app code).nextNumber).RaisesOnly Fault.Ordinary := by
    rw [checkedWord]
    split
    · exact .ok _
    · exact .error trivial
  refine .bind hnumber fun number _ => .bind (.bind (.ensure _ _) fun _ _ => ?_) fun _ _ => .ok _
  exact .bind (NonBlank.make_raises id) fun _ _ => .ok _

theorem update_raises (code : String) (record : Record) (expected : Option String) :
    (store.update code record expected).RaisesOnly Fault.Ordinary := by
  rw [update]
  cases (store.app code).find? record.id.text with
  | none => exact .error trivial
  | some stored =>
      dsimp only
      split
      · exact .error trivial
      · split
        · exact .error trivial
        · exact .ok _

theorem delete_raises (code id : String) : (store.delete code id).RaisesOnly Fault.Ordinary := by
  rw [delete]
  cases (store.app code).find? id with
  | none => exact .error trivial
  | some stored => exact .ok _

end RecordStore

/-! ## The workspace -/

namespace Workspace

variable {ws : Workspace} {settings : Settings} {actor : Actor} {schema : AppSchema}

theorem requireSchema_raises (app : AppId) :
    (ws.requireSchema app).RaisesOnly Fault.Ordinary := by
  rw [requireSchema]
  cases ws.schemas.get? app with
  | none => exact .error trivial
  | some schema => exact .ok schema

theorem requireRecord_raises (schema : AppSchema) (id : String) :
    (ws.requireRecord schema id).RaisesOnly Fault.Ordinary := by
  rw [requireRecord]
  cases ws.store.find? schema.code.text id with
  | none => exact .error trivial
  | some record => exact .ok record

theorem requireAccess_raises (actor : Actor) (schema : AppSchema) (record : Record) :
    (ws.requireAccess actor schema record).RaisesOnly Fault.Ordinary := by
  simp only [requireAccess]
  split
  · exact .ok _
  · exact .error trivial

theorem checkUnique_raises (data : Fields) (own : Option String) :
    (ws.checkUnique schema data own).RaisesOnly Fault.Ordinary := by
  refine .forM fun f _ => ?_
  rw [checkUniqueField]
  cases data.get? f.code.text with
  | none => exact .ok ()
  | some v =>
      dsimp only
      split
      · exact .ok ()
      · split
        · exact .error trivial
        · exact .ok ()

/-- Besides its checks, a draft is refused only where the records of its app have no status to
    start in. -/
theorem draft_raises (hallowed : ∀ fault, fault.Ordinary → allowed fault)
    (hstatus : (ws.initialStatus schema).RaisesOnly allowed) (input : Fields) :
    (ws.draft settings actor schema input).RaisesOnly allowed := by
  simp only [draft]
  split
  case isFalse => exact .error (hallowed _ trivial)
  case isTrue =>
    refine .bind ((KeyMap.checkAllWritable_raises _ _ _).mono hallowed) fun _ _ => ?_
    refine .bind ((AppSchema.checkInput_raises _).mono hallowed) fun _ _ => ?_
    refine .bind hstatus fun _ _ => ?_
    refine .bind ((AppSchema.checkRequired_raises _).mono hallowed) fun _ _ => ?_
    exact .bind ((checkUnique_raises _ _).mono hallowed) fun _ _ => .ok _

theorem revision_raises (record : Record) (changes : Fields) :
    (ws.revision settings actor schema record changes).RaisesOnly Fault.Ordinary := by
  simp only [revision]
  split
  case isFalse => exact .error trivial
  case isTrue =>
    refine .bind (KeyMap.checkAllWritable_raises _ _ _) fun _ _ => ?_
    refine .bind (AppSchema.checkInput_raises _) fun _ _ => ?_
    refine .bind (AppSchema.checkRequired_raises _) fun _ _ => ?_
    exact .bind (checkUnique_raises _ _) fun _ _ => .ok _

variable {app : AppId}

theorem readRecord_raises (id : String) :
    (ws.readRecord settings actor app id).RaisesOnly Fault.Ordinary := by
  refine .bind (requireSchema_raises app) fun schema _ => ?_
  refine .bind (requireRecord_raises schema id) fun record _ => ?_
  exact .bind (requireAccess_raises actor schema record) fun _ _ => .ok _

theorem listRecords_raises (filter : RecordFilter) :
    (ws.listRecords settings actor app filter).RaisesOnly Fault.Ordinary := by
  refine .bind (requireSchema_raises app) fun schema _ => ?_
  dsimp only
  split
  · exact .ok _
  · exact .error trivial

theorem relatedRecords_raises (id field : String) :
    (ws.relatedRecords actor app id field).RaisesOnly Fault.Ordinary := by
  refine .bind (requireSchema_raises app) fun schema _ => ?_
  refine .bind (requireRecord_raises schema id) fun record _ => ?_
  refine .bind (requireAccess_raises actor schema record) fun _ _ => ?_
  split
  · exact .error trivial
  · split
    · split
      · exact .error trivial
      · exact .ok _
    · exact .error trivial

end Workspace

/-! ## Changes -/

namespace Engine

variable {settings : Settings} {ws : Workspace}

theorem run_bind_raises {x : Engine α} {f : α → Engine β}
    (hx : (run settings ws x).1.RaisesOnly allowed)
    (hf : ∀ a ws', run settings ws x = (.ok a, ws') →
      (run settings ws' (f a)).1.RaisesOnly allowed) :
    (run settings ws (x >>= f)).1.RaisesOnly allowed := by
  rw [run_bind]
  rcases hran : run settings ws x with ⟨fault | a, ws'⟩
  · rw [hran] at hx
    exact .error (hx fault rfl)
  · exact hf a ws' hran

theorem run_lift_raises {outcome : Outcome α} {f : α → Engine β}
    (hcheck : outcome.RaisesOnly allowed)
    (hf : ∀ a, outcome = .ok a → (run settings ws (f a)).1.RaisesOnly allowed) :
    (run settings ws (liftM outcome >>= f)).1.RaisesOnly allowed := by
  refine run_bind_raises (by rwa [run_lift]) fun a ws' ran => ?_
  rw [run_lift] at ran
  obtain ⟨hanswer, rfl⟩ := Prod.mk.inj ran
  exact hf a hanswer

theorem insertRecord_raises (code : String) (data : Fields) :
    (run settings ws (insertRecord code data)).1.RaisesOnly Fault.Ordinary := by
  simp only [insertRecord, run_get_bind, run_read_bind]
  exact run_lift_raises (RecordStore.insert_raises _ _ _) fun _ _ => .ok _

theorem updateRecordStore_raises (code : String) (record : Record) (expected : Option String) :
    (run settings ws (updateRecordStore code record expected)).1.RaisesOnly Fault.Ordinary := by
  simp only [updateRecordStore, run_get_bind]
  exact run_lift_raises (RecordStore.update_raises _ _ _) fun _ _ => .ok _

theorem createRecord_raises {actor : Actor} {app : AppId}
    (hallowed : ∀ fault, fault.Ordinary → allowed fault)
    (hstatus : ∀ schema, ws.schemas.get? app = some schema →
      (ws.initialStatus schema).RaisesOnly allowed) (input : Fields) :
    (run settings ws (createRecord actor app input)).1.RaisesOnly allowed := by
  simp only [createRecord, run_get_bind, run_read_bind]
  refine run_lift_raises ((Workspace.requireSchema_raises app).mono hallowed) ?_
  intro schema hschema
  have hinitial := hstatus schema (Workspace.requireSchema_eq_ok.1 hschema)
  refine run_lift_raises (Workspace.draft_raises hallowed hinitial input) fun _ _ => ?_
  exact run_bind_raises ((insertRecord_raises _ _).mono hallowed) fun _ _ _ => .ok _

theorem updateRecord_raises {actor : Actor} {app : AppId} (id : String) (changes : Fields) :
    (run settings ws (updateRecord actor app id changes)).1.RaisesOnly Fault.Ordinary := by
  simp only [updateRecord, run_read_bind, run_get_bind]
  refine run_lift_raises (Workspace.requireSchema_raises app) fun schema _ => ?_
  refine run_lift_raises (Workspace.requireRecord_raises schema id) fun record _ => ?_
  refine run_lift_raises (Workspace.revision_raises record changes) fun _ _ => ?_
  exact run_bind_raises (updateRecordStore_raises _ _ _) fun _ _ _ => .ok _

theorem deleteRecord_raises {actor : Actor} {app : AppId} (id : String) :
    (run settings ws (deleteRecord actor app id)).1.RaisesOnly Fault.Ordinary := by
  simp only [deleteRecord, run_read_bind, run_get_bind]
  refine run_lift_raises (Workspace.requireSchema_raises app) fun schema _ => ?_
  refine run_lift_raises (Workspace.requireRecord_raises schema id) fun record _ => ?_
  split
  · exact run_lift_raises (RecordStore.delete_raises _ _) fun _ _ => .ok _
  · exact .error trivial

end Engine

end RecordApps
