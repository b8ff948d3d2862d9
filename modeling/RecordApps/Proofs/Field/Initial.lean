import RecordApps.Field.Validation
import RecordApps.Proofs.Outcome

/-! # Values that records start with

A default is checked when its field is, so a valid field takes it. Where a field has no default, its
type has a value to start with: none, an empty text or an empty list, which every field of that
type takes. Only a subtable that asks for rows starts with rows, which it may refuse.
-/

namespace RecordApps

namespace SubtableConfig

/-- The rows that records start with are all the same. -/
def initialRow (config : SubtableConfig) : Fields :=
  KeyMap.ofList (initialCells config.columns)

theorem initialValue_rows (config : SubtableConfig) :
    (FieldType.subtable config).initialValue =
      some (.list (List.replicate (config.minRows.getD 0) (.object config.initialRow.entries))) := by
  obtain ⟨minRows, maxRows, allowAdd, allowDelete, columns⟩ := config
  rw [FieldType.initialValue]
  rfl

/-- The check of a row. -/
def checkRow (code : String) (config : SubtableConfig) : Value → Outcome Unit
  | .object cells => do
      cells.forM fun cell => checkCell code cell.1 cell.2 config.columns
      checkRequiredCells code config.columns cells
  | _ => .error (.invalid (.rowNotObject code))

theorem checkRows_list (code : String) (config : SubtableConfig) (rows : List Value) :
    config.checkRows code (.list rows) =
      (config.checkRowCount code rows.length >>= fun _ => forM rows (config.checkRow code)) := by
  have hrow : config.checkRow code = fun row =>
      match row with
      | .object cells => do
          cells.forM fun cell => checkCell code cell.1 cell.2 config.columns
          checkRequiredCells code config.columns cells
      | _ => .error (.invalid (.rowNotObject code)) := by
    funext row
    cases row <;> rfl
  rw [hrow]
  obtain ⟨minRows, maxRows, allowAdd, allowDelete, columns⟩ := config
  rw [checkRows]
  rfl

end SubtableConfig

namespace FieldType

/-- Whether a value of the type has at least one row. -/
def requiresRows : FieldType → Bool
  | .subtable config => config.minRows.getD 0 != 0
  | _ => false

variable {t : FieldType} {v : Value}

theorem initialValue_subtable {config : SubtableConfig} (hrows : config.minRows.getD 0 = 0) :
    (FieldType.subtable config).initialValue = some (.list []) := by
  rw [config.initialValue_rows, hrows, List.replicate_zero]

theorem checkRows_nil (code : String) {config : SubtableConfig}
    (hrows : config.minRows.getD 0 = 0) : config.checkRows code (.list []) = .ok () := by
  have hcount : config.checkRowCount code 0 = .ok () := by
    have hlow : ∀ low, config.minRows = some low → low = 0 := by
      intro low hlow
      rwa [hlow] at hrows
    rw [SubtableConfig.checkRowCount]
    cases hmin : config.minRows with
    | none => cases config.maxRows <;> rfl
    | some low =>
        obtain rfl := hlow low hmin
        cases config.maxRows <;> rfl
  rw [SubtableConfig.checkRows_list, List.length_nil, hcount]
  rfl

theorem checkValue_initialValue (code : String) (options : List FieldOption)
    (hrows : t.requiresRows = false) (h : t.initialValue = some v) :
    v.isNull = true ∨ t.checkValue code options v = .ok () := by
  cases t with
  | singleLineText max | multiLineText max =>
      obtain rfl := Option.some.inj h
      cases max <;> exact .inr rfl
  | richEditor =>
      obtain rfl := Option.some.inj h
      exact .inr rfl
  | checkbox | multiSelect | fileUpload =>
      obtain rfl := Option.some.inj h
      exact .inr rfl
  | userSelect several | orgSelect several | groupSelect several =>
      cases several with
      | true =>
          obtain rfl := Option.some.inj h
          exact .inr rfl
      | false =>
          obtain rfl := Option.some.inj h
          exact .inl rfl
  | subtable config =>
      have hzero : config.minRows.getD 0 = 0 := by simpa [requiresRows] using hrows
      rw [initialValue_subtable hzero] at h
      obtain rfl := Option.some.inj h
      exact .inr (checkRows_nil code hzero)
  | calculated => cases h
  | _ =>
      obtain rfl := Option.some.inj h
      exact .inl rfl

end FieldType

namespace FieldDefinition

variable {f : FieldDefinition}

/-- The field takes the value that new records start with, if they start with one. -/
def TakesInitial (f : FieldDefinition) : Prop :=
  ∀ v, f.initialValue = some v → f.checkValue v = .ok ()

theorem checkValue_eq (f : FieldDefinition) (v : Value) :
    f.checkValue v = if v.isNull then .ok () else f.type.checkValue f.code.text f.options v := by
  cases f
  rw [checkValue]

theorem initialValue_eq (f : FieldDefinition) :
    f.initialValue =
      if !f.type.storesValue || f.type.isAuto then none
      else f.defaultValue.or f.type.initialValue := by
  cases f with
  | mk id code type labels descriptions required unique defaultValue =>
      cases defaultValue <;> rfl

theorem checkValue_default (hvalid : f.validate = .ok ()) {v : Value}
    (hdefault : f.defaultValue = some v) : f.checkValue v = .ok () := by
  simp only [validate, Outcome.check_bind_eq_ok] at hvalid
  obtain ⟨-, -, -, -, -, -, hchecked⟩ := hvalid
  rw [checkDefault, hdefault, Outcome.check_bind_eq_ok] at hchecked
  exact hchecked.2

/-- A valid field takes its initial value, unless that is made of rows its type asks for. -/
theorem takesInitial_of_valid (hvalid : f.validate = .ok ())
    (hrows : f.type.requiresRows = false ∨ f.defaultValue.isSome = true) : f.TakesInitial := by
  intro v hv
  rw [initialValue_eq] at hv
  split at hv
  case isTrue => cases hv
  case isFalse =>
    cases hdefault : f.defaultValue with
    | some given =>
        rw [hdefault, Option.some_or] at hv
        obtain rfl := Option.some.inj hv
        exact checkValue_default hvalid hdefault
    | none =>
        rw [hdefault, Option.none_or] at hv
        have hplain : f.type.requiresRows = false :=
          hrows.resolve_right (by rw [hdefault]; exact Bool.false_ne_true)
        rw [checkValue_eq]
        split
        case isTrue => rfl
        case isFalse hnull =>
          exact (FieldType.checkValue_initialValue _ _ hplain hv).resolve_left hnull

end FieldDefinition

end RecordApps
