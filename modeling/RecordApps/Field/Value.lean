import RecordApps.Field.Calendar
import RecordApps.Field.Link
import RecordApps.Field.Type

/-! # Values of fields

Which values a field takes, which values count as empty, and what value a new record starts
with.
-/

namespace RecordApps

/-- Whether a stored value counts as empty. -/
def Value.isEmptyValue : Value → Bool
  | .null => true
  | .text s => Text.isBlank s
  | .list items => items.isEmpty
  | _ => false

/-- Whether a field without or with a stored value counts as empty. -/
def isEmptyField (value : Option Value) : Bool :=
  (value.map Value.isEmptyValue).getD true

/-- Whether a value is a text that is not blank. -/
def Value.isId : Value → Bool
  | .text s => !Text.isBlank s
  | _ => false

/-- The size of an uploaded file in bytes; only whole numbers count. -/
def Value.fileSize (file : List (String × Value)) : Nat :=
  ((file.lookup "size").bind Value.nat?).getD 0

namespace FieldType

/-- The text of a value, refused where it has another form. -/
def textOf (code : String) (t : FieldType) (value : Value) : Outcome String :=
  match value with
  | .text s => .ok s
  | _ => .error (.invalid (.typeMismatch code t.name))

/-- The items of a value, refused where it has another form. -/
def itemsOf (code : String) (t : FieldType) (value : Value) : Outcome (List Value) :=
  match value with
  | .list items => .ok items
  | _ => .error (.invalid (.typeMismatch code t.name))

def checkText (code : String) (t : FieldType) (max : Option Nat) (value : Value) :
    Outcome Unit := do
  let s ← t.textOf code value
  match max with
  | some limit => ensure (s.length ≤ limit) (.textTooLong code limit)
  | none => return

def checkNumber (code : String) (t : FieldType) (min max : Option Float) (value : Value) :
    Outcome Unit := do
  match value.float? with
  | none => .error (.invalid (.typeMismatch code t.name))
  | some x =>
      match min with
      | some low => ensure (!(x < low)) (.belowMinimum code low)
      | none => pure ()
      match max with
      | some high => ensure (!(high < x)) (.aboveMaximum code high)
      | none => pure ()

def checkForm (code : String) (t : FieldType) (form : List Char → Bool) (value : Value) :
    Outcome Unit := do
  let s ← t.textOf code value
  ensure (form s.toList) (.typeMismatch code t.name)

def checkLink (code : String) (flavour : LinkType) (value : Value) : Outcome Unit := do
  let s ← (FieldType.link flavour).textOf code value
  ensure (flavour.accepts s) (.badLink code flavour.name)

def checkOption (code : String) (options : List FieldOption) (choice : String) : Outcome Unit :=
  ensure (options.any (·.value == choice)) (.notAnOption choice code)

def checkChoice (code : String) (t : FieldType) (options : List FieldOption) (value : Value) :
    Outcome Unit := do
  checkOption code options (← t.textOf code value)

def checkChoices (code : String) (t : FieldType) (options : List FieldOption) (value : Value) :
    Outcome Unit := do
  (← t.itemsOf code value).forM (t.checkChoice code options)

def checkIds (code : String) (t : FieldType) (several : Bool) (value : Value) : Outcome Unit := do
  if several then
    let ids ← t.itemsOf code value
    ensure (ids.all Value.isId) (.typeMismatch code t.name)
  else ensure value.isId (.typeMismatch code t.name)

def checkFiles (code : String) (t : FieldType) (maxMegabytes maxFiles : Nat) (value : Value) :
    Outcome Unit := do
  let files ← t.itemsOf code value
  ensure (files.length ≤ maxFiles) (.tooManyFiles code maxFiles)
  files.forM fun file =>
    match file with
    | .object entries =>
        ensure (Value.fileSize entries ≤ maxMegabytes * 1024 * 1024)
          (.fileTooLarge code maxMegabytes)
    | _ => .error (.invalid (.typeMismatch code t.name))

end FieldType

namespace SubtableConfig

def checkRowCount (code : String) (config : SubtableConfig) (count : Nat) : Outcome Unit := do
  match config.minRows with
  | some low => ensure (low ≤ count) (.tooFewRows code low)
  | none => pure ()
  match config.maxRows with
  | some high => ensure (count ≤ high) (.tooManyRows code high)
  | none => pure ()

/-- A value in every required cell of a row. -/
def checkRequiredCells (code : String) (columns : List FieldDefinition)
    (row : List (String × Value)) : Outcome Unit :=
  (columns.filter (·.required)).forM fun column =>
    ensure (!isEmptyField (row.lookup column.code.text))
      (.requiredCellMissing code column.code.text)

end SubtableConfig

mutual

/-- A value that is not null, against the type of a field with the given code and options. -/
def FieldType.checkValue (code : String) (options : List FieldOption) (value : Value) :
    FieldType → Outcome Unit
  | .singleLineText max => (FieldType.singleLineText max).checkText code max value
  | .multiLineText max => (FieldType.multiLineText max).checkText code max value
  | .richEditor => FieldType.richEditor.checkText code none value
  | .number min max => (FieldType.number min max).checkNumber code min max value
  | .date => FieldType.date.checkForm code Calendar.isDate value
  | .time => FieldType.time.checkForm code Calendar.isTime value
  | .datetime => FieldType.datetime.checkForm code Calendar.isTimestamp value
  | .link flavour => FieldType.checkLink code flavour value
  | .dropdown => FieldType.dropdown.checkChoice code options value
  | .radioButton => FieldType.radioButton.checkChoice code options value
  | .checkbox => FieldType.checkbox.checkChoices code options value
  | .multiSelect => FieldType.multiSelect.checkChoices code options value
  | .userSelect several => (FieldType.userSelect several).checkIds code several value
  | .orgSelect several => (FieldType.orgSelect several).checkIds code several value
  | .groupSelect several => (FieldType.groupSelect several).checkIds code several value
  | .lookup config =>
      ensure (value.isNumber || value.text?.isSome)
        (.typeMismatch code (FieldType.lookup config).name)
  | .subtable config => config.checkRows code value
  | .fileUpload maxMegabytes maxFiles =>
      (FieldType.fileUpload maxMegabytes maxFiles).checkFiles code maxMegabytes maxFiles value
  | .recordNumber => .error (.invalid (.valueForbidden code FieldType.recordNumber.name))
  | .creator => .error (.invalid (.valueForbidden code FieldType.creator.name))
  | .createdTime => .error (.invalid (.valueForbidden code FieldType.createdTime.name))
  | .modifier => .error (.invalid (.valueForbidden code FieldType.modifier.name))
  | .modifiedTime => .error (.invalid (.valueForbidden code FieldType.modifiedTime.name))
  | .label => .error (.invalid (.valueForbidden code FieldType.label.name))
  | .space => .error (.invalid (.valueForbidden code FieldType.space.name))
  | .hr => .error (.invalid (.valueForbidden code FieldType.hr.name))
  | .relatedRecords config =>
      .error (.invalid (.valueForbidden code (FieldType.relatedRecords config).name))
  | .calculated config =>
      .error (.invalid (.valueForbidden code (FieldType.calculated config).name))

/-- Rows within bounds; every cell belongs to a column and is a value of it, and no required
    cell is empty. -/
def SubtableConfig.checkRows (code : String) (value : Value) : SubtableConfig → Outcome Unit
  | ⟨minRows, maxRows, allowAdd, allowDelete, columns⟩ =>
      match value with
      | .list rows => do
          SubtableConfig.checkRowCount code ⟨minRows, maxRows, allowAdd, allowDelete, columns⟩
            rows.length
          rows.forM fun row =>
            match row with
            | .object cells => do
                cells.forM fun cell => checkCell code cell.1 cell.2 columns
                SubtableConfig.checkRequiredCells code columns cells
            | _ => .error (.invalid (.rowNotObject code))
      | _ => .error (.invalid (.rowsExpected code))

/-- A cell, against the first column with its key. -/
def checkCell (code key : String) (value : Value) : List FieldDefinition → Outcome Unit
  | [] => .error (.invalid (.unknownSubField code key))
  | column :: rest =>
      if column.code.text = key then column.checkValue value else checkCell code key value rest

/-- A value against a field. Null is taken by every field. -/
def FieldDefinition.checkValue (value : Value) : FieldDefinition → Outcome Unit
  | ⟨_, code, type, _, _, _, _, _, options, _, _, _⟩ =>
      if value.isNull then .ok () else type.checkValue code.text options value

end

mutual

/-- The value that records of a type start with, if a field has no default of its own. -/
def FieldType.initialValue : FieldType → Option Value
  | .calculated _ => none
  | .subtable ⟨minRows, _, _, _, columns⟩ =>
      let row := Value.object (KeyMap.ofList (initialCells columns)).entries
      some (.list (List.replicate (minRows.getD 0) row))
  | t =>
      if t.isMultiValued then some (.list [])
      else
        match t with
        | .singleLineText _ | .multiLineText _ | .richEditor => some (.text "")
        | _ => some .null

/-- The value that new records start with. Fields that store nothing, are filled from the
    metadata or are calculated have none. -/
def FieldDefinition.initialValue : FieldDefinition → Option Value
  | ⟨_, _, type, _, _, _, _, defaultValue, _, _, _, _⟩ =>
      if !type.storesValue || type.isAuto then none
      else
        match defaultValue with
        | some v => some v
        | none => type.initialValue

/-- The cells that new rows start with. -/
def initialCells : List FieldDefinition → List (String × Value)
  | [] => []
  | column :: rest =>
      match column.initialValue with
      | some v => (column.code.text, v) :: initialCells rest
      | none => initialCells rest

end

end RecordApps
