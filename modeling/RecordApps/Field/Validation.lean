import RecordApps.Field.Value

/-! # Validity of fields

What a field definition has to satisfy before it may be used: a code that formulas and
templates can hold, a sensible configuration of its type, options exactly where they are
offered, and a default value that the field itself takes.
-/

namespace RecordApps

/-- Refuse the first item whose key an earlier item has. -/
def refuseRepeated {α : Type} (key : α → String) (cause : α → Invalid) (seen : List String) :
    List α → Outcome Unit
  | [] => .ok ()
  | item :: rest =>
      if seen.contains (key item) then .error (.invalid (cause item))
      else refuseRepeated key cause (key item :: seen) rest

/-- Refuse a code that is no identifier or belongs to the metadata. -/
def checkFieldCode (code : String) : Outcome Unit := do
  let isIdentifier := match code.toList with
    | [] => false
    | c :: rest => Text.isWordStart c && rest.all Text.isWordChar
  ensure isIdentifier (.badFieldCode code)
  ensure (!Key.isReserved code) (.reservedFieldCode code)

/-- Refuse a blank code in a configuration. -/
def requireCode (name code : String) : Outcome Unit :=
  ensure (!Text.isBlank code) (.blankCode name)

namespace LookupConfig

/-- Check the copies one after the other: codes that are not blank, and no target twice. -/
def checkCopies (seen : List String) : List LookupCopy → Outcome Unit
  | [] => .ok ()
  | copy :: rest => do
      requireCode "source_field" copy.source
      requireCode "target_field" copy.target
      ensure (!seen.contains copy.target) (.repeatedLookupTarget copy.target)
      checkCopies (copy.target :: seen) rest

def validate (config : LookupConfig) : Outcome Unit := do
  requireCode "lookup_app_code" config.app
  requireCode "lookup_key_field" config.keyField
  checkCopies [] config.copies

end LookupConfig

namespace RelatedConfig

def validate (config : RelatedConfig) : Outcome Unit := do
  requireCode "related_app_code" config.app
  requireCode "related_key_field" config.keyField
  requireCode "related_this_field" config.thisField

end RelatedConfig

namespace FormulaConfig

/-- Check a formula and its number of places. -/
def validate (config : FormulaConfig) : Outcome Unit := do
  match Formula.parse config.formula with
  | .error cause => .error (.invalid (.badFormula config.formula cause))
  | .ok _ => ensure (config.decimals ≤ maxFormulaDecimals) (.formulaDecimals maxFormulaDecimals)

end FormulaConfig

namespace SubtableConfig

/-- Check the columns one after the other: types that can be entered, and no code twice. -/
def checkColumns (seen : List String) : List FieldDefinition → Outcome Unit
  | [] => .ok ()
  | column :: rest => do
      let code := column.code.text
      ensure (column.type.category == .input || column.type.category == .entitySelect)
        (.unsupportedSubField code column.type.name)
      ensure (!seen.contains code) (.duplicateSubField code)
      checkColumns (code :: seen) rest

def validate (config : SubtableConfig) : Outcome Unit := do
  match config.minRows, config.maxRows with
  | some low, some high => ensure (low ≤ high) (.rowBounds low high)
  | _, _ => pure ()
  ensure (!config.columns.isEmpty) .noSubFields
  checkColumns [] config.columns

end SubtableConfig

namespace FieldType

def validate : FieldType → Outcome Unit
  | .singleLineText max | .multiLineText max => ensure (max != some 0) .zeroTextLength
  | .number (some low) (some high) => ensure (!(high < low)) (.numberBounds low high)
  | .fileUpload maxMegabytes maxFiles => do
      ensure (1 ≤ maxMegabytes && maxMegabytes ≤ maxFileMegabytes) (.fileSizeLimit maxFileMegabytes)
      ensure (1 ≤ maxFiles && maxFiles ≤ maxFileCount) (.fileCountLimit maxFileCount)
  | .lookup config => config.validate
  | .relatedRecords config => config.validate
  | .calculated config => config.validate
  | .subtable config => config.validate
  | _ => .ok ()

end FieldType

namespace FieldDefinition

/-- Options exactly on choice fields, and none of them twice. -/
def checkOptions (f : FieldDefinition) : Outcome Unit :=
  if f.type.usesOptions then do
    ensure (!f.options.isEmpty) (.optionsMissing f.type.name f.code.text)
    refuseRepeated FieldOption.value (fun o => .duplicateOption o.value f.code.text) [] f.options
  else ensure f.options.isEmpty (.optionsForbidden f.type.name f.code.text)

/-- Whether the values of the field may have to be unique. -/
def mayBeUnique (f : FieldDefinition) : Bool :=
  f.type.acceptsInput && !f.type.isMultiValued &&
    match f.type with
    | .richEditor => false
    | _ => true

/-- A default only where values are entered, and one the field takes. -/
def checkDefault (f : FieldDefinition) : Outcome Unit :=
  match f.defaultValue with
  | none => .ok ()
  | some v => do
      ensure f.type.acceptsInput (.defaultForbidden f.type.name f.code.text)
      f.checkValue v

/-- Check a field definition; the first rule that is broken decides. -/
def validate (f : FieldDefinition) : Outcome Unit := do
  checkFieldCode f.code.text
  f.type.validate
  f.checkOptions
  ensure (!f.unique || f.mayBeUnique) (.uniqueForbidden f.type.name f.code.text)
  ensure (!f.required || f.type.acceptsInput) (.requiredForbidden f.type.name f.code.text)
  ensure (0 < f.layout.span) (.columnSpan f.code.text)
  f.checkDefault

/-- What a new field is made from. -/
structure Draft where
  /-- Field id. -/
  id : String
  /-- Field code. -/
  code : String
  /-- What the field holds. -/
  type : FieldType
  /-- Labels by locale. -/
  labels : KeyMap String
  /-- Descriptions by locale. -/
  descriptions : KeyMap String
  /-- Whether a value is mandatory. -/
  required : Bool
  /-- Whether no two records may hold the same value. -/
  unique : Bool
  /-- Value of new records. -/
  defaultValue : Option Value
  /-- Choices. -/
  options : List FieldOption
  /-- Place in the form. -/
  layout : FieldLayout

/-- A valid field that has not been saved yet. -/
def make (draft : Draft) : Outcome FieldDefinition := do
  let f : FieldDefinition :=
    { id := ← NonBlank.make draft.id
      code := ← NonBlank.make draft.code
      type := draft.type
      labels := draft.labels
      descriptions := draft.descriptions
      required := draft.required
      unique := draft.unique
      defaultValue := draft.defaultValue
      options := draft.options
      layout := draft.layout
      active := true
      temporary := true }
  f.validate
  return f

end FieldDefinition

end RecordApps
