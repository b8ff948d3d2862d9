import RecordApps.Field.Validation
import RecordApps.Value.Decode

/-! # Stored fields

Fields are stored with all their properties. A type is stored as an object with its name and
what it is configured by; subtables hold the definitions of their columns.
-/

namespace RecordApps

def Value.ofOption {α : Type} (toValue : α → Value) : Option α → Value
  | some a => toValue a
  | none => .null

def Value.ofTexts (texts : KeyMap String) : Value :=
  .object (texts.entries.map fun entry => (entry.1, .text entry.2))

def Value.ofNat (n : Nat) : Value :=
  .int n

namespace Decode

def word32 : Decoder Nat := natBelow (Nat.pow 2 32)

def int32 : Decoder Int := wholeWithin (-2147483648) 2147483647

end Decode

namespace LookupCopy

def toValue (copy : LookupCopy) : Value :=
  .object [("source_field", .text copy.source), ("target_field", .text copy.target)]

def ofValue? : Decoder LookupCopy := Decode.ofFields do
  let source ← Decode.required "source_field" Decode.text
  let target ← Decode.required "target_field" Decode.text
  return ⟨source, target⟩

end LookupCopy

namespace LookupConfig

def entries (config : LookupConfig) : List (String × Value) :=
  [("lookup_app_code", .text config.app),
   ("lookup_copy_fields", .list (config.copies.map LookupCopy.toValue)),
   ("lookup_key_field", .text config.keyField)]

/-- Read the fields of the stored form. -/
def reader : Decode.Reader LookupConfig := do
  let app ← Decode.required "lookup_app_code" Decode.text
  let keyField ← Decode.required "lookup_key_field" Decode.text
  let copies ← Decode.orElse "lookup_copy_fields" (Decode.listOf LookupCopy.ofValue?) []
  return ⟨app, keyField, copies⟩

def ofValue? : Decoder LookupConfig := Decode.ofFields reader

end LookupConfig

namespace RelatedConfig

def entries (config : RelatedConfig) : List (String × Value) :=
  [("related_app_code", .text config.app),
   ("related_display_fields", .list (config.displayFields.map .text)),
   ("related_key_field", .text config.keyField),
   ("related_this_field", .text config.thisField)]

/-- Read the fields of the stored form. -/
def reader : Decode.Reader RelatedConfig := do
  let app ← Decode.required "related_app_code" Decode.text
  let keyField ← Decode.required "related_key_field" Decode.text
  let thisField ← Decode.required "related_this_field" Decode.text
  let displayFields ← Decode.orElse "related_display_fields" (Decode.listOf Decode.text) []
  return ⟨app, keyField, thisField, displayFields⟩

def ofValue? : Decoder RelatedConfig := Decode.ofFields reader

end RelatedConfig

namespace FormulaConfig

def entries (config : FormulaConfig) : List (String × Value) :=
  [("formula", .text config.formula),
   ("formula_decimals", .ofNat config.decimals),
   ("formula_format", .text config.format.name)]

/-- Read the fields of the stored form. -/
def reader : Decode.Reader FormulaConfig := do
  let formula ← Decode.required "formula" Decode.text
  let format ← Decode.orElse "formula_format" (Decode.bufferedName FormulaFormat.names) .number
  let decimals ← Decode.orElse "formula_decimals" (Decode.natBelow 256) 0
  return ⟨formula, format, decimals⟩

end FormulaConfig

namespace FieldOption

def toValue (o : FieldOption) : Value :=
  .object [("label", .text o.label), ("value", .text o.value)]

def ofValue? : Decoder FieldOption := Decode.ofFields do
  let value ← Decode.required "value" Decode.text
  let label ← Decode.required "label" Decode.text
  return ⟨value, label⟩

end FieldOption

namespace FieldLayout

def toValue (l : FieldLayout) : Value :=
  .object [("col_index", .int l.column), ("col_span", .int l.span),
    ("display_order", .int l.order), ("row_index", .int l.row)]

def ofValue? : Decoder FieldLayout := Decode.ofFields do
  let order ← Decode.required "display_order" Decode.int32
  let row ← Decode.required "row_index" Decode.int32
  let column ← Decode.required "col_index" Decode.int32
  let span ← Decode.required "col_span" Decode.int32
  return ⟨order, row, column, span⟩

end FieldLayout

mutual

/-- The fields of the stored form of a type, the name of the type apart, in key order. -/
def FieldType.entries : FieldType → List (String × Value)
  | .singleLineText max | .multiLineText max => [("max", Value.ofOption Value.ofNat max)]
  | .number min max =>
      [("max", Value.ofOption Value.float max), ("min", Value.ofOption Value.float min)]
  | .link flavour => [("link_type", .text flavour.name)]
  | .lookup config => config.entries
  | .relatedRecords config => config.entries
  | .calculated config => config.entries
  | .userSelect several | .orgSelect several | .groupSelect several =>
      [("allow_multiple", .bool several)]
  | .subtable ⟨minRows, maxRows, allowAdd, allowDelete, columns⟩ =>
      [("allow_add", .bool allowAdd), ("allow_delete", .bool allowDelete),
       ("fields", .list (fieldValues columns)),
       ("max_rows", Value.ofOption Value.ofNat maxRows),
       ("min_rows", Value.ofOption Value.ofNat minRows)]
  | .fileUpload maxMegabytes maxFiles =>
      [("max_file_size", .ofNat maxMegabytes), ("max_files", .ofNat maxFiles)]
  | .date | .time | .datetime | .dropdown | .radioButton | .checkbox | .multiSelect
  | .recordNumber | .creator | .createdTime | .modifier | .modifiedTime | .label | .space | .hr
  | .richEditor => []

def FieldDefinition.toValue : FieldDefinition → Value
  | ⟨id, code, type, labels, descriptions, required, unique, defaultValue, options, layout,
      active, temporary⟩ =>
      .object
        [("default_value", defaultValue.getD .null),
         ("description", .ofTexts descriptions),
         ("field_code", code.toValue),
         ("field_type", .object (type.entries ++ [("type", .text type.name)])),
         ("id", id.toValue),
         ("is_active", .bool active),
         ("is_temporary", .bool temporary),
         ("label", .ofTexts labels),
         ("layout", layout.toValue),
         ("options", .list (options.map FieldOption.toValue)),
         ("required", .bool required),
         ("unique_field", .bool unique)]

def fieldValues : List FieldDefinition → List Value
  | [] => []
  | column :: rest => column.toValue :: fieldValues rest

end

namespace FieldType

/-- How the fields of the stored form of each type are read. -/
def variants (column : Decoder FieldDefinition) : Decode.Variants FieldType :=
  let maxLength := Decode.maybe "max" Decode.word32
  let several := Decode.orElse "allow_multiple" Decode.flag false
  let bound (key : String) := Decode.maybe key Decode.number
  [("single_line_text", Decode.readAll (do return .singleLineText (← maxLength))),
   ("multi_line_text", Decode.readAll (do return .multiLineText (← maxLength))),
   ("number", Decode.readAll (do return .number (← bound "min") (← bound "max"))),
   ("date", Decode.bare .date),
   ("time", Decode.bare .time),
   ("datetime", Decode.bare .datetime),
   ("link", Decode.readAll (do
      return .link (← Decode.required "link_type" (Decode.bufferedName LinkType.names)))),
   ("dropdown", Decode.bare .dropdown),
   ("radio_button", Decode.bare .radioButton),
   ("checkbox", Decode.bare .checkbox),
   ("multi_select", Decode.bare .multiSelect),
   ("record_number", Decode.bare .recordNumber),
   ("creator", Decode.bare .creator),
   ("created_time", Decode.bare .createdTime),
   ("modifier", Decode.bare .modifier),
   ("modified_time", Decode.bare .modifiedTime),
   ("label", Decode.bare .label),
   ("space", Decode.bare .space),
   ("hr", Decode.bare .hr),
   ("lookup", Decode.readAll (do return .lookup (← LookupConfig.reader))),
   ("related_records", Decode.readAll (do return .relatedRecords (← RelatedConfig.reader))),
   ("calculated", Decode.readAll (do return .calculated (← FormulaConfig.reader))),
   ("user_select", Decode.readAll (do return .userSelect (← several))),
   ("org_select", Decode.readAll (do return .orgSelect (← several))),
   ("group_select", Decode.readAll (do return .groupSelect (← several))),
   ("subtable", Decode.readAll (do
      let minRows ← Decode.maybe "min_rows" Decode.word32
      let maxRows ← Decode.maybe "max_rows" Decode.word32
      let allowAdd ← Decode.orElse "allow_add" Decode.flag true
      let allowDelete ← Decode.orElse "allow_delete" Decode.flag true
      let columns ← Decode.orElse "fields" (Decode.listOf column) []
      return .subtable ⟨minRows, maxRows, allowAdd, allowDelete, columns⟩)),
   ("file_upload", Decode.readAll (do
      let maxMegabytes ← Decode.required "max_file_size" Decode.word32
      let maxFiles ← Decode.required "max_files" Decode.word32
      return .fileUpload maxMegabytes maxFiles)),
   ("rich_editor", Decode.bare .richEditor)]

/-- Read the stored form of a type, given by its name or, where that is allowed, by its place
    in the list of types. -/
def ofValue? (column : Decoder FieldDefinition) (byPlace : Bool) : Decoder FieldType :=
  Decode.tagged "type"
    (if byPlace then Decode.byNameOrPlace (variants column) else Decode.byName (variants column))

end FieldType

mutual

/-- How deep lists and objects are nested in a value. -/
def Value.depth : Value → Nat
  | .list items => Value.depthOfItems items + 1
  | .object entries => Value.depthOfEntries entries + 1
  | _ => 0

def Value.depthOfItems : List Value → Nat
  | [] => 0
  | item :: rest => max item.depth (Value.depthOfItems rest)

/-- The largest depth of the values of the entries. -/
def Value.depthOfEntries : List (String × Value) → Nat
  | [] => 0
  | (_, v) :: rest => max v.depth (Value.depthOfEntries rest)

end

namespace FieldDefinition

/-- Read the fields of a draft in the order of the stored form. -/
def draftReader (type : Decoder FieldType) : Decode.Reader Draft := do
  let id ← Decode.required "id" Decode.text
  let code ← Decode.required "field_code" Decode.text
  let type ← Decode.required "field_type" type
  let labels ← Decode.orElse "label" Decode.texts KeyMap.empty
  let descriptions ← Decode.orElse "description" Decode.texts KeyMap.empty
  let required ← Decode.orElse "required" Decode.flag false
  let unique ← Decode.orElse "unique_field" Decode.flag false
  let defaultValue ← Decode.maybeAny "default_value"
  let options ← Decode.orElse "options" (Decode.listOf FieldOption.ofValue?) []
  let layout ← Decode.orElse "layout" FieldLayout.ofValue? FieldLayout.initial
  return ⟨id, code, type, labels, descriptions, required, unique, defaultValue, options, layout⟩

/-- The field of a draft as stored, if its id and its code say something. -/
def ofDraft? (draft : Draft) (active temporary : Bool) : Option FieldDefinition := do
  let id ← NonBlank.ofText? draft.id
  let code ← NonBlank.ofText? draft.code
  return ⟨id, code, draft.type, draft.labels, draft.descriptions, draft.required, draft.unique,
    draft.defaultValue, draft.options, draft.layout, active, temporary⟩

/-- Read the stored form of a field whose columns are nested at most `depth` deep. The types
    of columns may be given by their places in the list of types; `byPlace` says whether that
    goes for the type of the field itself. -/
def ofValueWithin? : (depth : Nat) → (byPlace : Bool) → Decoder FieldDefinition
  | 0, _ => fun _ => none
  | depth + 1, byPlace => Decode.ofFields do
      let draft ← draftReader (FieldType.ofValue? (ofValueWithin? depth true) byPlace)
      let active ← Decode.orElse "is_active" Decode.flag true
      let temporary ← Decode.orElse "is_temporary" Decode.flag false
      match ofDraft? draft active temporary with
      | some f => return f
      | none => failure

def ofValue? : Decoder FieldDefinition := fun v =>
  ofValueWithin? v.depth false v

/-- Read the stored form inside a request. -/
def ofRequest? : Decoder FieldDefinition := fun v =>
  ofValueWithin? v.depth true v

def draft? : Decoder Draft := fun v =>
  Decode.ofKeyedFields (draftReader (FieldType.ofValue? (ofValueWithin? v.depth true) false)) v

end FieldDefinition

end RecordApps
