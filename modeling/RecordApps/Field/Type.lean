import RecordApps.Formula.Basic
import RecordApps.NonBlank
import RecordApps.Record

/-! # Field types

What a field of an app holds, and what its type allows: entering values, deriving them,
taking part in formulas, offering choices.
-/

namespace RecordApps

/-- The largest upload of one file, in megabytes. -/
def maxFileMegabytes : Nat := 50

/-- The largest number of files in one field. -/
def maxFileCount : Nat := 20

/-- The largest number of places of a calculated field. -/
def maxFormulaDecimals : Nat := 10

/-- Families of field types. -/
inductive FieldCategory where
  /-- Values that are entered. -/
  | input
  /-- Values from the metadata of the record. -/
  | auto
  /-- Layout without a value. -/
  | decorative
  /-- Values derived from other fields or apps. -/
  | reference
  /-- Users, organizations and groups. -/
  | entitySelect
  /-- Composite and binary values. -/
  | structural
  deriving Repr, DecidableEq

/-- What a link leads to. -/
inductive LinkType where
  /-- A web address. -/
  | url
  /-- A telephone number. -/
  | tel
  /-- An email address. -/
  | email
  deriving Repr, DecidableEq

/-- A value that a lookup copies. -/
structure LookupCopy where
  /-- Field code in the other app. -/
  source : String
  /-- Field code in this app. -/
  target : String
  deriving Repr, DecidableEq

/-- Copies values from the first record of another app with the same key. -/
structure LookupConfig where
  /-- Code of the other app. -/
  app : String
  /-- Field of the other app that holds the key. -/
  keyField : String
  /-- What is copied. -/
  copies : List LookupCopy
  deriving Repr, DecidableEq

/-- Lists the records of another app that belong to this one. -/
structure RelatedConfig where
  /-- Code of the other app. -/
  app : String
  /-- Field of the other app that is compared. -/
  keyField : String
  /-- Field of this app it is compared with. -/
  thisField : String
  /-- Fields of the other app that are shown. -/
  displayFields : List String
  deriving Repr, DecidableEq

/-- A formula and how its value is shown. -/
structure FormulaConfig where
  formula : String
  format : FormulaFormat
  decimals : Nat
  deriving Repr, DecidableEq

/-- A choice of a choice field. -/
structure FieldOption where
  /-- Stored value. -/
  value : String
  /-- Text for display. -/
  label : String
  deriving Repr, DecidableEq

/-- A place in the form. -/
structure FieldLayout where
  /-- Order among all fields. -/
  order : Int
  /-- Row of the grid. -/
  row : Int
  /-- Column of the grid. -/
  column : Int
  /-- Number of columns taken. -/
  span : Int
  deriving Repr, DecidableEq

def FieldLayout.initial : FieldLayout :=
  ⟨0, 0, 0, 1⟩

mutual

/-- The type of a field with what it is configured by. -/
inductive FieldType where
  /-- One line of text. -/
  | singleLineText (max : Option Nat)
  /-- Several lines of text. -/
  | multiLineText (max : Option Nat)
  /-- A number within bounds. -/
  | number (min max : Option Float)
  /-- A date. -/
  | date
  /-- A time of day. -/
  | time
  /-- A point in time. -/
  | datetime
  /-- A link. -/
  | link (flavour : LinkType)
  /-- One choice from a list. -/
  | dropdown
  /-- One choice from buttons. -/
  | radioButton
  /-- Several choices from boxes. -/
  | checkbox
  /-- Several choices from a list. -/
  | multiSelect
  /-- Number of the record. -/
  | recordNumber
  /-- Creator of the record. -/
  | creator
  /-- Creation time of the record. -/
  | createdTime
  /-- Last modifier of the record. -/
  | modifier
  /-- Modification time of the record. -/
  | modifiedTime
  /-- Fixed text. -/
  | label
  /-- Empty cell. -/
  | space
  /-- Horizontal rule. -/
  | hr
  /-- Key into another app that values are copied from. -/
  | lookup (config : LookupConfig)
  /-- List of records of another app. -/
  | relatedRecords (config : RelatedConfig)
  /-- Arithmetic over other fields. -/
  | calculated (config : FormulaConfig)
  /-- User or users. -/
  | userSelect (several : Bool)
  /-- Organization or organizations. -/
  | orgSelect (several : Bool)
  /-- Group or groups. -/
  | groupSelect (several : Bool)
  /-- Rows of values. -/
  | subtable (config : SubtableConfig)
  /-- Files. -/
  | fileUpload (maxMegabytes maxFiles : Nat)
  /-- Formatted text. -/
  | richEditor
  deriving Repr

/-- The rows of a subtable. -/
structure SubtableConfig where
  /-- Smallest number of rows. -/
  minRows : Option Nat
  /-- Largest number of rows. -/
  maxRows : Option Nat
  /-- Whether users may add rows. -/
  allowAdd : Bool
  /-- Whether users may remove rows. -/
  allowDelete : Bool
  /-- Columns. -/
  columns : List FieldDefinition
  deriving Repr

/-- A field of an app. -/
structure FieldDefinition where
  /-- Field id. -/
  id : NonBlank
  /-- Field code, by which rules, formulas and records refer to the field. -/
  code : NonBlank
  /-- What the field holds. -/
  type : FieldType
  /-- Labels by locale. -/
  labels : KeyMap String
  /-- Descriptions by locale. -/
  descriptions : KeyMap String
  /-- Whether a value is mandatory. -/
  required : Bool
  /-- Whether no two records may hold the same value. -/
  unique : Bool
  /-- Value of new records. -/
  defaultValue : Option Value
  /-- Choices. -/
  options : List FieldOption
  /-- Place in the form. -/
  layout : FieldLayout
  /-- Whether the field is in use; retired fields stay in the schema. -/
  active : Bool
  /-- Whether the field has never been saved. -/
  temporary : Bool
  deriving Repr

end

namespace LinkType

def names : List (String × LinkType) :=
  [("url", .url), ("tel", .tel), ("email", .email)]

def name : LinkType → String
  | .url => "url"
  | .tel => "tel"
  | .email => "email"

end LinkType

namespace FieldCategory

def name : FieldCategory → String
  | .input => "input"
  | .auto => "auto"
  | .decorative => "decorative"
  | .reference => "reference"
  | .entitySelect => "entity_select"
  | .structural => "structural"

end FieldCategory

namespace FieldType

def name : FieldType → String
  | .singleLineText _ => "single_line_text"
  | .multiLineText _ => "multi_line_text"
  | .number _ _ => "number"
  | .date => "date"
  | .time => "time"
  | .datetime => "datetime"
  | .link _ => "link"
  | .dropdown => "dropdown"
  | .radioButton => "radio_button"
  | .checkbox => "checkbox"
  | .multiSelect => "multi_select"
  | .recordNumber => "record_number"
  | .creator => "creator"
  | .createdTime => "created_time"
  | .modifier => "modifier"
  | .modifiedTime => "modified_time"
  | .label => "label"
  | .space => "space"
  | .hr => "hr"
  | .lookup _ => "lookup"
  | .relatedRecords _ => "related_records"
  | .calculated _ => "calculated"
  | .userSelect _ => "user_select"
  | .orgSelect _ => "org_select"
  | .groupSelect _ => "group_select"
  | .subtable _ => "subtable"
  | .fileUpload _ _ => "file_upload"
  | .richEditor => "rich_editor"

def category : FieldType → FieldCategory
  | .singleLineText _ | .multiLineText _ | .number _ _ | .date | .time | .datetime | .link _
  | .dropdown | .radioButton | .checkbox | .multiSelect => .input
  | .recordNumber | .creator | .createdTime | .modifier | .modifiedTime => .auto
  | .label | .space | .hr => .decorative
  | .lookup _ | .relatedRecords _ | .calculated _ => .reference
  | .userSelect _ | .orgSelect _ | .groupSelect _ => .entitySelect
  | .subtable _ | .fileUpload _ _ | .richEditor => .structural

/-- Whether values come from the metadata of the record. -/
def isAuto (t : FieldType) : Bool :=
  t.category == .auto

def isDecorative (t : FieldType) : Bool :=
  t.category == .decorative

/-- Whether values are derived from other fields or apps. -/
def isReference (t : FieldType) : Bool :=
  t.category == .reference

/-- Whether the type copies values from another app. -/
def isLookup : FieldType → Bool
  | .lookup _ => true
  | _ => false

/-- Whether formulas may use the field. -/
def isNumeric : FieldType → Bool
  | .number _ _ | .calculated _ => true
  | _ => false

/-- Whether values are chosen from the options of the field. -/
def usesOptions : FieldType → Bool
  | .dropdown | .radioButton | .checkbox | .multiSelect => true
  | _ => false

def isMultiValued : FieldType → Bool
  | .checkbox | .multiSelect | .subtable _ | .fileUpload _ _ => true
  | .userSelect several | .orgSelect several | .groupSelect several => several
  | _ => false

/-- Whether clients may supply a value. -/
def acceptsInput (t : FieldType) : Bool :=
  match t.category with
  | .auto | .decorative => false
  | .reference => t.isLookup
  | .input | .entitySelect | .structural => true

def storesValue : FieldType → Bool
  | .relatedRecords _ => false
  | t => !t.isDecorative

end FieldType

namespace FieldDefinition

/-- The label for a locale, or the first label there is. -/
def label (f : FieldDefinition) (locale : String) : Option String :=
  match f.labels.get? locale with
  | some text => some text
  | none => f.labels.entries.head?.map Prod.snd

def description (f : FieldDefinition) (locale : String) : Option String :=
  f.descriptions.get? locale

end FieldDefinition

end RecordApps
