import RecordApps.Decimal.Layout
import RecordApps.Formula.Fault

/-! # Why an operation is refused

Every refusal has one of five kinds and a cause. The wording of a cause stands here alone;
a shown fault puts the name of its kind in front. Arithmetic that leaves its 64 bits is no
refusal: it breaks the operation off.
-/

namespace RecordApps

/-- Input, a definition or an invariant that does not hold. -/
inductive Invalid where
  | blankText
  | zeroRecordNumber
  | unreadableCondition
  | unknownOperator (field operator : String)
  | listOperandMissing (field operator : String)
  | scalarOperandMissing (field operator : String)
  | zeroTextLength
  | numberBounds (min max : Float)
  | fileSizeLimit (limit : Nat)
  | fileCountLimit (limit : Nat)
  | blankCode (name : String)
  | repeatedLookupTarget (code : String)
  | badFormula (formula : String) (cause : FormulaFault)
  | formulaDecimals (limit : Nat)
  | rowBounds (min max : Nat)
  | noSubFields
  | unsupportedSubField (code type : String)
  | duplicateSubField (code : String)
  | optionsMissing (type code : String)
  | duplicateOption (value code : String)
  | optionsForbidden (type code : String)
  | uniqueForbidden (type code : String)
  | requiredForbidden (type code : String)
  | columnSpan (code : String)
  | defaultForbidden (type code : String)
  | typeMismatch (code type : String)
  | textTooLong (code : String) (max : Nat)
  | belowMinimum (code : String) (min : Float)
  | aboveMaximum (code : String) (max : Float)
  | badLink (code flavour : String)
  | tooManyFiles (code : String) (max : Nat)
  | fileTooLarge (code : String) (megabytes : Nat)
  | valueForbidden (code type : String)
  | notAnOption (choice code : String)
  | rowsExpected (code : String)
  | tooFewRows (code : String) (min : Nat)
  | tooManyRows (code : String) (max : Nat)
  | rowNotObject (code : String)
  | unknownSubField (code key : String)
  | requiredCellMissing (code column : String)
  | badFieldCode (code : String)
  | reservedFieldCode (code : String)
  | duplicateFieldCode (code app : String)
  | repeatedAutoField (app type : String)
  | noSuchField (code app : String)
  | lookupTarget (lookup type target : String)
  | unreadableFormula (code : String) (cause : FormulaFault)
  | unknownOperand (code operand : String)
  | nonNumericOperand (code operand : String)
  | circularFormula (code : String)
  | everyoneWithTarget
  | ruleTargetMissing (targetType : String)
  | recordRuleTargetMissing (targetType : String)
  | recordRuleFieldMissing
  | finalStatusAssigned (status : String)
  | noStatuses
  | duplicateStatus (status : String)
  | initialStatusCount (count : Nat)
  | duplicateAction (action : String)
  | unknownStatus (action status : String)
  | statusTakesNoAssignees (status : String)
  | noAssignees
  | tooManyAssignees (status : String) (count : Nat)
  | noProcessToEnable (app : String)
  | titleMissing (rule : String)
  | notifyTargetMissing (rule : String)
  | notifyFieldMissing (rule : String)
  | unknownRule (rule : String)
  | ruleListedTwice (rule : String)
  | incompleteOrder (expected listed : Nat)
  | tooManyRules
  | foreignRows (app : String)
  | unknownFieldCode (code : String)
  | badStatus
  | inputForbidden (type code : String)
  | requiredEmpty (codes : List String)
  | recordNumberChanged
  | blankComment
  | notRelatedRecords (code : String)
  | managedWithoutProcess (app : String)
  | settingMissing (name : String)
  | symbolTooLong (symbol : String)
  | unreadableFile (path reason : String)
  | badFile (path : String)
  deriving Repr

/-- Something that does not exist. -/
inductive Missing where
  | app (name : String)
  | field (code : String)
  | record (id inApp : String)
  | process (inApp : String)
  | relatedApp (name : String)
  deriving Repr, DecidableEq

/-- A clash with stored state. -/
inductive Clash where
  | fieldRemoved (code : String)
  | fieldCodeChanged (stored code : String)
  | fieldReferenced (code : String) (dependants : List String)
  | appCodeTaken (code : String)
  | fieldIdTaken (id app : String)
  | recordExists (record app : String)
  | recordNumberTaken (number : Nat) (app : String)
  | statusChanged (record : String) (expected stored : Option String)
  | valueTaken (code : String)
  deriving Repr, DecidableEq

/-- An access that rules deny. -/
inductive Denial where
  | manage (actor app : String)
  | viewApp (actor app : String)
  | add (actor app : String)
  | view (actor record : String)
  | edit (actor record : String)
  | delete (actor record : String)
  | assign (actor record : String)
  | reservedKey (key : String)
  | readOnlyField (code : String)
  | hiddenField (code : String)
  deriving Repr, DecidableEq

/-- A state that should not occur. -/
inductive Breakdown where
  | noInitialStatus
  | storeUnavailable
  deriving Repr, DecidableEq

/-- Why an operation has no result. All but the last are refusals, which are told to the caller. -/
inductive Fault where
  | invalid (cause : Invalid)
  | notFound (cause : Missing)
  | conflict (cause : Clash)
  | forbidden (cause : Denial)
  | internal (cause : Breakdown)
  /-- A sum is beyond 64 bits. The operation breaks off there, and nobody is answered. -/
  | overflow
  deriving Repr

namespace Invalid

def message : Invalid → String
  | .blankText => "value must not be empty or whitespace"
  | .zeroRecordNumber => "record_number must be greater than zero"
  | .unreadableCondition => "configuration invalid: condition JSON"
  | .unknownOperator field operator =>
      "condition on '" ++ field ++ "' uses unknown operator '" ++ operator ++ "'"
  | .listOperandMissing field operator =>
      "condition on '" ++ field ++ "' with operator '" ++ operator ++ "' requires values"
  | .scalarOperandMissing field operator =>
      "condition on '" ++ field ++ "' with operator '" ++ operator ++ "' requires a scalar value"
  | .zeroTextLength => "text max length must be greater than zero"
  | .numberBounds min max =>
      "number min " ++ Decimal.messageText min ++ " must not exceed max " ++ Decimal.messageText max
  | .fileSizeLimit limit => "max_file_size must be between 1 and " ++ toString limit ++ " MB"
  | .fileCountLimit limit => "max_files must be between 1 and " ++ toString limit
  | .blankCode name => name ++ " must not be empty"
  | .repeatedLookupTarget code => "lookup copies into '" ++ code ++ "' more than once"
  | .badFormula formula cause => "invalid formula '" ++ formula ++ "': " ++ cause.message
  | .formulaDecimals limit => "formula_decimals must not exceed " ++ toString limit
  | .rowBounds min max =>
      "subtable min_rows " ++ toString min ++ " must not exceed max_rows " ++ toString max
  | .noSubFields => "subtables require at least one sub-field"
  | .unsupportedSubField code type =>
      "sub-field '" ++ code ++ "' has unsupported type '" ++ type ++ "'"
  | .duplicateSubField code => "duplicate sub-field code '" ++ code ++ "'"
  | .optionsMissing type code => type ++ " field '" ++ code ++ "' requires options"
  | .duplicateOption value code =>
      "duplicate option value '" ++ value ++ "' on field '" ++ code ++ "'"
  | .optionsForbidden type code =>
      "options are not allowed on " ++ type ++ " field '" ++ code ++ "'"
  | .uniqueForbidden type code =>
      "unique constraints are not supported for " ++ type ++ " field '" ++ code ++ "'"
  | .requiredForbidden type code => type ++ " field '" ++ code ++ "' cannot be required"
  | .columnSpan code => "col_span of field '" ++ code ++ "' must be greater than zero"
  | .defaultForbidden type code => type ++ " field '" ++ code ++ "' cannot have a default value"
  | .typeMismatch code type =>
      "value for '" ++ code ++ "' does not match field type '" ++ type ++ "'"
  | .textTooLong code max => "value for '" ++ code ++ "' exceeds " ++ toString max ++ " characters"
  | .belowMinimum code min =>
      "value for '" ++ code ++ "' is below minimum " ++ Decimal.messageText min
  | .aboveMaximum code max =>
      "value for '" ++ code ++ "' is above maximum " ++ Decimal.messageText max
  | .badLink code flavour => "value for '" ++ code ++ "' is not a valid " ++ flavour ++ " link"
  | .tooManyFiles code max => "'" ++ code ++ "' accepts at most " ++ toString max ++ " files"
  | .fileTooLarge code megabytes =>
      "a file in '" ++ code ++ "' exceeds " ++ toString megabytes ++ " MB"
  | .valueForbidden code type =>
      "'" ++ code ++ "' is a " ++ type ++ " field and does not accept values"
  | .notAnOption choice code => "'" ++ choice ++ "' is not an option of '" ++ code ++ "'"
  | .rowsExpected code => "subtable '" ++ code ++ "' expects a list of rows"
  | .tooFewRows code min =>
      "subtable '" ++ code ++ "' requires at least " ++ toString min ++ " rows"
  | .tooManyRows code max =>
      "subtable '" ++ code ++ "' accepts at most " ++ toString max ++ " rows"
  | .rowNotObject code => "subtable '" ++ code ++ "' rows must be objects"
  | .unknownSubField code key => "subtable '" ++ code ++ "' has no sub-field '" ++ key ++ "'"
  | .requiredCellMissing code column =>
      "subtable '" ++ code ++ "' row is missing required '" ++ column ++ "'"
  | .badFieldCode code =>
      "field code '" ++ code ++
        "' must start with a letter or '_' and contain only letters, digits and '_'"
  | .reservedFieldCode code => "field code '" ++ code ++ "' is reserved for record metadata"
  | .duplicateFieldCode code app => "duplicate field code '" ++ code ++ "' in app '" ++ app ++ "'"
  | .repeatedAutoField app type => "app '" ++ app ++ "' already has a " ++ type ++ " field"
  | .noSuchField code app => "field '" ++ code ++ "' does not exist in app '" ++ app ++ "'"
  | .lookupTarget lookup type target =>
      "lookup '" ++ lookup ++ "' cannot copy into " ++ type ++ " field '" ++ target ++ "'"
  | .unreadableFormula code cause => "invalid formula on '" ++ code ++ "': " ++ cause.message
  | .unknownOperand code operand =>
      "formula on '" ++ code ++ "' references unknown field '" ++ operand ++ "'"
  | .nonNumericOperand code operand =>
      "formula on '" ++ code ++ "' references non-numeric field '" ++ operand ++ "'"
  | .circularFormula code => "calculated field '" ++ code ++ "' depends on itself"
  | .everyoneWithTarget => "everyone rules must not carry a target_id"
  | .ruleTargetMissing targetType => targetType ++ " rules require a target_id"
  | .recordRuleTargetMissing targetType => targetType ++ " record rules require a target_id"
  | .recordRuleFieldMissing => "field_value record rules require a target_field"
  | .finalStatusAssigned status =>
      "final status '" ++ status ++ "' must not carry an assignee_type"
  | .noStatuses => "process definitions require at least one status"
  | .duplicateStatus status => "duplicate status id '" ++ status ++ "'"
  | .initialStatusCount count =>
      "process definitions require exactly one initial status, found " ++ toString count
  | .duplicateAction action => "duplicate action id '" ++ action ++ "'"
  | .unknownStatus action status =>
      "action '" ++ action ++ "' references unknown status '" ++ status ++ "'"
  | .statusTakesNoAssignees status => "status '" ++ status ++ "' does not take assignees"
  | .noAssignees => "at least one assignee is required"
  | .tooManyAssignees status count =>
      "status '" ++ status ++ "' takes exactly one assignee, got " ++ toString count
  | .noProcessToEnable app => "app '" ++ app ++ "' has no process definition to enable"
  | .titleMissing rule => "notification rule '" ++ rule ++ "' requires a title template"
  | .notifyTargetMissing rule => "notification rule '" ++ rule ++ "' requires notify_target_id"
  | .notifyFieldMissing rule => "notification rule '" ++ rule ++ "' requires notify_target_field"
  | .unknownRule rule => "unknown rule id '" ++ rule ++ "'"
  | .ruleListedTwice rule => "rule id '" ++ rule ++ "' listed twice"
  | .incompleteOrder expected listed =>
      "reorder must list all " ++ toString expected ++ " rules, got " ++ toString listed
  | .tooManyRules => "too many rules to reorder"
  | .foreignRows app => "replacement rows must all belong to app '" ++ app ++ "'"
  | .unknownFieldCode code => "unknown field code '" ++ code ++ "'"
  | .badStatus => "status must be a string or null"
  | .inputForbidden type code => type ++ " field '" ++ code ++ "' does not accept input"
  | .requiredEmpty codes => "required fields are empty: " ++ String.intercalate ", " codes
  | .recordNumberChanged => "record_number cannot change on update"
  | .blankComment => "comment must not be empty"
  | .notRelatedRecords code => "field '" ++ code ++ "' is not a related records field"
  | .managedWithoutProcess app =>
      "app '" ++ app ++ "' enables process management without a process definition"
  | .settingMissing name => name ++ " is required"
  | .symbolTooLong symbol =>
      "DYNAPP_CURRENCY_SYMBOL must be at most 8 characters, got '" ++ symbol ++ "'"
  | .unreadableFile path reason => "cannot read '" ++ path ++ "': " ++ reason
  | .badFile path => "configuration invalid: '" ++ path ++ "'"

end Invalid

namespace Missing

def message : Missing → String
  | .app name => "app '" ++ name ++ "' does not exist"
  | .field code => "field '" ++ code ++ "' does not exist"
  | .record id inApp => "record '" ++ id ++ "' does not exist in app '" ++ inApp ++ "'"
  | .process inApp => "app '" ++ inApp ++ "' has no process definition"
  | .relatedApp name => "related app '" ++ name ++ "' does not exist"

end Missing

namespace Clash

def message : Clash → String
  | .fieldRemoved code =>
      "field '" ++ code ++ "' cannot be removed once saved; retire it instead"
  | .fieldCodeChanged stored code =>
      "field code '" ++ stored ++ "' is immutable once saved and cannot become '" ++ code ++ "'"
  | .fieldReferenced code dependants =>
      "field '" ++ code ++ "' is still referenced by " ++ String.intercalate ", " dependants
  | .appCodeTaken code => "app code '" ++ code ++ "' is already used"
  | .fieldIdTaken id app => "field id '" ++ id ++ "' is already used in app '" ++ app ++ "'"
  | .recordExists record app => "record '" ++ record ++ "' already exists in app '" ++ app ++ "'"
  | .recordNumberTaken number app =>
      "record number " ++ toString number ++ " is already used in app '" ++ app ++ "'"
  | .statusChanged record expected stored =>
      "record '" ++ record ++ "' changed status from '" ++ expected.getD "<none>" ++ "' to '" ++
        stored.getD "<none>" ++ "' concurrently"
  | .valueTaken code => "value of unique field '" ++ code ++ "' is already used"

end Clash

namespace Denial

def message : Denial → String
  | .manage actor app => "actor '" ++ actor ++ "' cannot manage app '" ++ app ++ "'"
  | .viewApp actor app => "actor '" ++ actor ++ "' cannot view app '" ++ app ++ "'"
  | .add actor app => "actor '" ++ actor ++ "' cannot add records to app '" ++ app ++ "'"
  | .view actor record => "actor '" ++ actor ++ "' cannot view record '" ++ record ++ "'"
  | .edit actor record => "actor '" ++ actor ++ "' cannot edit record '" ++ record ++ "'"
  | .delete actor record => "actor '" ++ actor ++ "' cannot delete record '" ++ record ++ "'"
  | .assign actor record => "actor '" ++ actor ++ "' cannot assign record '" ++ record ++ "'"
  | .reservedKey key => "reserved key '" ++ key ++ "' cannot be written"
  | .readOnlyField code => "field '" ++ code ++ "' is read-only for this actor"
  | .hiddenField code => "field '" ++ code ++ "' is hidden for this actor"

end Denial

namespace Breakdown

def message : Breakdown → String
  | .noInitialStatus => "process definition has no initial status"
  | .storeUnavailable => "store unavailable"

end Breakdown

namespace Fault

def kind : Fault → String
  | .invalid _ => "Validation"
  | .notFound _ => "NotFound"
  | .conflict _ => "Conflict"
  | .forbidden _ => "Forbidden"
  | .internal _ => "Internal"
  | .overflow => "Panic"

/-- The fault in words, behind its kind. -/
def message : Fault → String
  | .invalid cause => "validation error: " ++ cause.message
  | .notFound cause => "not found: " ++ cause.message
  | .conflict cause => "conflict: " ++ cause.message
  | .forbidden cause => "forbidden: " ++ cause.message
  | .internal cause => "internal error: " ++ cause.message
  | .overflow => "attempt to add with overflow"

end Fault

/-- The result of an operation that may be refused. -/
abbrev Outcome (α : Type) := Except Fault α

/-- Succeed where a check holds, and refuse with the given cause otherwise. -/
def ensure (holds : Bool) (cause : Invalid) : Outcome Unit :=
  if holds then .ok () else .error (.invalid cause)

end RecordApps
