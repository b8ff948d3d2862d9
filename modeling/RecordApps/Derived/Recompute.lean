import RecordApps.Derived.Lookup
import RecordApps.Schema.Calculation

/-! # Derived values

The values of lookups and calculated fields follow from the other values of a record. Lookups
are refreshed first; then every calculated field is computed after those its formula reads.
-/

namespace RecordApps

/-- What a refresh of derived values did. -/
structure DerivedReport where
  /-- Lookup fields that copied values. -/
  lookupsApplied : List String
  /-- Lookup fields whose key no record has; their targets keep their values. -/
  lookupsMissed : List String
  /-- Why calculated fields have no value, by field code. -/
  formulaErrors : KeyMap FormulaFault
  /-- Which operands were taken as zero, by field code. -/
  formulaWarnings : KeyMap (List FormulaWarning)
  /-- Why the calculated fields could not be computed at all. -/
  configurationError : Option Fault
  deriving Repr

namespace DerivedReport

/-- The report of a refresh that did nothing. -/
def empty : DerivedReport :=
  ⟨[], [], KeyMap.empty, KeyMap.empty, none⟩

end DerivedReport

/-- The data of a record and what has been done to them. -/
structure Refresh where
  data : Fields
  report : DerivedReport
  deriving Repr

namespace Refresh

def applyLookup (store : RecordStore) (state : Refresh) (code : String)
    (config : LookupConfig) : Refresh :=
  let report := state.report
  match config.resolve store (state.data.value code) with
  | .ok copied =>
      ⟨state.data.insertAll copied.entries,
        { report with lookupsApplied := report.lookupsApplied ++ [code] }⟩
  | .error _ =>
      ⟨state.data, { report with lookupsMissed := report.lookupsMissed ++ [code] }⟩

/-- Refresh a field if it is a lookup whose key has changed. -/
def refreshLookup (store : RecordStore) (changed : Option (List String)) (state : Refresh)
    (f : FieldDefinition) : Refresh :=
  match f.type with
  | .lookup config =>
      let code := f.code.text
      if changed.all (·.contains code) then state.applyLookup store code config else state
  | _ => state

/-- Compute one calculated field. Without a value it becomes null. -/
def calculate (state : Refresh) (c : Calculation) : Refresh :=
  let report := state.report
  match c.formula.evaluate state.data with
  | .ok result =>
      let report :=
        if result.warnings.isEmpty then report
        else { report with
          formulaWarnings := report.formulaWarnings.insert c.code result.warnings }
      ⟨state.data.insert c.code (.float result.value), report⟩
  | .error cause =>
      ⟨state.data.insert c.code .null,
        { report with formulaErrors := report.formulaErrors.insert c.code cause }⟩

/-- Compute all calculated fields, if they can be put in order. -/
def calculateAll (schema : AppSchema) (state : Refresh) : Refresh :=
  match schema.calculationOrder with
  | .ok order => order.foldl calculate state
  | .error fault => { state with report := { state.report with configurationError := some fault } }

end Refresh

namespace AppSchema

/-- Refresh the derived values of a record. Where the changed fields are given, only lookups
    among them are refreshed, so that values entered into their targets survive. -/
def recompute (schema : AppSchema) (store : RecordStore) (data : Fields)
    (changed : Option (List String)) : Refresh :=
  let looked := schema.activeFields.foldl (Refresh.refreshLookup store changed) ⟨data, .empty⟩
  looked.calculateAll schema

/-- A calculated value as it is shown, empty for anything but a number. -/
def formatValue (config : FormulaConfig) (symbol : String) (value : Value) : String :=
  match value.float? with
  | some x => config.format.render x config.decimals symbol
  | none => ""

/-- The calculated values of a record as they are shown, by field code. -/
def formatted (schema : AppSchema) (data : Fields) (symbol : String) : KeyMap String :=
  KeyMap.ofList <| schema.activeFields.filterMap fun f =>
    match f.type with
    | .calculated config =>
        (data.get? f.code.text).map fun v => (f.code.text, formatValue config symbol v)
    | _ => none

end AppSchema

namespace DerivedReport

def toValue (report : DerivedReport) : Value :=
  .object
    [("configuration_error",
        match report.configurationError with
        | some fault => .text fault.message
        | none => .null),
     ("formula_errors",
        .object (report.formulaErrors.entries.map fun entry => (entry.1, .text entry.2.message))),
     ("formula_warnings",
        .object (report.formulaWarnings.entries.map fun entry =>
          (entry.1, .list (entry.2.map fun warning => .text warning.message)))),
     ("lookups_applied", .list (report.lookupsApplied.map .text)),
     ("lookups_missed", .list (report.lookupsMissed.map .text))]

end DerivedReport

end RecordApps
