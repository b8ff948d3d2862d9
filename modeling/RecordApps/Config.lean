import RecordApps.Fault
import RecordApps.Text.Blank

/-! # Settings of the command line -/

namespace RecordApps

/-- What the command line is told by its environment. -/
structure Config where
  /-- File with the definitions and records to start from. -/
  bundlePath : String
  /-- File with the request. -/
  requestPath : String
  /-- Currency symbol of formatted values. -/
  currencySymbol : String
  /-- What stands before record numbers in notifications. -/
  numberLead : String
  deriving Repr, DecidableEq

namespace Config

/-- The longest currency symbol, in characters. -/
def maxSymbolLength : Nat := 8

/-- Name of the variable with the path of the bundle. -/
def bundleVariable : String := "DYNAPP_BUNDLE_PATH"

/-- Name of the variable with the path of the request. -/
def requestVariable : String := "DYNAPP_MUTATION_PATH"

/-- Name of the variable with the currency symbol. -/
def symbolVariable : String := "DYNAPP_CURRENCY_SYMBOL"

/-- Name of the variable with what stands before record numbers. -/
def leadVariable : String := "DYNAPP_RECORD_NUMBER_PREFIX"

def names : List String :=
  [bundleVariable, requestVariable, symbolVariable, leadVariable]

/-- A variable that has to say something. -/
def require (env : String → Option String) (name : String) : Outcome String :=
  match (env name).filter fun s => !Text.isBlank s with
  | some s => .ok s
  | none => .error (.invalid (.settingMissing name))

def load (env : String → Option String) : Outcome Config := do
  let bundlePath ← require env bundleVariable
  let requestPath ← require env requestVariable
  let currencySymbol := (env symbolVariable).getD ""
  let numberLead := (env leadVariable).getD ""
  ensure (currencySymbol.length ≤ maxSymbolLength) (.symbolTooLong currencySymbol)
  return ⟨bundlePath, requestPath, currencySymbol, numberLead⟩

end Config

end RecordApps
