import RecordApps.Decimal.Reader
import RecordApps.Text.Blank
import RecordApps.Value.Written

/-! # Values as numbers and as text

Conditions, formulas and filters compare values of different kinds through these readings.
-/

namespace RecordApps.Value

/-- A value as a number: a number itself or a text that spells a finite one. -/
def asNumber : Value → Option Float
  | .int n => some (Float.ofInt n)
  | .float x => some x
  | .text s => (Decimal.readFloat? (Text.trimChars s.toList)).filter Float.isFinite
  | _ => none

mutual

/-- A value as shown: null is empty, the items of a list stand between commas and an object
    is shown as stored. -/
def shown : Value → List Char
  | .null => []
  | .bool flag => (if flag then "true" else "false").toList
  | .int n => (toString n).toList
  | .float x => (Decimal.storedText x).toList
  | .text s => s.toList
  | .list [] => []
  | .list (item :: rest) => shown item ++ shownItems rest
  | .object entries => written (.object entries)

/-- The items after the first, each behind a comma. -/
def shownItems : List Value → List Char
  | [] => []
  | item :: rest => ',' :: shown item ++ shownItems rest

end

def asText (v : Value) : String :=
  String.ofList v.shown

end RecordApps.Value
