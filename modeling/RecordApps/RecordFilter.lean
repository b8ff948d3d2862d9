import RecordApps.Record
import RecordApps.Value.Coerce

/-! # Record filters

A filter names values that fields have to hold, and how many records are wanted at most.
Values are compared by their text, so a number and a text that spells it are the same key.
-/

namespace RecordApps

/-- Which records are wanted, and how many. -/
structure RecordFilter where
  /-- Field codes with the values they have to hold. -/
  equals : List (String × Value)
  /-- Largest number of records. -/
  limit : Option Nat
  deriving Repr

namespace RecordFilter

def all : RecordFilter :=
  ⟨[], none⟩

/-- The records with a value under a field code. -/
def having (code : String) (value : Value) : RecordFilter :=
  ⟨[(code, value)], none⟩

/-- The filter with another bound on the number of records. -/
def withLimit (filter : RecordFilter) (limit : Option Nat) : RecordFilter :=
  { filter with limit := limit }

/-- The field codes of a filter in order. -/
def fieldCodes (filter : RecordFilter) : List String :=
  filter.equals.map Prod.fst

/-- Whether a field holds a value; null holds none. -/
def holdsValue (data : Fields) (code : String) (expected : Value) : Bool :=
  let actual := data.value code
  !actual.isNull && actual.asText == expected.asText

/-- Whether the data of a record hold every value of the filter. -/
def accepts (filter : RecordFilter) (data : Fields) : Bool :=
  filter.equals.all fun (code, expected) => holdsValue data code expected

def cut {α : Type} (filter : RecordFilter) (items : List α) : List α :=
  match filter.limit with
  | some limit => items.take limit
  | none => items

end RecordFilter

end RecordApps
