/-! # Capabilities

What an actor may do with an app, with one of its records, and with one of its fields.
-/

namespace RecordApps

/-- What may be done with an app. -/
structure AppCapabilities where
  /-- View records. -/
  mayView : Bool
  /-- Add records. -/
  mayAdd : Bool
  /-- Edit records. -/
  mayEdit : Bool
  /-- Delete records. -/
  mayDelete : Bool
  /-- Manage settings. -/
  mayManage : Bool
  /-- Export records. -/
  mayExport : Bool
  /-- Import records. -/
  mayImport : Bool
  deriving Repr, DecidableEq

def AppCapabilities.none : AppCapabilities :=
  ⟨false, false, false, false, false, false, false⟩

/-- What may be done with a record. -/
structure RecordCapabilities where
  /-- View the record. -/
  mayView : Bool
  /-- Edit the record. -/
  mayEdit : Bool
  /-- Delete the record. -/
  mayDelete : Bool
  deriving Repr, DecidableEq

/-- What may be done with a field, from least to most. -/
inductive AccessLevel where
  /-- Neither read nor written. -/
  | hidden
  /-- Read. -/
  | view
  /-- Read and written. -/
  | edit
  deriving Repr, DecidableEq

namespace RecordCapabilities

def intersect (a b : RecordCapabilities) : RecordCapabilities :=
  ⟨a.mayView && b.mayView, a.mayEdit && b.mayEdit, a.mayDelete && b.mayDelete⟩

/-- Whether everything the first set allows is allowed by the second. -/
def isSubsetOf (a b : RecordCapabilities) : Bool :=
  (!a.mayView || b.mayView) && (!a.mayEdit || b.mayEdit) && (!a.mayDelete || b.mayDelete)

/-- The most that any field of a record allows. -/
def ceiling (record : RecordCapabilities) : AccessLevel :=
  if record.mayEdit then .edit
  else if record.mayView then .view
  else .hidden

end RecordCapabilities

namespace AppCapabilities

/-- What the app grants on every record. -/
def onRecords (app : AppCapabilities) : RecordCapabilities :=
  ⟨app.mayView, app.mayEdit, app.mayDelete⟩

/-- What the app grants on a record that is being created. -/
def onCreation (app : AppCapabilities) : RecordCapabilities :=
  ⟨app.mayAdd, app.mayAdd, false⟩

end AppCapabilities

namespace AccessLevel

def rank : AccessLevel → Nat
  | .hidden => 0
  | .view => 1
  | .edit => 2

def lower (a b : AccessLevel) : AccessLevel :=
  if a.rank ≤ b.rank then a else b

end AccessLevel

end RecordApps
