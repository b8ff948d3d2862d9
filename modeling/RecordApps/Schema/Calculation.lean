import RecordApps.Schema.Basic

/-! # Order of calculation

Calculated fields may use other calculated fields. They are computed in an order in which
every field comes after those its formula reads; fields that need their own value have no
such order.
-/

namespace RecordApps

/-- An active calculated field and its formula. -/
structure Calculation where
  field : FieldDefinition
  formula : Formula
  deriving Repr

namespace Calculation

def code (c : Calculation) : String :=
  c.field.code.text

/-- The calculated fields that the field with a code needs, and the field itself, behind
    those already in the order. `path` holds the fields that wait for this one, at most `room`
    others being left. -/
def visit (calculations : KeyMap Calculation) :
    (room : Nat) → (path : List String) → List Calculation → String → Outcome (List Calculation)
  | 0, _, _, code => .error (.invalid (.circularFormula code))
  | room + 1, path, ordered, code =>
      if ordered.any (·.code == code) then .ok ordered
      else if path.contains code then .error (.invalid (.circularFormula code))
      else
        match calculations.get? code with
        | none => .ok ordered
        | some c => do
            let needed ← c.formula.fieldCodes.foldlM (visit calculations room (code :: path)) ordered
            return needed ++ [c]

/-- Every field after those it needs, otherwise in the order of the codes. -/
def inOrder (calculations : KeyMap Calculation) : Outcome (List Calculation) :=
  calculations.keys.foldlM (visit calculations (calculations.entries.length + 1) []) []

end Calculation

namespace AppSchema

/-- Refuse an operand that is no active numeric field. -/
def checkOperand (schema : AppSchema) (code operand : String) : Outcome Unit :=
  match schema.field? operand with
  | none => .error (.invalid (.unknownOperand code operand))
  | some f => ensure f.type.isNumeric (.nonNumericOperand code operand)

/-- The calculation of a field, if it is calculated. -/
def calculation? (schema : AppSchema) (f : FieldDefinition) : Outcome (Option Calculation) :=
  match f.type with
  | .calculated config =>
      match Formula.parse config.formula with
      | .error cause => .error (.invalid (.unreadableFormula f.code.text cause))
      | .ok formula => do
          formula.fieldCodes.forM (schema.checkOperand f.code.text)
          return some ⟨f, formula⟩
  | _ => .ok none

/-- The active calculated fields by their codes. -/
def calculations (schema : AppSchema) : Outcome (KeyMap Calculation) := do
  let found ← schema.activeFields.mapM schema.calculation?
  return KeyMap.ofList (found.filterMap fun c => c.map fun c => (c.code, c))

/-- The active calculated fields in an order in which they can be computed. -/
def calculationOrder (schema : AppSchema) : Outcome (List Calculation) := do
  Calculation.inOrder (← schema.calculations)

end AppSchema

end RecordApps
