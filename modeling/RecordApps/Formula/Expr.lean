import RecordApps.Formula.Fault
import RecordApps.Value.Coerce

/-! # Formula expressions

A formula is arithmetic over numbers and field codes. A field that is missing or holds no
number counts as zero, with a warning.
-/

namespace RecordApps

/-- An arithmetic operation on two operands. -/
inductive Arith where
  /-- Sum. -/
  | add
  /-- Difference. -/
  | subtract
  /-- Product. -/
  | multiply
  /-- Quotient. -/
  | divide
  deriving Repr, DecidableEq

namespace Arith

/-- The result of an operation; a divisor may not be zero. -/
def apply (op : Arith) (left right : Float) : Except FormulaFault Float :=
  match op with
  | .add => .ok (left + right)
  | .subtract => .ok (left - right)
  | .multiply => .ok (left * right)
  | .divide => if right == 0.0 then .error .divideByZero else .ok (left / right)

end Arith

/-- An arithmetic expression over field codes. -/
inductive Expr where
  /-- A number. -/
  | number (x : Float)
  /-- The value of a field. -/
  | field (code : String)
  /-- The negative of an expression. -/
  | negate (inner : Expr)
  /-- An operation on two expressions. -/
  | binary (op : Arith) (left right : Expr)
  deriving Repr, DecidableEq

/-- A field that was taken as zero. -/
inductive FormulaWarning where
  /-- The field is absent or null. -/
  | missing (code : String)
  /-- The field holds something that is no number. -/
  | nonNumeric (code : String)
  deriving Repr, DecidableEq

namespace FormulaWarning

def message : FormulaWarning → String
  | .missing code => "missing operand '" ++ code ++ "'"
  | .nonNumeric code => "non-numeric operand '" ++ code ++ "'"

end FormulaWarning

/-- A value and the fields that were taken as zero on the way, in reading order. -/
structure Evaluated where
  value : Float
  warnings : List FormulaWarning
  deriving Repr, DecidableEq

namespace Expr

/-- The field codes of an expression in reading order. -/
def fields : Expr → List String
  | .number _ => []
  | .field code => [code]
  | .negate inner => inner.fields
  | .binary _ left right => left.fields ++ right.fields

def operand (data : Fields) (code : String) : Evaluated :=
  match data.get? code with
  | none | some .null => ⟨0.0, [.missing code]⟩
  | some v =>
      match v.asNumber with
      | some x => ⟨x, []⟩
      | none => ⟨0.0, [.nonNumeric code]⟩

/-- The value of an expression on the fields of a record, possibly not finite. -/
def eval (data : Fields) : Expr → Except FormulaFault Evaluated
  | .number x => .ok ⟨x, []⟩
  | .field code => .ok (operand data code)
  | .negate inner => do
      let result ← inner.eval data
      return ⟨-result.value, result.warnings⟩
  | .binary op left right => do
      let a ← left.eval data
      let b ← right.eval data
      let value ← op.apply a.value b.value
      return ⟨value, a.warnings ++ b.warnings⟩

end Expr

end RecordApps
