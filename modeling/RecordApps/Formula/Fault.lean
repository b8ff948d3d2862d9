/-! # Why a formula has no value

A formula text may break the grammar, and a formula that obeys it may still have no finite
value on some record.
-/

namespace RecordApps

/-- The longest formula text, in characters. -/
def maxFormulaLength : Nat := 1024

/-- The deepest nesting of parentheses and signs in a formula. -/
def maxFormulaNesting : Nat := 32

/-- What breaks the grammar of formulas. -/
inductive SyntaxFault where
  | tooLong
  | badNumber (literal : String)
  | strayCharacter (c : Char)
  | trailingInput
  | endOfFormula
  | functionCall (name : String)
  | operandExpected
  | closingExpected
  | unclosed
  | tooDeep
  deriving Repr, DecidableEq

namespace SyntaxFault

def message : SyntaxFault → String
  | .tooLong => s!"formula is longer than {maxFormulaLength} characters"
  | .badNumber literal => "invalid number literal '" ++ literal ++ "'"
  | .strayCharacter c => "unexpected character '" ++ c.toString ++ "'"
  | .trailingInput => "unexpected trailing input"
  | .endOfFormula => "unexpected end of formula"
  | .functionCall name => "function calls are not supported ('" ++ name ++ "')"
  | .operandExpected => "expected a number, field or '('"
  | .closingExpected => "expected ')'"
  | .unclosed => "unclosed '('"
  | .tooDeep => s!"formula nests deeper than {maxFormulaNesting} levels"

end SyntaxFault

/-- Why a formula has no value. -/
inductive FormulaFault where
  | malformed (position : Nat) (cause : SyntaxFault)
  | divideByZero
  | nonFinite
  deriving Repr, DecidableEq

namespace FormulaFault

def message : FormulaFault → String
  | .malformed position cause =>
      "syntax error at position " ++ toString position ++ ": " ++ cause.message
  | .divideByZero => "division by zero"
  | .nonFinite => "result is not a finite number"

end FormulaFault

end RecordApps
