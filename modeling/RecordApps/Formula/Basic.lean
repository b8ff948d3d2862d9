import RecordApps.Formula.Token

/-! # Formulas

A formula text obeys the grammar

* `expr = term (('+' | '-') term)*`
* `term = factor (('*' | '/') factor)*`
* `factor = number | name | '-' factor | '+' factor | '(' expr ')'`

where parentheses and signs may nest `maxFormulaNesting` deep.
-/

namespace RecordApps

/-- Tokens that are still to be read. -/
abbrev Tokens := List (Nat × Token)

/-- An expression read off the front of a list of tokens, and the tokens behind it. -/
abbrev ExprStep := Tokens → Except FormulaFault (Expr × Tokens)

namespace Expr

def isSumOp : Arith → Bool
  | .add | .subtract => true
  | _ => false

def isProductOp : Arith → Bool
  | .multiply | .divide => true
  | _ => false

/-- Read further operands as long as one of the given operators is in front. -/
def chain (operand : ExprStep) (accepts : Arith → Bool) :
    (fuel : Nat) → Expr → ExprStep
  | 0, left, tokens => .ok (left, tokens)
  | fuel + 1, left, tokens =>
      match tokens with
      | (position, .op op) :: rest =>
          if accepts op then do
            let (right, rest) ← operand rest
            chain operand accepts fuel (.binary op left right) rest
          else .ok (left, (position, .op op) :: rest)
      | _ => .ok (left, tokens)

/-- One operand, or several with operators between them, read from the left. -/
def chained (operand : ExprStep) (accepts : Arith → Bool) : ExprStep := fun tokens => do
  let (left, rest) ← operand tokens
  chain operand accepts rest.length left rest

def sum (factor : ExprStep) : ExprStep :=
  chained (chained factor isProductOp) isSumOp

/-- A factor inside which parentheses and signs may nest `room` deep; `stop` is the position
    behind the last token of the formula. -/
def factor (stop : Nat) : (room : Nat) → ExprStep
  | _, [] => .error (.malformed stop .endOfFormula)
  | room, (position, token) :: rest =>
      match token with
      | .number x => .ok (.number x, rest)
      | .name code =>
          match rest with
          | (position, .opening) :: _ => .error (.malformed position (.functionCall code))
          | _ => .ok (.field code, rest)
      | .op .subtract =>
          match room with
          | 0 => .error (.malformed position .tooDeep)
          | room + 1 => do
              let (inner, rest) ← factor stop room rest
              return (.negate inner, rest)
      | .op .add =>
          match room with
          | 0 => .error (.malformed position .tooDeep)
          | room + 1 => factor stop room rest
      | .opening =>
          match room with
          | 0 => .error (.malformed position .tooDeep)
          | room + 1 => do
              let (inner, rest) ← sum (factor stop room) rest
              match rest with
              | (_, .closing) :: rest => return (inner, rest)
              | (position, _) :: _ => .error (.malformed position .closingExpected)
              | [] => .error (.malformed stop .unclosed)
      | _ => .error (.malformed position .operandExpected)

def ofTokens (tokens : Tokens) : Except FormulaFault Expr := do
  let stop := (tokens.getLast?.map fun (position, _) => position + 1).getD 0
  let (expr, rest) ← sum (factor stop maxFormulaNesting) tokens
  match rest with
  | [] => return expr
  | (position, _) :: _ => .error (.malformed position .trailingInput)

end Expr

/-- A formula text with its meaning. -/
structure Formula where
  source : String
  expr : Expr
  deriving Repr, DecidableEq

namespace Formula

def parse (source : String) : Except FormulaFault Formula := do
  let cs := source.toList
  if maxFormulaLength < cs.length then .error (.malformed maxFormulaLength .tooLong)
  else
    let tokens ← Token.scan 0 cs
    let expr ← Expr.ofTokens tokens
    return ⟨source, expr⟩

/-- The field codes a formula reads, in order and each once. -/
def fieldCodes (f : Formula) : List String :=
  (KeyMap.ofList (f.expr.fields.map (·, ()))).keys

/-- The value of a formula on the fields of a record. -/
def evaluate (f : Formula) (data : Fields) : Except FormulaFault Evaluated := do
  let result ← f.expr.eval data
  if result.value.isFinite then return result else .error .nonFinite

end Formula

/-- How a calculated field is shown. -/
inductive FormulaFormat where
  /-- A plain number. -/
  | number
  /-- A number behind a currency symbol. -/
  | currency
  /-- A fraction as a percentage. -/
  | percent
  deriving Repr, DecidableEq

namespace FormulaFormat

def names : List (String × FormulaFormat) :=
  [("number", .number), ("currency", .currency), ("percent", .percent)]

def name : FormulaFormat → String
  | .number => "number"
  | .currency => "currency"
  | .percent => "percent"

/-- A value with a fixed number of places. A currency puts the sign of a negative amount in
    front of its symbol. -/
def render (format : FormulaFormat) (value : Float) (places : Nat) (symbol : String) : String :=
  match format with
  | .number => Decimal.fixedText value places
  | .currency =>
      if value < 0.0 then "-" ++ symbol ++ Decimal.fixedText value.abs places
      else symbol ++ Decimal.fixedText value places
  | .percent => Decimal.fixedText (value * 100.0) places ++ "%"

end FormulaFormat

end RecordApps
