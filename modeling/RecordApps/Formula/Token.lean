import RecordApps.Decimal.Reader
import RecordApps.Formula.Expr
import RecordApps.Text.Blank

/-! # Formula tokens

A formula text is cut into numbers, names, operators and parentheses. Runs are as long as
they can be: all digits and points in a row belong to one number, all letters, digits and
underscores in a row to one name.
-/

namespace RecordApps

/-- A piece of a formula text. -/
inductive Token where
  /-- A number. -/
  | number (x : Float)
  /-- A field code. -/
  | name (code : String)
  /-- An operator. -/
  | op (op : Arith)
  /-- An opening parenthesis. -/
  | opening
  /-- A closing parenthesis. -/
  | closing
  deriving Repr, DecidableEq

namespace Token

/-- The token that is one character by itself. -/
def ofSymbol? (c : Char) : Option Token :=
  match c with
  | '+' => some (.op .add)
  | '-' => some (.op .subtract)
  | '*' => some (.op .multiply)
  | '/' => some (.op .divide)
  | '(' => some .opening
  | ')' => some .closing
  | _ => none

/-- Whether a character belongs to a number. -/
def isNumeral (c : Char) : Bool :=
  c.isDigit || c = '.'

/-- The number that a run of digits and points spells, if it does. -/
def ofNumeral? (run : List Char) : Option Token :=
  (Decimal.readLiteral? run).map fun l => .number l.toScientific.toFloat

/-- Cut a text into tokens, each with the position of its first character. -/
def scan (position : Nat) : List Char → Except FormulaFault (List (Nat × Token))
  | [] => .ok []
  | c :: cs =>
      if Text.isSpace c then scan (position + 1) cs
      else
        match ofSymbol? c with
        | some token => do
            let rest ← scan (position + 1) cs
            return (position, token) :: rest
        | none =>
            if isNumeral c then
              let run := c :: cs.takeWhile isNumeral
              match ofNumeral? run with
              | some token => do
                  let rest ← scan (position + run.length) (cs.dropWhile isNumeral)
                  return (position, token) :: rest
              | none => .error (.malformed position (.badNumber (String.ofList run)))
            else if Text.isWordStart c then do
              let run := c :: cs.takeWhile Text.isWordChar
              let rest ← scan (position + run.length) (cs.dropWhile Text.isWordChar)
              return (position, .name (String.ofList run)) :: rest
            else .error (.malformed position (.strayCharacter c))
  termination_by cs => cs.length
  decreasing_by
    all_goals simp only [List.length_cons]
    · omega
    · omega
    · exact Nat.lt_succ_of_le (List.dropWhile_sublist _).length_le
    · exact Nat.lt_succ_of_le (List.dropWhile_sublist _).length_le

end Token

end RecordApps
