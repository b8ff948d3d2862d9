import RecordApps.Decimal.Scientific
import RecordApps.Text.Blank

/-! # Reading decimal numbers

A decimal literal has digits with at most one point among them and an optional power of
ten. Formulas and values given as text accept it without digits on one side of the point.
-/

namespace RecordApps.Decimal

def digitValue (c : Char) : Nat :=
  c.toNat - '0'.toNat

/-- The number a run of digits stands for. -/
def ofDigits (digits : List Char) : Nat :=
  digits.foldl (fun value c => 10 * value + digitValue c) 0

/-- The parts of a literal that were read off a text: the digits before and after the
    point, and the power of ten. -/
structure Literal where
  whole : List Char
  fraction : List Char
  power : Int
  deriving Repr, DecidableEq

/-- The decimal number a literal stands for. -/
def Literal.toScientific (l : Literal) : Scientific :=
  ⟨ofDigits (l.whole ++ l.fraction), l.power - (l.fraction.length : Int)⟩

/-- A sign and the characters behind it. No sign counts as plus. -/
def readSign : List Char → Bool × List Char
  | '-' :: rest => (true, rest)
  | '+' :: rest => (false, rest)
  | rest => (false, rest)

/-- The power of ten at the end of a literal: `e` or `E`, an optional sign and at least one
    digit, or nothing at all. -/
def readPower? : List Char → Option Int
  | [] => some 0
  | c :: rest =>
      if c = 'e' ∨ c = 'E' then
        let (negative, digits) := readSign rest
        if digits.isEmpty || !digits.all Char.isDigit then none
        else if negative then some (-(ofDigits digits : Int)) else some (ofDigits digits)
      else none

/-- Read an unsigned literal with at least one digit around its optional point. -/
def readLiteral? (cs : List Char) : Option Literal :=
  let (whole, rest) := cs.span Char.isDigit
  let (fraction, tail) := match rest with
    | '.' :: more => more.span Char.isDigit
    | _ => ([], rest)
  if whole.isEmpty && fraction.isEmpty then none
  else (readPower? tail).map fun power => ⟨whole, fraction, power⟩

/-- Read a literal with an optional sign as a float. -/
def readFloat? (cs : List Char) : Option Float :=
  let (negative, digits) := readSign cs
  (readLiteral? digits).map fun l =>
    if negative then -l.toScientific.toFloat else l.toScientific.toFloat

end RecordApps.Decimal
