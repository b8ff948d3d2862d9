import RecordApps.Decimal.Reader

/-! # Reading decimals by scaling

Numbers in stored text are not read as the floats nearest to them. As many digits are gathered
as fit into 64 bits, and the float of what was gathered is multiplied by a power of ten or
divided by one. Each of these steps rounds, so that the result may miss the nearest float.
-/

namespace RecordApps.Decimal

/-- Put digits behind a number as long as it has 64 bits, and return the others. -/
def gather (n : Nat) : List Char → Nat × List Char
  | [] => (n, [])
  | c :: cs =>
      let next := 10 * n + digitValue c
      if next < Nat.pow 2 64 then gather next cs else (n, c :: cs)

/-- What is gathered of a literal. Digits that do not fit are dropped, those in front of the
    point still count for the power of ten. -/
def Literal.gathered (l : Literal) : Scientific :=
  let (whole, left) := gather 0 l.whole
  let (coefficient, dropped) := gather whole l.fraction
  ⟨coefficient, l.power + left.length - (l.fraction.length - dropped.length : Nat)⟩

/-- A power of ten. -/
def tenPower (e : Nat) : Float :=
  Scientific.toFloat ⟨1, e⟩

/-- A float with its point moved to the left, by steps of at most 308 places. -/
def shrunk (x : Float) (places : Nat) : Float :=
  if places ≤ 308 then x / tenPower places
  else if x == 0.0 then x
  else shrunk (x / tenPower 308) (places - 308)
termination_by places

/-- The float of a coefficient times or over a power of ten. -/
def scaled (d : Scientific) : Float :=
  let x := Float.ofNat d.coefficient
  match d.scale with
  | .ofNat e => if d.coefficient = 0 then x else x * tenPower e
  | .negSucc e => shrunk x (e + 1)

end RecordApps.Decimal
