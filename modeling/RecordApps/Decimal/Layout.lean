import RecordApps.Decimal.Scientific

/-! # Written forms of floats

Stored text, error messages and formatted fields each write floats in a way of their own.
The digits of the first two are the shortest that read back; formatted fields have a fixed
number of places.
-/

namespace RecordApps.Decimal

/-- A text of zeros. -/
def zeros (count : Nat) : String :=
  String.ofList (List.replicate count '0')

/-- Digits with a point `places` before their end, zeros filling up to one digit before
    the point. -/
def pointBefore (digits : String) (places : Nat) : String :=
  let cs := (zeros (places + 1 - digits.length) ++ digits).toList
  let whole := cs.take (cs.length - places)
  let fraction := cs.drop (cs.length - places)
  String.ofList (if places = 0 then whole else whole ++ '.' :: fraction)

/-- All digits of a decimal, a point only before a fraction and never an exponent. -/
def Scientific.plain (d : Scientific) : String :=
  match d.scale with
  | .ofNat e => if d.coefficient = 0 then "0" else toString d.coefficient ++ zeros e
  | .negSucc e => pointBefore (toString d.coefficient) (e + 1)

/-- One digit before the point, the rest behind it, and a signed power of ten. -/
def Scientific.exponential (d : Scientific) : String :=
  let digits := (toString d.coefficient).toList
  let power := d.scale + (digits.length - 1 : Nat)
  let mantissa := match digits with
    | [] => []
    | [digit] => [digit]
    | digit :: more => digit :: '.' :: more
  String.ofList mantissa ++ (if power < 0 then "e-" else "e+") ++ toString power.natAbs

def signText (x : Float) : String :=
  if isNegative x then "-" else ""

/-- A finite float in stored text: positional from `10 ^ -5` to below `10 ^ 16` and then always
    with a fraction, otherwise with an exponent. -/
def storedText (x : Float) : String :=
  let d := shortest x
  let power := d.scale + ((toString d.coefficient).length - 1 : Nat)
  let text :=
    if d.coefficient = 0 then "0.0"
    else if -5 ≤ power ∧ power ≤ 15 then
      if 0 ≤ d.scale then Scientific.plain d ++ ".0" else Scientific.plain d
    else Scientific.exponential d
  signText x ++ text

/-- A finite float in a message: positional, with a fraction only where it has one. -/
def messageText (x : Float) : String :=
  signText x ++ Scientific.plain (shortest x)

/-- A float with a fixed number of places, the exact value rounded to the nearest, ties to the
    even digit. Numbers beyond the finite floats are spelled out. -/
def fixedText (x : Float) (places : Nat) : String :=
  if x.isNaN then "NaN"
  else if !x.isFinite then signText x ++ "inf"
  else
    let (num, den) := (Dyadic.ofFloat x).toRatio
    signText x ++ pointBefore (toString (roundDiv (num * Nat.pow 10 places) den)) places

end RecordApps.Decimal
