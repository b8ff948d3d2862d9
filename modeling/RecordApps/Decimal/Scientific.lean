/-! # Decimal numbers and binary floating point

A number written in decimal is a coefficient and a power of ten. This module reads such
numbers as 64-bit floats and finds, for a float, the shortest decimal that reads back as
the same float. All arithmetic on the way is exact.
-/

namespace RecordApps

/-- The decimal number `coefficient · 10 ^ scale`. -/
structure Scientific where
  coefficient : Nat
  scale : Int
  deriving Repr, DecidableEq

/-- The binary number `mantissa · 2 ^ exponent`. -/
structure Dyadic where
  mantissa : Nat
  exponent : Int
  deriving Repr, DecidableEq

namespace Scientific

/-- The float nearest to a decimal number, ties to the even neighbour; infinite when the
    number is beyond every finite float. -/
def toFloat (d : Scientific) : Float :=
  match d.scale with
  | .ofNat e => Float.ofScientific d.coefficient false e
  | .negSucc e => Float.ofScientific d.coefficient true (e + 1)

/-- Drop the trailing zeros of the coefficient, at most `fuel` of them. -/
def trimZeros (fuel : Nat) (d : Scientific) : Scientific :=
  match fuel with
  | 0 => d
  | fuel + 1 =>
      if d.coefficient ≠ 0 ∧ d.coefficient % 10 = 0 then
        trimZeros fuel ⟨d.coefficient / 10, d.scale + 1⟩
      else d

/-- The same number with a coefficient that does not end in a zero. -/
def normalize (d : Scientific) : Scientific :=
  d.trimZeros d.coefficient.log2

end Scientific

namespace Dyadic

def ofFloat (x : Float) : Dyadic :=
  let bits := x.toBits.toNat
  let fraction : Nat := bits % Nat.pow 2 52
  let biased : Nat := bits / Nat.pow 2 52 % Nat.pow 2 11
  if biased = 0 then ⟨fraction, -1074⟩ else ⟨Nat.pow 2 52 + fraction, (biased : Int) - 1075⟩

def toRatio (d : Dyadic) : Nat × Nat :=
  match d.exponent with
  | .ofNat e => (d.mantissa * Nat.pow 2 e, 1)
  | .negSucc e => (d.mantissa, Nat.pow 2 (e + 1))

def toScientific (d : Dyadic) : Scientific :=
  match d.exponent with
  | .ofNat e => ⟨d.mantissa * Nat.pow 2 e, 0⟩
  | .negSucc e => ⟨d.mantissa * Nat.pow 5 (e + 1), .negSucc e⟩

end Dyadic

namespace Decimal

/-- The number of decimal digits of a natural number. -/
def digitCount (n : Nat) : Nat :=
  (Nat.toDigits 10 n).length

/-- The power of ten of the first digit of `num / den`, for positive `num` and `den`. -/
def leadingExponent (num den : Nat) : Int :=
  if den ≤ num then (digitCount (num / den) : Int) - 1
  else - (digitCount ((den - 1) / num) : Int)

/-- The two multiples of `10 ^ scale` around `num / den`, the nearer one first; of two that
    are equally near, the even one. -/
def neighbours (num den : Nat) (scale : Int) : List Scientific :=
  let scaled : Nat × Nat :=
    match scale with
    | .ofNat e => (num, den * Nat.pow 10 e)
    | .negSucc e => (num * Nat.pow 10 (e + 1), den)
  let low := scaled.1 / scaled.2
  let rest := scaled.1 % scaled.2
  let lowIsNearer := 2 * rest < scaled.2 ∨ (2 * rest = scaled.2 ∧ low % 2 = 0)
  if lowIsNearer then [⟨low, scale⟩, ⟨low + 1, scale⟩] else [⟨low + 1, scale⟩, ⟨low, scale⟩]

/-- The shortest decimal that reads back as the magnitude of a finite float: the digit
    counts are tried in order, and where several decimals of one length read back the
    nearest is taken. A float always reads back from all of its digits. -/
def shortest (x : Float) : Scientific :=
  let exact := Dyadic.ofFloat x
  if exact.mantissa = 0 then ⟨0, 0⟩
  else
    let ratio := exact.toRatio
    let first := leadingExponent ratio.1 ratio.2
    let found := (List.range 17).findSome? fun (more : Nat) =>
      (neighbours ratio.1 ratio.2 (first - (more : Int))).find? fun d => d.toFloat == x.abs
    (found.getD exact.toScientific).normalize

/-- A quotient rounded to the nearest natural number, ties to the even neighbour. -/
def roundDiv (num den : Nat) : Nat :=
  let low := num / den
  let rest := num % den
  if 2 * rest < den ∨ (2 * rest = den ∧ low % 2 = 0) then low else low + 1

/-- Whether the sign bit of a float is set. -/
def isNegative (x : Float) : Bool :=
  x.toBits.toNat / Nat.pow 2 63 = 1

end Decimal

end RecordApps
