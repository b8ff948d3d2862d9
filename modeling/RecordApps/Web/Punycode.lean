import RecordApps.Text.Blank

/-! # Punycode

Labels of domain names spell characters beyond ASCII with ASCII letters and digits: the
ASCII characters of the label first, then, behind a hyphen, where to insert which others.
-/

namespace RecordApps.Web.Punycode

/-- How far a spelling has been read. -/
structure Reading where
  /-- The code points so far. -/
  output : List Nat
  /-- The code point to insert. -/
  code : Nat
  /-- Where to insert. -/
  index : Nat
  /-- The index before the number that is being read. -/
  start : Nat
  /-- The weight of the next digit. -/
  weight : Nat
  /-- The position of the next digit in its number, in steps of the base. -/
  step : Nat
  /-- The threshold parameter. -/
  bias : Nat

/-- Before the first inserted character. -/
def Reading.initial (basic : List Nat) : Reading :=
  ⟨basic, 128, 0, 0, 1, 36, 72⟩

def digit? (c : Char) : Option Nat :=
  if 'a' ≤ c ∧ c ≤ 'z' then some (c.toNat - 97)
  else if c.isDigit then some (c.toNat - 22)
  else none

/-- Divide a difference until it is small, counting the steps of the base. -/
def scaleDown : (fuel : Nat) → Nat → Nat × Nat
  | 0, delta => (delta, 0)
  | fuel + 1, delta =>
      if 455 < delta then
        let (rest, steps) := scaleDown fuel (delta / 35)
        (rest, steps + 36)
      else (delta, 0)

/-- The threshold parameter after an insertion. -/
def adapt (delta count : Nat) (first : Bool) : Nat :=
  let delta := if first then delta / 700 else delta / 2
  let (rest, steps) := scaleDown delta (delta + delta / count)
  steps + 36 * rest / (rest + 38)

/-- Insert the character that an index stands for. -/
def Reading.insert (r : Reading) (index : Nat) : Option Reading :=
  let count := r.output.length + 1
  let code := r.code + index / count
  let place := index % count
  if 0x10FFFF < code then none
  else
    some { output := r.output.take place ++ code :: r.output.drop place
           code, index := place + 1, start := place + 1, weight := 1, step := 36
           bias := adapt (index - r.start) count (r.start == 0) }

/-- From which value on a digit is followed by another one of its number. -/
def threshold (bias step : Nat) : Nat :=
  if step ≤ bias then 1 else min 26 (step - bias)

/-- Read one digit; the last digit of a number inserts a character. -/
def Reading.push (r : Reading) (c : Char) : Option Reading := do
  let digit ← digit? c
  let index := r.index + digit * r.weight
  let limit := threshold r.bias r.step
  if digit < limit then r.insert index
  else some { r with index, weight := r.weight * (36 - limit), step := r.step + 36 }

/-- The ASCII characters of a label and the digits behind the last hyphen. No hyphen ends ASCII
    characters where there are none. -/
def split (spelling : List Char) : List Char × List Char :=
  match Text.splitOnce '-' spelling.reverse with
  | some (digits, c :: basic) => ((c :: basic).reverse, digits.reverse)
  | _ => ([], spelling)

/-- The characters that a spelling stands for, if at least one of them is beyond ASCII. -/
def decode? (spelling : List Char) : Option (List Char) := do
  let (basic, digits) := split spelling
  if digits.isEmpty || !basic.all (·.toNat < 0x80) then none
  else
    let r ← digits.foldlM Reading.push (.initial (basic.map Char.toNat))
    if r.step ≠ 36 then none
    else r.output.mapM fun code => if code.isValidChar then some (Char.ofNat code) else none

end RecordApps.Web.Punycode
