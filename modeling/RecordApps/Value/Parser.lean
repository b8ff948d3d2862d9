import RecordApps.Decimal.Scaled
import RecordApps.Value.Basic

/-! # Reading stored text

Reads values as they were written: entries keep their order and repeated keys are kept, so
that a reader which knows what the entries mean can refuse them. `Value.ofText?` normalizes
the result. Text that nobody asks for can be skipped, which checks its shape alone.
-/

namespace RecordApps.Stored

/-- A value read off the front of a text, and the text behind it. -/
abbrev Step (α : Type) := List Char → Option (α × List Char)

/-- The most lists and objects that may lie inside each other. -/
def maxNesting : Nat := 127

def skipSpace (cs : List Char) : List Char :=
  cs.dropWhile fun c => c = ' ' || c = '\n' || c = '\t' || c = '\r'

def literal? : List Char → List Char → Option (List Char)
  | [], cs => some cs
  | _ :: _, [] => none
  | e :: expected, c :: cs => if e = c then literal? expected cs else none

def hexValue? (c : Char) : Option Nat :=
  if c.isDigit then some (c.toNat - 48)
  else if 'a' ≤ c ∧ c ≤ 'f' then some (c.toNat - 87)
  else if 'A' ≤ c ∧ c ≤ 'F' then some (c.toNat - 55)
  else none

def hexUnit? : Step Nat
  | a :: b :: c :: d :: rest => do
      let a ← hexValue? a
      let b ← hexValue? b
      let c ← hexValue? c
      let d ← hexValue? d
      return (((a * 16 + b) * 16 + c) * 16 + d, rest)
  | _ => none

/-- Whether a 16-bit unit opens a pair of units. -/
def isHighUnit (u : Nat) : Bool :=
  0xD800 ≤ u && u < 0xDC00

/-- Whether a 16-bit unit closes a pair of units. -/
def isLowUnit (u : Nat) : Bool :=
  0xDC00 ≤ u && u < 0xE000

/-- The character of an escape by units; an unpaired half of a pair stands for none. -/
def unitEscape? : Step Char := fun cs => do
  let (unit, rest) ← hexUnit? cs
  if isHighUnit unit then
    let rest ← literal? ['\\', 'u'] rest
    let (low, rest) ← hexUnit? rest
    if isLowUnit low then
      return (Char.ofNat (0x10000 + (unit - 0xD800) * 0x400 + (low - 0xDC00)), rest)
    else none
  else if isLowUnit unit then none
  else return (Char.ofNat unit, rest)

/-- The character an escape letter stands for. -/
def shortEscape? (c : Char) : Option Char :=
  if c = '"' ∨ c = '\\' ∨ c = '/' then some c
  else if c = 'b' then some '\x08'
  else if c = 'f' then some '\x0c'
  else if c = 'n' then some '\n'
  else if c = 'r' then some '\r'
  else if c = 't' then some '\t'
  else none

/-- The characters of a text up to its closing quote. -/
def chars? : (fuel : Nat) → Step (List Char)
  | 0, _ => none
  | _ + 1, [] => none
  | fuel + 1, c :: cs =>
      if c = '"' then some ([], cs)
      else if c.toNat < 32 then none
      else if c = '\\' then
        match cs with
        | [] => none
        | 'u' :: rest => do
            let (c, rest) ← unitEscape? rest
            let (more, rest) ← chars? fuel rest
            return (c :: more, rest)
        | e :: rest => do
            let c ← shortEscape? e
            let (more, rest) ← chars? fuel rest
            return (c :: more, rest)
      else do
        let (more, rest) ← chars? fuel cs
        return (c :: more, rest)

def text? : Step String
  | '"' :: cs => (chars? (cs.length + 1) cs).map fun (s, rest) => (String.ofList s, rest)
  | _ => none

/-- Digits without a zero in front of others. -/
def whole? : Step (List Char) := fun cs =>
  match cs.span Char.isDigit with
  | ([], _) => none
  | ('0' :: _ :: _, _) => none
  | (digits, rest) => some (digits, rest)

/-- The digits behind a point, or none where there is no point. -/
def fraction? : Step (List Char)
  | '.' :: cs =>
      match cs.span Char.isDigit with
      | ([], _) => none
      | (digits, rest) => some (digits, rest)
  | cs => some ([], cs)

/-- The power of ten behind `e` or `E`, or none where there is no such letter. -/
def power? : Step (Option Int)
  | [] => some (none, [])
  | c :: cs =>
      if c = 'e' ∨ c = 'E' then
        let (negative, digits) := Decimal.readSign cs
        match digits.span Char.isDigit with
        | ([], _) => none
        | (digits, rest) =>
            let n : Int := Decimal.ofDigits digits
            some (some (if negative then -n else n), rest)
      else some (none, c :: cs)

/-- A whole number of at most 64 bits as a value. Negative numbers of as many bits and the
    negative zero are floats. -/
def wholeValue (negative : Bool) (n : Nat) : Value :=
  if negative then
    if 0 < n ∧ n ≤ Nat.pow 2 63 then .int (-(n : Int)) else .float (-(Float.ofNat n))
  else .int n

/-- The shape of a number: sign, digits, digits behind a point and power of ten. -/
def numberShape? : Step (Bool × List Char × List Char × Option Int) := fun cs => do
  let (negative, cs) := match cs with
    | '-' :: rest => (true, rest)
    | _ => (false, cs)
  let (whole, cs) ← whole? cs
  let (fraction, cs) ← fraction? cs
  let (power, cs) ← power? cs
  return ((negative, whole, fraction, power), cs)

/-- The value of a number with the given parts. One beyond every finite float is refused. -/
def numberValue? (negative : Bool) (whole fraction : List Char) (power : Option Int) :
    Option Value :=
  if fraction.isEmpty ∧ power.isNone ∧ Decimal.ofDigits whole < Nat.pow 2 64 then
    some (wholeValue negative (Decimal.ofDigits whole))
  else
    let x := Decimal.scaled (Decimal.Literal.mk whole fraction (power.getD 0)).gathered
    if x.isFinite then some (.float (if negative then -x else x)) else none

def number? : Step Value := fun cs => do
  let ((negative, whole, fraction, power), cs) ← numberShape? cs
  let value ← numberValue? negative whole fraction power
  return (value, cs)

variable {α : Type}

/-- What follows an item: a comma and more items, or the closing bracket. -/
def more? (closing : Char) (next : Step (List α)) : Step (List α) := fun cs =>
  match skipSpace cs with
  | c :: rest =>
      if c = ',' then next rest
      else if c = closing then some ([], rest)
      else none
  | [] => none

/-- One or more items and the closing bracket. -/
def items? (item : Step α) (closing : Char) : (fuel : Nat) → Step (List α)
  | 0, _ => none
  | fuel + 1, cs => do
      let (first, rest) ← item (skipSpace cs)
      let (others, rest) ← more? closing (items? item closing fuel) rest
      return (first :: others, rest)

/-- Items up to the closing bracket, possibly none. -/
def closed? (item : Step α) (closing : Char) : Step (List α) := fun cs =>
  match skipSpace cs with
  | [] => none
  | c :: rest =>
      if c = closing then some ([], rest)
      else items? item closing (cs.length + 1) (c :: rest)

/-- A key, a colon and a value that may depend on the key. -/
def pair? (value : String → Step α) : Step (String × α) := fun cs => do
  let (key, rest) ← text? cs
  let rest ← literal? [':'] (skipSpace rest)
  let (v, rest) ← value key (skipSpace rest)
  return ((key, v), rest)

/-- A value inside at most `depth` further lists and objects, without space in front. -/
def value? : (depth : Nat) → Step Value
  | depth, cs =>
      match cs with
      | 'n' :: rest => (literal? ['u', 'l', 'l'] rest).map (.null, ·)
      | 't' :: rest => (literal? ['r', 'u', 'e'] rest).map (.bool true, ·)
      | 'f' :: rest => (literal? ['a', 'l', 's', 'e'] rest).map (.bool false, ·)
      | '"' :: rest => (text? ('"' :: rest)).map fun (s, rest) => (.text s, rest)
      | '[' :: rest =>
          match depth with
          | 0 => none
          | depth + 1 =>
              (closed? (value? depth) ']' rest).map fun (items, rest) => (.list items, rest)
      | '\x7b' :: rest =>
          match depth with
          | 0 => none
          | depth + 1 =>
              (closed? (pair? fun _ => value? depth) '\x7d' rest).map fun (entries, rest) =>
                (.object entries, rest)
      | _ => number? cs

/-- The characters of a text up to its closing quote, without a look at what escapes by units
    stand for. -/
def skipChars? : (fuel : Nat) → Step Unit
  | 0, _ => none
  | _ + 1, [] => none
  | fuel + 1, c :: cs =>
      if c = '"' then some ((), cs)
      else if c.toNat < 32 then none
      else if c = '\\' then
        match cs with
        | [] => none
        | 'u' :: rest => (hexUnit? rest).bind fun (_, rest) => skipChars? fuel rest
        | e :: rest => (shortEscape? e).bind fun _ => skipChars? fuel rest
      else skipChars? fuel cs

/-- A text in quotes whose content does not matter. -/
def skipText? : Step Unit
  | '"' :: cs => skipChars? (cs.length + 1) cs
  | _ => none

/-- A value that nobody asks for, however deep and large, without space in front. -/
def skip? : (fuel : Nat) → Step Unit
  | 0, _ => none
  | fuel + 1, cs =>
      match cs with
      | 'n' :: rest => (literal? ['u', 'l', 'l'] rest).map ((), ·)
      | 't' :: rest => (literal? ['r', 'u', 'e'] rest).map ((), ·)
      | 'f' :: rest => (literal? ['a', 'l', 's', 'e'] rest).map ((), ·)
      | '"' :: rest => skipText? ('"' :: rest)
      | '[' :: rest => (closed? (skip? fuel) ']' rest).map fun (_, rest) => ((), rest)
      | '\x7b' :: rest =>
          (closed? (skipEntry (skip? fuel)) '\x7d' rest).map fun (_, rest) => ((), rest)
      | _ => (numberShape? cs).map fun (_, rest) => ((), rest)
where
  /-- A key, a colon and a value. -/
  skipEntry (value : Step Unit) : Step Unit := fun cs => do
    let (_, rest) ← skipText? cs
    let rest ← literal? [':'] (skipSpace rest)
    value (skipSpace rest)

/-- Whether every one of the given keys occurs at most once. -/
def noneRepeated (keys : List String) (entries : List (String × α)) : Bool :=
  keys.all fun key => entries.countP (·.1 == key) ≤ 1

/-- An entry of an object with known keys; what stands under another key is skipped. -/
def keyedPair? (keys : List String) (value : String → Step Value) : Step (String × Value) :=
  pair? fun key cs =>
    if keys.contains key then value key cs
    else (skip? (cs.length + 1) cs).map fun (_, rest) => (.null, rest)

/-- An object, without its opening brace, of which only some keys are asked for, each of them
    at most once. Values under other keys are skipped. -/
def object? (keys : List String) (value : String → Step Value) : Step Value := fun cs => do
  let (entries, rest) ← closed? (keyedPair? keys value) '\x7d' cs
  if noneRepeated keys entries then return (.object entries, rest) else none

/-- A whole text that is one item with space around it. -/
def only? (item : Step α) (s : String) : Option α := do
  let (value, rest) ← item (skipSpace s.toList)
  if (skipSpace rest).isEmpty then return value else none

end RecordApps.Stored

namespace RecordApps.Value

def ofText? (s : String) : Option Value :=
  (Stored.only? (Stored.value? Stored.maxNesting) s).map normalize

end RecordApps.Value
