import RecordApps.Value.Decode

/-! # App ids

Every rule table and record store is split by the id of an app: 128 bits, written as 32
hexadecimal digits in five groups.
-/

namespace RecordApps

/-- The id of an app: its 32 hexadecimal digits, in lower case. -/
structure AppId where
  digits : List Char
  valid : digits.length = 32 ∧
    digits.all (fun c => c.isDigit || ('a' ≤ c && c ≤ 'f')) = true
  deriving Repr, DecidableEq

namespace AppId

/-- The id with the given digits, in either case. -/
def ofDigits? (digits : List Char) : Option AppId :=
  let lower := digits.map Char.toLower
  if h : lower.length = 32 ∧ lower.all (fun c => c.isDigit || ('a' ≤ c && c ≤ 'f')) = true then
    some ⟨lower, h⟩
  else none

/-- The digits of five groups of 8, 4, 4, 4 and 12 characters with a hyphen between them. -/
def ungroup? (cs : List Char) : Option (List Char) :=
  match cs.drop 8, cs.drop 13, cs.drop 18, cs.drop 23 with
  | '-' :: b, '-' :: c, '-' :: d, '-' :: e =>
      some (cs.take 8 ++ b.take 4 ++ c.take 4 ++ d.take 4 ++ e)
  | _, _, _, _ => none

/-- Read an id: plain digits, digits in groups, or groups in braces or behind `urn:uuid:`. -/
def ofText? (text : String) : Option AppId :=
  let cs := text.toList
  if cs.length = 32 then ofDigits? cs
  else if cs.length = 36 then (ungroup? cs).bind ofDigits?
  else if cs.length = 38 ∧ cs.head? = some '\x7b' ∧ cs.getLast? = some '\x7d' then
    (ungroup? (cs.tail.dropLast)).bind ofDigits?
  else if cs.length = 45 ∧ "urn:uuid:".toList.isPrefixOf cs then
    (ungroup? (cs.drop 9)).bind ofDigits?
  else none

/-- The written form: groups with hyphens. -/
def text (id : AppId) : String :=
  let group (start size : Nat) := (id.digits.drop start).take size
  String.ofList (group 0 8 ++ '-' :: group 8 4 ++ '-' :: group 12 4 ++ '-' :: group 16 4 ++
    '-' :: group 20 12)

def toValue (id : AppId) : Value :=
  .text id.text

def ofValue? : Decoder AppId
  | .text s => ofText? s
  | _ => none

end AppId

end RecordApps
