import RecordApps.Text.Blank
import RecordApps.Web.DomainTable
import RecordApps.Web.Punycode

/-! # Domain names

Decides whether a host spells a domain name and how its ASCII part reads. Escapes by percent
signs are resolved, letters are folded, and each label obeys the rules for
internationalized names: no leading mark, joiners only where letters join, one direction of
writing, and no label in Punycode that stands for something else than such a label.
-/

namespace RecordApps.Web.Domain

/-- Whether an ASCII character may not be in a domain name. -/
def isForbiddenAscii (c : Char) : Bool :=
  c.toNat ≤ 0x20 || c.toNat = 0x7F ||
    ['%', '#', '/', ':', '<', '>', '?', '@', '[', '\\', ']', '^', '|'].contains c

/-- The entry of a table of runs that a code point belongs to: how far it is behind the first
    of the run, and what the first stands for. -/
def runOf? (runs : List (Nat × Nat × Nat)) (code : Nat) : Option (Nat × Nat) :=
  (runs.find? fun (first, count, _) => first ≤ code && code < first + count).map
    fun (first, _, image) => (code - first, image)

/-- The characters that replace a character of a host, if it may be there. One that others beyond
    ASCII replace has their properties and stands for them. -/
def replacement? (c : Char) : Option (List Char) :=
  if c.toNat < 0x80 then if isForbiddenAscii c then none else some [c.toLower]
  else if Text.inRanges forbidden c then none
  else if Text.inRanges dropped c then some []
  else
    match runOf? asciiRuns c.toNat, runOf? circledRuns c.toNat, asciiTexts.lookup c.toNat with
    | some (place, ascii), _, _ => some [Char.ofNat (ascii + place)]
    | none, some (place, number), _ => some (toString (number + place)).toList
    | none, none, some text => some text.toList
    | none, none, none => some [c]

/-- Whether a character is one of those that are replaced in turns with others. -/
def inTurns (ranges : List (Nat × Nat)) (c : Char) : Bool :=
  ranges.any fun (first, last) => first ≤ c.toNat && c.toNat ≤ last && (c.toNat - first) % 2 = 0

/-- Whether the mapping of domain names leaves a character as it is. -/
def staysItself (c : Char) : Bool :=
  replacement? c == some [c] && !Text.inRanges replaced c && !inTurns capitals c

/-- The value of a hexadecimal digit given as a byte. -/
def hexByte? (b : UInt8) : Option UInt8 :=
  if 48 ≤ b && b ≤ 57 then some (b - 48)
  else if 97 ≤ b && b ≤ 102 then some (b - 87)
  else if 65 ≤ b && b ≤ 70 then some (b - 55)
  else none

/-- Replace a percent sign and two hexadecimal digits by the byte they spell. -/
def resolveEscapes : List UInt8 → List UInt8
  | 37 :: a :: b :: rest =>
      match hexByte? a, hexByte? b with
      | some high, some low => (high * 16 + low) :: resolveEscapes rest
      | _, _ => 37 :: resolveEscapes (a :: b :: rest)
  | byte :: rest => byte :: resolveEscapes rest
  | [] => []

/-- The characters of a host after its escapes are resolved, if they make up a text. -/
def unescape? (host : List Char) : Option (List Char) :=
  let bytes := resolveEscapes (host.flatMap String.utf8EncodeChar)
  (String.fromUTF8? bytes.toByteArray).map String.toList

/-- The direction-free joiner that keeps letters apart. -/
def nonJoiner : Char := '\u200c'

/-- The joiner that binds letters. -/
def joiner : Char := '\u200d'

/-- Whether a character is a combining mark. -/
def isMark (c : Char) : Bool :=
  Text.inRanges marks c

/-- Whether every joiner has its context: a virama in front, or, to keep letters apart, letters
    on both sides that would join. `before` holds the characters in front in reverse. -/
def joinersFit : (before after : List Char) → Bool
  | _, [] => true
  | before, c :: after =>
      let afterVirama := (before.head?.map (Text.inRanges viramas)).getD false
      let joins (side : List Char) (letters : List (Nat × Nat)) : Bool :=
        ((side.dropWhile isMark).head?.map (Text.inRanges letters)).getD false
      let fits :=
        if c = joiner then afterVirama
        else if c = nonJoiner then
          afterVirama || (joins before joinsOnward && joins after joinsBack)
        else true
      fits && joinersFit (c :: before) after

/-- Directions of writing. -/
inductive Direction where
  /-- Letters from left to right. -/
  | left
  /-- Letters from right to left. -/
  | right
  /-- Digits of such scripts. -/
  | arabicNumber
  /-- Other digits. -/
  | digit
  /-- Marks on the letter in front. -/
  | mark
  /-- No direction. -/
  | none
  deriving Repr, DecidableEq

def direction (c : Char) : Direction :=
  if c.toNat < 0x80 then
    if c.isAlpha then .left else if c.isDigit then .digit else .none
  else if isMark c then .mark
  else if Text.inRanges rightToLeft c then .right
  else if Text.inRanges arabicNumbers c then .arabicNumber
  else if Text.inRanges otherDigits c then .digit
  else if Text.inRanges neutral c || c = joiner || c = nonJoiner then .none
  else .left

/-- Whether a label of a name with letters from right to left keeps to one direction. -/
def oneDirection (label : List Char) : Bool :=
  let directions := label.map direction
  let last := (directions.reverse.dropWhile (· == .mark)).head?
  match directions.head? with
  | none => true
  | some .right =>
      !directions.contains .left &&
        (last = some .right || last = some .digit || last = some .arabicNumber) &&
        !(directions.contains .digit && directions.contains .arabicNumber)
  | some .left =>
      !directions.contains .right && !directions.contains .arabicNumber &&
        (last = some .left || last = some .digit)
  | _ => false

/-- The label that a label stands for: the one it spells in Punycode, or itself. -/
def spelled? (label : List Char) : Option (List Char) :=
  match label with
  | 'x' :: 'n' :: '-' :: '-' :: spelling => do
      let decoded ← Punycode.decode? spelling
      if decoded.all staysItself then some decoded else none
  | _ => some label

/-- Whether the characters of a label may stand together. -/
def isLabel (label : List Char) : Bool :=
  !(label.head?.map isMark).getD false && joinersFit [] label

/-- Whether the labels of a name with all characters replaced obey the rules. -/
def isName (name : List Char) : Bool :=
  match (Text.splitAt '.' name).mapM spelled? with
  | none => false
  | some labels =>
      let bidirectional := labels.any fun label =>
        (label.map direction).any fun d => d == .right || d == .arabicNumber
      labels.all isLabel && (!bidirectional || labels.all oneDirection)

/-- The characters of a host after all replacements, if they may be there. -/
def mapped? (host : List Char) : Option (List Char) := do
  let characters ← unescape? host
  let replacements ← characters.mapM replacement?
  return replacements.flatten

/-- The domain name that a host spells, if it spells one. -/
def ofHost? (host : List Char) : Option (List Char) := do
  let name ← mapped? host
  if isName name then some name else none

end RecordApps.Web.Domain
