import RecordApps.Decimal.Reader
import RecordApps.Text.Blank
import RecordApps.Web.Domain

/-! # Hosts of web addresses

A host is an address of six bytes or sixteen in brackets, or a domain name. A name whose
last part is a number has to be an address of four bytes.
-/

namespace RecordApps.Web

def hexValue? (c : Char) : Option Nat :=
  if c.isDigit then some (c.toNat - 48)
  else if 'a' ≤ c ∧ c ≤ 'f' then some (c.toNat - 87)
  else if 'A' ≤ c ∧ c ≤ 'F' then some (c.toNat - 55)
  else none

/-- The number that digits of a base spell. -/
def ofBase? (base : Nat) (digits : List Char) : Option Nat :=
  digits.foldlM (fun value c => do
    let digit ← hexValue? c
    if digit < base then some (value * base + digit) else none) 0

/-- A part of a numeric address: hexadecimal behind `0x`, octal behind `0`, otherwise
    decimal. -/
def addressPart? : List Char → Option Nat
  | [] => none
  | '0' :: 'x' :: digits => ofBase? 16 digits
  | '0' :: 'X' :: digits => ofBase? 16 digits
  | '0' :: c :: digits => ofBase? 8 (c :: digits)
  | digits => ofBase? 10 digits

/-- The parts of a name, without an empty part behind a point at the end. -/
def nameParts (name : List Char) : List (List Char) :=
  let parts := Text.splitAt '.' name
  if 2 ≤ parts.length ∧ parts.getLast? = some [] then parts.dropLast else parts

/-- Whether the last part of a name is a number. -/
def endsInNumber (name : List Char) : Bool :=
  match (nameParts name).getLast? with
  | none => false
  | some part => (!part.isEmpty && part.all Char.isDigit) || (addressPart? part).isSome

/-- Whether a name is an address of four bytes: up to four numbers, the last of which fills
    the bytes that are left. -/
def isFourByteAddress (name : List Char) : Bool :=
  match (nameParts name).mapM addressPart? with
  | none => false
  | some numbers =>
      match numbers.reverse with
      | [] => false
      | last :: others =>
          others.length ≤ 3 && last < Nat.pow 256 (4 - others.length) && others.all (· ≤ 255)

/-- Whether a text is four decimal bytes with points between them, without leading zeros. -/
def isDottedQuad (cs : List Char) : Bool :=
  let parts := Text.splitAt '.' cs
  parts.length = 4 && parts.all fun part =>
    !part.isEmpty && part.all Char.isDigit && Decimal.ofDigits part ≤ 255 &&
      (part.length = 1 || part.head? ≠ some '0')

/-- The number of 16-bit pieces that colons divide a text into, if all of them are such pieces.
    The last one may be four decimal bytes, which count as two. -/
def pieceCount? (cs : List Char) : Option Nat :=
  if cs.isEmpty then some 0
  else
    let pieces := Text.splitAt ':' cs
    let isPiece (piece : List Char) : Bool :=
      !piece.isEmpty && piece.length ≤ 4 && piece.all fun c => (hexValue? c).isSome
    match pieces.getLast? with
    | none => none
    | some last =>
        if !pieces.dropLast.all isPiece then none
        else if isPiece last then some pieces.length
        else if isDottedQuad last then some (pieces.length + 1)
        else none

/-- The texts around the first double colon, if there is one. -/
def splitGap : List Char → Option (List Char × List Char)
  | ':' :: ':' :: rest => some ([], rest)
  | c :: rest => (splitGap rest).map fun (before, after) => (c :: before, after)
  | [] => none

/-- Whether a text is an address of sixteen bytes: eight pieces, some of which one double colon
    may stand for. -/
def isSixteenByteAddress (cs : List Char) : Bool :=
  match splitGap cs with
  | none => pieceCount? cs = some 8
  | some (before, after) =>
      match pieceCount? before, pieceCount? after with
      | some m, some n => !before.contains '.' && m + n ≤ 7
      | _, _ => false

/-- Whether a text without line breaks and tabs is the host of a web address. -/
def isHost (host : List Char) : Bool :=
  match host with
  | '[' :: rest => rest.getLast? = some ']' && isSixteenByteAddress rest.dropLast
  | _ =>
      match Domain.ofHost? host with
      | none => false
      | some name => !name.isEmpty && (!endsInNumber name || isFourByteAddress name)

end RecordApps.Web
