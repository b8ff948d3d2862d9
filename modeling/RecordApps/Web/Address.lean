import RecordApps.Text.Blank
import RecordApps.Web.Host

/-! # Web addresses

Recognizes addresses of the schemes `http` and `https` the way browsers read them: line
breaks and tabs inside are dropped, any number of slashes may follow the scheme, and a user
name, a port and everything behind the host may be there.
-/

namespace RecordApps.Web

/-- Whether a character is a control character or a blank. -/
def isControlOrBlank (c : Char) : Bool :=
  c.toNat ≤ 0x20

/-- The characters of an address that count. -/
def significant (cs : List Char) : List Char :=
  let trimmed := ((cs.dropWhile isControlOrBlank).reverse.dropWhile isControlOrBlank).reverse
  trimmed.filter fun c => c ≠ '\t' && c ≠ '\n' && c ≠ '\r'

/-- The scheme in lower case and the characters behind its colon. -/
def scheme? (cs : List Char) : Option (List Char × List Char) :=
  match Text.splitOnce ':' cs with
  | some (c :: more, rest) =>
      if c.isAlpha && more.all (fun c => c.isAlphanum || c = '+' || c = '-' || c = '.') then
        some ((c :: more).map Char.toLower, rest)
      else none
  | _ => none

/-- Whether a character ends the host and everything before it. -/
def endsAuthority (c : Char) : Bool :=
  c = '/' || c = '\\' || c = '?' || c = '#'

/-- The characters behind the last at sign. -/
def dropUser (authority : List Char) : List Char :=
  (authority.reverse.takeWhile (· ≠ '@')).reverse

/-- The host and what follows it: a colon inside brackets belongs to the host. -/
def splitPort (inBrackets : Bool) : List Char → List Char × List Char
  | [] => ([], [])
  | c :: cs =>
      if c = ':' ∧ inBrackets = false then ([], c :: cs)
      else
        let bracket := if c = '[' then true else if c = ']' then false else inBrackets
        let (host, rest) := splitPort bracket cs
        (c :: host, rest)

/-- Whether the text behind a host is empty or a port: a colon and a number of 16 bits, or a
    colon alone. -/
def isPort : List Char → Bool
  | [] => true
  | ':' :: digits => digits.all Char.isDigit && Decimal.ofDigits digits < Nat.pow 2 16
  | _ => false

/-- Whether a text is a web address with a host. -/
def isAddress (cs : List Char) : Bool :=
  match scheme? (significant cs) with
  | none => false
  | some (scheme, rest) =>
      (scheme = "http".toList || scheme = "https".toList) &&
        let authority := (rest.dropWhile fun c => c = '/' || c = '\\').takeWhile
          fun c => !endsAuthority c
        let (host, port) := splitPort false (dropUser authority)
        !host.isEmpty && isHost host && isPort port

end RecordApps.Web
