import RecordApps.Field.Type
import RecordApps.Text.Blank
import RecordApps.Web.Address

/-! # Links

Which texts a link field takes, for each flavour of links.
-/

namespace RecordApps.LinkType

/-- Whether a text is a telephone number: digits, at least three of them, with signs,
    parentheses and spaces around them. -/
def isTelephone (cs : List Char) : Bool :=
  3 ≤ cs.countP Char.isDigit && cs.all fun c => c.isDigit || "+-() ".toList.contains c

/-- Whether a text is an email address: a name, one at sign, and a domain with a point inside
    it. -/
def isEmail (cs : List Char) : Bool :=
  match Text.splitOnce '@' cs with
  | none => false
  | some (name, domain) =>
      !name.isEmpty && !domain.contains '@' && !cs.any Text.isSpace &&
        match Text.splitOnce '.' domain with
        | none => false
        | some (host, top) => !host.isEmpty && !top.isEmpty

/-- Whether a text is a link of the given flavour. -/
def accepts (flavour : LinkType) (text : String) : Bool :=
  match flavour with
  | .url => Web.isAddress text.toList
  | .tel => isTelephone text.toList
  | .email => isEmail text.toList

end RecordApps.LinkType
