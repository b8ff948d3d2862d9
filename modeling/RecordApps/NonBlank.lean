import RecordApps.Fault
import RecordApps.Text.Blank
import RecordApps.Value.Decode

/-! # Texts that say something

Ids, codes and names that rules refer to hold at least one character that is not white
space.
-/

namespace RecordApps

/-- A text that is not blank. -/
structure NonBlank where
  text : String
  notBlank : Text.isBlank text = false
  deriving Repr, DecidableEq

namespace NonBlank

/-- The text as such, if it is not blank. -/
def ofText? (text : String) : Option NonBlank :=
  if h : Text.isBlank text = false then some ⟨text, h⟩ else none

/-- The text as such, refusing blank input. -/
def make (text : String) : Outcome NonBlank :=
  match ofText? text with
  | some s => .ok s
  | none => .error (.invalid .blankText)

def toValue (s : NonBlank) : Value :=
  .text s.text

def ofValue? : Decoder NonBlank
  | .text s => ofText? s
  | _ => none

end NonBlank

end RecordApps
