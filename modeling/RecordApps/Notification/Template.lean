import RecordApps.Record
import RecordApps.Value.Coerce

/-! # Templates

A template is text with placeholders, each a key between double braces. Rendering reads it from
left to right: an opening and the next closing behind it make a placeholder. The value of a record
comes in the place of every placeholder whose key the record holds, and everything else stays as
it is.
-/

namespace RecordApps

/-- The text before and after the first place where a character stands twice in a row. -/
def splitAtPair (mark : Char) : List Char → Option (List Char × List Char)
  | [] => none
  | [_] => none
  | a :: b :: rest =>
      if a = mark ∧ b = mark then some ([], rest)
      else (splitAtPair mark (b :: rest)).map fun (before, after) => (a :: before, after)

theorem length_of_splitAtPair {mark : Char} {cs before after : List Char}
    (h : splitAtPair mark cs = some (before, after)) :
    before.length + after.length + 2 = cs.length := by
  fun_induction splitAtPair mark cs generalizing before after with
  | case1 => cases h
  | case2 => cases h
  | case3 a b rest hab =>
      obtain ⟨rfl, rfl⟩ := Prod.mk.inj (Option.some.inj h)
      simp
  | case4 a b rest hab ih =>
      obtain ⟨⟨before, after⟩, hsplit, heq⟩ := Option.map_eq_some_iff.1 h
      obtain ⟨rfl, rfl⟩ := Prod.mk.inj heq
      have := ih hsplit
      simp only [List.length_cons] at this ⊢
      omega

/-- What begins a placeholder. -/
def opening : List Char := ['\x7b', '\x7b']

/-- What ends a placeholder. -/
def closing : List Char := ['\x7d', '\x7d']

namespace Record

/-- The text that a key stands for: the record number behind its lead, or the value under the
    key. -/
def placeholder? (record : Record) (lead : String) (key : String) : Option (List Char) :=
  if key = Key.recordNumber then some (lead.toList ++ (toString record.number).toList)
  else (record.data.get? key).map Value.shown

/-- What comes in the place of a placeholder: the text that its key stands for, white space around
    the key aside, or else the placeholder as it is written. -/
def substitute (record : Record) (lead : String) (token : List Char) : List Char :=
  (record.placeholder? lead (String.ofList (Text.trimChars token))).getD
    (opening ++ (token ++ closing))

/-- The rest of a template, filled in. An opening without a closing behind it, and everything after
    it, is left as it is. -/
def renderRest (record : Record) (lead : String) (rest : List Char) : List Char :=
  match _opened : splitAtPair '\x7b' rest with
  | none => rest
  | some (head, inner) =>
      match _closed : splitAtPair '\x7d' inner with
      | none => head ++ (opening ++ inner)
      | some (token, rest) =>
          head ++ (record.substitute lead token ++ renderRest record lead rest)
termination_by rest.length
decreasing_by
  have := length_of_splitAtPair _opened
  have := length_of_splitAtPair _closed
  omega

def render (record : Record) (lead : String) (template : String) : String :=
  String.ofList (record.renderRest lead template.toList)

end Record

end RecordApps
