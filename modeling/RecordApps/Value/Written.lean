import RecordApps.Decimal.Layout
import RecordApps.Value.Basic

/-! # Stored text of values

The compact text that values are stored in, and the indented text that results are shown
in. Only quotes, backslashes and control characters are escaped.
-/

namespace RecordApps.Value

def hexDigit (n : Nat) : Char :=
  if n < 10 then Char.ofNat (48 + n) else Char.ofNat (87 + n)

def escaped (c : Char) : List Char :=
  if c = '"' then ['\\', '"']
  else if c = '\\' then ['\\', '\\']
  else if c.toNat = 8 then ['\\', 'b']
  else if c.toNat = 9 then ['\\', 't']
  else if c.toNat = 10 then ['\\', 'n']
  else if c.toNat = 12 then ['\\', 'f']
  else if c.toNat = 13 then ['\\', 'r']
  else if c.toNat < 32 then
    ['\\', 'u', '0', '0', hexDigit (c.toNat / 16), hexDigit (c.toNat % 16)]
  else [c]

def quoted (s : String) : List Char :=
  '"' :: s.toList.flatMap escaped ++ ['"']

mutual

def written : Value → List Char
  | .null => "null".toList
  | .bool flag => (if flag then "true" else "false").toList
  | .int n => (toString n).toList
  | .float x => (Decimal.storedText x).toList
  | .text s => quoted s
  | .list [] => "[]".toList
  | .list (item :: rest) => '[' :: written item ++ writtenItems rest
  | .object [] => "\x7b\x7d".toList
  | .object ((key, value) :: rest) =>
      '\x7b' :: quoted key ++ ':' :: written value ++ writtenEntries rest

/-- The items after the first and the closing bracket. -/
def writtenItems : List Value → List Char
  | [] => [']']
  | item :: rest => ',' :: written item ++ writtenItems rest

/-- The entries after the first and the closing brace. -/
def writtenEntries : List (String × Value) → List Char
  | [] => ['\x7d']
  | (key, value) :: rest => ',' :: quoted key ++ ':' :: written value ++ writtenEntries rest

end

def toText (v : Value) : String :=
  String.ofList v.written

/-- A line break and the indentation of a nesting level. -/
def lineBreak (level : Nat) : List Char :=
  '\n' :: List.replicate (2 * level) ' '

mutual

/-- The indented text of a value at a nesting level. -/
def indented (level : Nat) : Value → List Char
  | .list (item :: rest) =>
      '[' :: lineBreak (level + 1) ++ indented (level + 1) item ++ indentedItems level rest
  | .object ((key, value) :: rest) =>
      '\x7b' :: lineBreak (level + 1) ++ quoted key ++ ':' :: ' ' ::
        indented (level + 1) value ++ indentedEntries level rest
  | other => written other

/-- The items after the first and the closing bracket, each on a line of its own. -/
def indentedItems (level : Nat) : List Value → List Char
  | [] => lineBreak level ++ [']']
  | item :: rest =>
      ',' :: lineBreak (level + 1) ++ indented (level + 1) item ++ indentedItems level rest

/-- The entries after the first and the closing brace, each on a line of its own. -/
def indentedEntries (level : Nat) : List (String × Value) → List Char
  | [] => lineBreak level ++ ['\x7d']
  | (key, value) :: rest =>
      ',' :: lineBreak (level + 1) ++ quoted key ++ ':' :: ' ' ::
        indented (level + 1) value ++ indentedEntries level rest

end

def toIndentedText (v : Value) : String :=
  String.ofList (indented 0 v)

end RecordApps.Value
