import RecordApps.KeyMap

/-! # Dynamic values

What a record holds under a field code. Whole numbers and floats are different values even
when they are numerically equal, as their spelling in stored text differs.
-/

namespace RecordApps

/-- One dynamic value. -/
inductive Value where
  /-- No value. -/
  | null
  /-- A truth value. -/
  | bool (flag : Bool)
  /-- A number written without point and exponent. -/
  | int (n : Int)
  /-- Any other number. -/
  | float (x : Float)
  /-- A text. -/
  | text (s : String)
  /-- A list of values. -/
  | list (items : List Value)
  /-- Values under keys. -/
  | object (entries : List (String × Value))
  deriving Repr, Inhabited

/-- Values under field codes, in the order of the codes. -/
abbrev Fields := KeyMap Value

namespace KeyMap

/-- The value under a code, null when there is none. -/
def value (data : Fields) (code : String) : Value :=
  (data.get? code).getD .null

def toValue (data : Fields) : Value :=
  .object data.entries

end KeyMap

namespace Value

def isNull : Value → Bool
  | .null => true
  | _ => false

def text? : Value → Option String
  | .text s => some s
  | _ => none

def items? : Value → Option (List Value)
  | .list items => some items
  | _ => none

/-- A whole number that is not negative. -/
def nat? : Value → Option Nat
  | .int (.ofNat n) => some n
  | _ => none

/-- A number of either kind as a float. -/
def float? : Value → Option Float
  | .int n => some (Float.ofInt n)
  | .float x => some x
  | _ => none

/-- Whether a value is a number of either kind. -/
def isNumber : Value → Bool
  | .int _ | .float _ => true
  | _ => false

mutual

/-- Whether two values are the same: of one kind, with the same content. Both zeros are the
    same float. -/
def same : Value → Value → Bool
  | .null, .null => true
  | .bool a, .bool b => a == b
  | .int a, .int b => a == b
  | .float a, .float b => a == b
  | .text a, .text b => a == b
  | .list as, .list bs => sameItems as bs
  | .object as, .object bs => sameEntries as bs
  | _, _ => false

/-- Whether two lists hold the same values in the same order. -/
def sameItems : List Value → List Value → Bool
  | [], [] => true
  | a :: as, b :: bs => a.same b && sameItems as bs
  | _, _ => false

/-- Whether two objects hold the same values under the same keys. -/
def sameEntries : List (String × Value) → List (String × Value) → Bool
  | [], [] => true
  | (k, a) :: as, (l, b) :: bs => k == l && a.same b && sameEntries as bs
  | _, _ => false

end

mutual

/-- Every object inside, in key order and with one value a key: the last that was written. -/
def normalize : Value → Value
  | .list items => .list (normalizeItems items)
  | .object entries => .object (Entries.insertAll [] (normalizeEntries entries))
  | other => other

def normalizeItems : List Value → List Value
  | [] => []
  | item :: rest => item.normalize :: normalizeItems rest

/-- Normalize the value of every entry. -/
def normalizeEntries : List (String × Value) → List (String × Value)
  | [] => []
  | (key, value) :: rest => (key, value.normalize) :: normalizeEntries rest

end

end Value

end RecordApps
