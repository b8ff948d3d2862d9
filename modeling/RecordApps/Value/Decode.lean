import RecordApps.Value.Basic

/-! # Reading domain types from values

A domain type is stored as an object with one entry a field, or as a list of its fields in
order. Entries that no field asks for are ignored. There are no conversions between texts,
numbers and truth values.
-/

namespace RecordApps

/-- How a value is read as a type; `none` when it has another form. -/
abbrev Decoder (α : Type) := Value → Option α

namespace Decode

variable {α : Type}

def text : Decoder String := Value.text?

def flag : Decoder Bool
  | .bool b => some b
  | _ => none

/-- A whole number from `low` to `high`, spelled as one. -/
def wholeWithin (low high : Int) : Decoder Int
  | .int n => if low ≤ n ∧ n ≤ high then some n else none
  | _ => none

/-- A natural number below a limit, spelled as a whole number. -/
def natBelow (limit : Nat) : Decoder Nat
  | .int (.ofNat n) => if n < limit then some n else none
  | _ => none

def number : Decoder Float := Value.float?

def listOf (item : Decoder α) : Decoder (List α)
  | .list items => items.mapM item
  | _ => none

/-- A value that may be null, for none. -/
def optional (value : Decoder α) : Decoder (Option α)
  | .null => some none
  | v => (value v).map some

def notNull : Decoder (Option Value)
  | .null => some none
  | v => some (some v)

def texts : Decoder (KeyMap String)
  | .object entries =>
      (entries.mapM fun entry => (text entry.2).map fun s => (entry.1, s)).map KeyMap.ofList
  | _ => none

def fields : Decoder Fields
  | .object entries => some (KeyMap.ofList entries)
  | _ => none

/-- One of several names, given as a text, or as the only key of an object whose value passes
    a test. -/
def nameWith (payload : Value → Bool) (names : List (String × α)) : Decoder α
  | .text s => names.lookup s
  | .object [(key, v)] => if payload v then names.lookup key else none
  | _ => none

/-- One of several names; an object has null under the name. -/
def name (names : List (String × α)) : Decoder α :=
  nameWith Value.isNull names

/-- One of several names; an object has null or nothing under the name. -/
def bufferedName (names : List (String × α)) : Decoder α :=
  nameWith (fun
    | .null => true
    | .object [] => true
    | _ => false) names

/-- Where the fields of a type are read from. -/
inductive Source where
  /-- Entries under their keys. -/
  | keyed (entries : List (String × Value))
  /-- Values in the order of the fields. -/
  | listed (items : List Value)

/-- Reads the fields of a type one after the other. -/
abbrev Reader (α : Type) := StateT Source Option α

def absentOr (key : String) (value : Decoder α) (absent : Option α) : Reader α := fun source =>
  match source with
  | .keyed entries =>
      match entries.lookup key with
      | some v => (value v).map (·, source)
      | none => absent.map (·, source)
  | .listed [] => absent.map (·, source)
  | .listed (v :: rest) => (value v).map (·, .listed rest)

def required (key : String) (value : Decoder α) : Reader α :=
  absentOr key value none

/-- A field with a value for when it is absent. -/
def orElse (key : String) (value : Decoder α) (fallback : α) : Reader α :=
  absentOr key value (some fallback)

/-- A field that may be absent or null. -/
def maybe (key : String) (value : Decoder α) : Reader (Option α) :=
  absentOr key (optional value) (some none)

/-- A field that may be absent or null and otherwise holds any value. -/
def maybeAny (key : String) : Reader (Option Value) :=
  absentOr key notNull (some none)

/-- Run a reader over a source that it has to use up. -/
def readAll (reader : Reader α) (source : Source) : Option α :=
  match reader source with
  | some (a, .listed []) => some a
  | some (a, .keyed _) => some a
  | _ => none

/-- A type stored as an object or as a list. -/
def ofFields (reader : Reader α) : Decoder α
  | .object entries => readAll reader (.keyed entries)
  | .list items => readAll reader (.listed items)
  | _ => none

def ofKeyedFields (reader : Reader α) : Decoder α
  | .object entries => readAll reader (.keyed entries)
  | _ => none

/-- The forms of a type under their names. -/
abbrev Variants (α : Type) := List (String × (Source → Option α))

def byName (variants : Variants α) : Decoder (Source → Option α)
  | .text tag => variants.lookup tag
  | _ => none

/-- The form of a name, or at a place in the list of forms. -/
def byNameOrPlace (variants : Variants α) : Decoder (Source → Option α)
  | .text tag => variants.lookup tag
  | .int (.ofNat place) => variants[place]?.map Prod.snd
  | _ => none

/-- A type whose form is chosen by the value under a key, or by the first item of a list. -/
def tagged (key : String) (choose : Decoder (Source → Option α)) : Decoder α
  | .object entries => do
      let read ← choose (← entries.lookup key)
      read (.keyed (entries.filter (·.1 != key)))
  | .list (tag :: rest) => do
      let read ← choose tag
      read (.listed rest)
  | _ => none

/-- A variant without fields, which ignores all entries. -/
def bare (a : α) : Source → Option α :=
  readAll (pure a)

end Decode

end RecordApps
