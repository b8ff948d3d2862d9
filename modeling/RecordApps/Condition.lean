import RecordApps.NonBlank
import RecordApps.Value.Coerce

/-! # Conditions

A condition compares one field of a record with fixed values, and a group of conditions holds
when all or any of them do. Evaluation never fails: a malformed condition holds on no
record.
-/

namespace RecordApps

/-- How the results of a group are combined. -/
inductive Connective where
  /-- Every condition has to hold. -/
  | all
  /-- Some condition has to hold. -/
  | any
  deriving Repr, DecidableEq

/-- How a condition compares. -/
inductive Comparison where
  /-- The same value. -/
  | equal
  /-- Another value. -/
  | notEqual
  /-- One of the listed values. -/
  | member
  /-- None of the listed values. -/
  | notMember
  /-- A larger number. -/
  | greater
  /-- A smaller number. -/
  | less
  /-- A number at least as large. -/
  | atLeast
  /-- A number at most as large. -/
  | atMost
  /-- A text that contains the given one. -/
  | contains
  /-- A name this engine does not know. It is kept as written. -/
  | unknown (name : String)
  deriving Repr, DecidableEq

namespace Comparison

/-- The names of the known comparisons. -/
def names : List (String × Comparison) :=
  [("eq", .equal), ("ne", .notEqual), ("in", .member), ("not_in", .notMember), ("gt", .greater),
   ("lt", .less), ("gte", .atLeast), ("lte", .atMost), ("contains", .contains)]

def ofName (name : String) : Comparison :=
  (names.lookup name).getD (.unknown name)

def name : Comparison → String
  | .equal => "eq"
  | .notEqual => "ne"
  | .member => "in"
  | .notMember => "not_in"
  | .greater => "gt"
  | .less => "lt"
  | .atLeast => "gte"
  | .atMost => "lte"
  | .contains => "contains"
  | .unknown name => name

/-- Whether the comparison is with a list. -/
def takesList : Comparison → Bool
  | .member | .notMember => true
  | _ => false

end Comparison

/-- One comparison of a field. -/
structure Condition where
  /-- Field code. -/
  field : NonBlank
  /-- How to compare. -/
  operator : Comparison
  /-- What to compare with. -/
  value : Option Value
  /-- What list to compare with. -/
  values : Option (List Value)
  deriving Repr

/-- Conditions combined by one connective. -/
structure ConditionGroup where
  logic : Connective
  conditions : List Condition
  deriving Repr

/-- Whether a stored value counts as equal to an expected one: numbers by size where the
    stored one is a number, everything else by its text. -/
def Value.matchesValue (actual expected : Value) : Bool :=
  if actual.isNumber then
    match actual.asNumber, expected.asNumber with
    | some a, some b => a == b
    | _, _ => false
  else actual.asText == expected.asText

/-- Whether a stored value, or one of its items, is in a list. -/
def Value.matchesMember (actual : Value) (expected : List Value) : Bool :=
  match actual with
  | .list items => items.any fun item => expected.any item.matchesValue
  | other => expected.any other.matchesValue

/-- Whether a stored value, or one of its items, contains a text. -/
def Value.matchesPart (actual expected : Value) : Bool :=
  match actual with
  | .list items => items.any fun item => Text.occursIn expected.shown item.shown
  | other => Text.occursIn expected.shown other.shown

namespace Condition

/-- Refuse unknown operators and operands of the wrong form: list operators take a list, all
    others a scalar. -/
def validate (c : Condition) : Outcome Unit :=
  match c.operator with
  | .unknown name => .error (.invalid (.unknownOperator c.field.text name))
  | operator =>
      if operator.takesList then
        ensure c.values.isSome (.listOperandMissing c.field.text operator.name)
      else
        match c.value with
        | none | some (.list _) | some (.object _) =>
            .error (.invalid (.scalarOperandMissing c.field.text operator.name))
        | some _ => .ok ()

def scalar (field : String) (operator : Comparison) (value : Value) : Outcome Condition := do
  let c : Condition := ⟨← NonBlank.make field, operator, some value, none⟩
  c.validate
  return c

def list (field : String) (operator : Comparison) (values : List Value) : Outcome Condition := do
  let c : Condition := ⟨← NonBlank.make field, operator, none, some values⟩
  c.validate
  return c

/-- Whether a stored value stands in an order relation to the expected number. -/
def ordered (c : Condition) (actual : Value) (relation : Float → Float → Bool) : Bool :=
  match c.value.bind Value.asNumber, actual.asNumber with
  | some expected, some number => relation number expected
  | _, _ => false

/-- Whether the condition holds on the fields of a record. -/
def holds (c : Condition) (data : Fields) : Bool :=
  let actual := data.value c.field.text
  match c.operator with
  | .equal => c.value.any fun expected => actual.matchesValue expected
  | .notEqual => c.value.any fun expected => !actual.matchesValue expected
  | .greater => c.ordered actual fun a b => b < a
  | .less => c.ordered actual fun a b => a < b
  | .atLeast => c.ordered actual fun a b => b ≤ a
  | .atMost => c.ordered actual fun a b => a ≤ b
  | .member => c.values.any fun expected => actual.matchesMember expected
  | .notMember => c.values.any fun expected => !actual.matchesMember expected
  | .contains => c.value.any fun expected => actual.matchesPart expected
  | .unknown _ => false

end Condition

namespace ConditionGroup

/-- The group that holds on every record. -/
def always : ConditionGroup :=
  ⟨.all, []⟩

instance : Inhabited ConditionGroup := ⟨always⟩

/-- The field codes of the conditions in order. -/
def fieldCodes (g : ConditionGroup) : List String :=
  g.conditions.map (·.field.text)

/-- Check every condition; the first that fails decides. -/
def validate (g : ConditionGroup) : Outcome Unit :=
  g.conditions.forM Condition.validate

/-- Whether the group holds on the fields of a record. An empty group always does. -/
def holds (g : ConditionGroup) (data : Fields) : Bool :=
  g.conditions.isEmpty ||
    match g.logic with
    | .all => g.conditions.all (·.holds data)
    | .any => g.conditions.any (·.holds data)

end ConditionGroup

end RecordApps
