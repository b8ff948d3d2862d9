import RecordApps.Condition
import RecordApps.Value.Parser

/-! # Stored conditions

Conditions are kept as values inside other definitions and as a text of their own. The text
lists the fields of a group in the order of their declaration.
-/

namespace RecordApps

namespace Connective

def name : Connective → String
  | .all => "AND"
  | .any => "OR"

def ofValue? : Decoder Connective :=
  Decode.name [("AND", .all), ("and", .all), ("OR", .any), ("or", .any)]

end Connective

namespace Comparison

/-- Read the stored form. Every text names a comparison. -/
def ofValue? : Decoder Comparison
  | .text s => some (ofName s)
  | _ => none

end Comparison

namespace Condition

/-- The stored form. An operand that is absent is left out. -/
def toValue (c : Condition) : Value :=
  .object
    ([("field", c.field.toValue), ("operator", .text c.operator.name)] ++
      (c.value.map fun v => ("value", v)).toList ++
      (c.values.map fun vs => ("values", .list vs)).toList)

def ofValue? : Decoder Condition := Decode.ofFields do
  let field ← Decode.required "field" NonBlank.ofValue?
  let operator ← Decode.required "operator" Comparison.ofValue?
  let value ← Decode.maybeAny "value"
  let values ← Decode.maybe "values" (Decode.listOf some)
  return ⟨field, operator, value, values⟩

end Condition

namespace ConditionGroup

def toValue (g : ConditionGroup) : Value :=
  .object [("conditions", .list (g.conditions.map Condition.toValue)),
    ("logic", .text g.logic.name)]

def ofValue? : Decoder ConditionGroup := Decode.ofFields do
  let logic ← Decode.orElse "logic" Connective.ofValue? .all
  let conditions ← Decode.orElse "conditions" (Decode.listOf Condition.ofValue?) []
  return ⟨logic, conditions⟩

def toText (g : ConditionGroup) : String :=
  (Value.object [("logic", .text g.logic.name),
    ("conditions", .list (g.conditions.map Condition.toValue))]).toText

def conditionStep (depth : Nat) : Stored.Step Value := fun cs =>
  match cs, depth with
  | '\x7b' :: rest, depth + 1 =>
      Stored.object? ["field", "operator", "value", "values"]
        (fun _ cs => (Stored.value? depth cs).map fun (v, rest) => (v.normalize, rest)) rest
  | _, _ => (Stored.value? depth cs).map fun (v, rest) => (v.normalize, rest)

/-- The list of conditions inside a stored text. -/
def conditionsStep (depth : Nat) : Stored.Step Value := fun cs =>
  match cs, depth with
  | '[' :: rest, depth + 1 =>
      (Stored.closed? (conditionStep depth) ']' rest).map fun (items, rest) => (.list items, rest)
  | _, _ => Stored.value? depth cs

/-- A group as a stored text: keys of the group and of its conditions occur once, and what
    stands under unknown keys is skipped. -/
def groupStep (depth : Nat) : Stored.Step Value := fun cs =>
  match cs, depth with
  | '\x7b' :: rest, depth + 1 =>
      Stored.object? ["logic", "conditions"]
        (fun key => if key = "conditions" then conditionsStep depth else Stored.value? depth) rest
  | '[' :: rest, depth + 1 =>
      let item : Stored.Step Value := fun cs =>
        if cs.head? = some '[' then conditionsStep depth cs else Stored.value? depth cs
      (Stored.closed? item ']' rest).map fun (items, rest) => (.list items, rest)
  | _, _ => Stored.value? depth cs

def ofText (raw : String) : Outcome ConditionGroup :=
  match (Stored.only? (groupStep Stored.maxNesting) raw).bind ofValue? with
  | some group => .ok group
  | none => .error (.invalid .unreadableCondition)

end ConditionGroup

end RecordApps
