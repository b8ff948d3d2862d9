import RecordApps.Access.Stored
import RecordApps.Process.Transition

/-! # Stored processes -/

namespace RecordApps

namespace AssigneeType

/-- The names of the kinds of assignment. -/
def names : List (String × AssigneeType) :=
  [("ONE", .one), ("ALL", .all), ("ANY", .any)]

def name : AssigneeType → String
  | .one => "ONE"
  | .all => "ALL"
  | .any => "ANY"

end AssigneeType

namespace ActionType

def names : List (String × ActionType) :=
  [("NORMAL", .normal), ("NON_ASSIGNEE", .nonAssignee)]

def name : ActionType → String
  | .normal => "NORMAL"
  | .nonAssignee => "NON_ASSIGNEE"

end ActionType

namespace ProcessStatus

def toValue (status : ProcessStatus) : Value :=
  .object
    [("assignee_type", .ofText (status.assigneeType.map AssigneeType.name)),
     ("id", status.id.toValue),
     ("is_final", .bool status.final),
     ("is_initial", .bool status.initial),
     ("name", status.name.toValue)]

def ofValue? : Decoder ProcessStatus := Decode.ofFields do
  let id ← Decode.required "id" NonBlank.ofValue?
  let name ← Decode.required "name" NonBlank.ofValue?
  let initial ← Decode.flagOrFalse "is_initial"
  let final ← Decode.flagOrFalse "is_final"
  let assigneeType ← Decode.maybe "assignee_type" (Decode.name AssigneeType.names)
  return ⟨id, name, initial, final, assigneeType⟩

end ProcessStatus

namespace ProcessAction

def toValue (action : ProcessAction) : Value :=
  .object
    [("action_type", .text action.type.name),
     ("from_status_id", action.source.toValue),
     ("id", action.id.toValue),
     ("name", action.name.toValue),
     ("to_status_id", action.target.toValue)]

def ofValue? : Decoder ProcessAction := Decode.ofFields do
  let id ← Decode.required "id" NonBlank.ofValue?
  let name ← Decode.required "name" NonBlank.ofValue?
  let source ← Decode.required "from_status_id" NonBlank.ofValue?
  let target ← Decode.required "to_status_id" NonBlank.ofValue?
  let type ← Decode.orElse "action_type" (Decode.name ActionType.names) .normal
  return ⟨id, name, source, target, type⟩

end ProcessAction

namespace ProcessGraph

def toValue (graph : ProcessGraph) : Value :=
  .object
    [("actions", .list (graph.actions.map ProcessAction.toValue)),
     ("app_id", graph.app.toValue),
     ("statuses", .list (graph.statuses.map ProcessStatus.toValue))]

def ofValue? : Decoder ProcessGraph := Decode.ofFields do
  let app ← Decode.required "app_id" AppId.ofValue?
  let statuses ← Decode.required "statuses" (Decode.listOf ProcessStatus.ofValue?)
  let actions ← Decode.orElse "actions" (Decode.listOf ProcessAction.ofValue?) []
  return ⟨app, statuses, actions⟩

end ProcessGraph

namespace Rejection

def entries : Rejection → List (String × Value)
  | .processDisabled => [("reason", .text "process_disabled")]
  | .unknownAction action => [("action_id", .text action), ("reason", .text "unknown_action")]
  | .wrongStatus action expected actual =>
      [("action_id", .text action), ("actual", .ofText actual), ("expected", .text expected),
       ("reason", .text "invalid_transition")]
  | .notAssignee actor status =>
      [("actor_id", .text actor), ("reason", .text "not_assignee"), ("status_id", .text status)]
  | .openAssignment status =>
      [("reason", .text "open_assignment_on_final_status"), ("status_id", .text status)]

def toValue (reason : Rejection) : Value :=
  .object reason.entries

/-- The stored form of a request that was rejected. -/
def toOutcome (reason : Rejection) : Value :=
  .object (Entries.insert "outcome" (.text "rejected") reason.entries)

end Rejection

end RecordApps
