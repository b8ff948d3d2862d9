import RecordApps.Process.Graph

/-! # Transitions

When a user may take an action on a record, given the status of the record and who is
assigned to it.
-/

namespace RecordApps

/-- Why an action may not be taken. -/
inductive Rejection where
  /-- The app is not managed by a process. -/
  | processDisabled
  /-- The graph has no such action. -/
  | unknownAction (action : String)
  /-- The action leads away from another status. -/
  | wrongStatus (action expected : String) (actual : Option String)
  /-- The user is not assigned. -/
  | notAssignee (actor status : String)
  /-- The process would end in a status that takes assignees. -/
  | openAssignment (status : String)
  deriving Repr, DecidableEq

namespace Rejection

def message : Rejection → String
  | .processDisabled => "process management is disabled for this app"
  | .unknownAction action => "unknown process action '" ++ action ++ "'"
  | .wrongStatus action expected actual =>
      "action '" ++ action ++ "' starts at '" ++ expected ++ "' but the record is at '" ++
        actual.getD "<none>" ++ "'"
  | .notAssignee actor status =>
      "actor '" ++ actor ++ "' is not assigned to status '" ++ status ++ "'"
  | .openAssignment status =>
      "final status '" ++ status ++ "' must not carry an open assignment"

end Rejection

namespace ProcessGraph

def takesAssignees (graph : ProcessGraph) (status : String) : Bool :=
  (graph.status? status).any (·.takesAssignees)

/-- The action that a user takes on a record in a status, or why it may not be taken. -/
def authorize (graph : ProcessGraph) (current : Option String) (actionId actor : String)
    (assignees : List String) : Except Rejection ProcessAction :=
  match graph.action? actionId with
  | none => .error (.unknownAction actionId)
  | some action =>
      if current != some action.source.text then
        .error (.wrongStatus actionId action.source.text current)
      else if graph.takesAssignees action.source.text && action.type == .normal &&
          !assignees.contains actor then
        .error (.notAssignee actor action.source.text)
      else if (graph.status? action.target.text).any fun s => s.final && s.takesAssignees then
        .error (.openAssignment action.target.text)
      else .ok action

end ProcessGraph

end RecordApps
