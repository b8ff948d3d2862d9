import RecordApps.Process.Transition
import RecordApps.Workspace.Basic

/-! # Processes of records

What the process of an app says about one of its records.
-/

namespace RecordApps.Workspace

/-- The status in which new records of an app start, none where no process is managed. -/
def initialStatus (ws : Workspace) (schema : AppSchema) : Outcome (Option String) := do
  if schema.processEnabled then
    let graph ← ws.requireProcess schema
    return some (← graph.initialStatus).id.text
  else return none

/-- The actions that an actor may take on a record, in the order of the graph. -/
def availableActions (ws : Workspace) (actor : Actor) (schema : AppSchema) (record : Record) :
    Outcome (List ProcessAction) := do
  if schema.processEnabled then
    let graph ← ws.requireProcess schema
    let assignees := ws.assigneesOf schema.id record.id.text
    return (graph.actionsFrom (record.status.getD "")).filter fun action =>
      (graph.authorize record.status action.id.text actor.id assignees).isOk
  else return []

/-- The action that an actor takes on a record, or why it may not be taken. -/
def authorize (ws : Workspace) (actor : Actor) (schema : AppSchema) (record : Record)
    (action : String) : Except Rejection ProcessAction :=
  if schema.processEnabled then
    match ws.processes.get? schema.id with
    | none => .error .processDisabled
    | some graph =>
        graph.authorize record.status action actor.id (ws.assigneesOf schema.id record.id.text)
  else .error .processDisabled

/-- The users that an assignment names, nobody twice, if the status of the record takes
    them. -/
def assignment (ws : Workspace) (schema : AppSchema) (record : Record)
    (assignees : List String) : Outcome (List String) := do
  let graph ← ws.requireProcess schema
  let status := record.status.getD ""
  match (graph.status? status).bind ProcessStatus.assigneeType with
  | none => .error (.invalid (.statusTakesNoAssignees status))
  | some type =>
      let named := (assignees.filter fun s => !Text.isBlank s).eraseDups
      ensure (!named.isEmpty) .noAssignees
      ensure (!(type == .one && 1 < named.length)) (.tooManyAssignees status named.length)
      return named

end RecordApps.Workspace
