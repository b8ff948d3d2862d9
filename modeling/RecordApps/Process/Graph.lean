import RecordApps.AppId
import RecordApps.NonBlank

/-! # Status graphs

The process of an app is a graph: its nodes are the statuses a record may have, and its edges
are the actions that lead from one status to another.
-/

namespace RecordApps

/-- How the assignees of a status share its step. -/
inductive AssigneeType where
  /-- There is exactly one. -/
  | one
  /-- All of them act. -/
  | all
  /-- Any of them acts. -/
  | any
  deriving Repr, DecidableEq

/-- Who may take an action. -/
inductive ActionType where
  /-- Assignees, where the status takes any. -/
  | normal
  /-- All users. -/
  | nonAssignee
  deriving Repr, DecidableEq

/-- A status of a process. -/
structure ProcessStatus where
  id : NonBlank
  /-- Name for display. -/
  name : NonBlank
  /-- Whether records start here. -/
  initial : Bool
  /-- Whether the process ends here. -/
  final : Bool
  /-- How assignees share the step, for a status that takes any. -/
  assigneeType : Option AssigneeType
  deriving Repr, DecidableEq

/-- An action of a process. -/
structure ProcessAction where
  id : NonBlank
  /-- Name for display. -/
  name : NonBlank
  /-- Id of the status it leads away from. -/
  source : NonBlank
  /-- Id of the status it leads to. -/
  target : NonBlank
  /-- Who may take it. -/
  type : ActionType
  deriving Repr, DecidableEq

/-- The process of an app. -/
structure ProcessGraph where
  app : AppId
  statuses : List ProcessStatus
  actions : List ProcessAction
  deriving Repr, DecidableEq

namespace ProcessStatus

/-- Whether the status takes assignees. -/
def takesAssignees (status : ProcessStatus) : Bool :=
  status.assigneeType.isSome

/-- Refuse assignees where the process ends. -/
def validate (status : ProcessStatus) : Outcome Unit :=
  ensure (!(status.final && status.takesAssignees)) (.finalStatusAssigned status.id.text)

def make (id name : String) (initial final : Bool) (assigneeType : Option AssigneeType) :
    Outcome ProcessStatus := do
  let status : ProcessStatus :=
    ⟨← NonBlank.make id, ← NonBlank.make name, initial, final, assigneeType⟩
  status.validate
  return status

end ProcessStatus

namespace ProcessAction

/-- An action between two named statuses. -/
def make (id name source target : String) (type : ActionType) : Outcome ProcessAction := do
  return ⟨← NonBlank.make id, ← NonBlank.make name, ← NonBlank.make source,
    ← NonBlank.make target, type⟩

end ProcessAction

namespace ProcessGraph

def status? (graph : ProcessGraph) (id : String) : Option ProcessStatus :=
  graph.statuses.find? (·.id.text == id)

def action? (graph : ProcessGraph) (id : String) : Option ProcessAction :=
  graph.actions.find? (·.id.text == id)

/-- The actions that lead away from a status, in the order of the graph. -/
def actionsFrom (graph : ProcessGraph) (status : String) : List ProcessAction :=
  graph.actions.filter (·.source.text == status)

def initialStatus (graph : ProcessGraph) : Outcome ProcessStatus :=
  match graph.statuses.find? (·.initial) with
  | some status => .ok status
  | none => .error (.internal .noInitialStatus)

/-- Check the statuses one after the other: each by itself, and no id twice. -/
def checkStatuses (seen : List String) : List ProcessStatus → Outcome Unit
  | [] => .ok ()
  | status :: rest => do
      status.validate
      ensure (!seen.contains status.id.text) (.duplicateStatus status.id.text)
      checkStatuses (status.id.text :: seen) rest

/-- Check the actions one after the other: no id twice, and both ends statuses of the graph. -/
def checkActions (graph : ProcessGraph) (seen : List String) :
    List ProcessAction → Outcome Unit
  | [] => .ok ()
  | action :: rest => do
      ensure (!seen.contains action.id.text) (.duplicateAction action.id.text)
      [action.source, action.target].forM fun status =>
        ensure (graph.status? status.text).isSome (.unknownStatus action.id.text status.text)
      graph.checkActions (action.id.text :: seen) rest

/-- Check a graph; the first rule that is broken decides. -/
def validate (graph : ProcessGraph) : Outcome Unit := do
  ensure (!graph.statuses.isEmpty) .noStatuses
  checkStatuses [] graph.statuses
  let initialCount := graph.statuses.countP (·.initial)
  ensure (initialCount == 1) (.initialStatusCount initialCount)
  graph.checkActions [] graph.actions

def make (app : AppId) (statuses : List ProcessStatus) (actions : List ProcessAction) :
    Outcome ProcessGraph := do
  let graph : ProcessGraph := ⟨app, statuses, actions⟩
  graph.validate
  return graph

end ProcessGraph

end RecordApps
