import RecordApps.Workspace.Basic

/-! # Notifications about records -/

namespace RecordApps.Workspace

/-- The notifications that an event on a record gives rise to, in the order of the rule ids.
    A rule without recipients gives none. -/
def notifications (ws : Workspace) (settings : Settings) (app : AppId) (trigger : Trigger)
    (record : Record) : Outcome (List Notification) := do
  let schema ← ws.requireSchema app
  if settings.rulesReachable then
    let rules := (ws.rulesOf app).mergeSort fun a b => decide (a.id.text ≤ b.id.text)
    let fired := rules.filter fun rule => rule.fires trigger schema record
    let made := fired.map fun rule => rule.notification schema record settings.numberLead
    return made.filter fun n => !n.recipients.isEmpty
  else .error (.internal .storeUnavailable)

/-- The notifications about a record that has been written; none where the rules cannot be
    read, as the record is stored already. -/
def notificationsAfter (ws : Workspace) (settings : Settings) (app : AppId) (trigger : Trigger)
    (record : Record) : List Notification :=
  match ws.notifications settings app trigger record with
  | .ok notifications => notifications
  | .error _ => []

end RecordApps.Workspace
