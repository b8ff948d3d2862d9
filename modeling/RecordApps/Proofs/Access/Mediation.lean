import RecordApps.Proofs.Access.Deciding
import RecordApps.Proofs.Engine.Atomic
import RecordApps.Proofs.Engine.DefinitionEffect
import RecordApps.Proofs.RecordStore

/-! # Complete mediation

Nothing is answered that the rules do not grant. For every request that succeeds, the row of the
app that decides for the actor grants what the request needs, and for requests about one record
the record rule that decides, if there is one, leaves it.
-/

namespace RecordApps

namespace RuleSet

variable {rules : RuleSet} {actor : Actor} {schema : AppSchema} {record : Record}

/-- The row of the app that decides for an actor grants what is needed. -/
def Grants (rules : RuleSet) (actor : Actor) (need : AppCapabilities → Bool) : Prop :=
  ∃ row, Ranked.Decides (fun row : AppPermission => row.target.covers actor) rules.app row ∧
    need row.capabilities = true

/-- What is needed on a record is granted by the app, and not withdrawn by the record rule that
    decides. -/
def Allows (rules : RuleSet) (actor : Actor) (schema : AppSchema) (record : Record)
    (need : RecordCapabilities → Bool) : Prop :=
  rules.Grants actor (fun app => need app.onRecords) ∧
    ∀ rule, Ranked.Decides (fun rule : RecordRule => rule.applies actor (schema.project record))
      rules.record rule → need rule.capabilities = true

theorem grants_of_appCapabilities {need : AppCapabilities → Bool}
    (hnone : need .none = false) (h : need (rules.appCapabilities actor) = true) :
    rules.Grants actor need := by
  rw [appCapabilities] at h
  split at h
  case h_1 row hrow => exact ⟨row, Ranked.deciding_eq_some_iff.1 hrow, h⟩
  case h_2 => exact absurd h (by simp [hnone])

/-- What an actor may do with a record has been granted and not withdrawn, for every need that is
    met by what two sets share exactly when both meet it. -/
theorem allows_of_access {need : RecordCapabilities → Bool}
    (hmeet : ∀ a b, need (a.intersect b) = (need a && need b))
    (hnone : need AppCapabilities.none.onRecords = false)
    (h : need (rules.access actor schema (some record)).record = true) :
    rules.Allows actor schema record need := by
  simp only [access, recordCapabilities] at h
  split at h
  case h_1 rule hrule =>
    rw [hmeet, Bool.and_eq_true] at h
    refine ⟨grants_of_appCapabilities hnone h.2, fun other hother => ?_⟩
    exact (Ranked.deciding_eq_some_iff.1 hrule).unique hother ▸ h.1
  case h_2 hrule =>
    refine ⟨grants_of_appCapabilities hnone h, fun other hother => ?_⟩
    rw [Ranked.deciding_eq_some_iff.2 hother] at hrule
    cases hrule

theorem allows_view (h : (rules.access actor schema (some record)).record.mayView = true) :
    rules.Allows actor schema record RecordCapabilities.mayView :=
  allows_of_access (fun _ _ => rfl) rfl h

theorem allows_edit (h : (rules.access actor schema (some record)).record.mayEdit = true) :
    rules.Allows actor schema record RecordCapabilities.mayEdit :=
  allows_of_access (fun _ _ => rfl) rfl h

theorem allows_delete (h : (rules.access actor schema (some record)).record.mayDelete = true) :
    rules.Allows actor schema record RecordCapabilities.mayDelete :=
  allows_of_access (fun _ _ => rfl) rfl h

end RuleSet

namespace Workspace

/-- An app exists, and its rules grant an actor what is needed. -/
def GrantsOn (ws : Workspace) (actor : Actor) (app : AppId) (need : AppCapabilities → Bool) :
    Prop :=
  ∃ schema, ws.schemas.get? app = some schema ∧ (ws.ruleSet schema.id).Grants actor need

/-- A record exists, and the rules of its app allow an actor what is needed. -/
def AllowsOn (ws : Workspace) (actor : Actor) (app : AppId) (id : String)
    (need : RecordCapabilities → Bool) : Prop :=
  ∃ schema record, ws.schemas.get? app = some schema ∧
    ws.store.find? schema.code.text id = some record ∧
    (ws.ruleSet schema.id).Allows actor schema record need

/-- No row of an app is for an actor. -/
def Unmatched (ws : Workspace) (actor : Actor) (app : AppId) : Prop :=
  ∀ schema, ws.schemas.get? app = some schema →
    ∀ row ∈ (ws.ruleSet schema.id).app, row.target.covers actor = false

variable {ws : Workspace} {actor : Actor} {app : AppId}

theorem AllowsOn.grantsOn {id : String} {need : RecordCapabilities → Bool}
    (h : ws.AllowsOn actor app id need) :
    ws.GrantsOn actor app (fun app => need app.onRecords) := by
  obtain ⟨schema, record, hschema, -, hgrants, -⟩ := h
  exact ⟨schema, hschema, hgrants⟩

theorem GrantsOn.not_unmatched {need : AppCapabilities → Bool}
    (h : ws.GrantsOn actor app need) : ¬ws.Unmatched actor app := by
  intro hunmatched
  obtain ⟨schema, hschema, row, hrow, -⟩ := h
  obtain ⟨hmem, hcovers⟩ := hrow.mem
  rw [hunmatched schema hschema row hmem] at hcovers
  cases hcovers

/-- What is shown under an id and a number is a record that the actor may view. -/
def Shows (ws : Workspace) (actor : Actor) (schema : AppSchema) (id : String) (number : Nat) :
    Prop :=
  ∃ record ∈ ws.store.records schema.code.text, record.id.text = id ∧ record.number = number ∧
    (ws.ruleSet schema.id).Allows actor schema record RecordCapabilities.mayView

end Workspace

namespace RecordCall

/-- What the rules have to say for a request about records to be answered in some way. -/
def Authorized (ws : Workspace) (actor : Actor) (app : AppId) :
    {α : Type} → RecordCall α → α → Prop
  | _, .create _, _ => ws.GrantsOn actor app AppCapabilities.mayAdd
  | _, .update id _, _ => ws.AllowsOn actor app id RecordCapabilities.mayEdit
  | _, .delete id, _ => ws.AllowsOn actor app id RecordCapabilities.mayDelete
  | _, .read id, _ => ws.AllowsOn actor app id RecordCapabilities.mayView
  | _, .act id _, _ => ws.AllowsOn actor app id RecordCapabilities.mayView
  | _, .actions id, _ => ws.AllowsOn actor app id RecordCapabilities.mayView
  | _, .comment id _, _ => ws.AllowsOn actor app id RecordCapabilities.mayView
  | _, .assign id _, _ =>
      ws.AllowsOn actor app id RecordCapabilities.mayView ∧
        ws.AllowsOn actor app id RecordCapabilities.mayEdit
  | _, .list _, views =>
      ∃ schema, ws.schemas.get? app = some schema ∧
        (ws.ruleSet schema.id).Grants actor AppCapabilities.mayView ∧
        ∀ view ∈ views, ws.Shows actor schema view.id view.number
  | _, .related id field, found =>
      ws.AllowsOn actor app id RecordCapabilities.mayView ∧
        ∃ schema config remote, ws.schemas.get? app = some schema ∧
          (schema.field? field).map FieldDefinition.type = some (.relatedRecords config) ∧
          ws.schemaByCode? config.app = some remote ∧
          ∀ related ∈ found, ws.Shows actor remote related.id related.number

end RecordCall

theorem RelatedConfig.mem_of_mem_sources {config : RelatedConfig} {store : RecordStore}
    {data : Fields} {record : Record} (h : record ∈ config.sources store data) :
    record ∈ store.records config.app := by
  simp only [sources] at h
  split at h
  · cases h
  · exact RecordStore.mem_of_mem_list h

namespace Workspace

variable {ws : Workspace} {settings : Settings} {actor : Actor} {app : AppId}

theorem allowsOn_view {schema : AppSchema} {record : Record} {id : String} {access : Access}
    (hschema : ws.requireSchema app = .ok schema) (hrecord : ws.requireRecord schema id = .ok record)
    (haccess : ws.requireAccess actor schema record = .ok access) :
    ws.AllowsOn actor app id RecordCapabilities.mayView := by
  obtain ⟨rfl, hview⟩ := requireAccess_eq_ok.1 haccess
  exact ⟨schema, record, requireSchema_eq_ok.1 hschema, requireRecord_eq_ok.1 hrecord,
    RuleSet.allows_view hview⟩

theorem readRecord_authorized {id : String} {view : RecordView}
    (h : ws.readRecord settings actor app id = .ok view) :
    ws.AllowsOn actor app id RecordCapabilities.mayView := by
  simp only [readRecord, Outcome.bind_eq_ok] at h
  obtain ⟨schema, hschema, record, hrecord, access, haccess, -⟩ := h
  exact allowsOn_view hschema hrecord haccess

theorem actionsOn_authorized {id : String} {actions : List ProcessAction}
    (h : ws.actionsOn actor app id = .ok actions) :
    ws.AllowsOn actor app id RecordCapabilities.mayView := by
  simp only [actionsOn, Outcome.bind_eq_ok] at h
  obtain ⟨schema, hschema, record, hrecord, access, haccess, -⟩ := h
  exact allowsOn_view hschema hrecord haccess

theorem comment_authorized {id text : String} {notifications : List Notification}
    (h : ws.comment settings actor app id text = .ok notifications) :
    ws.AllowsOn actor app id RecordCapabilities.mayView := by
  simp only [comment, Outcome.bind_eq_ok] at h
  obtain ⟨⟨⟩, -, schema, hschema, record, hrecord, access, haccess, -⟩ := h
  exact allowsOn_view hschema hrecord haccess

theorem listRecords_authorized {filter : RecordFilter} {views : List RecordView}
    (h : ws.listRecords settings actor app filter = .ok views) :
    (RecordCall.list filter).Authorized ws actor app views := by
  simp only [listRecords, Outcome.bind_eq_ok] at h
  obtain ⟨schema, hschema, h⟩ := h
  split at h
  case isFalse => cases h
  case isTrue hview =>
    refine ⟨schema, requireSchema_eq_ok.1 hschema, RuleSet.grants_of_appCapabilities rfl hview, ?_⟩
    obtain rfl := Outcome.pure_eq_ok.1 h
    intro view hmem
    obtain ⟨record, hrecord, hshown⟩ := List.mem_filterMap.1 (RecordFilter.mem_of_mem_cut hmem)
    split at hshown
    case isFalse => cases hshown
    case isTrue hvisible =>
      obtain rfl := Option.some.inj hshown
      rw [Bool.and_eq_true] at hvisible
      exact ⟨record, RecordStore.mem_of_mem_list hrecord, rfl, rfl,
        RuleSet.allows_view hvisible.1⟩

theorem relatedView?_eq_some {rules : RuleSet} {schema : AppSchema} {displayFields : List String}
    {record : Record} {related : RelatedRecord}
    (h : relatedView? rules actor schema displayFields record = some related) :
    (rules.access actor schema (some record)).record.mayView = true ∧
      related = { RelatedRecord.ofRecord record displayFields with
        fields := (rules.access actor schema (some record)).fields.redact
          (RelatedRecord.ofRecord record displayFields).fields } := by
  simp only [relatedView?] at h
  split at h
  case isTrue hvisible => exact ⟨hvisible, (Option.some.inj h).symm⟩
  case isFalse => cases h

theorem relatedRecords_authorized {id code : String} {found : List RelatedRecord}
    (h : ws.relatedRecords actor app id code = .ok found) :
    (RecordCall.related id code).Authorized ws actor app found := by
  simp only [relatedRecords, Outcome.bind_eq_ok] at h
  obtain ⟨schema, hschema, record, hrecord, access, haccess, h⟩ := h
  refine ⟨allowsOn_view hschema hrecord haccess, ?_⟩
  split at h
  · cases h
  · split at h
    case h_1 config hconfig =>
      split at h
      · cases h
      case h_2 remote hremote =>
        obtain rfl := Outcome.pure_eq_ok.1 h
        have hcode : remote.code.text = config.app := by
          simpa using List.find?_some hremote
        refine ⟨schema, config, remote, requireSchema_eq_ok.1 hschema, hconfig, hremote,
          fun related hmem => ?_⟩
        obtain ⟨other, hother, hshown⟩ := List.mem_filterMap.1 hmem
        obtain ⟨hvisible, rfl⟩ := relatedView?_eq_some hshown
        refine ⟨other, ?_, rfl, rfl, RuleSet.allows_view hvisible⟩
        rw [hcode]
        exact RelatedConfig.mem_of_mem_sources hother
    case h_2 => cases h

theorem draft_grants {schema : AppSchema} {input : Fields} {refresh : Refresh}
    (h : ws.draft settings actor schema input = .ok refresh) :
    (ws.ruleSet schema.id).Grants actor AppCapabilities.mayAdd :=
  RuleSet.grants_of_appCapabilities rfl (draft_ok h).1

theorem revision_allows {schema : AppSchema} {record : Record} {changes : Fields}
    {refresh : Refresh} (h : ws.revision settings actor schema record changes = .ok refresh) :
    (ws.ruleSet schema.id).Allows actor schema record RecordCapabilities.mayEdit :=
  RuleSet.allows_edit (revision_ok h).1

end Workspace

namespace Engine

open Workspace

variable {α : Type} {settings : Settings} {ws ws' : Workspace} {actor : Actor} {app : AppId}

theorem recordCall_authorized (call : RecordCall α) {answer : α}
    (ran : run settings ws (call.perform actor app) = (.ok answer, ws')) :
    call.Authorized ws actor app answer := by
  cases call with
  | create input =>
      obtain ⟨schema, _, _, _, hschema, hdraft, -⟩ := createRecord_ok ran
      exact ⟨schema, hschema, draft_grants hdraft⟩
  | update id changes =>
      obtain ⟨schema, record, _, _, hschema, hrecord, hrevision, -⟩ := updateRecord_ok ran
      exact ⟨schema, record, hschema, hrecord, revision_allows hrevision⟩
  | delete id =>
      obtain ⟨schema, record, _, hschema, hrecord, hdelete, -⟩ := deleteRecord_ok ran
      exact ⟨schema, record, hschema, hrecord, RuleSet.allows_delete hdelete⟩
  | act id action =>
      obtain ⟨schema, record, _, hschema, hrecord, hview, -⟩ := executeAction_ok ran
      exact ⟨schema, record, hschema, hrecord, RuleSet.allows_view hview⟩
  | assign id assignees =>
      obtain ⟨schema, record, hschema, hrecord, hview, hedit, -⟩ := assignRecord_ok ran
      exact ⟨⟨schema, record, hschema, hrecord, RuleSet.allows_view hview⟩,
        schema, record, hschema, hrecord, RuleSet.allows_edit hedit⟩
  | read id => exact readRecord_authorized (answer_of_run_settings ran)
  | list filter => exact listRecords_authorized (answer_of_run_settings ran)
  | related id field => exact relatedRecords_authorized (answer_of_run ran)
  | actions id => exact actionsOn_authorized (answer_of_run ran)
  | comment id text => exact comment_authorized (answer_of_run_settings ran)

theorem addField_grants {f added : FieldDefinition}
    (ran : run settings ws (addField actor app f) = (.ok added, ws')) :
    ws.GrantsOn actor app AppCapabilities.mayManage := by
  obtain ⟨schema, _, hschema, hmanage, -⟩ := addField_ok ran
  exact ⟨schema, hschema, RuleSet.grants_of_appCapabilities rfl hmanage⟩

theorem retireField_grants {code : String}
    (ran : run settings ws (retireField actor app code) = (.ok (), ws')) :
    ws.GrantsOn actor app AppCapabilities.mayManage := by
  obtain ⟨schema, _, hschema, hmanage, -⟩ := retireField_ok ran
  exact ⟨schema, hschema, RuleSet.grants_of_appCapabilities rfl hmanage⟩

theorem authorized_grants {call : RecordCall α} {answer : α}
    (h : call.Authorized ws actor app answer) : ∃ need, ws.GrantsOn actor app need := by
  cases call with
  | create => exact ⟨_, h⟩
  | update | delete | read | act | actions | comment => exact ⟨_, AllowsOn.grantsOn h⟩
  | assign | related => exact ⟨_, h.1.grantsOn⟩
  | list =>
      obtain ⟨schema, hschema, hgrants, -⟩ := h
      exact ⟨_, schema, hschema, hgrants⟩

/-- A change that needs a grant and is atomic fails without a trace where no row is for the
    actor. -/
theorem refused_of_unmatched {change : Engine α} (hatomic : Atomic change)
    (hgrants : ∀ answer ws', run settings ws change = (.ok answer, ws') →
      ∃ need, ws.GrantsOn actor app need)
    (hunmatched : ws.Unmatched actor app) :
    ∃ fault, run settings ws change = (.error fault, ws) := by
  rcases hran : run settings ws change with ⟨fault | answer, ws'⟩
  · exact ⟨fault, by rw [hatomic settings ws fault ws' hran]⟩
  · obtain ⟨need, hneed⟩ := hgrants answer ws' hran
    exact absurd hunmatched hneed.not_unmatched

/-- Complete mediation. A request about records is answered only if the deciding row of the app
    grants it and the deciding record rule leaves it, fields are added and retired only if the
    deciding row lets the actor manage the app, and an actor for whom there is no row is refused
    everything, without a trace. -/
theorem complete_mediation (settings : Settings) (ws : Workspace) (actor : Actor) (app : AppId) :
    (∀ {α : Type} (call : RecordCall α) answer ws',
      run settings ws (call.perform actor app) = (.ok answer, ws') →
        call.Authorized ws actor app answer) ∧
    (∀ f added ws', run settings ws (addField actor app f) = (.ok added, ws') →
      ws.GrantsOn actor app AppCapabilities.mayManage) ∧
    (∀ code ws', run settings ws (retireField actor app code) = (.ok (), ws') →
      ws.GrantsOn actor app AppCapabilities.mayManage) ∧
    (ws.Unmatched actor app →
      (∀ {α : Type} (call : RecordCall α),
        ∃ fault, run settings ws (call.perform actor app) = (.error fault, ws)) ∧
      (∀ f, ∃ fault, run settings ws (addField actor app f) = (.error fault, ws)) ∧
      ∀ code, ∃ fault, run settings ws (retireField actor app code) = (.error fault, ws)) := by
  refine ⟨?_, ?_, ?_, fun hunmatched => ⟨?_, ?_, ?_⟩⟩
  · intro α call answer ws' ran
    exact recordCall_authorized call ran
  · intro f added ws' ran
    exact addField_grants ran
  · intro code ws' ran
    exact retireField_grants ran
  · intro α call
    refine refused_of_unmatched (recordCall_atomic actor app call) (fun answer ws' ran => ?_)
      hunmatched
    exact authorized_grants (recordCall_authorized call ran)
  · intro f
    refine refused_of_unmatched (addField_atomic actor app f) (fun added ws' ran => ?_) hunmatched
    exact ⟨_, addField_grants ran⟩
  · intro code
    refine refused_of_unmatched (retireField_atomic actor app code) (fun _ ws' ran => ?_)
      hunmatched
    exact ⟨_, retireField_grants ran⟩

/-- The clerk, for whom there is a row, edits an order; a stranger, for whom there is none, is
    refused the same. -/
theorem complete_mediation_orders :
    let changes := KeyMap.ofList [("item", .text "coffee")]
    let stranger := { Orders.clerk with id := "stranger" }
    (∃ answer ws', run Orders.settings Orders.workspace
        ((RecordCall.update "r" changes).perform Orders.clerk Orders.app) = (.ok answer, ws') ∧
      Orders.workspace.AllowsOn Orders.clerk Orders.app "r" RecordCapabilities.mayEdit) ∧
    Orders.workspace.Unmatched stranger Orders.app ∧
    ∃ fault, run Orders.settings Orders.workspace
      ((RecordCall.update "r" changes).perform stranger Orders.app) =
        (.error fault, Orders.workspace) := by
  intro changes stranger
  have hmediation := complete_mediation Orders.settings Orders.workspace
  have hunmatched : Orders.workspace.Unmatched stranger Orders.app := by
    intro schema hschema row hrow
    obtain rfl : Orders.schema = schema := Option.some.inj hschema
    obtain rfl := List.mem_singleton.1 hrow
    rfl
  refine ⟨⟨_, _, rfl, (hmediation Orders.clerk Orders.app).1 (.update "r" changes) _ _ rfl⟩,
    hunmatched, ?_⟩
  exact ((hmediation stranger Orders.app).2.2.2 hunmatched).1 (.update "r" changes)

end Engine

end RecordApps
