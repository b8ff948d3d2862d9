import RecordApps.Proofs.Engine.RecordEffect
import RecordApps.Proofs.Service

/-! # Refused requests leave no trace

Every change reads first, then makes a write that may be refused, and after that does nothing
that can be refused. A refusal therefore finds the workspace as it was before. The three
properties of changes below follow the sequence of steps; every operation is put together
from them in the order in which it is written.
-/

namespace RecordApps.Engine

variable {α β : Type}

/-- The change never writes. -/
def OnlyReads (change : Engine α) : Prop :=
  ∀ settings ws, (run settings ws change).2 = ws

/-- The change is never refused. -/
def Completes (change : Engine α) : Prop :=
  ∀ settings ws, ∃ answer ws', run settings ws change = (.ok answer, ws')

/-- A refusal of the change leaves the workspace as it was. -/
def Atomic (change : Engine α) : Prop :=
  ∀ settings ws fault ws', run settings ws change = (.error fault, ws') → ws' = ws

namespace OnlyReads

theorem pure (a : α) : OnlyReads (Pure.pure a) := fun _ _ => rfl

theorem get : OnlyReads MonadState.get := fun _ _ => rfl

theorem read : OnlyReads MonadReader.read := fun _ _ => rfl

theorem throw (fault : Fault) : OnlyReads (MonadExcept.throw fault : Engine α) := fun _ _ => rfl

theorem lift (outcome : Outcome α) : OnlyReads (liftM outcome) := fun settings ws => by
  rw [run_lift]

theorem bind {x : Engine α} {f : α → Engine β} (first : OnlyReads x)
    (later : ∀ a, OnlyReads (f a)) : OnlyReads (x >>= f) := by
  intro settings ws
  have unchanged := first settings ws
  rw [run_bind]
  rcases hx : run settings ws x with ⟨_ | a, mid⟩ <;> rw [hx] at unchanged
  · exact unchanged
  · exact (later a settings mid).trans unchanged

theorem unchanged {change : Engine α} (reads : OnlyReads change) {settings : Settings}
    {ws ws' : Workspace} {outcome : Outcome α}
    (ran : run settings ws change = (outcome, ws')) : ws' = ws := by
  have same := reads settings ws
  rwa [ran] at same

end OnlyReads

namespace Completes

theorem pure (a : α) : Completes (Pure.pure a) := fun _ ws => ⟨a, ws, rfl⟩

theorem get : Completes MonadState.get := fun _ ws => ⟨ws, ws, rfl⟩

theorem set (ws : Workspace) : Completes (MonadStateOf.set ws) := fun _ _ => ⟨⟨⟩, ws, rfl⟩

theorem modify (f : Workspace → Workspace) : Completes (modify f) :=
  fun _ ws => ⟨⟨⟩, f ws, rfl⟩

theorem bind {x : Engine α} {f : α → Engine β} (first : Completes x)
    (later : ∀ a, Completes (f a)) : Completes (x >>= f) := by
  intro settings ws
  obtain ⟨a, mid, ran⟩ := first settings ws
  obtain ⟨b, ws', rest⟩ := later a settings mid
  exact ⟨b, ws', run_bind_eq_ok.mpr ⟨a, mid, ran, rest⟩⟩

end Completes

namespace Atomic

theorem of_onlyReads {change : Engine α} (reads : OnlyReads change) : Atomic change := by
  intro settings ws fault ws' ran
  exact reads.unchanged ran

theorem of_completes {change : Engine α} (completes : Completes change) : Atomic change := by
  intro settings ws fault ws' ran
  obtain ⟨answer, end_, done⟩ := completes settings ws
  rw [done] at ran
  cases ran

theorem after_reading {x : Engine α} {f : α → Engine β} (first : OnlyReads x)
    (later : ∀ a, Atomic (f a)) : Atomic (x >>= f) := by
  intro settings ws fault ws' ran
  have unchanged := first settings ws
  rw [run_bind] at ran
  rcases hx : run settings ws x with ⟨_ | a, mid⟩ <;> rw [hx] at ran unchanged
  · cases ran
    exact unchanged
  · exact (later a settings mid fault ws' ran).trans unchanged

theorem before_completing {x : Engine α} {f : α → Engine β} (first : Atomic x)
    (later : ∀ a, Completes (f a)) : Atomic (x >>= f) := by
  intro settings ws fault ws' ran
  rw [run_bind] at ran
  rcases hx : run settings ws x with ⟨_ | a, mid⟩
  · rw [hx] at ran
    cases ran
    exact first settings ws _ _ hx
  · obtain ⟨b, ws'', done⟩ := later a settings mid
    rw [hx] at ran
    simp only [done] at ran
    cases ran

end Atomic

/-! ## Writes of the record store -/

theorem insertRecord_atomic (code : String) (data : Fields) : Atomic (insertRecord code data) := by
  refine .after_reading .get fun ws => ?_
  refine .after_reading .read fun settings => ?_
  refine .after_reading (.lift _) fun (record, store) => ?_
  exact .of_completes (.bind (.set _) fun _ => .pure _)

theorem updateRecordStore_atomic (code : String) (record : Record)
    (expectedStatus : Option String) : Atomic (updateRecordStore code record expectedStatus) := by
  refine .after_reading .get fun ws => ?_
  refine .after_reading (.lift _) fun store => ?_
  exact .of_completes (.set _)

theorem setAssignees_completes (app : AppId) (record : String) (assignees : List String) :
    Completes (setAssignees app record assignees) :=
  .modify _

/-! ## Records -/

theorem createRecord_atomic (actor : Actor) (app : AppId) (input : Fields) :
    Atomic (createRecord actor app input) := by
  refine .after_reading .read fun settings => ?_
  refine .after_reading .get fun ws => ?_
  refine .after_reading (.lift _) fun schema => ?_
  refine .after_reading (.lift _) fun refresh => ?_
  refine .before_completing (insertRecord_atomic _ _) fun record => ?_
  exact .bind .get fun after => .pure _

theorem updateRecord_atomic (actor : Actor) (app : AppId) (id : String) (changes : Fields) :
    Atomic (updateRecord actor app id changes) := by
  refine .after_reading .read fun settings => ?_
  refine .after_reading .get fun ws => ?_
  refine .after_reading (.lift _) fun schema => ?_
  refine .after_reading (.lift _) fun record => ?_
  refine .after_reading (.lift _) fun refresh => ?_
  refine .before_completing (updateRecordStore_atomic _ _ _) fun _ => ?_
  exact .bind .get fun after => .pure _

theorem deleteRecord_atomic (actor : Actor) (app : AppId) (id : String) :
    Atomic (deleteRecord actor app id) := by
  refine .after_reading .read fun settings => ?_
  refine .after_reading .get fun ws => ?_
  refine .after_reading (.lift _) fun schema => ?_
  refine .after_reading (.lift _) fun record => ?_
  split
  · refine .after_reading (.lift _) fun store => ?_
    exact .of_completes (.bind (.set _) fun _ => .bind .get fun after => .pure _)
  · exact .of_onlyReads (.throw _)

theorem assign_atomic (schema : AppSchema) (record : Record) (assignees : List String) :
    Atomic (assign schema record assignees) := by
  refine .after_reading .get fun ws => ?_
  refine .after_reading (.lift _) fun named => ?_
  exact .of_completes (setAssignees_completes _ _ _)

theorem assignRecord_atomic (actor : Actor) (app : AppId) (id : String)
    (assignees : List String) : Atomic (assignRecord actor app id assignees) := by
  refine .after_reading .get fun ws => ?_
  refine .after_reading (.lift _) fun schema => ?_
  refine .after_reading (.lift _) fun record => ?_
  refine .after_reading (.lift _) fun access => ?_
  split
  · exact assign_atomic _ _ _
  · exact .of_onlyReads (.throw _)

theorem transition_atomic (actor : Actor) (schema : AppSchema) (record : Record)
    (action : String) : Atomic (transition actor schema record action) := by
  refine .after_reading .get fun ws => ?_
  split
  · exact .of_onlyReads (.pure _)
  · refine .after_reading .read fun settings => ?_
    refine .before_completing (updateRecordStore_atomic _ _ _) fun _ => ?_
    exact .bind (setAssignees_completes _ _ _) fun _ => .pure _

theorem executeAction_atomic (actor : Actor) (app : AppId) (id action : String) :
    Atomic (executeAction actor app id action) := by
  refine .after_reading .read fun settings => ?_
  refine .after_reading .get fun ws => ?_
  refine .after_reading (.lift _) fun schema => ?_
  refine .after_reading (.lift _) fun record => ?_
  refine .after_reading (.lift _) fun access => ?_
  refine .before_completing (transition_atomic _ _ _ _) fun outcome => ?_
  split
  · exact .pure _
  · exact .bind .get fun after => .pure _

/-! ## Definitions -/

theorem saveSchema_atomic (schema : AppSchema) : Atomic (saveSchema schema) := by
  refine .after_reading (.lift _) fun _ => ?_
  refine .after_reading .get fun ws => ?_
  extract_lets write checkCode
  have commit : ∀ r, Atomic (checkCode r) := by
    intro r
    dsimp only [checkCode]
    split
    · exact .after_reading (.throw _) fun _ => .of_completes (.set _)
    · exact .of_completes (.set _)
  split
  · exact .after_reading (.lift _) commit
  · exact commit ()

theorem requireManageable_onlyReads (actor : Actor) (app : AppId) :
    OnlyReads (requireManageable actor app) := by
  refine .bind .get fun ws => ?_
  refine .bind (.lift _) fun schema => ?_
  split
  · exact .pure _
  · exact .throw _

theorem addField_atomic (actor : Actor) (app : AppId) (f : FieldDefinition) :
    Atomic (addField actor app f) := by
  refine .after_reading (requireManageable_onlyReads _ _) fun schema => ?_
  refine .after_reading (.lift _) fun _ => ?_
  split
  · refine .after_reading (.throw _) fun _ => ?_
    refine .after_reading (.lift _) fun extended => ?_
    exact .before_completing (saveSchema_atomic _) fun _ => .pure _
  · refine .after_reading (.lift _) fun extended => ?_
    exact .before_completing (saveSchema_atomic _) fun _ => .pure _

theorem retireField_atomic (actor : Actor) (app : AppId) (code : String) :
    Atomic (retireField actor app code) := by
  refine .after_reading (requireManageable_onlyReads _ _) fun schema => ?_
  exact .after_reading (.lift _) fun retired => saveSchema_atomic _

theorem saveAppPermission_atomic (row : AppPermission) : Atomic (saveAppPermission row) := by
  refine .after_reading (.lift _) fun _ => ?_
  refine .after_reading .get fun ws => ?_
  exact .after_reading (.lift _) fun schema => .of_completes (.set _)

theorem saveFieldPermission_atomic (row : FieldPermission) :
    Atomic (saveFieldPermission row) := by
  refine .after_reading (.lift _) fun _ => ?_
  refine .after_reading .get fun ws => ?_
  refine .after_reading (.lift _) fun schema => ?_
  exact .after_reading (.lift _) fun _ => .of_completes (.set _)

theorem saveRecordRule_atomic (rule : RecordRule) : Atomic (saveRecordRule rule) := by
  refine .after_reading (.lift _) fun _ => ?_
  refine .after_reading .get fun ws => ?_
  refine .after_reading (.lift _) fun schema => ?_
  refine .after_reading (.lift _) fun _ => ?_
  exact .after_reading (.lift _) fun _ => .of_completes (.set _)

/-- The rows are ranked on the side; the table is replaced as a whole or not at all. -/
theorem reorder_atomic (app : AppId) (kind : RuleKind) (ids : List String) :
    Atomic (reorder app kind ids) := by
  refine .after_reading .get fun ws => ?_
  cases kind with
  | app =>
      refine .after_reading (.lift _) fun rows => ?_
      exact .after_reading (.lift _) fun _ => .of_completes (.modify _)
  | field =>
      refine .after_reading (.lift _) fun rows => ?_
      exact .after_reading (.lift _) fun _ => .of_completes (.modify _)
  | record =>
      refine .after_reading (.lift _) fun rules => ?_
      exact .after_reading (.lift _) fun _ => .of_completes (.modify _)

theorem saveProcess_atomic (graph : ProcessGraph) : Atomic (saveProcess graph) := by
  refine .after_reading (.lift _) fun _ => ?_
  refine .after_reading .get fun ws => ?_
  exact .after_reading (.lift _) fun schema => .of_completes (.set _)

theorem setProcessEnabled_atomic (app : AppId) (enabled : Bool) :
    Atomic (setProcessEnabled app enabled) := by
  refine .after_reading .get fun ws => ?_
  refine .after_reading (.lift _) fun schema => ?_
  split
  · exact .after_reading (.throw _) fun _ => saveSchema_atomic _
  · exact saveSchema_atomic _

theorem saveNotificationRule_atomic (rule : NotificationRule) :
    Atomic (saveNotificationRule rule) := by
  refine .after_reading (.lift _) fun _ => ?_
  refine .after_reading .get fun ws => ?_
  refine .after_reading (.lift _) fun schema => ?_
  extract_lets store
  have commit : ∀ r, Atomic (store r) := by
    intro r
    refine .after_reading (.lift _) fun _ => ?_
    refine .after_reading .read fun settings => ?_
    split
    · exact .of_completes (.set _)
    · exact .of_onlyReads (.throw _)
  split
  · exact .after_reading (.lift _) commit
  · exact commit ()

/-! ## Requests -/

theorem recordCall_onlyReads {actor : Actor} {app : AppId} {call : RecordCall α}
    (h : call.isRead = true) : OnlyReads (call.perform actor app) := by
  cases call with
  | create | update | delete | act | assign => cases h
  | read | list | comment => exact .bind .get fun _ => .bind .read fun _ => .lift _
  | related | actions => exact .bind .get fun _ => .lift _

theorem recordCall_atomic (actor : Actor) (app : AppId) (call : RecordCall α) :
    Atomic (call.perform actor app) := by
  cases call with
  | create input => exact createRecord_atomic _ _ _
  | update id changes => exact updateRecord_atomic _ _ _ _
  | delete id => exact deleteRecord_atomic _ _ _
  | act id action => exact executeAction_atomic _ _ _ _
  | assign id assignees => exact assignRecord_atomic _ _ _ _
  | read | list | related | actions | comment => exact .of_onlyReads (recordCall_onlyReads rfl)

theorem schemaCall_onlyReads {call : SchemaCall α} (h : call.isRead = true) :
    OnlyReads call.perform := by
  cases call with
  | save | addField | retireField => cases h
  | find => exact .bind .get fun _ => .lift _

theorem schemaCall_atomic (call : SchemaCall α) : Atomic call.perform := by
  cases call with
  | save schema => exact saveSchema_atomic _
  | find code => exact .of_onlyReads (schemaCall_onlyReads rfl)
  | addField actor app f => exact addField_atomic _ _ _
  | retireField actor app code => exact retireField_atomic _ _ _

theorem processCall_onlyReads {call : ProcessCall α} (h : call.isRead = true) :
    OnlyReads call.perform := by
  cases call with
  | save | switch | assign | transition => cases h
  | initialStatus | actions => exact .bind .get fun _ => .lift _

theorem processCall_atomic (call : ProcessCall α) : Atomic call.perform := by
  cases call with
  | save graph => exact saveProcess_atomic _
  | switch app enabled => exact setProcessEnabled_atomic _ _
  | initialStatus | actions => exact .of_onlyReads (processCall_onlyReads rfl)
  | assign schema record assignees => exact assign_atomic _ _ _
  | transition actor schema record action => exact transition_atomic _ _ _ _

theorem permissionCall_onlyReads {call : PermissionCall α} (h : call.isRead = true) :
    OnlyReads call.perform := by
  cases call with
  | saveApp | saveField | saveRecord | reorder => cases h
  | rules | access => exact .bind .get fun _ => .pure _

theorem permissionCall_atomic (call : PermissionCall α) : Atomic call.perform := by
  cases call with
  | rules | access => exact .of_onlyReads (permissionCall_onlyReads rfl)
  | saveApp row => exact saveAppPermission_atomic _
  | saveField row => exact saveFieldPermission_atomic _
  | saveRecord rule => exact saveRecordRule_atomic _
  | reorder app kind ids => exact reorder_atomic _ _ _

theorem notificationCall_onlyReads {call : NotificationCall α} (h : call.isRead = true) :
    OnlyReads call.perform := by
  cases call with
  | save => cases h
  | evaluate => exact .bind .get fun _ => .bind .read fun _ => .lift _

theorem notificationCall_atomic (call : NotificationCall α) : Atomic call.perform := by
  cases call with
  | save rule => exact saveNotificationRule_atomic _
  | evaluate => exact .of_onlyReads (notificationCall_onlyReads rfl)

theorem serviceCall_atomic (call : ServiceCall α) : Atomic call.perform := by
  cases call with
  | records actor app call => exact recordCall_atomic actor app call
  | schemas call => exact schemaCall_atomic call
  | processes call => exact processCall_atomic call
  | permissions call => exact permissionCall_atomic call
  | notifications call => exact notificationCall_atomic call

theorem serve_cases (settings : Settings) (ws : Workspace) (call : ServiceCall α) :
    ws.serve settings call = ws ∨
      ∃ answer, run settings ws call.perform = (.ok answer, ws.serve settings call) := by
  rw [Workspace.serve]
  rcases hran : run settings ws call.perform with ⟨fault | answer, ws'⟩
  · exact .inl (serviceCall_atomic call settings ws fault ws' hran)
  · exact .inr ⟨answer, rfl⟩

/-- What holds before a request and after its answer holds when it has been served. -/
theorem serve_keeps {settings : Settings} {ws : Workspace} {call : ServiceCall α}
    {P : Workspace → Prop} (h : P ws)
    (hanswered : ∀ {answer ws'}, run settings ws call.perform = (.ok answer, ws') → P ws') :
    P (ws.serve settings call) := by
  obtain hrefused | ⟨answer, ran⟩ := serve_cases settings ws call
  · rwa [hrefused]
  · exact hanswered ran

theorem transition_rejected_unchanged {settings : Settings} {ws ws' : Workspace} {actor : Actor}
    {schema : AppSchema} {record : Record} {action : String} {reason : Rejection}
    (ran : run settings ws (transition actor schema record action) = (.ok (.rejected reason), ws')) :
    ws' = ws := by
  obtain ⟨_, -, -, unchanged⟩ | ⟨_, _, -, -, applied, -⟩ := transition_ok ran
  · exact unchanged
  · cases applied

theorem executeAction_rejected_unchanged {settings : Settings} {ws ws' : Workspace}
    {actor : Actor} {app : AppId} {id action : String} {reason : Rejection}
    (ran : run settings ws (executeAction actor app id action) = (.ok (.rejected reason), ws')) :
    ws' = ws := by
  obtain ⟨schema, record, moved, -, -, -, ranTransition, told⟩ := executeAction_ok ran
  cases moved with
  | applied => exact told.elim
  | rejected => exact transition_rejected_unchanged ranTransition

/-- A request to any service that is refused, and a request to move a record that is rejected,
    leaves everything that is stored exactly as it was. -/
theorem refused_unchanged (settings : Settings) (ws ws' : Workspace) :
    (∀ {α : Type} (call : ServiceCall α) (fault : Fault),
      run settings ws call.perform = (.error fault, ws') → ws' = ws) ∧
    (∀ actor app id action reason,
      run settings ws (executeAction actor app id action) = (.ok (.rejected reason), ws') →
        ws' = ws) ∧
    ∀ actor schema record action reason,
      run settings ws (transition actor schema record action) = (.ok (.rejected reason), ws') →
        ws' = ws := by
  refine ⟨?_, ?_, ?_⟩
  · intro α call fault ran
    exact serviceCall_atomic call settings ws fault ws' ran
  · intro actor app id action reason ran
    exact executeAction_rejected_unchanged ran
  · intro actor schema record action reason ran
    exact transition_rejected_unchanged ran

/-- An order that does not exist is deleted, an action that the process does not have is taken,
    and an order is finished by someone who remembers it without a status. -/
theorem refused_unchanged_orders :
    (∃ fault ws', run Orders.settings Orders.workspace
        (ServiceCall.records Orders.clerk Orders.app (.delete "none")).perform = (.error fault, ws') ∧
      ws' = Orders.workspace) ∧
    (∃ reason ws', run Orders.settings Orders.workspace
        (executeAction Orders.clerk Orders.app "r" "reopen") = (.ok (.rejected reason), ws') ∧
      ws' = Orders.workspace) ∧
    ∃ reason ws', run Orders.settings Orders.workspace
        (transition Orders.clerk Orders.schema ⟨⟨"r", by decide⟩, 1, .empty⟩ "finish") =
          (.ok (.rejected reason), ws') ∧
      ws' = Orders.workspace := by
  have refused := refused_unchanged Orders.settings Orders.workspace Orders.workspace
  refine ⟨⟨.notFound (.record "none" "orders"), Orders.workspace, rfl, ?_⟩,
    ⟨.unknownAction "reopen", Orders.workspace, rfl, ?_⟩,
    ⟨.wrongStatus "finish" "open" none, Orders.workspace, rfl, ?_⟩⟩
  · exact refused.1 (.records Orders.clerk Orders.app (.delete "none"))
      (.notFound (.record "none" "orders")) rfl
  · exact refused.2.1 Orders.clerk Orders.app "r" "reopen" (.unknownAction "reopen") rfl
  · exact refused.2.2 Orders.clerk Orders.schema ⟨⟨"r", by decide⟩, 1, .empty⟩ "finish"
      (.wrongStatus "finish" "open" none) rfl

end RecordApps.Engine
