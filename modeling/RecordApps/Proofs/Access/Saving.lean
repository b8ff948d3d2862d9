import RecordApps.Proofs.Access.Tables

/-! # The order of saving

Two rules compete for a place if they belong to the same table of the same app and have the same
id. Rules for different places end up in their tables in whatever order they are saved, and as ids
are distinct, the order of a table has no say in what is granted.
-/

namespace RecordApps

/-- A rule of any of the three tables. -/
inductive Rule where
  | app (row : AppPermission)
  | field (row : FieldPermission)
  | record (rule : RecordRule)

namespace Rule

def kind : Rule → Engine.RuleKind
  | .app _ => .app
  | .field _ => .field
  | .record _ => .record

def owner : Rule → AppId
  | .app row => row.app
  | .field row => row.app
  | .record rule => rule.app

def id : Rule → String
  | .app row => row.id.text
  | .field row => row.id.text
  | .record rule => rule.id.text

/-- The place of a rule in the tables of an app. -/
def place (rule : Rule) (app : AppId) : Engine.RuleKind × AppId × String :=
  (rule.kind, app, rule.id)

/-- The request to save a rule. -/
def save : Rule → PermissionCall Unit
  | .app row => .saveApp row
  | .field row => .saveField row
  | .record rule => .saveRecord rule

def In (rules : RuleSet) : Rule → Prop
  | .app row => row ∈ rules.app
  | .field row => row ∈ rules.field
  | .record rule => rule ∈ rules.record

/-- A rule that may be saved: it is valid, and the schema of its app has the fields it names. -/
def Accepted (ws : Workspace) : Rule → Prop
  | .app row => row.validate = .ok () ∧ ∃ schema, ws.schemas.get? row.app = some schema
  | .field row =>
      row.validate = .ok () ∧ ∃ schema, ws.schemas.get? row.app = some schema ∧
        schema.checkReference row.field.text = .ok ()
  | .record rule =>
      rule.validate = .ok () ∧ ∃ schema, ws.schemas.get? rule.app = some schema ∧
        schema.checkCondition rule.condition = .ok () ∧
        Engine.checkOptionalReference schema rule.targetField = .ok ()

/-- The workspace with a rule in its place. -/
def put (ws : Workspace) : Rule → Workspace
  | .app row =>
      { ws with
        appPermissions := ws.appPermissions.insert row.app
          (putRow Ranked.id row (ws.ruleSet row.app).app) }
  | .field row =>
      { ws with
        fieldPermissions := ws.fieldPermissions.insert row.app
          (putRow Ranked.id row (ws.ruleSet row.app).field) }
  | .record rule =>
      { ws with
        recordRules := ws.recordRules.insert rule.app
          (putRow Ranked.id rule (ws.ruleSet rule.app).record) }

variable {ws ws' : Workspace} {rule other : Rule} {app : AppId} {settings : Settings}

theorem accepted_congr (h : ws'.schemas = ws.schemas) : rule.Accepted ws' ↔ rule.Accepted ws := by
  cases rule <;> simp only [Accepted, h]

theorem put_schemas : (rule.put ws).schemas = ws.schemas := by
  cases rule <;> rfl

theorem run_save_eq_ok :
    Engine.run settings ws rule.save.perform = (.ok (), ws') ↔
      rule.Accepted ws ∧ ws' = rule.put ws := by
  rw [eq_comm (a := ws')]
  cases rule with
  | app row =>
      simp only [save, PermissionCall.perform, Engine.saveAppPermission, Engine.run_get_bind,
        Engine.run_lift_bind_eq_ok, Engine.run_set, Workspace.requireSchema_eq_ok, Prod.mk.injEq,
        true_and, Unique.exists_iff, PUnit.default_eq_unit, Accepted, put, exists_and_right,
        and_assoc]
  | field row =>
      simp only [save, PermissionCall.perform, Engine.saveFieldPermission, Engine.run_get_bind,
        Engine.run_lift_bind_eq_ok, Engine.run_set, Workspace.requireSchema_eq_ok, Prod.mk.injEq,
        true_and, Unique.exists_iff, PUnit.default_eq_unit, Accepted, put, exists_and_right,
        ← and_assoc]
  | record rule =>
      simp only [save, PermissionCall.perform, Engine.saveRecordRule, Engine.run_get_bind,
        Engine.run_lift_bind_eq_ok, Engine.run_set, Workspace.requireSchema_eq_ok, Prod.mk.injEq,
        true_and, Unique.exists_iff, PUnit.default_eq_unit, Accepted, put, exists_and_right,
        ← and_assoc]

/-- After a rule has been put in its place, a table holds it and the rules of other places. -/
theorem in_put_iff (h : ws.DistinctRules) :
    other.In ((rule.put ws).ruleSet app) ↔
      other = rule ∧ app = rule.owner ∨
        other.In (ws.ruleSet app) ∧ other.place app ≠ rule.place rule.owner := by
  cases rule with
  | app row =>
      rw [put, Workspace.ruleSet_app]
      cases other with
      | app other =>
          by_cases happ : app = row.app
          · subst happ
            have hput : other ∈ putRow Ranked.id row (ws.ruleSet row.app).app ↔
                other = row ∨ other ∈ (ws.ruleSet row.app).app ∧ other.id.text ≠ row.id.text :=
              mem_putRow_iff (h row.app).app
            simpa [In, place, kind, owner, id] using hput
          · simp [In, place, kind, owner, happ]
      | field | record => split <;> simp [In, place, kind]
  | field row =>
      rw [put, Workspace.ruleSet_field]
      cases other with
      | field other =>
          by_cases happ : app = row.app
          · subst happ
            have hput : other ∈ putRow Ranked.id row (ws.ruleSet row.app).field ↔
                other = row ∨ other ∈ (ws.ruleSet row.app).field ∧ other.id.text ≠ row.id.text :=
              mem_putRow_iff (h row.app).field
            simpa [In, place, kind, owner, id] using hput
          · simp [In, place, kind, owner, happ]
      | app | record => split <;> simp [In, place, kind]
  | record rule =>
      rw [put, Workspace.ruleSet_record]
      cases other with
      | record other =>
          by_cases happ : app = rule.app
          · subst happ
            have hput : other ∈ putRow Ranked.id rule (ws.ruleSet rule.app).record ↔
                other = rule ∨
                  other ∈ (ws.ruleSet rule.app).record ∧ other.id.text ≠ rule.id.text :=
              mem_putRow_iff (h rule.app).record
            simpa [In, place, kind, owner, id] using hput
          · simp [In, place, kind, owner, happ]
      | app | field => split <;> simp [In, place, kind]

end Rule

namespace Workspace

variable {ws : Workspace} {rule other : Rule} {app : AppId} {settings : Settings}
  {saves saves' : List Rule}

/-- The workspace after requests to save rules, one after the other, refused or not. -/
def saveAll (ws : Workspace) (settings : Settings) (saves : List Rule) : Workspace :=
  saves.foldl (fun ws rule => ws.serve settings (.permissions rule.save)) ws

theorem serve_accepted (h : rule.Accepted ws) :
    ws.serve settings (.permissions rule.save) = rule.put ws := by
  have ran : Engine.run settings ws rule.save.perform = (.ok (), rule.put ws) :=
    Rule.run_save_eq_ok.2 ⟨h, rfl⟩
  exact congrArg Prod.snd ran

theorem serve_refused (h : ¬rule.Accepted ws) :
    ws.serve settings (.permissions rule.save) = ws := by
  obtain hrefused | ⟨⟨⟩, ran⟩ := Engine.serve_cases settings ws (.permissions rule.save)
  · exact hrefused
  · exact absurd (Rule.run_save_eq_ok.1 ran).1 h

theorem serve_save_schemas :
    (ws.serve settings (.permissions rule.save)).schemas = ws.schemas := by
  by_cases h : rule.Accepted ws
  · rw [serve_accepted h, Rule.put_schemas]
  · rw [serve_refused h]

theorem saveAll_reachable (h : ws.Reachable) : (ws.saveAll settings saves).Reachable := by
  induction saves generalizing ws with
  | nil => exact h
  | cons head rest ih => exact ih (h.served settings _)

/-- Where no two of the rules compete, the tables hold those that were accepted, and what they
    held before under other ids. -/
theorem in_saveAll_iff (h : ws.Reachable)
    (hplaces : (saves.map fun rule => rule.place rule.owner).Nodup) :
    other.In ((ws.saveAll settings saves).ruleSet app) ↔
      other ∈ saves ∧ other.Accepted ws ∧ app = other.owner ∨
        other.In (ws.ruleSet app) ∧ ∀ rule ∈ saves, rule.Accepted ws →
          other.place app ≠ rule.place rule.owner := by
  let inTable (ws : Workspace) (entry : Rule × AppId) : Prop := entry.1.In (ws.ruleSet entry.2)
  have hput : ∀ {ws' : Workspace} {rule : Rule} {entry : Rule × AppId},
      ws'.Reachable ∧ ws'.schemas = ws.schemas → rule.Accepted ws →
      (inTable (ws'.serve settings (.permissions rule.save)) entry ↔
        entry = (rule, rule.owner) ∨
          inTable ws' entry ∧ entry.1.place entry.2 ≠ rule.place rule.owner) := by
    intro ws' rule entry hbefore haccepted
    rw [serve_accepted ((Rule.accepted_congr hbefore.2).2 haccepted), Prod.ext_iff]
    exact Rule.in_put_iff hbefore.1.distinct
  have hskip : ∀ {ws' : Workspace} {rule : Rule},
      ws'.Reachable ∧ ws'.schemas = ws.schemas → ¬rule.Accepted ws →
      ws'.serve settings (.permissions rule.save) = ws' :=
    fun hbefore hrefused => serve_refused fun haccepted =>
      hrefused ((Rule.accepted_congr hbefore.2).1 haccepted)
  have hall : inTable (ws.saveAll settings saves) (other, app) ↔ _ :=
    in_foldl_save_iff
      (fun hbefore => ⟨hbefore.1.served settings _, serve_save_schemas.trans hbefore.2⟩)
      hput hskip ⟨h, rfl⟩ hplaces
  refine hall.trans (or_congr_left ?_)
  constructor
  · rintro ⟨rule, hrule, haccepted, heq⟩
    obtain ⟨rfl, rfl⟩ := Prod.mk.inj heq
    exact ⟨hrule, haccepted, rfl⟩
  · rintro ⟨hrule, haccepted, rfl⟩
    exact ⟨other, hrule, haccepted, rfl⟩

theorem sameRules_saveAll (h : ws.Reachable) (hperm : saves.Perm saves')
    (hplaces : (saves.map fun rule => rule.place rule.owner).Nodup) (settings' : Settings) :
    ((ws.saveAll settings saves).ruleSet app).SameRules
      ((ws.saveAll settings' saves').ruleSet app) := by
  have hplaces' := (hperm.map fun rule => rule.place rule.owner).nodup_iff.1 hplaces
  have hsame : ∀ other : Rule, other.In ((ws.saveAll settings saves).ruleSet app) ↔
      other.In ((ws.saveAll settings' saves').ruleSet app) := by
    intro other
    rw [in_saveAll_iff h hplaces, in_saveAll_iff h hplaces']
    simp only [hperm.mem_iff]
  exact ⟨fun row => hsame (.app row), fun row => hsame (.field row),
    fun rule => hsame (.record rule)⟩

end Workspace

/-- Access does not depend on the order of rules, and each layer only narrows it. The order of
    the tables does not matter where ids are distinct; there every layer is decided by the one
    rule that applies and is not outranked. What may be done with a record may be done with the
    app, and no field goes above the ceiling of the record. In every workspace that comes about
    ids are distinct, so that the same rules grant the same, in particular in whatever order they
    have been saved. -/
theorem access_independent_of_order :
    (∀ (rules rules' : RuleSet) actor schema record, rules.DistinctIds →
      rules.app.Perm rules'.app → rules.field.Perm rules'.field → rules.record.Perm rules'.record →
        rules.access actor schema record = rules'.access actor schema record) ∧
    (∀ (rules : RuleSet) actor schema record, rules.DistinctIds →
      rules.Resolved actor schema record (rules.access actor schema record)) ∧
    (∀ (rules : RuleSet) actor schema record,
      (rules.access actor schema record).Narrows record) ∧
    (∀ ws : Workspace, ws.Reachable → ∀ app, (ws.ruleSet app).DistinctIds) ∧
    (∀ ws ws' : Workspace, ws.Reachable → ws'.Reachable → ∀ actor schema record,
      (ws.ruleSet schema.id).SameRules (ws'.ruleSet schema.id) →
        ws.access actor schema record = ws'.access actor schema record) ∧
    ∀ (ws : Workspace) settings settings' (saves saves' : List Rule), ws.Reachable →
      saves.Perm saves' → (saves.map fun rule => rule.place rule.owner).Nodup →
        ∀ actor schema record,
          (ws.saveAll settings saves).access actor schema record =
            (ws.saveAll settings' saves').access actor schema record := by
  have hreachable : ∀ ws ws' : Workspace, ws.Reachable → ws'.Reachable → ∀ actor schema record,
      (ws.ruleSet schema.id).SameRules (ws'.ruleSet schema.id) →
        ws.access actor schema record = ws'.access actor schema record := by
    intro ws ws' h h' actor schema record hsame
    exact RuleSet.access_congr (h.distinct _) (h'.distinct _) hsame
  refine ⟨?_, ?_, ?_, ?_, hreachable, ?_⟩
  · intro rules rules' actor schema record hids happ hfield hrecord
    have hids' : rules'.DistinctIds :=
      ⟨(happ.map _).nodup_iff.1 hids.app, (hfield.map _).nodup_iff.1 hids.field,
        (hrecord.map _).nodup_iff.1 hids.record⟩
    exact RuleSet.access_congr hids hids'
      ⟨fun _ => happ.mem_iff, fun _ => hfield.mem_iff, fun _ => hrecord.mem_iff⟩
  · intro rules actor schema record hids
    exact RuleSet.access_resolved hids
  · intro rules actor schema record
    exact RuleSet.access_narrows
  · intro ws h app
    exact h.distinct app
  · intro ws settings settings' saves saves' h hperm hplaces actor schema record
    exact hreachable _ _ (Workspace.saveAll_reachable h) (Workspace.saveAll_reachable h) _ _ _
      (Workspace.sameRules_saveAll h hperm hplaces _)

namespace Orders

/-- Nobody may do anything. The row has the priority of the clerk's row and the smaller id. -/
def lockRow : AppPermission where
  id := ⟨"all", by decide⟩
  app := app
  target := ⟨.everyone, none, false⟩
  capabilities := .none
  priority := 1

/-- The app without rules. -/
def opened : Workspace :=
  Workspace.empty.serve settings (.schemas (.save schema))

end Orders

/-- In the small app, of two rows of the same priority the one with the smaller id decides,
    whichever is saved first. -/
theorem access_independent_of_order_orders :
    (⟨[Orders.clerkRow, Orders.lockRow], [Orders.marginRow], []⟩ : RuleSet).DistinctIds ∧
    RuleSet.access ⟨[Orders.clerkRow, Orders.lockRow], [Orders.marginRow], []⟩
        Orders.clerk Orders.schema none =
      RuleSet.access ⟨[Orders.lockRow, Orders.clerkRow], [Orders.marginRow], []⟩
        Orders.clerk Orders.schema none ∧
    Orders.opened.Reachable ∧
    (Orders.opened.saveAll Orders.settings [.app Orders.clerkRow, .app Orders.lockRow]).access
        Orders.clerk Orders.schema none =
      (Orders.opened.saveAll Orders.settings [.app Orders.lockRow, .app Orders.clerkRow]).access
        Orders.clerk Orders.schema none ∧
    ((Orders.opened.saveAll Orders.settings
        [.app Orders.clerkRow, .app Orders.lockRow]).access Orders.clerk Orders.schema none).app =
      .none ∧
    (Orders.opened.saveAll Orders.settings [.app Orders.clerkRow, .field Orders.marginRow]).access
        Orders.clerk Orders.schema none =
      (Orders.opened.saveAll Orders.settings [.field Orders.marginRow, .app Orders.clerkRow]).access
        Orders.clerk Orders.schema none := by
  have hids : (⟨[Orders.clerkRow, Orders.lockRow], [Orders.marginRow], []⟩ :
      RuleSet).DistinctIds := ⟨by decide, by decide, by decide⟩
  have hopened : Orders.opened.Reachable := Workspace.Reachable.empty.served _ _
  obtain ⟨hperm, -, -, -, hsame, hsaved⟩ := access_independent_of_order
  refine ⟨hids, ?_, hopened, ?_, rfl, ?_⟩
  · exact hperm _ _ _ _ _ hids (.swap _ _ _) (.refl _) (.refl _)
  · exact hsaved _ _ _ _ _ hopened (.swap _ _ _) (by decide) _ _ _
  · refine hsame _ _ (Workspace.saveAll_reachable hopened) (Workspace.saveAll_reachable hopened)
      _ _ _ ?_
    exact Workspace.sameRules_saveAll hopened (.swap _ _ _) (by decide) _

end RecordApps
