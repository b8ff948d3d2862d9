import RecordApps.Proofs.Access.Tables
import RecordApps.Proofs.Notification.Recipients

/-! # What an event gives rise to

The rules of an app are evaluated in the order of their ids. Ids are distinct in every workspace
that comes about, so an event on a record gives rise to one notification for each rule that is due,
and to no other, in whatever order the rules have been saved.
-/

namespace RecordApps

namespace NotificationRule

/-- A rule gives rise to a notification: it is for the event, its condition holds on the record with
    its automatic fields, and it names somebody. -/
structure Due (rule : NotificationRule) (trigger : Trigger) (schema : AppSchema)
    (record : Record) : Prop where
  trigger_eq : rule.trigger = trigger
  condition_holds : ∀ condition, rule.condition = some condition →
    condition.holds (schema.projectedData record) = true
  named : ∃ recipient place, rule.Names (schema.project record) recipient place

variable {rule : NotificationRule} {rules rules' : List NotificationRule} {trigger : Trigger}
  {schema : AppSchema} {record : Record}

theorem fires_iff :
    rule.fires trigger schema record = true ↔
      rule.trigger = trigger ∧ ∀ condition, rule.condition = some condition →
        condition.holds (schema.projectedData record) = true := by
  rw [fires, Bool.and_eq_true, beq_iff_eq]
  cases rule.condition <;> simp

theorem due_iff (lead : String) :
    rule.Due trigger schema record ↔
      rule.fires trigger schema record = true ∧
        (!(rule.notification schema record lead).recipients.isEmpty) = true := by
  have hnamed : (!(rule.notification schema record lead).recipients.isEmpty) = true ↔
      ∃ recipient place, rule.Names (schema.project record) recipient place := by
    rw [Bool.not_eq_true', List.isEmpty_eq_false_iff_exists_mem]
    exact exists_congr (rule.recipients_firstOccurrences (schema.project record)).mem_iff
  rw [fires_iff, hnamed]
  exact ⟨fun h => ⟨⟨h.trigger_eq, h.condition_holds⟩, h.named⟩, fun h => ⟨h.1.1, h.1.2, h.2⟩⟩

/-! ## The order of ids -/

/-- The rules in the order of their ids. -/
def inOrder (rules : List NotificationRule) : List NotificationRule :=
  rules.mergeSort fun a b => decide (a.id.text ≤ b.id.text)

theorem inOrder_perm (rules : List NotificationRule) : (inOrder rules).Perm rules :=
  List.mergeSort_perm _ _

theorem inOrder_pairwise (hids : (rules.map (·.id.text)).Nodup) :
    (inOrder rules).Pairwise fun a b => a.id.text < b.id.text := by
  have hsorted : (inOrder rules).Pairwise fun a b => decide (a.id.text ≤ b.id.text) = true := by
    refine List.pairwise_mergeSort (fun a b c hab hbc => ?_) (fun a b => ?_) rules
    · exact decide_eq_true (String.le_trans (of_decide_eq_true hab) (of_decide_eq_true hbc))
    · simpa using String.le_total a.id.text b.id.text
  have hdistinct : (inOrder rules).Pairwise fun a b => a.id.text ≠ b.id.text :=
    List.pairwise_map.1 (((inOrder_perm rules).map _).nodup_iff.2 hids)
  exact hsorted.imp₂ (fun a b hle hne => Std.lt_of_le_of_ne (of_decide_eq_true hle) hne) hdistinct

theorem inOrder_eq {sorted : List NotificationRule} (hperm : rules.Perm sorted)
    (hsorted : sorted.Pairwise fun a b => a.id.text < b.id.text) : inOrder rules = sorted := by
  have hdistinct : sorted.Pairwise fun a b => a.id.text ≠ b.id.text :=
    hsorted.imp fun {a b} hlt heq => absurd (heq ▸ hlt) (String.lt_irrefl b.id.text)
  have hids : (rules.map (·.id.text)).Nodup :=
    (hperm.map _).nodup_iff.2 (List.pairwise_map.2 hdistinct)
  refine List.Perm.eq_of_pairwise (fun a b _ _ hab hba => ?_) (inOrder_pairwise hids) hsorted
    ((inOrder_perm rules).trans hperm)
  exact absurd (String.lt_trans hab hba) (String.lt_irrefl _)

theorem inOrder_congr (hids : (rules.map (·.id.text)).Nodup)
    (hids' : (rules'.map (·.id.text)).Nodup) (hsame : ∀ rule, rule ∈ rules ↔ rule ∈ rules') :
    inOrder rules = inOrder rules' := by
  have hperm : rules.Perm rules' :=
    (List.perm_ext_iff_of_nodup hids.of_map hids'.of_map).2 hsame
  exact inOrder_eq (hperm.trans (inOrder_perm rules').symm) (inOrder_pairwise hids')

end NotificationRule

namespace Workspace

open NotificationRule

variable {ws ws' : Workspace} {settings : Settings} {app : AppId} {schema : AppSchema}
  {trigger : Trigger} {record : Record} {rule : NotificationRule}

theorem notifications_eq (hschema : ws.schemas.get? app = some schema)
    (hreachable : settings.rulesReachable = true) :
    ws.notifications settings app trigger record =
      .ok ((((inOrder (ws.rulesOf app)).filter (·.fires trigger schema record)).map
        (·.notification schema record settings.numberLead)).filter
          fun n => !n.recipients.isEmpty) := by
  rw [notifications, requireSchema_eq_ok.2 hschema, Outcome.ok_bind, if_pos hreachable]
  rfl

theorem notifications_ok (hids : ((ws.rulesOf app).map (·.id.text)).Nodup)
    (hschema : ws.schemas.get? app = some schema) (hreachable : settings.rulesReachable = true) :
    ∃ notifications, ws.notifications settings app trigger record = .ok notifications ∧
      notifications.Pairwise (fun a b => a.rule < b.rule) ∧
      ∀ n, n ∈ notifications ↔ ∃ rule ∈ ws.rulesOf app, rule.Due trigger schema record ∧
        n = rule.notification schema record settings.numberLead := by
  refine ⟨_, notifications_eq hschema hreachable, ?_, fun n => ?_⟩
  · refine List.Pairwise.filter _ (List.pairwise_map.2 ?_)
    exact (inOrder_pairwise hids).filter _
  · simp only [List.mem_filter, List.mem_map, (inOrder_perm _).mem_iff]
    constructor
    · rintro ⟨⟨rule, ⟨hrule, hfires⟩, rfl⟩, hnamed⟩
      exact ⟨rule, hrule, (due_iff _).2 ⟨hfires, hnamed⟩, rfl⟩
    · rintro ⟨rule, hrule, hdue, rfl⟩
      obtain ⟨hfires, hnamed⟩ := (due_iff settings.numberLead).1 hdue
      exact ⟨⟨rule, ⟨hrule, hfires⟩, rfl⟩, hnamed⟩

/-- In every app the ids of the notification rules are distinct. -/
def DistinctNotificationRules (ws : Workspace) : Prop :=
  ∀ app, ((ws.rulesOf app).map (·.id.text)).Nodup

theorem notifications_congr (h : ws.DistinctNotificationRules)
    (h' : ws'.DistinctNotificationRules) (hschemas : ws'.schemas = ws.schemas)
    (hsame : ∀ rule, rule ∈ ws.rulesOf app ↔ rule ∈ ws'.rulesOf app) :
    ws.notifications settings app trigger record =
      ws'.notifications settings app trigger record := by
  have hrules : inOrder (ws.rulesOf app) = inOrder (ws'.rulesOf app) :=
    inOrder_congr (h app) (h' app) hsame
  rw [inOrder, inOrder] at hrules
  rw [notifications, notifications, hrules, requireSchema, requireSchema, hschemas]

/-! ## Saving rules -/

theorem rulesOf_insert (rules : List NotificationRule) (other : AppId) :
    { ws with notificationRules := ws.notificationRules.insert app rules }.rulesOf other =
      if other = app then rules else ws.rulesOf other := by
  rw [rulesOf, Table.get?_insert]
  split <;> rfl

theorem DistinctNotificationRules.of_eq (h : ws.DistinctNotificationRules)
    (hsame : ws'.notificationRules = ws.notificationRules) : ws'.DistinctNotificationRules := by
  intro app
  rw [rulesOf, hsame]
  exact h app

/-- The workspace with a rule in its place. -/
def putNotificationRule (ws : Workspace) (rule : NotificationRule) : Workspace :=
  { ws with
    notificationRules := ws.notificationRules.insert rule.app
      (putRow (·.id.text) rule (ws.rulesOf rule.app)) }

theorem DistinctNotificationRules.put (h : ws.DistinctNotificationRules)
    (rule : NotificationRule) : (ws.putNotificationRule rule).DistinctNotificationRules := by
  intro app
  rw [putNotificationRule, rulesOf_insert]
  split
  · exact nodup_putRow (h rule.app)
  · exact h app

theorem mem_rulesOf_put_iff (h : ws.DistinctNotificationRules) {other : NotificationRule} :
    other ∈ (ws.putNotificationRule rule).rulesOf app ↔
      other = rule ∧ app = rule.app ∨
        other ∈ ws.rulesOf app ∧ (app, other.id.text) ≠ (rule.app, rule.id.text) := by
  rw [putNotificationRule, rulesOf_insert]
  split
  case isTrue happ =>
    subst happ
    rw [mem_putRow_iff (h rule.app)]
    simp
  case isFalse happ => simp [happ]

end Workspace

namespace NotificationRule

/-- A rule that may be saved: it is valid, and the schema of its app has the fields it names. -/
structure Accepted (ws : Workspace) (settings : Settings) (rule : NotificationRule) : Prop where
  valid : rule.validate = .ok ()
  refers : ∃ schema, ws.schemas.get? rule.app = some schema ∧
    (∀ condition, rule.condition = some condition → schema.checkCondition condition = .ok ()) ∧
    Engine.checkOptionalReference schema rule.targetField = .ok ()
  reachable : settings.rulesReachable = true

variable {ws ws' : Workspace} {settings : Settings} {rule : NotificationRule}

theorem accepted_congr (h : ws'.schemas = ws.schemas) :
    rule.Accepted ws' settings ↔ rule.Accepted ws settings := by
  constructor <;> rintro ⟨hvalid, hrefers, hreachable⟩
  · exact ⟨hvalid, h ▸ hrefers, hreachable⟩
  · exact ⟨hvalid, h.symm ▸ hrefers, hreachable⟩

theorem run_save_eq_ok :
    Engine.run settings ws (Engine.saveNotificationRule rule) = (.ok (), ws') ↔
      rule.Accepted ws settings ∧ ws' = ws.putNotificationRule rule := by
  constructor
  · intro ran
    obtain ⟨hvalid, hrefers, hreachable, rfl⟩ := Engine.saveNotificationRule_ok ran
    exact ⟨⟨hvalid, hrefers, hreachable⟩, rfl⟩
  · rintro ⟨⟨hvalid, ⟨schema, hschema, hcondition, htarget⟩, hreachable⟩, rfl⟩
    rw [Engine.saveNotificationRule, Engine.run_check_bind_eq_ok, Engine.run_get_bind,
      Engine.run_ok_bind (Workspace.requireSchema_eq_ok.2 hschema)]
    refine ⟨hvalid, ?_⟩
    dsimp only
    split
    case h_1 condition hgiven =>
      rw [Engine.run_check_bind_eq_ok, Engine.run_check_bind_eq_ok, Engine.run_read_bind,
        if_pos hreachable]
      exact ⟨hcondition condition hgiven, htarget, rfl⟩
    case h_2 =>
      rw [Engine.run_check_bind_eq_ok, Engine.run_read_bind, if_pos hreachable]
      exact ⟨htarget, rfl⟩

end NotificationRule

namespace Engine

variable {α : Type} {settings : Settings} {ws ws' : Workspace}

open Workspace

theorem notificationCall_distinctNotificationRules (h : ws.DistinctNotificationRules)
    (call : NotificationCall α) {answer : α}
    (ran : run settings ws call.perform = (.ok answer, ws')) : ws'.DistinctNotificationRules := by
  cases call with
  | save rule =>
      obtain ⟨-, rfl⟩ := NotificationRule.run_save_eq_ok.1 ran
      exact h.put rule
  | evaluate => exact (notificationCall_onlyReads rfl).unchanged ran ▸ h

end Engine

namespace Workspace

variable {ws : Workspace} {settings : Settings} {app : AppId} {rule other : NotificationRule}
  {saves saves' : List NotificationRule}

theorem distinctNotificationRules_invariant : RuleInvariant DistinctNotificationRules where
  congr hsame h := h.of_eq hsame.notificationRules
  permissions call _ ran h := by
    obtain ⟨_, _, _, rfl⟩ := Engine.permissionCall_onlyRules call ran
    exact h.of_eq rfl
  notifications call _ ran h := Engine.notificationCall_distinctNotificationRules h call ran

/-- In every workspace that comes about, the ids of the notification rules of an app are
    distinct. -/
theorem Reachable.distinctNotificationRules (h : ws.Reachable) : ws.DistinctNotificationRules :=
  distinctNotificationRules_invariant.reachable (fun _ => List.nodup_nil) h

/-- The workspace after requests to save notification rules, one after the other, refused or
    not. -/
def saveNotificationRules (ws : Workspace) (settings : Settings)
    (saves : List NotificationRule) : Workspace :=
  saves.foldl (fun ws rule => ws.serve settings (.notifications (.save rule))) ws

theorem serve_saveRule_accepted (h : rule.Accepted ws settings) :
    ws.serve settings (.notifications (.save rule)) = ws.putNotificationRule rule := by
  have ran : Engine.run settings ws (Engine.saveNotificationRule rule) =
      (.ok (), ws.putNotificationRule rule) := NotificationRule.run_save_eq_ok.2 ⟨h, rfl⟩
  exact congrArg Prod.snd ran

theorem serve_saveRule_refused (h : ¬rule.Accepted ws settings) :
    ws.serve settings (.notifications (.save rule)) = ws := by
  obtain hrefused | ⟨⟨⟩, ran⟩ := Engine.serve_cases settings ws (.notifications (.save rule))
  · exact hrefused
  · exact absurd (NotificationRule.run_save_eq_ok.1 ran).1 h

theorem serve_saveRule_schemas :
    (ws.serve settings (.notifications (.save rule))).schemas = ws.schemas := by
  by_cases h : rule.Accepted ws settings
  · rw [serve_saveRule_accepted h, putNotificationRule]
  · rw [serve_saveRule_refused h]

theorem saveNotificationRules_reachable (h : ws.Reachable) :
    (ws.saveNotificationRules settings saves).Reachable := by
  induction saves generalizing ws with
  | nil => exact h
  | cons head rest ih => exact ih (h.served settings _)

theorem saveNotificationRules_schemas :
    (ws.saveNotificationRules settings saves).schemas = ws.schemas := by
  induction saves generalizing ws with
  | nil => rfl
  | cons head rest ih => exact ih.trans serve_saveRule_schemas

/-- Where no two rules of an app have the same id, the app has those of its rules that were
    accepted, and what it had before under other ids. -/
theorem mem_rulesOf_saveNotificationRules_iff (h : ws.Reachable)
    (hplaces : (saves.map fun rule => (rule.app, rule.id.text)).Nodup) :
    rule ∈ (ws.saveNotificationRules settings saves).rulesOf app ↔
      rule ∈ saves ∧ rule.Accepted ws settings ∧ app = rule.app ∨
        rule ∈ ws.rulesOf app ∧ ∀ saved ∈ saves, saved.Accepted ws settings →
          (app, rule.id.text) ≠ (saved.app, saved.id.text) := by
  let inTable (ws : Workspace) (entry : NotificationRule × AppId) : Prop :=
    entry.1 ∈ ws.rulesOf entry.2
  have hput : ∀ {ws' : Workspace} {saved : NotificationRule} {entry : NotificationRule × AppId},
      ws'.Reachable ∧ ws'.schemas = ws.schemas → saved.Accepted ws settings →
      (inTable (ws'.serve settings (.notifications (.save saved))) entry ↔
        entry = (saved, saved.app) ∨ inTable ws' entry ∧
          (entry.2, entry.1.id.text) ≠ (saved.app, saved.id.text)) := by
    intro ws' saved entry hbefore haccepted
    rw [serve_saveRule_accepted ((NotificationRule.accepted_congr hbefore.2).2 haccepted),
      Prod.ext_iff]
    exact mem_rulesOf_put_iff hbefore.1.distinctNotificationRules
  have hskip : ∀ {ws' : Workspace} {saved : NotificationRule},
      ws'.Reachable ∧ ws'.schemas = ws.schemas → ¬saved.Accepted ws settings →
      ws'.serve settings (.notifications (.save saved)) = ws' :=
    fun hbefore hrefused => serve_saveRule_refused fun haccepted =>
      hrefused ((NotificationRule.accepted_congr hbefore.2).1 haccepted)
  have hall : inTable (ws.saveNotificationRules settings saves) (rule, app) ↔ _ :=
    in_foldl_save_iff
      (fun hbefore => ⟨hbefore.1.served settings _, serve_saveRule_schemas.trans hbefore.2⟩)
      hput hskip ⟨h, rfl⟩ hplaces
  refine hall.trans (or_congr_left ?_)
  constructor
  · rintro ⟨saved, hsaved, haccepted, heq⟩
    obtain ⟨rfl, rfl⟩ := Prod.mk.inj heq
    exact ⟨hsaved, haccepted, rfl⟩
  · rintro ⟨hsaved, haccepted, rfl⟩
    exact ⟨rule, hsaved, haccepted, rfl⟩

end Workspace

/-- Evaluation is complete, and does not depend on the order of the rules. Ids of rules are
    distinct in every workspace that comes about. Where they are, an event on a record gives rise
    to one notification for each rule that is due and to no other, in the order of the ids. A
    notification goes to everyone whom its rule names about the record with its automatic fields,
    once, in the order in which they are named first. The same rules give rise to the same
    notifications, in particular in whatever order they have been saved. -/
theorem notifications_exactly_due :
    (∀ ws : Workspace, ws.Reachable → ws.DistinctNotificationRules) ∧
    (∀ (ws : Workspace) settings app schema trigger record,
      ((ws.rulesOf app).map (·.id.text)).Nodup → ws.schemas.get? app = some schema →
        settings.rulesReachable = true →
          ∃ notifications, ws.notifications settings app trigger record = .ok notifications ∧
            notifications.Pairwise (fun a b => a.rule < b.rule) ∧
            ∀ n, n ∈ notifications ↔ ∃ rule ∈ ws.rulesOf app, rule.Due trigger schema record ∧
              n = rule.notification schema record settings.numberLead) ∧
    (∀ (rule : NotificationRule) schema record lead,
      FirstOccurrences (rule.Names (schema.project record))
        (rule.notification schema record lead).recipients) ∧
    (∀ (ws ws' : Workspace) settings app trigger record, ws.DistinctNotificationRules →
      ws'.DistinctNotificationRules → ws'.schemas = ws.schemas →
        (∀ rule, rule ∈ ws.rulesOf app ↔ rule ∈ ws'.rulesOf app) →
          ws.notifications settings app trigger record =
            ws'.notifications settings app trigger record) ∧
    ∀ (ws : Workspace) settings (saves saves' : List NotificationRule), ws.Reachable →
      saves.Perm saves' → (saves.map fun rule => (rule.app, rule.id.text)).Nodup →
        ∀ app trigger record,
          (ws.saveNotificationRules settings saves).notifications settings app trigger record =
            (ws.saveNotificationRules settings saves').notifications settings app trigger
              record := by
  refine ⟨?_, ?_, ?_, ?_, ?_⟩
  · intro ws h
    exact h.distinctNotificationRules
  · intro ws settings app schema trigger record hids hschema hreachable
    exact Workspace.notifications_ok hids hschema hreachable
  · intro rule schema record lead
    exact rule.recipients_firstOccurrences (schema.project record)
  · intro ws ws' settings app trigger record h h' hschemas hsame
    exact Workspace.notifications_congr h h' hschemas hsame
  · intro ws settings saves saves' h hperm hplaces app trigger record
    have hplaces' := (hperm.map fun rule => (rule.app, rule.id.text)).nodup_iff.1 hplaces
    refine Workspace.notifications_congr
      (Workspace.saveNotificationRules_reachable h).distinctNotificationRules
      (Workspace.saveNotificationRules_reachable h).distinctNotificationRules ?_ fun rule => ?_
    · rw [Workspace.saveNotificationRules_schemas, Workspace.saveNotificationRules_schemas]
    · rw [Workspace.mem_rulesOf_saveNotificationRules_iff h hplaces,
        Workspace.mem_rulesOf_saveNotificationRules_iff h hplaces']
      simp only [hperm.mem_iff]

namespace Orders

/-- Whoever the item names hears of orders that change. -/
def watchRule : NotificationRule where
  id := ⟨"watch", by decide⟩
  app := app
  trigger := .recordEdited
  condition := none
  notifyType := .fieldValue
  targetId := none
  targetField := some "item"
  title := "Order {{record_number}}"
  message := ""

/-- So does whoever has placed them, while they are open. -/
def placedRule : NotificationRule :=
  { watchRule with
    id := ⟨"placed", by decide⟩
    condition := some ⟨.all, [⟨⟨Key.status, by decide⟩, .equal, some (.text "open"), none⟩]⟩
    notifyType := .creator
    targetField := none }

/-- An order that names Bob twice, and Carol and nobody in between. -/
def watched : Record :=
  let order := order "9"
  { order with
    data := order.data.insert "item" (.list
      [.text "bob", .list [.object [("code", .text "carol"), ("id", .text "7")], .text " "],
        .object [("id", .text "bob")]]) }

/-- The app with both rules. -/
def watchedApp : Workspace :=
  defined.saveNotificationRules settings [watchRule, placedRule]

end Orders

/-- Both rules of the small app are due, whichever is saved first. -/
theorem notifications_exactly_due_orders :
    Orders.defined.Reachable ∧
    Orders.watchedApp.notifications Orders.settings Orders.app .recordEdited Orders.watched =
      (Orders.defined.saveNotificationRules Orders.settings
        [Orders.placedRule, Orders.watchRule]).notifications
        Orders.settings Orders.app .recordEdited Orders.watched ∧
    Orders.watchedApp.notifications Orders.settings Orders.app .recordEdited Orders.watched =
      .ok [⟨"placed", "r", [.user "clerk"], "Order #1", ""⟩,
        ⟨"watch", "r", [.user "bob", .user "carol"], "Order #1", ""⟩] ∧
    ∀ n : Notification,
      n ∈ [⟨"placed", "r", [.user "clerk"], "Order #1", ""⟩,
          ⟨"watch", "r", [.user "bob", .user "carol"], "Order #1", ""⟩] ↔
        ∃ rule ∈ Orders.watchedApp.rulesOf Orders.app,
          rule.Due .recordEdited Orders.schema.persisted Orders.watched ∧
            n = rule.notification Orders.schema.persisted Orders.watched "#" := by
  obtain ⟨hdistinct, hexactly, -, -, hsaved⟩ := notifications_exactly_due
  have hrules : NotificationRule.inOrder (Orders.watchedApp.rulesOf Orders.app) =
      [Orders.placedRule, Orders.watchRule] := NotificationRule.inOrder_eq (.swap _ _ _) (by decide)
  have hfound : Orders.watchedApp.notifications Orders.settings Orders.app .recordEdited
      Orders.watched =
        .ok [⟨"placed", "r", [.user "clerk"], "Order #1", ""⟩,
          ⟨"watch", "r", [.user "bob", .user "carol"], "Order #1", ""⟩] := by
    rw [Workspace.notifications_eq rfl rfl, hrules]
    exact congrArg Except.ok (by decide +kernel)
  refine ⟨Workspace.defined_reachable, ?_, hfound, ?_⟩
  · exact hsaved _ _ _ _ Workspace.defined_reachable (.swap _ _ _) (by decide) _ _ _
  · have hreachable : Orders.watchedApp.Reachable :=
      Workspace.saveNotificationRules_reachable Workspace.defined_reachable
    have hids := hdistinct Orders.watchedApp hreachable Orders.app
    obtain ⟨notifications, hanswer, -, hmem⟩ := hexactly Orders.watchedApp Orders.settings
      Orders.app Orders.schema.persisted .recordEdited Orders.watched hids rfl rfl
    obtain rfl := Except.ok.inj (hfound.symm.trans hanswer)
    exact hmem

end RecordApps
