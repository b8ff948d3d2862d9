import RecordApps.Proofs.Access.Related
import RecordApps.Proofs.Condition.Text
import RecordApps.Proofs.Records.Provenance

/-! # Conditions on the number of a record

A condition may name the number of a record, as it may name all metadata. But the number is not kept
among the data of a record, and nothing puts it there when conditions are evaluated. A condition on
it finds no value, and what it makes of that does not depend on the record. The number is seen under
the code of a field that shows it, and in the texts of notifications.
-/

namespace RecordApps

namespace Value

theorem null_matchesValue (expected : Value) :
    Value.null.matchesValue expected = expected.shown.isEmpty := by
  have hempty : (String.ofList [] == String.ofList expected.shown) = expected.shown.isEmpty := by
    rw [Bool.eq_iff_iff, beq_iff_eq, String.ofList_inj, List.isEmpty_iff, eq_comm]
  exact hempty

theorem null_matchesMember (expected : List Value) :
    Value.null.matchesMember expected = expected.any (·.shown.isEmpty) := by
  rw [matchesMember]
  · exact congrArg expected.any (funext null_matchesValue)
  · intro items hlist
    cases hlist

theorem null_matchesPart (expected : Value) :
    Value.null.matchesPart expected = expected.shown.isEmpty := rfl

end Value

namespace Condition

variable {c : Condition} {data : Fields}

/-- Whether the condition holds where its field has no value. -/
def holdsOnNull (c : Condition) : Bool :=
  match c.operator with
  | .equal | .contains => c.value.any (·.shown.isEmpty)
  | .notEqual => c.value.any (!·.shown.isEmpty)
  | .member => c.values.any (·.any (·.shown.isEmpty))
  | .notMember => c.values.any (!·.any (·.shown.isEmpty))
  | .greater | .less | .atLeast | .atMost | .unknown _ => false

theorem ordered_null (c : Condition) (relation : Float → Float → Bool) :
    c.ordered .null relation = false := by
  rw [ordered]
  split
  case h_1 hnumber => cases hnumber
  case h_2 => rfl

theorem holds_of_null (h : data.value c.field.text = .null) : c.holds data = c.holdsOnNull := by
  rw [holds, holdsOnNull, h]
  cases c.operator with
  | equal => exact congrArg c.value.any (funext Value.null_matchesValue)
  | contains => exact congrArg c.value.any (funext Value.null_matchesPart)
  | notEqual => simp only [Value.null_matchesValue]
  | member | notMember => simp only [Value.null_matchesMember]
  | greater | less | atLeast | atMost => exact c.ordered_null _
  | unknown name => rfl

/-- Where there is no value, a condition with operands that are not shown as the empty text holds
    if it asks for something else, and only then. -/
theorem holdsOnNull_iff (hvalid : c.validate = .ok ()) (hshown : ∀ v ∈ c.operands, v.shown ≠ []) :
    c.holdsOnNull = true ↔ c.operator = .notEqual ∨ c.operator = .notMember := by
  obtain ⟨field, operator, value, values⟩ := c
  cases operator with
  | equal | notEqual | contains =>
      cases value with
      | none => cases hvalid
      | some v =>
          have hv : v.shown ≠ [] := hshown v List.mem_cons_self
          simp [holdsOnNull, hv]
  | member | notMember =>
      cases values with
      | none => cases hvalid
      | some items =>
          have hitems : items.any (·.shown.isEmpty) = false :=
            List.any_eq_false.2 fun v hv => by
              simpa using hshown v (List.mem_append_right _ hv)
          simp [holdsOnNull, hitems]
  | greater | less | atLeast | atMost => simp [holdsOnNull]
  | unknown name => cases hvalid

end Condition

namespace ConditionGroup

/-- What the group makes of the results of its conditions. -/
def combined (g : ConditionGroup) (result : Condition → Bool) : Bool :=
  g.conditions.isEmpty ||
    match g.logic with
    | .all => g.conditions.all result
    | .any => g.conditions.any result

theorem holds_eq_combined (g : ConditionGroup) (data : Fields) :
    g.holds data = g.combined (·.holds data) := rfl

theorem combined_congr {g : ConditionGroup} {result result' : Condition → Bool}
    (h : ∀ c ∈ g.conditions, result c = result' c) : g.combined result = g.combined result' := by
  have hall : g.conditions.all result = g.conditions.all result' := by
    rw [Bool.eq_iff_iff, List.all_eq_true, List.all_eq_true]
    exact forall₂_congr fun c hc => by rw [h c hc]
  have hany : g.conditions.any result = g.conditions.any result' := by
    rw [Bool.eq_iff_iff, List.any_eq_true, List.any_eq_true]
    exact exists_congr fun c => and_congr_right fun hc => by rw [h c hc]
  rw [combined, combined, hall, hany]

/-- Whether the group holds on data with the number of the record, if nobody sees the number. -/
def holdsUnnumbered (g : ConditionGroup) (data : Fields) : Bool :=
  g.combined fun c => if c.field.text = Key.recordNumber then c.holdsOnNull else c.holds data

theorem holds_singleton (logic : Connective) (c : Condition) (data : Fields) :
    (ConditionGroup.mk logic [c]).holds data = c.holds data := by
  cases logic <;> simp [holds]

theorem holdsUnnumbered_eq {g : ConditionGroup} (h : Key.recordNumber ∉ g.fieldCodes)
    (data : Fields) : g.holdsUnnumbered data = g.holds data := by
  refine combined_congr fun c hc => if_neg fun hnumber => h ?_
  exact List.mem_map.2 ⟨c, hc, hnumber⟩

end ConditionGroup

/-! ## Records -/

namespace AppSchema

/-- The data of a record with its automatic fields filled in, and its number under its own key. -/
def numberedData (schema : AppSchema) (record : Record) : Fields :=
  (schema.projectedData record).insert Key.recordNumber (.int record.number)

/-- Conditions do not see the number of a record. Wherever they are evaluated, those that name it
    find no value, and all others hold as if the number was there. -/
structure NumberUnseen (schema : AppSchema) (record : Record) : Prop where
  notificationRules : ∀ (rule : NotificationRule) trigger,
    rule.fires trigger schema record = (rule.trigger == trigger &&
      rule.condition.all fun group => group.holdsUnnumbered (schema.numberedData record))
  recordRules : ∀ (rule : RecordRule) actor, rule.applies actor (schema.project record) =
    (rule.condition.holdsUnnumbered (schema.numberedData record) &&
      rule.isFor actor (schema.project record))
  unnamed : ∀ group : ConditionGroup, Key.recordNumber ∉ group.fieldCodes →
    group.holds (schema.projectedData record) = group.holds (schema.numberedData record)
  /-- It does not matter what the number is. -/
  named : ∀ logic (c : Condition), c.field.text = Key.recordNumber → c.validate = .ok () →
    (∀ v ∈ c.operands, v.shown ≠ []) →
      ((ConditionGroup.mk logic [c]).holds (schema.projectedData record) = true ↔
        c.operator = .notEqual ∨ c.operator = .notMember)
  /-- A field for the number has it. -/
  shown : ∀ f ∈ schema.activeFields, f.type = .recordNumber →
    (schema.projectedData record).get? f.code.text = some (.int record.number)

variable {schema : AppSchema} {record : Record} {c : Condition}

/-- A condition on the number is accepted as soon as its operator and its operands are. -/
theorem checkCondition_number (hc : c.field.text = Key.recordNumber) (logic : Connective) :
    schema.checkCondition ⟨logic, [c]⟩ = c.validate := by
  have hreference : schema.checkReference c.field.text = .ok () := by
    rw [checkReference, hc]
    rfl
  show (forM [c] Condition.validate >>= fun _ => forM [c.field.text] schema.checkReference) = _
  rw [List.forM_cons, List.forM_cons, hreference]
  cases c.validate <;> rfl

theorem projectedData_get?_reserved (hvalid : schema.validate = .ok ()) {key : String}
    (hkey : Key.isReserved key = true) :
    (schema.projectedData record).get? key = record.data.get? key := by
  refine projectedData_get?_plain fun f hf hcode => ?_
  rw [← hcode, code_not_reserved hvalid hf] at hkey
  cases hkey

theorem projectedData_number (hvalid : schema.validate = .ok ())
    (hnone : record.data.get? Key.recordNumber = none) :
    (schema.projectedData record).value Key.recordNumber = .null := by
  rw [KeyMap.value, projectedData_get?_reserved hvalid (by decide), hnone]
  rfl

/-- A group of conditions holds on a record as it does where nobody sees the number. -/
theorem holds_projectedData (hvalid : schema.validate = .ok ())
    (hnone : record.data.get? Key.recordNumber = none) (group : ConditionGroup) :
    group.holds (schema.projectedData record) =
      group.holdsUnnumbered (schema.numberedData record) := by
  rw [ConditionGroup.holds_eq_combined, ConditionGroup.holdsUnnumbered]
  refine ConditionGroup.combined_congr fun c _ => ?_
  split
  case isTrue hnumber =>
    exact Condition.holds_of_null (hnumber ▸ projectedData_number hvalid hnone)
  case isFalse hother =>
    have hvalue : (schema.projectedData record).value c.field.text =
        (schema.numberedData record).value c.field.text := by
      rw [KeyMap.value, KeyMap.value, numberedData, KeyMap.get?_insert, if_neg hother]
    rw [Condition.holds, Condition.holds, hvalue]

theorem numberUnseen (hvalid : schema.validate = .ok ())
    (hnone : record.data.get? Key.recordNumber = none) : schema.NumberUnseen record where
  notificationRules rule trigger := by
    simp only [NotificationRule.fires, holds_projectedData hvalid hnone]
  recordRules rule actor := by
    rw [RecordRule.applies, ← holds_projectedData hvalid hnone]
    rfl
  unnamed group h := by
    rw [holds_projectedData hvalid hnone, ConditionGroup.holdsUnnumbered_eq h]
  named logic c hc hoperands hshown := by
    have hnull : (schema.projectedData record).value c.field.text = .null :=
      hc ▸ projectedData_number hvalid hnone
    rw [ConditionGroup.holds_singleton, Condition.holds_of_null hnull]
    exact Condition.holdsOnNull_iff hoperands hshown
  shown f hf htype := projectedData_get?_auto hvalid hf (by rw [htype]; rfl)

end AppSchema

namespace Engine

open AppSchema

/-- After any run, conditions do not see the number of any record that is stored. -/
theorem stored_numberUnseen {ids : Nat → String} {start : Workspace} {d : Desk} {app : AppId}
    {schema : AppSchema} {record : Record} (hinjective : Function.Injective ids)
    (hsound : start.Sound) (hempty : ∀ code, start.store.records code = [])
    (hrun : (Desk.opened start).Run ids d) (hschema : d.ws.schemas.get? app = some schema)
    (hrecord : record ∈ d.ws.store.records schema.code.text) : schema.NumberUnseen record := by
  have hledger : Ledger ids d := (Ledger.opened hsound hempty).along hinjective hrun
  obtain ⟨made, -, hmade⟩ := hledger.stored hrecord
  exact numberUnseen (hledger.sound.schema_valid hschema) hmade.unnumbered

variable {settings : Settings} {ws ws' : Workspace} {actor : Actor} {app : AppId} {input : Fields}
  {outcome : MutationOutcome}

/-- Conditions do not see the number of a record that is created, in notification rules and in
    record rules. One that names the number is accepted as soon as its operator and its operands
    are. It then finds no value; unless it has an operand that is shown as the empty text, it holds
    if it asks for something else (`ne`, `not_in`), and otherwise not, whatever the number is. Where
    no condition of a group names it, the group holds as if the number was there. -/
theorem number_unseen_by_conditions (hsound : ws.Sound)
    (ran : run settings ws (createRecord actor app input) = (.ok outcome, ws')) :
    ∃ schema record, ws.schemas.get? app = some schema ∧
      ws'.store.records schema.code.text = ws.store.records schema.code.text ++ [record] ∧
      schema.NumberUnseen record ∧
      ∀ logic (c : Condition), c.field.text = Key.recordNumber →
        schema.checkCondition ⟨logic, [c]⟩ = c.validate := by
  obtain ⟨schema, refresh, record, store, hschema, hdraft, hinsert, rfl, -⟩ := createRecord_ok ran
  have hvalid := hsound.schema_valid hschema
  obtain ⟨status, -, hmetadata⟩ := Workspace.draft_metadata hvalid hdraft
  obtain ⟨-, -, -, hdata, rfl⟩ := RecordStore.insert_ok hinsert
  rw [← hdata] at hmetadata
  have hmade : record.MadeBy schema.code.text
      ⟨record.id.text, actor, settings.now, some (schema.code.text, record.number)⟩ :=
    Record.drafted_madeBy hmetadata record.id.text
  refine ⟨schema, record, hschema, ?_, numberUnseen hvalid hmade.unnumbered, ?_⟩
  · exact (RecordStore.records_withApp _ _ _ _).trans (if_pos rfl)
  · intro logic c hc
    exact checkCondition_number hc logic

end Engine

namespace Orders

/-- The order with the number one. -/
def isFirst : ConditionGroup :=
  ⟨.all, [⟨⟨Key.recordNumber, by decide⟩, .equal, some (.int 1), none⟩]⟩

/-- Bob is to hear of it when it is placed. -/
def firstRule : NotificationRule where
  id := ⟨"opening", by decide⟩
  app := app
  trigger := .recordAdded
  condition := some isFirst
  notifyType := .user
  targetId := some "bob"
  targetField := none
  title := "Order \x7b\x7brecord_number\x7d\x7d"
  message := ""

/-- The rule is saved, and then the first order is placed. -/
def announced : Workspace :=
  (defined.serve settings (.notifications (.save firstRule))).serve settings
    (.records clerk app (.create (.ofList [("item", .text "tea")])))

end Orders

namespace Engine

/-- In the small app, the first order is stored, and no condition sees its number. -/
theorem number_unseen_by_conditions_orders :
    Orders.defined.Sound ∧
    (∃ outcome, run Orders.settings Orders.defined
      (createRecord Orders.clerk Orders.app (.ofList [("item", .text "tea")])) =
        (.ok outcome, Orders.workspace)) ∧
    ∃ schema record, Orders.defined.schemas.get? Orders.app = some schema ∧
      Orders.workspace.store.records schema.code.text =
        Orders.defined.store.records schema.code.text ++ [record] ∧
      schema.NumberUnseen record ∧ schema.checkCondition Orders.isFirst = .ok () := by
  have hsound : Orders.defined.Sound := Workspace.defined_reachable.sound
  obtain ⟨outcome, ran⟩ : ∃ outcome, run Orders.settings Orders.defined
      (createRecord Orders.clerk Orders.app (.ofList [("item", .text "tea")])) =
        (.ok outcome, Orders.workspace) := ⟨_, rfl⟩
  obtain ⟨schema, record, hschema, hadded, hunseen, haccepted⟩ :=
    number_unseen_by_conditions hsound ran
  exact ⟨hsound, ⟨outcome, ran⟩, schema, record, hschema, hadded, hunseen, haccepted .all _ rfl⟩

/-- The rule for the first order is accepted, and does not fire for it: its condition does not see
    the number that the title is to show. -/
theorem first_order_unannounced :
    Orders.schema.checkCondition Orders.isFirst = .ok () ∧
    Orders.firstRule ∈ Orders.announced.rulesOf Orders.app ∧
    Orders.announced.store.records "orders" = [Orders.order ""] ∧
    (Orders.order "").number = 1 ∧
    Orders.firstRule.fires .recordAdded Orders.schema (Orders.order "") = false ∧
    Orders.isFirst.holds (Orders.schema.projectedData (Orders.order "")) = false ∧
    Orders.isFirst.holds (Orders.schema.numberedData (Orders.order "")) = true ∧
    (Orders.firstRule.notification Orders.schema (Orders.order "") "").title = "Order 1" := by
  refine ⟨rfl, List.mem_singleton_self _, rfl, rfl, ?_, ?_, ?_, ?_⟩
  · decide +kernel
  · decide +kernel
  · decide +kernel
  · decide +kernel

end Engine

end RecordApps
