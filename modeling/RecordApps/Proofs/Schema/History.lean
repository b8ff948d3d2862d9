import Mathlib.Logic.Relation
import RecordApps.Proofs.Engine.Reachable
import RecordApps.Proofs.Schema.Stability

/-! # The history of a schema

Few requests store a schema, and each of them does so by saving it whole. So every stored schema is
valid, has saved fields only, and keeps the fields of all schemas that were stored for its app
before it.
-/

namespace RecordApps

namespace Workspace

/-- What one step does to the schemas: nothing, or it saves one. -/
inductive SchemaStep (ws ws' : Workspace) : Prop where
  | kept : ws'.schemas = ws.schemas → SchemaStep ws ws'
  | saved {schema : AppSchema} : schema.validate = .ok () →
      (∀ stored, ws.schemas.get? schema.id = some stored → schema.ensureStable stored = .ok ()) →
      ws'.schemas = ws.schemas.insert schema.id schema.persisted → SchemaStep ws ws'

end Workspace

namespace Engine

variable {α : Type} {settings : Settings} {ws ws' : Workspace}

open Workspace

/-! ## One request -/

theorem saveSchema_schemas {schema : AppSchema}
    (ran : run settings ws (saveSchema schema) = (.ok (), ws')) : SchemaStep ws ws' := by
  obtain ⟨hvalid, hstable, -, rfl⟩ := saveSchema_ok ran
  exact .saved hvalid hstable rfl

theorem schemaCall_schemas (call : SchemaCall α) {answer : α}
    (ran : run settings ws call.perform = (.ok answer, ws')) : SchemaStep ws ws' := by
  cases call with
  | save schema => exact saveSchema_schemas ran
  | find code => exact (schemaCall_onlyReads rfl).unchanged ran ▸ .kept rfl
  | addField actor app f =>
      obtain ⟨_, _, -, -, -, saved⟩ := addField_ok ran
      exact saveSchema_schemas saved
  | retireField actor app code =>
      obtain ⟨_, _, -, -, -, saved⟩ := retireField_ok ran
      exact saveSchema_schemas saved

theorem processCall_schemas (call : ProcessCall α) {answer : α}
    (ran : run settings ws call.perform = (.ok answer, ws')) : SchemaStep ws ws' := by
  cases call with
  | save graph =>
      obtain ⟨-, -, rfl⟩ := saveProcess_ok ran
      exact .kept rfl
  | switch app enabled =>
      obtain ⟨_, -, -, saved⟩ := setProcessEnabled_ok ran
      exact saveSchema_schemas saved
  | assign schema record assignees => exact .kept (assign_step ran).definitions.schemas
  | transition actor schema record action => exact .kept (transition_step ran).definitions.schemas
  | initialStatus | actions => exact (processCall_onlyReads rfl).unchanged ran ▸ .kept rfl

theorem serviceCall_schemas (call : ServiceCall α) {answer : α}
    (ran : run settings ws call.perform = (.ok answer, ws')) : SchemaStep ws ws' := by
  cases call with
  | records actor app call => exact .kept (recordCall_step call ran).definitions.schemas
  | schemas call => exact schemaCall_schemas call ran
  | processes call => exact processCall_schemas call ran
  | permissions call => exact .kept (permissionCall_sameApps call ran).schemas
  | notifications call => exact .kept (notificationCall_sameApps call ran).schemas

end Engine

namespace Workspace

variable {ws mid ws' : Workspace} {app : AppId} {schema schema' : AppSchema}

/-! ## Steps and runs of them -/

/-- One step of a workspace: a request to a service, refused or not, or a record or an assignment
    that is loaded. -/
inductive Step : Workspace → Workspace → Prop where
  | served {α : Type} (ws : Workspace) (settings : Settings) (call : ServiceCall α) :
      Step ws (ws.serve settings call)
  | restored {ws ws' : Workspace} {settings : Settings} {code : String} {record : Record} :
      record.number < wordLimit →
      Engine.run settings ws (Engine.restoreRecord code record) = (.ok (), ws') → Step ws ws'
  | assigned (ws : Workspace) (app : AppId) (record : String) (assignees : List String) :
      Step ws (ws.withAssignees app record assignees)

/-- The second workspace comes about from the first one by any number of steps. -/
def Later (ws ws' : Workspace) : Prop :=
  Relation.ReflTransGen Step ws ws'

theorem Reachable.step (h : ws.Reachable) (hstep : Step ws ws') : ws'.Reachable := by
  cases hstep with
  | served _ settings call => exact h.served settings call
  | restored hword ran => exact .restored hword ran h
  | assigned _ app record assignees => exact .assigned app record assignees h

theorem Reachable.later (h : ws.Reachable) (hlater : ws.Later ws') : ws'.Reachable := by
  induction hlater with
  | refl => exact h
  | tail _ hstep ih => exact ih.step hstep

theorem Step.schemas (h : Step ws ws') : SchemaStep ws ws' := by
  cases h with
  | served _ settings call =>
      exact Engine.serve_keeps (.kept rfl) fun ran => Engine.serviceCall_schemas call ran
  | restored _ ran =>
      obtain ⟨_, -, rfl⟩ := Engine.restoreRecord_ok ran
      exact .kept rfl
  | assigned => exact .kept rfl

theorem SchemaStep.get? (h : SchemaStep ws ws') (hschema' : ws'.schemas.get? app = some schema') :
    ws.schemas.get? app = some schema' ∨
      ∃ schema : AppSchema, schema.id = app ∧ schema.validate = .ok () ∧
        schema' = schema.persisted ∧
        ∀ stored, ws.schemas.get? app = some stored → schema.ensureStable stored = .ok () := by
  cases h with
  | kept hkept => exact .inl (hkept ▸ hschema')
  | @saved schema hvalid hstable hsaved =>
      rw [hsaved, Table.get?_insert] at hschema'
      split at hschema'
      case isTrue happ =>
        subst happ
        exact .inr ⟨schema, rfl, hvalid, (Option.some.inj hschema').symm, hstable⟩
      case isFalse => exact .inl hschema'

theorem SchemaStep.isSome (h : SchemaStep ws ws') (hschema : ws.schemas.get? app = some schema) :
    ∃ schema', ws'.schemas.get? app = some schema' := by
  cases h with
  | kept hkept => exact ⟨schema, hkept ▸ hschema⟩
  | saved _ _ hsaved =>
      rw [hsaved, Table.get?_insert]
      split
      case isTrue => exact ⟨_, rfl⟩
      case isFalse => exact ⟨schema, hschema⟩

theorem reachable_iff : ws.Reachable ↔ Workspace.empty.Later ws := by
  refine ⟨fun h => ?_, Reachable.empty.later⟩
  induction h with
  | empty => exact .refl
  | @served α ws settings call _ ih => exact ih.tail (.served ws settings call)
  | restored hword ran _ ih => exact ih.tail (.restored hword ran)
  | @assigned ws app record assignees _ ih => exact ih.tail (.assigned ws app record assignees)

/-! ## What stored schemas have -/

theorem Reachable.schema_saved (h : ws.Reachable) (hschema : ws.schemas.get? app = some schema) :
    schema.validate = .ok () ∧ schema.AllSaved := by
  rw [reachable_iff] at h
  induction h generalizing app schema with
  | refl => cases hschema
  | tail _ hstep ih =>
      rcases hstep.schemas.get? hschema with hsame | ⟨saved, -, hvalid, rfl, -⟩
      · exact ih hsame
      · exact ⟨saved.persisted_validate.trans hvalid, saved.persisted_allSaved⟩

/-- A coherent workspace in which every stored schema is valid. -/
structure Sound (ws : Workspace) : Prop extends ws.Coherent where
  schema_valid : ∀ {app schema}, ws.schemas.get? app = some schema → schema.validate = .ok ()

theorem Reachable.sound (h : ws.Reachable) : ws.Sound :=
  ⟨h.coherent, fun hschema => (h.schema_saved hschema).1⟩

theorem Sound.defines (h : ws.Sound) (hschema : ws.schemas.get? app = some schema) :
    ws.Defines app schema :=
  ⟨h.toCoherent, hschema, h.schema_valid hschema⟩

theorem Sound.answered {α : Type} {settings : Settings} (h : ws.Sound) (call : ServiceCall α)
    {answer : α} (ran : Engine.run settings ws call.perform = (.ok answer, ws')) : ws'.Sound where
  toCoherent := Engine.serviceCall_coherent h.toCoherent call ran
  schema_valid hschema := by
    rcases (Engine.serviceCall_schemas call ran).get? hschema with hsame | ⟨saved, -, hvalid, rfl, -⟩
    · exact h.schema_valid hsame
    · exact saved.persisted_validate.trans hvalid

theorem Reachable.keeps (h : ws.Reachable) (hlater : ws.Later ws')
    (hschema : ws.schemas.get? app = some schema) :
    ∃ schema', ws'.schemas.get? app = some schema' ∧ schema.Keeps schema' := by
  induction hlater with
  | refl => exact ⟨schema, hschema, .refl schema⟩
  | @tail mid ws' hmid hstep ih =>
      obtain ⟨previous, hprevious, hkeeps⟩ := ih
      obtain ⟨next, hnext⟩ := hstep.schemas.isSome hprevious
      refine ⟨next, hnext, hkeeps.trans ?_⟩
      rcases hstep.schemas.get? hnext with hsame | ⟨saved, -, -, rfl, hstable⟩
      · obtain rfl := Option.some.inj (hprevious.symm.trans hsame)
        exact .refl previous
      · -- What is saved has been compared with the schema before it, whose fields are all saved.
        have hsaved := ((h.later hmid).schema_saved hprevious).2
        exact (AppSchema.Keeps.of_ensureStable hsaved (hstable previous hprevious)).persisted

/-- Field codes are frozen for ever. In every workspace that comes about, stored schemas are valid
    and hold saved fields only, and no two apps share a code. A field that has been stored for an
    app stays in its schema with its id and its code, and no other id ever takes the code. -/
theorem field_codes_frozen (h : ws.Reachable) (hlater : ws.Later ws') :
    (∀ app schema, ws'.schemas.get? app = some schema →
      schema.validate = .ok () ∧ ∀ f ∈ schema.fields, f.temporary = false) ∧
    (∀ app other schema schema', ws'.schemas.get? app = some schema →
      ws'.schemas.get? other = some schema' → schema.code = schema'.code → app = other) ∧
    ∀ app schema, ws.schemas.get? app = some schema →
      ∃ schema', ws'.schemas.get? app = some schema' ∧ ∀ f ∈ schema.fields,
        (∃ g ∈ schema'.fields, g.id = f.id ∧ g.code = f.code) ∧
        ∀ g ∈ schema'.fields, g.code = f.code → g.id = f.id := by
  have hreached := h.later hlater
  refine ⟨fun app schema => hreached.schema_saved, ?_, ?_⟩
  · exact fun app other schema schema' => hreached.coherent.own_code
  · intro app schema hschema
    obtain ⟨schema', hschema', hkeeps⟩ := h.keeps hlater hschema
    have hvalid := (hreached.schema_saved hschema').1
    refine ⟨schema', hschema', fun f hf => ⟨hkeeps f hf, fun g hg hcode => ?_⟩⟩
    exact hkeeps.id_of_code hvalid hf hg hcode

end Workspace

namespace Orders

/-- The orders with a note in front and their fields behind it in the other order. Both have become
    choices, and the margin is out of use. -/
def reworkedSchema : AppSchema :=
  { schema with
    fields :=
      line ⟨"note", by decide⟩ :: schema.fields.reverse.map fun f =>
        { f with
          type := .dropdown
          options := [⟨"tea", "Tea"⟩]
          active := f.code.text == "item" } }

/-- The app after these orders have been imported. -/
def reworked : Workspace :=
  defined.serve settings (.schemas (.save reworkedSchema))

end Orders

namespace Workspace

/-- In the small app, item and margin keep their codes when the orders are reworked. -/
theorem field_codes_frozen_orders :
    Orders.defined.Reachable ∧ Orders.defined.Later Orders.reworked ∧
    Orders.defined.schemas.get? Orders.app = some Orders.schema ∧
    Orders.reworked.schemas.get? Orders.app = some Orders.reworkedSchema ∧
    Orders.reworkedSchema.validate = .ok () ∧
    ∀ f ∈ Orders.schema.fields,
      (∃ g ∈ Orders.reworkedSchema.fields, g.id = f.id ∧ g.code = f.code) ∧
      ∀ g ∈ Orders.reworkedSchema.fields, g.code = f.code → g.id = f.id := by
  have hlater : Orders.defined.Later Orders.reworked := .single (.served _ _ _)
  have hbefore : Orders.defined.schemas.get? Orders.app = some Orders.schema := rfl
  have hafter : Orders.reworked.schemas.get? Orders.app = some Orders.reworkedSchema := by
    with_unfolding_all rfl
  obtain ⟨hstored, -, hkept⟩ := field_codes_frozen defined_reachable hlater
  obtain ⟨schema', hschema', hfields⟩ := hkept _ _ hbefore
  obtain rfl := Option.some.inj (hafter.symm.trans hschema')
  exact ⟨defined_reachable, hlater, hbefore, hafter, (hstored _ _ hafter).1, hfields⟩

end Workspace

end RecordApps
