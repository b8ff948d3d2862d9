import RecordApps.Proofs.Schema.History

/-! # Saving a stored schema again

Nothing keeps an imported schema from having two fields with the same id. Such a schema is stored
like any other, but the first of the two fields hides the second one from the comparison with the
next schema. It cannot be saved again, nor replaced by any other schema.
-/

namespace RecordApps

namespace Workspace

variable {ws ws' : Workspace} {app : AppId} {schema : AppSchema}

/-- A stored schema whose ids are distinct may be saved as it is, which changes nothing. -/
theorem Reachable.run_saveSchema (h : ws.Reachable) (hschema : ws.schemas.get? app = some schema)
    (hids : (schema.fields.map (·.id)).Nodup) (settings : Settings) :
    Engine.run settings ws (Engine.saveSchema schema) = (.ok (), ws) := by
  obtain ⟨hvalid, hsaved⟩ := h.schema_saved hschema
  obtain rfl := h.coherent.own_id hschema
  have hstable : ∀ stored, ws.schemas.get? schema.id = some stored →
      schema.ensureStable stored = .ok () := by
    intro stored hstored
    obtain rfl := Option.some.inj (hschema.symm.trans hstored)
    exact AppSchema.ensureStable_self hsaved hids
  have hfree : ∀ other ∈ ws.schemas.values, other.code = schema.code → other.id = schema.id := by
    intro other hother hcode
    obtain ⟨owner, howner⟩ := Table.mem_values_iff.1 hother
    exact (h.coherent.own_id howner).trans (h.coherent.own_code howner hschema hcode)
  rw [Engine.run_saveSchema hvalid hstable hfree, hsaved.persisted_eq_self,
    Table.insert_eq_self hschema]

theorem Reachable.locked (h : ws.Reachable) (hlater : ws.Later ws')
    (hschema : ws.schemas.get? app = some schema) (hids : ¬(schema.fields.map (·.id)).Nodup) :
    ws'.schemas.get? app = some schema := by
  obtain ⟨hvalid, hsaved⟩ := h.schema_saved hschema
  induction hlater with
  | refl => exact hschema
  | tail _ hstep ih =>
      obtain ⟨next, hnext⟩ := hstep.schemas.isSome ih
      rcases hstep.schemas.get? hnext with hsame | ⟨saved, -, -, -, hstable⟩
      · exact hnext.trans (hsame.symm.trans ih)
      · -- No schema passes the comparison with this one.
        exact absurd (AppSchema.nodup_ids_of_ensureStable hsaved hvalid (hstable schema ih)) hids

/-- In every workspace that comes about, a stored schema can be saved again exactly if no two of
    its fields have the same id; that leaves everything as it is. If two have, the app is locked:
    whatever comes later, its schema stays the same. -/
theorem saved_again_iff_distinct_ids (h : ws.Reachable)
    (hschema : ws.schemas.get? app = some schema) (settings : Settings) :
    (Engine.run settings ws (Engine.saveSchema schema) = (.ok (), ws) ↔
      (schema.fields.map (·.id)).Nodup) ∧
    (¬(schema.fields.map (·.id)).Nodup →
      ∀ ws', ws.Later ws' → ws'.schemas.get? app = some schema) := by
  obtain ⟨hvalid, hsaved⟩ := h.schema_saved hschema
  refine ⟨⟨fun ran => ?_, fun hids => h.run_saveSchema hschema hids settings⟩, ?_⟩
  · obtain ⟨-, hstable, -, -⟩ := Engine.saveSchema_ok ran
    obtain rfl := h.coherent.own_id hschema
    exact AppSchema.nodup_ids_of_ensureStable hsaved hvalid (hstable schema hschema)
  · exact fun hids ws' hlater => h.locked hlater hschema hids

end Workspace

namespace Orders

/-- Orders whose item and margin have the same id. -/
def twinSchema : AppSchema :=
  { schema with fields := schema.fields.map fun f => { f with id := ⟨"f1", by decide⟩ } }

/-- The app with these orders. -/
def twinned : Workspace :=
  Workspace.empty.serve settings (.schemas (.save twinSchema))

end Orders

namespace Workspace

/-- The orders with a repeated id are stored, and refused when they are saved again. -/
theorem stored_schema_refused :
    Orders.twinned.Reachable ∧
    Orders.twinned.schemas.get? Orders.app = some Orders.twinSchema ∧
    Engine.run Orders.settings Orders.twinned (Engine.saveSchema Orders.twinSchema) =
      (.error (.conflict (.fieldCodeChanged "margin" "item")), Orders.twinned) :=
  ⟨Reachable.empty.served _ _, by with_unfolding_all rfl, by with_unfolding_all rfl⟩

/-- The plain orders can be saved again. Those with a repeated id stay for ever. -/
theorem saved_again_iff_distinct_ids_orders :
    (Orders.defined.Reachable ∧ Orders.defined.schemas.get? Orders.app = some Orders.schema ∧
      Engine.run Orders.settings Orders.defined (Engine.saveSchema Orders.schema) =
        (.ok (), Orders.defined)) ∧
    (Orders.twinned.Reachable ∧
      Orders.twinned.schemas.get? Orders.app = some Orders.twinSchema ∧
      ∀ ws', Orders.twinned.Later ws' →
        ws'.schemas.get? Orders.app = some Orders.twinSchema) := by
  have hplain : Orders.defined.schemas.get? Orders.app = some Orders.schema := rfl
  have htwinned : Orders.twinned.schemas.get? Orders.app = some Orders.twinSchema := by
    with_unfolding_all rfl
  have hreachable : Orders.twinned.Reachable := Reachable.empty.served _ _
  obtain ⟨hagain, -⟩ := saved_again_iff_distinct_ids defined_reachable hplain Orders.settings
  obtain ⟨-, hlocked⟩ := saved_again_iff_distinct_ids hreachable htwinned Orders.settings
  exact ⟨⟨defined_reachable, hplain, hagain.2 (by decide)⟩,
    hreachable, htwinned, hlocked (by decide)⟩

end Workspace

end RecordApps
