import RecordApps.Proofs.Records.Run

/-! # Stored calculated values

A refresh leaves every calculated field with the value of its formula on the data that are stored
with it. Drafts and revisions end with a refresh, and a move writes metadata, which no formula
reads.
-/

namespace RecordApps

namespace AppSchema

variable {schema : AppSchema} {data data' : Fields}

/-- Every calculated field in use is solved, as far as there is an order to compute them in. -/
def Computed (schema : AppSchema) (data : Fields) : Prop :=
  ∀ order, schema.calculationOrder = .ok order → ∀ c ∈ order, c.Solved data

theorem recompute_computed (store : RecordStore) (changed : Option (List String)) :
    schema.Computed (schema.recompute store data changed).data := by
  intro order horder c hc
  exact recompute_solved horder hc store data changed

theorem Computed.of_metadata (hvalid : schema.validate = .ok ())
    (hsame : ∀ key, Key.isReserved key = false → data'.get? key = data.get? key)
    (h : schema.Computed data) : schema.Computed data' := by
  intro order horder c hc
  exact solved_of_metadata hvalid horder hc hsame (h order horder c hc)

/-- A calculated field has a readable formula, and holds its value or, where it has none, null. -/
theorem Computed.value (hvalid : schema.validate = .ok ()) (h : schema.Computed data)
    {f : FieldDefinition} {config : FormulaConfig} (hf : f ∈ schema.activeFields)
    (htype : f.type = .calculated config) :
    ∃ formula, Formula.parse config.formula = .ok formula ∧
      ((∃ result, formula.evaluate data = .ok result ∧
        data.get? f.code.text = some (.float result.value)) ∨
      ∃ cause, formula.evaluate data = .error cause ∧
        (cause = .divideByZero ∨ cause = .nonFinite) ∧ data.get? f.code.text = some .null) := by
  obtain ⟨-, -, ⟨order, horder⟩, -⟩ := validate_ok hvalid
  obtain ⟨c, hc, rfl, hparse⟩ := exists_mem_calculationOrder hvalid horder hf htype
  have hsolved := h order horder c hc
  rw [Calculation.Solved, Calculation.valueOn, Calculation.code] at hsolved
  refine ⟨c.formula, hparse, ?_⟩
  cases hvalue : c.formula.evaluate data with
  | ok result =>
      rw [hvalue] at hsolved
      exact .inl ⟨result, rfl, hsolved⟩
  | error cause =>
      rw [hvalue] at hsolved
      exact .inr ⟨cause, rfl, Formula.evaluate_error hvalue, hsolved⟩

end AppSchema

namespace Workspace

variable {ids : Nat → String} {start ws : Workspace} {app : AppId} {schema : AppSchema}

/-- Stored calculated values are never stale: along any run of requests about records, from a
    workspace in which an app has none, every calculated field in use holds the value of its
    formula on the data of the same record, and null exactly if a division by zero or a result
    that is not finite leaves the formula without a value. -/
theorem calculated_values_current (hdefines : start.Defines app schema)
    (hstart : start.store.records schema.code.text = []) (hruns : start.RecordRuns ids ws) :
    ∀ record ∈ ws.store.records schema.code.text, ∀ f ∈ schema.activeFields, ∀ config,
      f.type = .calculated config →
        ∃ formula, Formula.parse config.formula = .ok formula ∧
          ((∃ result, formula.evaluate record.data = .ok result ∧
            record.data.get? f.code.text = some (.float result.value)) ∨
          ∃ cause, formula.evaluate record.data = .error cause ∧
            (cause = .divideByZero ∨ cause = .nonFinite) ∧
            record.data.get? f.code.text = some .null) := by
  have hvalid := hdefines.schema_valid
  intro record hmem f hf config htype
  have hcomputed : schema.Computed record.data := by
    refine hruns.forall_data (P := schema.Computed) hdefines hstart ?_ ?_ ?_ record hmem
    · intro data data' hsame h
      exact h.of_metadata hvalid hsame
    · intro ws settings actor input refresh hdraft
      obtain ⟨-, -, -, ⟨status, -, rfl⟩, -, -⟩ := draft_ok hdraft
      exact AppSchema.recompute_computed _ _
    · intro ws settings actor stored changes refresh hrevision
      obtain ⟨-, -, -, rfl, -, -⟩ := revision_ok hrevision
      exact AppSchema.recompute_computed _ _
  exact hcomputed.value hvalid hf htype

end Workspace

namespace Orders

/-- A number with a code. -/
def number (code : NonBlank) : FieldDefinition :=
  { line code with type := .number none none }

/-- A field with a code that is calculated by a formula. -/
def calculated (code : NonBlank) (formula : String) : FieldDefinition :=
  { line code with type := .calculated ⟨formula, .number, 2⟩ }

/-- Orders with a charge that is calculated from a total, which stands behind it. -/
def pricedSchema : AppSchema :=
  { schema with
    processEnabled := false
    fields :=
      [number ⟨"price", by decide⟩, number ⟨"amount", by decide⟩,
       calculated ⟨"charge", by decide⟩ "total + price",
       calculated ⟨"total", by decide⟩ "price * amount"] }

/-- The app with these orders, where the clerk may add them. -/
def priced : Workspace :=
  (Workspace.empty.serve settings (.schemas (.save pricedSchema))).serve settings
    (.permissions (.saveApp clerkRow))

/-- The clerk orders three at a price of two. -/
def charged : Workspace :=
  priced.serve settings
    (.records clerk app (.create (.ofList [("price", .int 2), ("amount", .int 3)])))

end Orders

namespace Workspace

/-- In the small app, the charge of the one order is that of its formula. -/
theorem calculated_values_current_orders :
    Orders.priced.Defines Orders.app Orders.pricedSchema ∧
    Orders.priced.store.records "orders" = [] ∧
    Orders.priced.RecordRuns Orders.settings.newRecordId Orders.charged ∧
    ∃ record, Orders.charged.store.records "orders" = [record] ∧
      ∃ formula, Formula.parse "total + price" = .ok formula ∧
        ((∃ result, formula.evaluate record.data = .ok result ∧
          record.data.get? "charge" = some (.float result.value)) ∨
        ∃ cause, formula.evaluate record.data = .error cause ∧
          (cause = .divideByZero ∨ cause = .nonFinite) ∧
          record.data.get? "charge" = some .null) := by
  have hreachable : Orders.priced.Reachable := Reachable.empty.served _ _ |>.served _ _
  -- Formulas are cut into tokens by a recursion that `rfl` has to be told to unfold.
  have hdefines : Orders.priced.Defines Orders.app Orders.pricedSchema :=
    ⟨hreachable.coherent, by with_unfolding_all rfl, by with_unfolding_all rfl⟩
  have hempty : Orders.priced.store.records "orders" = [] := by with_unfolding_all rfl
  have hruns : Orders.priced.RecordRuns Orders.settings.newRecordId Orders.charged :=
    .step _ _ _ _ rfl .nil
  obtain ⟨record, hrecord⟩ : ∃ record, Orders.charged.store.records "orders" = [record] :=
    List.length_eq_one_iff.1 (by decide +kernel)
  have hmem : record ∈ Orders.charged.store.records "orders" := hrecord ▸ List.mem_cons_self
  have hactive : Orders.calculated ⟨"charge", by decide⟩ "total + price" ∈
      Orders.pricedSchema.activeFields :=
    List.mem_cons_of_mem _ (List.mem_cons_of_mem _ List.mem_cons_self)
  exact ⟨hdefines, hempty, hruns, record, hrecord,
    calculated_values_current hdefines hempty hruns record hmem _ hactive _ rfl⟩

end Workspace

end RecordApps
