import RecordApps.Derived.Recompute
import RecordApps.Proofs.Formula.Evaluation
import RecordApps.Proofs.Schema.CalculationOrder

/-! # Calculated values solve their equations

Each calculated field asks that its value be the one its formula has on the data it stands in.
The fields are computed one after the other in place. In a topological order no operand is written
any more once it has been read, so that at the end all equations hold at once.
-/

namespace RecordApps

namespace Calculation

variable {calculations : KeyMap Calculation} {order : List Calculation} {c : Calculation}
  {data data' : Fields}

/-- The value that a field should have: that of its formula, null where it has none. -/
def valueOn (c : Calculation) (data : Fields) : Value :=
  match c.formula.evaluate data with
  | .ok result => .float result.value
  | .error _ => .null

/-- The field has the value that its formula has on the same data. -/
def Solved (c : Calculation) (data : Fields) : Prop :=
  data.get? c.code = some (c.valueOn data)

theorem valueOn_congr
    (h : ∀ operand ∈ c.formula.fieldCodes, data.get? operand = data'.get? operand) :
    c.valueOn data = c.valueOn data' := by
  rw [valueOn, valueOn, Formula.evaluate_congr h]

theorem Solved.congr (h : c.Solved data) (hcode : data'.get? c.code = data.get? c.code)
    (hoperands : ∀ operand ∈ c.formula.fieldCodes, data'.get? operand = data.get? operand) :
    c.Solved data' := by
  rw [Solved, hcode, valueOn_congr hoperands]
  exact h

theorem calculate_data (state : Refresh) (c : Calculation) :
    (state.calculate c).data = state.data.insert c.code (c.valueOn state.data) := by
  rw [Refresh.calculate, valueOn]
  cases c.formula.evaluate state.data <;> rfl

namespace Topological

theorem not_own_operand (hc : calculations.get? c.code = some c) (hnew : c.code ∉ order.map code)
    (hoperands : ∀ operand ∈ c.formula.fieldCodes,
      calculations.contains operand = true → operand ∈ order.map code) :
    c.code ∉ c.formula.fieldCodes := by
  intro hown
  exact hnew (hoperands c.code hown (KeyMap.contains_of_get? hc))

theorem solved (h : Topological calculations order) (state : Refresh) :
    ∀ c ∈ order, c.Solved (order.foldl Refresh.calculate state).data := by
  induction h with
  | nil => simp
  | @snoc order last horder hlast hnew hoperands ih =>
      rw [List.foldl_append, List.foldl_cons, List.foldl_nil, calculate_data]
      have hother : ∀ code, code ≠ last.code → ∀ value : Value,
          ((order.foldl Refresh.calculate state).data.insert last.code value).get? code =
            (order.foldl Refresh.calculate state).data.get? code := by
        intro code hne value
        rw [KeyMap.get?_insert, if_neg hne]
      intro c hc
      rcases List.mem_append.1 hc with hc | hc
      · refine (ih c hc).congr (hother _ ?_ _) fun operand hoperand => hother _ ?_ _
        · exact fun hsame => hnew (hsame ▸ List.mem_map_of_mem hc)
        · intro hsame
          exact hnew (horder.operand_mem hc (hsame ▸ hoperand) (KeyMap.contains_of_get? hlast))
      · obtain rfl := List.mem_singleton.1 hc
        have hown := not_own_operand hlast hnew hoperands
        rw [Solved, KeyMap.get?_insert, if_pos rfl]
        exact congrArg some (valueOn_congr fun operand hoperand =>
          (hother operand (fun hsame => hown (hsame ▸ hoperand)) _).symm)

end Topological

end Calculation

namespace AppSchema

variable {schema : AppSchema} {order : List Calculation} {c : Calculation}

theorem recompute_solved (horder : schema.calculationOrder = .ok order) (hc : c ∈ order)
    (store : RecordStore) (data : Fields) (changed : Option (List String)) :
    c.Solved (schema.recompute store data changed).data := by
  obtain ⟨_, -, htopological, -⟩ := calculationOrder_ok horder
  simp only [recompute, Refresh.calculateAll, horder]
  exact htopological.solved _ c hc

theorem solved_of_metadata (hvalid : schema.validate = .ok ())
    (horder : schema.calculationOrder = .ok order) (hc : c ∈ order) {data data' : Fields}
    (hsame : ∀ key, Key.isReserved key = false → data'.get? key = data.get? key)
    (h : c.Solved data) : c.Solved data' := by
  obtain ⟨hactive, hcalculation⟩ := calculationOrder_mem horder hc
  obtain ⟨-, -, hoperands⟩ := calculation?_ok hcalculation
  refine h.congr (hsame _ (code_not_reserved hvalid hactive)) fun operand hoperand => ?_
  obtain ⟨f, hf, rfl, -⟩ := checkOperand_ok (hoperands operand hoperand)
  exact hsame _ (code_not_reserved hvalid hf)

end AppSchema

end RecordApps
