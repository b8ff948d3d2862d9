import RecordApps.Formula.Basic
import RecordApps.Proofs.KeyMap

/-! # Values of formulas

A formula sees only the fields it names, and without a value it is for one of two reasons: a
division by zero or a result that is not finite.
-/

namespace RecordApps

namespace Expr

variable {data data' : Fields}

theorem eval_congr {expr : Expr} (h : ∀ code ∈ expr.fields, data.get? code = data'.get? code) :
    expr.eval data = expr.eval data' := by
  induction expr with
  | number x => rfl
  | field code =>
      have hcode : data.get? code = data'.get? code := h code (by simp [fields])
      simp only [eval, operand, hcode]
  | negate inner ih => simp only [eval, ih h]
  | binary op left right ihl ihr =>
      have hleft : left.eval data = left.eval data' :=
        ihl fun code hcode => h code (List.mem_append_left _ hcode)
      have hright : right.eval data = right.eval data' :=
        ihr fun code hcode => h code (List.mem_append_right _ hcode)
      simp only [eval, hleft, hright]

theorem eval_error {expr : Expr} {cause : FormulaFault} (h : expr.eval data = .error cause) :
    cause = .divideByZero := by
  induction expr generalizing cause with
  | number | field => cases h
  | negate inner ih =>
      simp only [eval] at h
      cases hinner : inner.eval data with
      | error other => exact ih (by simpa [hinner, bind, Except.bind] using h)
      | ok value => simp [hinner, bind, Except.bind, pure, Except.pure] at h
  | binary op left right ihl ihr =>
      simp only [eval] at h
      cases hleft : left.eval data with
      | error other => exact ihl (by simpa [hleft, bind, Except.bind] using h)
      | ok a =>
          cases hright : right.eval data with
          | error other => exact ihr (by simpa [hleft, hright, bind, Except.bind] using h)
          | ok b =>
              cases op with
              | add | subtract | multiply =>
                  simp [hleft, hright, Arith.apply, bind, Except.bind, pure, Except.pure] at h
              | divide =>
                  simp only [hleft, hright, Arith.apply, bind, Except.bind] at h
                  by_cases hzero : (b.value == 0.0) = true
                  · rw [if_pos hzero] at h
                    cases h
                    rfl
                  · rw [if_neg hzero] at h
                    cases h

end Expr

namespace Formula

variable {f : Formula} {data data' : Fields}

theorem mem_fieldCodes_iff {code : String} : code ∈ f.fieldCodes ↔ code ∈ f.expr.fields := by
  rw [fieldCodes, KeyMap.mem_keys_ofList, List.map_map]
  simp

theorem evaluate_congr (h : ∀ code ∈ f.fieldCodes, data.get? code = data'.get? code) :
    f.evaluate data = f.evaluate data' := by
  have heval : f.expr.eval data = f.expr.eval data' :=
    Expr.eval_congr fun code hcode => h code (mem_fieldCodes_iff.2 hcode)
  rw [evaluate, evaluate, heval]

theorem evaluate_error {cause : FormulaFault} (h : f.evaluate data = .error cause) :
    cause = .divideByZero ∨ cause = .nonFinite := by
  rw [evaluate] at h
  cases heval : f.expr.eval data with
  | error other =>
      have hcause : other = cause := by simpa [heval, bind, Except.bind] using h
      exact .inl (hcause ▸ Expr.eval_error heval)
  | ok result =>
      simp only [heval, bind, Except.bind] at h
      split at h
      · cases h
      · cases h
        exact .inr rfl

end Formula

end RecordApps
