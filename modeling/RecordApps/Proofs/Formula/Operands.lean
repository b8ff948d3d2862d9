import RecordApps.Proofs.Decimal.Zeros
import RecordApps.Proofs.Formula.Parsing

/-! # What a formula sees of a record

A formula sees the fields it names, and each of them as a number. A field that is absent or null, or
that holds no number, counts as zero, and a warning says so: one for each place in the text of the
formula where such a field is named, in the order of the text.
-/

namespace RecordApps

open Binary (Same)
open Grammar

variable {data data' : Fields}

/-! ## Warnings -/

namespace Expr

/-- What is wrong with a field as an operand, if anything. -/
def warning? (data : Fields) (code : String) : Option FormulaWarning :=
  if (data.value code).isNull then some (.missing code)
  else if (data.value code).asNumber.isNone then some (.nonNumeric code)
  else none

theorem operand_eq (data : Fields) (code : String) :
    operand data code =
      if (data.value code).isNull then ⟨0.0, [.missing code]⟩
      else (data.value code).asNumber.elim ⟨0.0, [.nonNumeric code]⟩ (⟨·, []⟩) := by
  rw [operand, KeyMap.value]
  split
  case h_1 habsent =>
    rw [habsent]
    rfl
  case h_2 hnull =>
    rw [hnull]
    rfl
  case h_3 v hne hv =>
    have hnull : v.isNull = false := by
      cases v with
      | null => exact absurd rfl hne
      | _ => rfl
    rw [hv, Option.getD_some, hnull]
    cases v.asNumber <;> rfl

theorem operand_warnings (data : Fields) (code : String) :
    (operand data code).warnings = (warning? data code).toList := by
  rw [operand_eq, warning?]
  split
  · rfl
  · cases (data.value code).asNumber <;> rfl

theorem eval_warnings {expr : Expr} {result : Evaluated} (h : expr.eval data = .ok result) :
    result.warnings = expr.fields.filterMap (warning? data) := by
  induction expr generalizing result with
  | number x =>
      cases h
      rfl
  | field code =>
      cases h
      rw [operand_warnings, fields, List.filterMap_cons, List.filterMap_nil]
      cases warning? data code <;> rfl
  | negate inner ih =>
      obtain ⟨a, ha, hpure⟩ := Outcome.bind_eq_ok.1 h
      cases hpure
      rw [fields, ← ih ha]
  | binary op left right ihl ihr =>
      obtain ⟨a, ha, hrest⟩ := Outcome.bind_eq_ok.1 h
      obtain ⟨b, hb, hrest⟩ := Outcome.bind_eq_ok.1 hrest
      obtain ⟨value, -, hpure⟩ := Outcome.bind_eq_ok.1 hrest
      cases hpure
      rw [fields, List.filterMap_append, ← ihl ha, ← ihr hb]

end Expr

theorem Formula.eval_of_evaluate {f : Formula} {result : Evaluated}
    (h : f.evaluate data = .ok result) : f.expr.eval data = .ok result := by
  obtain ⟨found, hfound, hfinite⟩ := Outcome.bind_eq_ok.1 h
  split at hfinite
  · cases hfinite
    exact hfound
  · cases hfinite

/-! ## Records that hold the same values

Values of one kind with the same content are the same, and both zeros are one number. Arithmetic
cannot tell the zeros apart either, since it divides by none of them. So the sign of a zero is all
that two evaluations on the same values may differ in.
-/

/-- Both have a value, with related numbers and the same warnings, or neither has, for the same
    reason. -/
inductive Evaluated.Agree (related : Float → Float → Prop) :
    Except FormulaFault Evaluated → Except FormulaFault Evaluated → Prop where
  | value {x y : Float} {warnings : List FormulaWarning} (h : related x y) :
      Agree related (.ok ⟨x, warnings⟩) (.ok ⟨y, warnings⟩)
  | fault (cause : FormulaFault) : Agree related (.error cause) (.error cause)

/-- Two records hold the same value under a code, or both none. -/
def SameUnder (data data' : Fields) (code : String) : Prop :=
  Option.Rel (fun v w => v.same w = true) (data.get? code) (data'.get? code)

theorem Value.asNumber_same {v w : Value} (h : v.same w = true) :
    v.isNull = w.isNull ∧ Option.Rel Same v.asNumber w.asNumber := by
  cases v with
  | null =>
      cases w with
      | null => exact ⟨rfl, .none⟩
      | _ => cases h
  | bool a =>
      cases w with
      | bool b => exact ⟨rfl, .none⟩
      | _ => cases h
  | int n =>
      cases w with
      | int m =>
          obtain rfl := eq_of_beq h
          exact ⟨rfl, .some (.refl _)⟩
      | _ => cases h
  | float x =>
      cases w with
      | float y => exact ⟨rfl, .some (.of_beq h)⟩
      | _ => cases h
  | text s =>
      cases w with
      | text t =>
          obtain rfl := eq_of_beq h
          refine ⟨rfl, ?_⟩
          cases (Value.text s).asNumber with
          | none => exact .none
          | some x => exact .some (.refl x)
      | _ => cases h
  | list as =>
      cases w with
      | list bs => exact ⟨rfl, .none⟩
      | _ => cases h
  | object as =>
      cases w with
      | object bs => exact ⟨rfl, .none⟩
      | _ => cases h

namespace Expr

open Evaluated (Agree)

theorem operand_agree {code : String} (h : SameUnder data data' code) :
    Agree Same (.ok (operand data code)) (.ok (operand data' code)) := by
  have hvalues : (data.value code).isNull = (data'.value code).isNull ∧
      Option.Rel Same (data.value code).asNumber (data'.value code).asNumber := by
    rw [SameUnder] at h
    rw [KeyMap.value, KeyMap.value]
    generalize data.get? code = stored at h ⊢
    generalize data'.get? code = stored' at h ⊢
    cases h with
    | none => exact ⟨rfl, .none⟩
    | some hsame => exact Value.asNumber_same hsame
  obtain ⟨hnull, hnumber⟩ := hvalues
  rw [operand_eq, operand_eq, hnull]
  generalize (data.value code).asNumber = x at hnumber ⊢
  generalize (data'.value code).asNumber = y at hnumber ⊢
  split
  · exact .value (.refl _)
  · cases hnumber with
    | none => exact .value (.refl _)
    | some hsame => exact .value hsame

/-- Operations have the same results on the same operands, or no results for the same reason. -/
theorem apply_same (op : Arith) {a a' b b' : Float} (ha : Same a a') (hb : Same b b') :
    (∃ x y, op.apply a b = .ok x ∧ op.apply a' b' = .ok y ∧ Same x y) ∨
      ∃ cause, op.apply a b = .error cause ∧ op.apply a' b' = .error cause := by
  cases op with
  | add => exact .inl ⟨_, _, rfl, rfl, ha.add hb⟩
  | subtract => exact .inl ⟨_, _, rfl, rfl, ha.sub hb⟩
  | multiply => exact .inl ⟨_, _, rfl, rfl, ha.mul hb⟩
  | divide =>
      simp only [Arith.apply, ← hb.beq_zero]
      cases hzero : b == 0.0 with
      | true => exact .inr ⟨_, rfl, rfl⟩
      | false => exact .inl ⟨_, _, rfl, rfl, ha.div hb hzero⟩

theorem eval_agree {expr : Expr} (h : ∀ code ∈ expr.fields, SameUnder data data' code) :
    Agree Same (expr.eval data) (expr.eval data') := by
  induction expr with
  | number x => exact .value (.refl x)
  | field code => exact operand_agree (h code (List.mem_singleton_self code))
  | negate inner ih =>
      have hinner := ih h
      simp only [eval]
      generalize inner.eval data = result at hinner ⊢
      generalize inner.eval data' = result' at hinner ⊢
      cases hinner with
      | value hsame => exact .value hsame.neg
      | fault cause => exact .fault cause
  | binary op left right ihl ihr =>
      have hleft := ihl fun code hcode => h code (List.mem_append_left _ hcode)
      have hright := ihr fun code hcode => h code (List.mem_append_right _ hcode)
      simp only [eval]
      generalize left.eval data = a at hleft ⊢
      generalize left.eval data' = a' at hleft ⊢
      generalize right.eval data = b at hright ⊢
      generalize right.eval data' = b' at hright ⊢
      cases hleft with
      | fault cause => exact .fault cause
      | @value x x' first hx =>
          cases hright with
          | fault cause => exact .fault cause
          | @value y y' second hy =>
              show Agree Same (op.apply x y >>= fun z => .ok ⟨z, first ++ second⟩)
                (op.apply x' y' >>= fun z => .ok ⟨z, first ++ second⟩)
              rcases apply_same op hx hy with ⟨z, z', hz, hz', hsame⟩ | ⟨cause, hz, hz'⟩
              · rw [hz, hz']
                exact .value hsame
              · rw [hz, hz']
                exact .fault cause

end Expr

namespace Formula

open Evaluated (Agree)

theorem evaluate_agree {f : Formula} (h : ∀ code ∈ f.fieldCodes, SameUnder data data' code) :
    Agree (· == ·) (f.evaluate data) (f.evaluate data') := by
  have heval := Expr.eval_agree fun code hcode => h code (mem_fieldCodes_iff.2 hcode)
  rw [evaluate, evaluate]
  generalize f.expr.eval data = result at heval ⊢
  generalize f.expr.eval data' = result' at heval ⊢
  cases heval with
  | fault cause => exact .fault cause
  | @value x y warnings hsame =>
      show Agree (· == ·) (if x.isFinite then .ok ⟨x, warnings⟩ else .error .nonFinite)
        (if y.isFinite then .ok ⟨y, warnings⟩ else .error .nonFinite)
      rw [← hsame.isFinite_eq]
      split
      case isTrue hfinite => exact .value (hsame.beq hfinite)
      case isFalse => exact .fault .nonFinite

/-! ## Texts -/

/-- A formula sees only the fields it names. It has the same outcome, value, fault and warnings
    alike, on all records that are equal under these codes; and if they hold the same values there,
    in which zeros may differ in their signs, then so may the numbers that come out, and nothing
    else. The text of a formula splits into tokens in one way only, and the codes are the names among
    them. Where the formula has a value, its warnings are those of these names in the order of the
    text: one each time for a field that is absent or null, or that holds no number. -/
theorem named_fields_seen {source : String} {f : Formula} (h : parse source = .ok f) :
    (∀ data data' : Fields, (∀ code ∈ f.fieldCodes, data.get? code = data'.get? code) →
      f.evaluate data = f.evaluate data') ∧
    (∀ data data' : Fields, (∀ code ∈ f.fieldCodes, SameUnder data data' code) →
      Agree (· == ·) (f.evaluate data) (f.evaluate data')) ∧
    ∃ tokens, (∀ others, Splits source.toList others ↔ others = tokens) ∧
      (∀ code, code ∈ f.fieldCodes ↔ Token.name code ∈ tokens) ∧
      ∀ data result, f.evaluate data = .ok result →
        result.warnings = (tokens.filterMap name?).filterMap (Expr.warning? data) := by
  obtain ⟨-, tokens, hsplits, d, rfl, -, rfl⟩ := parse_eq_ok_iff.1 h
  refine ⟨fun data data' => evaluate_congr, fun data data' => evaluate_agree, d.tokens,
    fun others => ?_, fun code => ?_, ?_⟩
  · exact ⟨fun hothers => hothers.unique hsplits, fun hsame => hsame ▸ hsplits⟩
  · exact mem_fieldCodes_iff.trans d.mem_fields_iff
  · intro data result hresult
    rw [Expr.eval_warnings (eval_of_evaluate hresult), d.fields_toExpr]

/-- A bill with a fee on every piece and one on the whole. -/
def bill : Formula where
  source := "(price + fee) * qty + fee"
  expr := .binary .add (.binary .multiply (.binary .add (.field "price") (.field "fee"))
    (.field "qty")) (.field "fee")

/-- The fee is waived in words, and nobody has counted the pieces. -/
def waived : Fields :=
  .ofList [("fee", .text "none"), ("price", .text "4.5")]

/-- The fee is named twice and warned of twice, the pieces once between. A note makes no difference,
    nor does it matter which zero of pieces is counted. -/
theorem named_fields_seen_bill :
    parse "(price + fee) * qty + fee" = .ok bill ∧
    bill.evaluate waived = bill.evaluate (waived.insert "note" (.text "paid")) ∧
    Agree (· == ·) (bill.evaluate (waived.insert "qty" (.float 0.0)))
      (bill.evaluate (waived.insert "qty" (.float (-0.0)))) ∧
    ∃ result, bill.evaluate waived = .ok result ∧
      result.warnings = [.nonNumeric "fee", .missing "qty", .nonNumeric "fee"] := by
  have hparse : parse "(price + fee) * qty + fee" = .ok bill := by cbv
  obtain ⟨hequal, hsame, tokens, hsplits, -, hwarnings⟩ := named_fields_seen hparse
  have hscan : Token.scan 0 "(price + fee) * qty + fee".toList =
      .ok [(0, .opening), (1, .name "price"), (7, .op .add), (9, .name "fee"), (12, .closing),
        (14, .op .multiply), (16, .name "qty"), (20, .op .add), (22, .name "fee")] := by
    cbv
  obtain rfl := (hsplits _).1 (splits_of_scan hscan)
  have hvalue : bill.evaluate waived =
      .ok ⟨0.0, [.nonNumeric "fee", .missing "qty", .nonNumeric "fee"]⟩ := by
    with_unfolding_all rfl
  refine ⟨hparse, hequal _ _ fun code hcode => ?_, hsame _ _ fun code hcode => ?_, _, hvalue,
    (hwarnings _ _ hvalue).trans ?_⟩
  · have hnote : code ≠ "note" := by
      rintro rfl
      exact absurd hcode (by decide)
    rw [KeyMap.get?_insert, if_neg hnote]
  · have hcodes : bill.fieldCodes = ["fee", "price", "qty"] := by decide
    rw [hcodes] at hcode
    simp only [List.mem_cons, List.not_mem_nil, or_false] at hcode
    obtain rfl | rfl | rfl := hcode
    all_goals exact .some (by with_unfolding_all rfl)
  · with_unfolding_all rfl

end Formula

end RecordApps
