import RecordApps.Formula.Basic

/-! # The grammar of formulas

The rules of the grammar, with a derivation for every way to use them. A derivation yields a list of
tokens and stands for an expression: operators associate to the left, products bind tighter than
sums, and neither parentheses nor a plus sign leave anything behind. No list of tokens has two
derivations.
-/

namespace RecordApps.Grammar

open RecordApps.Expr (isSumOp isProductOp)

/-- What derivations are of. -/
inductive Symbol where
  /-- A whole expression. -/
  | expr
  /-- An operand of a sum. -/
  | term
  /-- An operand of a product. -/
  | factor
  deriving Repr, DecidableEq

mutual

/-- The derivations of a symbol. -/
inductive Derivation : Symbol → Type where
  /-- `expr = term (('+' | '-') term)*` -/
  | expr (first : Derivation .term) (more : Operands .term isSumOp) : Derivation .expr
  /-- `term = factor (('*' | '/') factor)*` -/
  | term (first : Derivation .factor) (more : Operands .factor isProductOp) : Derivation .term
  /-- `factor = number` -/
  | number (x : Float) : Derivation .factor
  /-- `factor = name` -/
  | name (code : String) : Derivation .factor
  /-- `factor = '-' factor` -/
  | minus (inner : Derivation .factor) : Derivation .factor
  /-- `factor = '+' factor` -/
  | plus (inner : Derivation .factor) : Derivation .factor
  /-- `factor = '(' expr ')'` -/
  | parens (inner : Derivation .expr) : Derivation .factor

/-- Any number of operands, each behind an operator of one kind. -/
inductive Operands : Symbol → (Arith → Bool) → Type where
  | none {s : Symbol} {accepts : Arith → Bool} : Operands s accepts
  | more {s : Symbol} {accepts : Arith → Bool} (op : Arith) (haccepts : accepts op = true)
      (operand : Derivation s) (others : Operands s accepts) : Operands s accepts

end

mutual

/-- The tokens that a derivation yields. -/
@[simp] def Derivation.tokens {s : Symbol} : Derivation s → List Token
  | .expr first more => first.tokens ++ more.tokens
  | .term first more => first.tokens ++ more.tokens
  | .number x => [.number x]
  | .name code => [.name code]
  | .minus inner => .op .subtract :: inner.tokens
  | .plus inner => .op .add :: inner.tokens
  | .parens inner => .opening :: (inner.tokens ++ [.closing])

/-- The tokens of operands and of the operators in front of them. -/
@[simp] def Operands.tokens {s : Symbol} {accepts : Arith → Bool} : Operands s accepts → List Token
  | .none => []
  | .more op _ operand others => .op op :: (operand.tokens ++ others.tokens)

end

mutual

/-- The expression that a derivation stands for. -/
@[simp] def Derivation.toExpr {s : Symbol} : Derivation s → Expr
  | .expr first more => more.onto first.toExpr
  | .term first more => more.onto first.toExpr
  | .number x => .number x
  | .name code => .field code
  | .minus inner => .negate inner.toExpr
  | .plus inner => inner.toExpr
  | .parens inner => inner.toExpr

/-- The operators are applied from left to right. -/
@[simp] def Operands.onto {s : Symbol} {accepts : Arith → Bool} (left : Expr) :
    Operands s accepts → Expr
  | .none => left
  | .more op _ operand others => others.onto (.binary op left operand.toExpr)

end

mutual

/-- The largest number of parentheses and signs around one token. -/
def Derivation.nesting {s : Symbol} : Derivation s → Nat
  | .expr first more => max first.nesting more.nesting
  | .term first more => max first.nesting more.nesting
  | .number _ => 0
  | .name _ => 0
  | .minus inner => inner.nesting + 1
  | .plus inner => inner.nesting + 1
  | .parens inner => inner.nesting + 1

/-- The largest nesting among operands. -/
def Operands.nesting {s : Symbol} {accepts : Arith → Bool} : Operands s accepts → Nat
  | .none => 0
  | .more _ _ operand others => max operand.nesting others.nesting

end

/-! ## Names -/

/-- The field that a token names. -/
def name? : Token → Option String
  | .name code => some code
  | _ => none

mutual

/-- An expression reads the fields that are named among the tokens, in their order. -/
theorem Derivation.fields_toExpr {s : Symbol} (d : Derivation s) :
    d.toExpr.fields = d.tokens.filterMap name? := by
  cases d with
  | expr first more | term first more =>
      simp [more.fields_onto, first.fields_toExpr]
  | number x => rfl
  | name code => rfl
  | minus inner => simp [Expr.fields, List.filterMap_cons, name?, inner.fields_toExpr]
  | plus inner => simp [List.filterMap_cons, name?, inner.fields_toExpr]
  | parens inner => simp [List.filterMap_cons, name?, inner.fields_toExpr]

theorem Operands.fields_onto {s : Symbol} {accepts : Arith → Bool} (more : Operands s accepts)
    (left : Expr) : (more.onto left).fields = left.fields ++ more.tokens.filterMap name? := by
  match more with
  | .none => simp
  | .more op haccepts operand others =>
      simp [others.fields_onto, Expr.fields, operand.fields_toExpr, List.filterMap_cons, name?]

end

theorem Derivation.mem_fields_iff {s : Symbol} (d : Derivation s) {code : String} :
    code ∈ d.toExpr.fields ↔ Token.name code ∈ d.tokens := by
  have hname (token : Token) : name? token = some code ↔ token = .name code := by
    cases token <;> simp [name?]
  simp only [d.fields_toExpr, List.mem_filterMap, hname, exists_eq_right]

/-! ## Where derivations end -/

/-- Whether a token cannot stand behind a derivation: an operator that would go on with it, or an
    opening parenthesis. -/
def Symbol.goesOn : Symbol → Token → Bool
  | _, .opening => true
  | .term, .op op => isProductOp op
  | .expr, .op op => isSumOp op || isProductOp op
  | _, _ => false

/-- What stands behind a derivation does not go on with it. -/
def Symbol.Ends (s : Symbol) (rest : List Token) : Prop :=
  ∀ token ∈ rest.head?, s.goesOn token = false

theorem Symbol.ends_nil (s : Symbol) : s.Ends [] := by
  simp [Ends]

theorem Symbol.ends_closing (s : Symbol) (rest : List Token) : s.Ends (.closing :: rest) := by
  cases s <;> simp [Ends, goesOn]

/-- The first symbol is a chain of operands, which are of the second one. -/
structure Chains (s operand : Symbol) (accepts : Arith → Bool) : Prop where
  /-- Every operator in the chain ends the operand in front. -/
  ends : ∀ op, accepts op = true → operand.goesOn (.op op) = false
  /-- What ends the chain ends its last operand. -/
  last : ∀ token, s.goesOn token = false → operand.goesOn token = false
  /-- What ends the chain is not one of its operators. -/
  stops : ∀ op, s.goesOn (.op op) = false → accepts op = false

theorem chains_expr : Chains .expr .term isSumOp where
  ends op h := by cases op <;> first | rfl | cases h
  last token h := by
    cases token with
    | op op => exact (Bool.or_eq_false_iff.1 h).2
    | opening => cases h
    | number | name | closing => rfl
  stops op h := (Bool.or_eq_false_iff.1 h).1

theorem chains_term : Chains .term .factor isProductOp where
  ends op h := rfl
  last token h := by
    cases token with
    | opening => cases h
    | op | number | name | closing => rfl
  stops op h := h

section Chains

variable {s operand : Symbol} {accepts : Arith → Bool} {rest : List Token}

theorem Chains.ends_of (h : Chains s operand accepts) (hrest : s.Ends rest) : operand.Ends rest :=
  fun token htoken => h.last token (hrest token htoken)

/-- Each operand is ended by the operators behind it, and the last one by what ends the chain. -/
theorem Chains.ends_append (h : Chains s operand accepts) (more : Operands operand accepts)
    (hrest : s.Ends rest) : operand.Ends (more.tokens ++ rest) := by
  cases more with
  | none => exact h.ends_of hrest
  | more op haccepts first others =>
      rintro token ⟨⟩
      exact h.ends op haccepts

theorem Chains.not_accepts (h : Chains s operand accepts) {op : Arith}
    (hrest : s.Ends (.op op :: rest)) : accepts op = false :=
  h.stops op (hrest _ rfl)

end Chains

/-! ## No ambiguity -/

/-- A chain is told apart from others by its first operand, and then by those behind it. -/
theorem Chains.append_inj {s operand : Symbol} {accepts : Arith → Bool}
    (h : Chains s operand accepts) {first first' : Derivation operand}
    {more more' : Operands operand accepts} {rest rest' : List Token} (hrest : s.Ends rest)
    (hrest' : s.Ends rest')
    (hfirst : ∀ {behind behind' : List Token}, operand.Ends behind → operand.Ends behind' →
      first.tokens ++ behind = first'.tokens ++ behind' → first = first' ∧ behind = behind')
    (hmore : more.tokens ++ rest = more'.tokens ++ rest' → more = more' ∧ rest = rest')
    (hsame : first.tokens ++ more.tokens ++ rest = first'.tokens ++ more'.tokens ++ rest') :
    first = first' ∧ more = more' ∧ rest = rest' := by
  rw [List.append_assoc, List.append_assoc] at hsame
  obtain ⟨rfl, hbehind⟩ := hfirst (h.ends_append more hrest) (h.ends_append more' hrest') hsame
  exact ⟨rfl, hmore hbehind⟩

mutual

theorem Derivation.eq_of_append {s : Symbol} (d d' : Derivation s) {rest rest' : List Token}
    (hrest : s.Ends rest) (hrest' : s.Ends rest')
    (h : d.tokens ++ rest = d'.tokens ++ rest') : d = d' ∧ rest = rest' := by
  cases d with
  | expr first more =>
      cases d' with
      | expr first' more' =>
          obtain ⟨rfl, rfl, hsame⟩ := chains_expr.append_inj hrest hrest'
            (first.eq_of_append first') (more.eq_of_append chains_expr more' hrest hrest') h
          exact ⟨rfl, hsame⟩
  | term first more =>
      cases d' with
      | term first' more' =>
          obtain ⟨rfl, rfl, hsame⟩ := chains_term.append_inj hrest hrest'
            (first.eq_of_append first') (more.eq_of_append chains_term more' hrest hrest') h
          exact ⟨rfl, hsame⟩
  | number x => cases d' <;> simp_all
  | name code => cases d' <;> simp_all
  | minus inner =>
      cases d' with
      | minus inner' =>
          obtain ⟨rfl, hsame⟩ := inner.eq_of_append inner' hrest hrest' (List.cons.inj h).2
          exact ⟨rfl, hsame⟩
      | number | name | plus | parens => simp at h
  | plus inner =>
      cases d' with
      | plus inner' =>
          obtain ⟨rfl, hsame⟩ := inner.eq_of_append inner' hrest hrest' (List.cons.inj h).2
          exact ⟨rfl, hsame⟩
      | number | name | minus | parens => simp at h
  | parens inner =>
      cases d' with
      | parens inner' =>
          simp only [Derivation.tokens, List.cons_append, List.append_assoc, List.nil_append] at h
          obtain ⟨rfl, hclosing⟩ := inner.eq_of_append inner' (Symbol.ends_closing .expr rest)
            (Symbol.ends_closing .expr rest') (List.cons.inj h).2
          exact ⟨rfl, (List.cons.inj hclosing).2⟩
      | number | name | minus | plus => simp at h

theorem Operands.eq_of_append {s operand : Symbol} {accepts : Arith → Bool}
    (hchains : Chains s operand accepts) (more more' : Operands operand accepts)
    {rest rest' : List Token} (hrest : s.Ends rest) (hrest' : s.Ends rest')
    (h : more.tokens ++ rest = more'.tokens ++ rest') : more = more' ∧ rest = rest' := by
  match more with
  | .none =>
      match more' with
      | .none => exact ⟨rfl, h⟩
      | .more op haccepts first others =>
          obtain rfl : rest = .op op :: (first.tokens ++ others.tokens ++ rest') := h
          rw [hchains.not_accepts hrest] at haccepts
          cases haccepts
  | .more op haccepts first others =>
      match more' with
      | .none =>
          obtain rfl : .op op :: (first.tokens ++ others.tokens ++ rest) = rest' := h
          rw [hchains.not_accepts hrest'] at haccepts
          cases haccepts
      | .more op' haccepts' first' others' =>
          simp only [Operands.tokens, List.cons_append, List.cons.injEq, Token.op.injEq] at h
          obtain ⟨rfl, h⟩ := h
          obtain ⟨rfl, rfl, hsame⟩ := hchains.append_inj hrest hrest'
            (first.eq_of_append first') (others.eq_of_append hchains others' hrest hrest') h
          exact ⟨rfl, hsame⟩

end

theorem Derivation.tokens_injective {s : Symbol} :
    Function.Injective (Derivation.tokens (s := s)) := by
  intro d d' h
  exact (d.eq_of_append d' s.ends_nil s.ends_nil (congrArg (· ++ []) h)).1

end RecordApps.Grammar
