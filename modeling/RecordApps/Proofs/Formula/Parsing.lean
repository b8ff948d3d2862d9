import RecordApps.Proofs.Formula.Evaluation
import RecordApps.Proofs.Formula.Grammar
import RecordApps.Proofs.Formula.Splitting

/-! # Reading formulas

A formula text is read exactly when it is short enough and the tokens it splits into have a
derivation that does not nest too deeply. The expression is the one that the derivation stands for.
-/

namespace RecordApps

open Grammar

namespace Grammar

open RecordApps.Expr (isSumOp isProductOp)

/-- The step that reads a symbol with a given room for nesting. -/
def Symbol.step (stop room : Nat) : Symbol → ExprStep
  | .expr => Expr.sum (Expr.factor stop room)
  | .term => Expr.chained (Expr.factor stop room) isProductOp
  | .factor => Expr.factor stop room

theorem factor_name (stop room position : Nat) (code : String) (behind : Tokens) :
    Expr.factor stop room ((position, .name code) :: behind) =
      match behind with
      | (position, .opening) :: _ => .error (.malformed position (.functionCall code))
      | _ => .ok (.field code, behind) := by
  cases room <;> rfl

/-! ## Nothing else is read -/

/-- What a step reads are the tokens of a derivation, and it leaves all others. -/
def Sound (step : ExprStep) (s : Symbol) (room : Nat) : Prop :=
  ∀ (tokens rest : Tokens) (e : Expr), step tokens = .ok (e, rest) → ∃ d : Derivation s,
    tokens.map Prod.snd = d.tokens ++ rest.map Prod.snd ∧ d.toExpr = e ∧ d.nesting ≤ room

section Sound

variable {step : ExprStep} {s : Symbol} {room stop : Nat} {accepts : Arith → Bool}
  {tokens rest : Tokens} {left e : Expr}

theorem Sound.chain (hstep : Sound step s room) {fuel : Nat}
    (h : Expr.chain step accepts fuel left tokens = .ok (e, rest)) : ∃ more : Operands s accepts,
      tokens.map Prod.snd = more.tokens ++ rest.map Prod.snd ∧ more.onto left = e ∧
        more.nesting ≤ room := by
  induction fuel generalizing left tokens with
  | zero =>
      cases h
      exact ⟨.none, rfl, rfl, Nat.zero_le _⟩
  | succ fuel ih =>
      unfold Expr.chain at h
      split at h
      case h_1 position op behind =>
        split at h
        case isTrue haccepts =>
          obtain ⟨⟨right, after⟩, hright, hchain⟩ := Outcome.bind_eq_ok.1 h
          obtain ⟨operand, hoperand, rfl, hroom⟩ := hstep _ _ _ hright
          obtain ⟨others, hothers, rfl, hroom'⟩ := ih hchain
          refine ⟨.more op haccepts operand others, ?_, rfl, max_le hroom hroom'⟩
          simp [hoperand, hothers]
        case isFalse =>
          cases h
          exact ⟨.none, rfl, rfl, Nat.zero_le _⟩
      case h_2 =>
        cases h
        exact ⟨.none, rfl, rfl, Nat.zero_le _⟩

theorem Sound.chained (hstep : Sound step s room)
    (h : Expr.chained step accepts tokens = .ok (e, rest)) :
    ∃ (first : Derivation s) (more : Operands s accepts),
      tokens.map Prod.snd = first.tokens ++ more.tokens ++ rest.map Prod.snd ∧
        more.onto first.toExpr = e ∧ max first.nesting more.nesting ≤ room := by
  obtain ⟨⟨left, behind⟩, hleft, hchain⟩ := Outcome.bind_eq_ok.1 h
  obtain ⟨first, hfirst, rfl, hroom⟩ := hstep _ _ _ hleft
  obtain ⟨more, hmore, rfl, hroom'⟩ := hstep.chain hchain
  refine ⟨first, more, ?_, rfl, max_le hroom hroom'⟩
  rw [hfirst, hmore, List.append_assoc]

theorem Sound.term (hstep : Sound step .factor room) :
    Sound (Expr.chained step isProductOp) .term room := by
  intro tokens rest e h
  obtain ⟨first, more, htokens, hexpr, hroom⟩ := hstep.chained h
  exact ⟨.term first more, htokens, hexpr, hroom⟩

theorem Sound.expr (hstep : Sound step .factor room) : Sound (Expr.sum step) .expr room := by
  intro tokens rest e h
  obtain ⟨first, more, htokens, hexpr, hroom⟩ := hstep.term.chained h
  exact ⟨.expr first more, htokens, hexpr, hroom⟩

theorem sound_factor (stop room : Nat) : Sound (Expr.factor stop room) .factor room := by
  intro tokens rest e h
  match room, tokens with
  | _, [] =>
      simp only [Expr.factor] at h
      cases h
  | _, (position, .number x) :: behind =>
      simp only [Expr.factor] at h
      cases h
      exact ⟨.number x, rfl, rfl, Nat.zero_le _⟩
  | _, (position, .name code) :: behind =>
      rw [factor_name] at h
      split at h
      · cases h
      · cases h
        exact ⟨.name code, rfl, rfl, Nat.zero_le _⟩
  | room + 1, (position, .op .subtract) :: behind =>
      obtain ⟨⟨inner, after⟩, hinner, hpure⟩ := Outcome.bind_eq_ok.1 h
      cases hpure
      obtain ⟨d, hd, rfl, hroom⟩ := sound_factor stop room _ _ _ hinner
      exact ⟨.minus d, congrArg (_ :: ·) hd, rfl, Nat.succ_le_succ hroom⟩
  | room + 1, (position, .op .add) :: behind =>
      obtain ⟨d, hd, rfl, hroom⟩ := sound_factor stop room _ _ _ h
      exact ⟨.plus d, congrArg (_ :: ·) hd, rfl, Nat.succ_le_succ hroom⟩
  | room + 1, (position, .opening) :: behind =>
      obtain ⟨⟨inner, after⟩, hinner, hclosing⟩ := Outcome.bind_eq_ok.1 h
      obtain ⟨d, hd, rfl, hroom⟩ := Sound.expr (sound_factor stop room) _ _ _ hinner
      dsimp only at hclosing
      split at hclosing
      case h_1 =>
        cases hclosing
        refine ⟨.parens d, ?_, rfl, Nat.succ_le_succ hroom⟩
        simp [hd]
      all_goals cases hclosing
  | 0, (position, .op .subtract) :: behind | 0, (position, .op .add) :: behind
  | 0, (position, .opening) :: behind | _, (position, .op .multiply) :: behind
  | _, (position, .op .divide) :: behind | _, (position, .closing) :: behind =>
      simp only [Expr.factor] at h
      cases h

end Sound

/-! ## Every derivation is read -/

theorem chain_stops {step : ExprStep} {accepts : Arith → Bool} {fuel : Nat} {left : Expr}
    {rest : Tokens} (h : ∀ op, .op op ∈ (rest.map Prod.snd).head? → accepts op = false) :
    Expr.chain step accepts fuel left rest = .ok (left, rest) := by
  cases fuel with
  | zero => rfl
  | succ fuel =>
      unfold Expr.chain
      split
      case h_1 position op behind => rw [h op rfl, if_neg Bool.false_ne_true]
      case h_2 => rfl

theorem Chains.read {s operand : Symbol} {accepts : Arith → Bool} (h : Chains s operand accepts)
    {first : Derivation operand} {more : Operands operand accepts} {stop room : Nat}
    {front rest : Tokens} (hfront : front.map Prod.snd = first.tokens ++ more.tokens)
    (hends : s.Ends (rest.map Prod.snd))
    (hfirst : ∀ {front rest : Tokens}, front.map Prod.snd = first.tokens →
      operand.Ends (rest.map Prod.snd) →
      operand.step stop room (front ++ rest) = .ok (first.toExpr, rest))
    (hmore : ∀ {front : Tokens}, front.map Prod.snd = more.tokens →
      Expr.chain (operand.step stop room) accepts (front ++ rest).length first.toExpr
        (front ++ rest) = .ok (more.onto first.toExpr, rest)) :
    Expr.chained (operand.step stop room) accepts (front ++ rest) =
      .ok (more.onto first.toExpr, rest) := by
  obtain ⟨inside, behind, rfl, hinside, hbehind⟩ := List.map_eq_append_iff.1 hfront
  have hinner : operand.Ends ((behind ++ rest).map Prod.snd) := by
    rw [List.map_append, hbehind]
    exact h.ends_append more hends
  rw [Expr.chained, List.append_assoc, hfirst hinside hinner]
  exact hmore hbehind

mutual

/-- A derivation is read off the front, as long as there is room for its nesting. -/
theorem Derivation.read {s : Symbol} (d : Derivation s) {stop room : Nat} {front rest : Tokens}
    (hroom : d.nesting ≤ room) (hfront : front.map Prod.snd = d.tokens)
    (hends : s.Ends (rest.map Prod.snd)) :
    s.step stop room (front ++ rest) = .ok (d.toExpr, rest) := by
  match d with
  | .expr first more =>
      exact chains_expr.read hfront hends (first.read (le_of_max_le_left hroom)) fun hbehind =>
        more.read chains_expr (le_of_max_le_right hroom) hbehind hends (by simp)
  | .term first more =>
      exact chains_term.read hfront hends (first.read (le_of_max_le_left hroom)) fun hbehind =>
        more.read chains_term (le_of_max_le_right hroom) hbehind hends (by simp)
  | .number x =>
      obtain ⟨⟨position, _⟩, rfl, rfl⟩ := List.map_eq_singleton_iff.1 hfront
      simp [Symbol.step, Expr.factor]
  | .name code =>
      obtain ⟨⟨position, _⟩, rfl, rfl⟩ := List.map_eq_singleton_iff.1 hfront
      rw [Symbol.step, List.singleton_append, factor_name]
      split
      · -- An opening parenthesis does not end a factor.
        cases hends _ rfl
      · rfl
  | .minus inner =>
      obtain ⟨⟨position, _⟩, behind, rfl, rfl, hbehind⟩ := List.map_eq_cons_iff.1 hfront
      obtain ⟨room, rfl⟩ := Nat.exists_eq_add_of_le' ((Nat.succ_pos _).trans_le hroom)
      have hinner : Expr.factor stop room (behind ++ rest) = .ok (inner.toExpr, rest) :=
        inner.read (Nat.le_of_succ_le_succ hroom) hbehind hends
      simp only [Symbol.step, List.cons_append, Expr.factor, hinner]
      rfl
  | .plus inner =>
      obtain ⟨⟨position, _⟩, behind, rfl, rfl, hbehind⟩ := List.map_eq_cons_iff.1 hfront
      obtain ⟨room, rfl⟩ := Nat.exists_eq_add_of_le' ((Nat.succ_pos _).trans_le hroom)
      have hinner : Expr.factor stop room (behind ++ rest) = .ok (inner.toExpr, rest) :=
        inner.read (Nat.le_of_succ_le_succ hroom) hbehind hends
      exact hinner
  | .parens inner =>
      obtain ⟨⟨position, _⟩, behind, rfl, rfl, hbehind⟩ := List.map_eq_cons_iff.1 hfront
      obtain ⟨inside, last, rfl, hinside, hlast⟩ := List.map_eq_append_iff.1 hbehind
      obtain ⟨⟨position', _⟩, rfl, rfl⟩ := List.map_eq_singleton_iff.1 hlast
      obtain ⟨room, rfl⟩ := Nat.exists_eq_add_of_le' ((Nat.succ_pos _).trans_le hroom)
      have hinner : Expr.sum (Expr.factor stop room) (inside ++ (position', .closing) :: rest) =
          .ok (inner.toExpr, (position', .closing) :: rest) :=
        inner.read (Nat.le_of_succ_le_succ hroom) hinside (Symbol.ends_closing _ _)
      simp only [Symbol.step, List.cons_append, List.append_assoc, List.nil_append, Expr.factor,
        hinner]
      rfl

theorem Operands.read {s operand : Symbol} {accepts : Arith → Bool}
    (hchains : Chains s operand accepts) (more : Operands operand accepts) {stop room fuel : Nat}
    {front rest : Tokens} {left : Expr} (hroom : more.nesting ≤ room)
    (hfront : front.map Prod.snd = more.tokens) (hends : s.Ends (rest.map Prod.snd))
    (hfuel : front.length ≤ fuel) :
    Expr.chain (operand.step stop room) accepts fuel left (front ++ rest) =
      .ok (more.onto left, rest) := by
  match more with
  | .none =>
      obtain rfl := List.map_eq_nil_iff.1 hfront
      exact chain_stops fun op hop => hchains.stops op (hends _ hop)
  | .more op haccepts first others =>
      obtain ⟨⟨position, _⟩, behind, rfl, rfl, hbehind⟩ := List.map_eq_cons_iff.1 hfront
      obtain ⟨inside, after, rfl, hinside, hafter⟩ := List.map_eq_append_iff.1 hbehind
      obtain ⟨fuel, rfl⟩ := Nat.exists_eq_add_of_le' ((Nat.succ_pos _).trans_le hfuel)
      have hinner : operand.Ends ((after ++ rest).map Prod.snd) := by
        rw [List.map_append, hafter]
        exact hchains.ends_append others hends
      have hfirst : operand.step stop room (inside ++ (after ++ rest)) =
          .ok (first.toExpr, after ++ rest) :=
        first.read (le_of_max_le_left hroom) hinside hinner
      have hlength : after.length ≤ fuel := by
        simp only [List.length_cons, List.length_append] at hfuel
        omega
      simp only [List.cons_append, List.append_assoc, Expr.chain, haccepts, if_true, hfirst]
      exact others.read hchains (le_of_max_le_right hroom) hafter hends hlength

end

/-- A list of tokens is read exactly if it has a derivation that does not nest too deeply. -/
theorem ofTokens_eq_ok_iff {tokens : Tokens} {e : Expr} :
    Expr.ofTokens tokens = .ok e ↔ ∃ d : Derivation .expr, d.tokens = tokens.map Prod.snd ∧
      d.nesting ≤ maxFormulaNesting ∧ d.toExpr = e := by
  rw [Expr.ofTokens, Outcome.bind_eq_ok]
  constructor
  · rintro ⟨⟨expr, rest⟩, hexpr, hrest⟩
    obtain ⟨d, hd, rfl, hroom⟩ := Sound.expr (sound_factor _ _) _ _ _ hexpr
    cases rest with
    | nil =>
        cases hrest
        rw [List.map_nil, List.append_nil] at hd
        exact ⟨d, hd.symm, hroom, rfl⟩
    | cons token rest => cases hrest
  · rintro ⟨d, hd, hroom, rfl⟩
    have hread (stop : Nat) : Expr.sum (Expr.factor stop maxFormulaNesting) (tokens ++ []) =
        .ok (d.toExpr, []) := d.read hroom hd.symm (Symbol.ends_nil .expr)
    rw [List.append_nil] at hread
    exact ⟨_, hread _, rfl⟩

end Grammar

namespace Formula

/-- A text is read as a formula exactly if it is not too long and its tokens have a derivation. -/
theorem parse_eq_ok_iff {source : String} {f : Formula} :
    parse source = .ok f ↔ source.toList.length ≤ maxFormulaLength ∧
      ∃ tokens, Splits source.toList tokens ∧ ∃ d : Derivation .expr, d.tokens = tokens ∧
        d.nesting ≤ maxFormulaNesting ∧ f = ⟨source, d.toExpr⟩ := by
  rw [parse]
  split
  case isTrue hlong =>
    constructor
    · intro h
      cases h
    · rintro ⟨hshort, -⟩
      omega
  case isFalse hshort =>
    simp only [Outcome.bind_eq_ok, ofTokens_eq_ok_iff]
    constructor
    · rintro ⟨tokens, hscan, e, ⟨d, hd, hroom, rfl⟩, hpure⟩
      cases hpure
      exact ⟨by omega, _, splits_of_scan hscan, d, hd, hroom, rfl⟩
    · rintro ⟨-, tokens, hsplits, d, rfl, hroom, rfl⟩
      obtain ⟨found, hfound, htokens⟩ := hsplits.scan 0
      exact ⟨found, hfound, _, ⟨d, htokens.symm, hroom, rfl⟩, rfl⟩

example : (parse "a-b-c").toOption.map (·.expr) =
    some (.binary .subtract (.binary .subtract (.field "a") (.field "b")) (.field "c")) := by
  cbv

/-- The reader of formulas accepts exactly its grammar. A text is read if and only if it has at most
    1024 characters and splits into tokens that derive from `expr` with no token inside more than 32
    parentheses and signs. What is read is the expression of that derivation, of which there is only
    one, as there is only one way to split the text; and the fields it reads are the names among the
    tokens, in order and each once. -/
theorem parsed_as_derived (source : String) :
    (∀ f, parse source = .ok f ↔ source.length ≤ 1024 ∧
      ∃ tokens, Splits source.toList tokens ∧
        ∃ d : Derivation .expr, d.tokens = tokens ∧ d.nesting ≤ 32 ∧ f = ⟨source, d.toExpr⟩) ∧
    (∀ tokens tokens', Splits source.toList tokens → Splits source.toList tokens' →
      tokens = tokens') ∧
    (∀ d d' : Derivation .expr, d.tokens = d'.tokens → d = d') ∧
    ∀ f tokens, parse source = .ok f → Splits source.toList tokens →
      f.fieldCodes.Pairwise (· < ·) ∧ ∀ code, code ∈ f.fieldCodes ↔ Token.name code ∈ tokens := by
  refine ⟨fun f => ?_, fun _ _ => Splits.unique, fun _ _ h => Derivation.tokens_injective h, ?_⟩
  · rw [parse_eq_ok_iff, String.length_toList]
    rfl
  · intro f tokens hparse hsplits
    obtain ⟨-, tokens', hsplits', d, rfl, -, rfl⟩ := parse_eq_ok_iff.1 hparse
    obtain rfl := hsplits.unique hsplits'
    refine ⟨List.pairwise_map.2 (KeyMap.sorted _), fun code => ?_⟩
    rw [mem_fieldCodes_iff, d.mem_fields_iff]

end Formula

end RecordApps
