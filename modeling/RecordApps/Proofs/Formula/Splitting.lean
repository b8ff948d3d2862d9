import RecordApps.Formula.Basic
import RecordApps.Proofs.Outcome
import RecordApps.Proofs.Text.Words
import RecordApps.Proofs.Value.Numbers

/-! # The tokens of a formula text

How a text is split into tokens: runs of digits and points that are numbers, runs that are names,
operators and parentheses, with white space anywhere between them. Every run is as long as it can
be, so a text is split in at most one way. Scanning finds it, and fails where there is none.
-/

namespace RecordApps

open Decimal Stored

namespace Grammar

/-- The run of digits, with at most one point before, among or behind them, that spells a number. -/
inductive Numeral : List Char → Float → Prop where
  /-- Digits without a point. -/
  | whole {ds : List Char} : Digits ds → ds ≠ [] →
      Numeral ds (Scientific.mk (ofDigits ds) 0).toFloat
  /-- Digits around a point, at least on one side of it. -/
  | pointed {ds fraction : List Char} : Digits ds → Digits fraction → ds ++ fraction ≠ [] →
      Numeral (ds ++ '.' :: fraction)
        (Scientific.mk (ofDigits (ds ++ fraction)) (-(fraction.length : Int))).toFloat

/-- A run cannot be made longer: what follows it does not begin with one of its characters. -/
def Longest (belongs : Char → Bool) (rest : List Char) : Prop :=
  ∀ c ∈ rest.head?, belongs c = false

/-- Ways to split a text into tokens. -/
inductive Splits : List Char → List Token → Prop where
  | nil : Splits [] []
  | space {c : Char} {rest : List Char} {tokens : List Token} : Text.isSpace c = true →
      Splits rest tokens → Splits (c :: rest) tokens
  | symbol {c : Char} {token : Token} {rest : List Char} {tokens : List Token} :
      Token.ofSymbol? c = some token → Splits rest tokens → Splits (c :: rest) (token :: tokens)
  | number {run rest : List Char} {x : Float} {tokens : List Token} : Numeral run x →
      Longest Token.isNumeral rest → Splits rest tokens →
      Splits (run ++ rest) (.number x :: tokens)
  | name {c : Char} {run rest : List Char} {tokens : List Token} : Text.isWordStart c = true →
      (∀ c ∈ run, Text.isWordChar c = true) → Longest Text.isWordChar rest →
      Splits rest tokens → Splits (c :: run ++ rest) (.name (String.ofList (c :: run)) :: tokens)

/-! ## Runs -/

theorem Longest.takeWhile {belongs : Char → Bool} {run rest : List Char}
    (h : Longest belongs rest) (hrun : ∀ c ∈ run, belongs c = true) :
    (run ++ rest).takeWhile belongs = run ∧ (run ++ rest).dropWhile belongs = rest := by
  rw [List.takeWhile_append_of_pos hrun, List.dropWhile_append_of_pos hrun]
  cases rest with
  | nil => simp
  | cons c rest => simp [h c rfl]

theorem longest_dropWhile (belongs : Char → Bool) (cs : List Char) :
    Longest belongs (cs.dropWhile belongs) := by
  intro c hc
  have h := List.head?_dropWhile_not belongs cs
  rw [Option.mem_def.1 hc] at h
  exact h

/-! ## Kinds of characters -/

theorem isNumeral_iff {c : Char} : Token.isNumeral c = true ↔ c.isDigit = true ∨ c = '.' := by
  simp [Token.isNumeral]

theorem symbol_alone {c : Char} {token : Token} (h : Token.ofSymbol? c = some token) :
    Text.isSpace c = false ∧ Token.isNumeral c = false ∧ Text.isWordStart c = false := by
  unfold Token.ofSymbol? at h
  split at h
  case h_7 => cases h
  all_goals decide

theorem ofSymbol?_numeral {c : Char} (h : Token.isNumeral c = true) : Token.ofSymbol? c = none := by
  by_contra hsymbol
  obtain ⟨token, htoken⟩ := Option.ne_none_iff_exists'.1 hsymbol
  rw [(symbol_alone htoken).2.1] at h
  cases h

theorem ofSymbol?_wordStart {c : Char} (h : Text.isWordStart c = true) :
    Token.ofSymbol? c = none := by
  by_contra hsymbol
  obtain ⟨token, htoken⟩ := Option.ne_none_iff_exists'.1 hsymbol
  rw [(symbol_alone htoken).2.2] at h
  cases h

theorem numeral_not_space {c : Char} (h : Token.isNumeral c = true) : Text.isSpace c = false := by
  rcases isNumeral_iff.1 h with hdigit | rfl
  · obtain ⟨hlow, hhigh⟩ := Text.toNat_of_isDigit hdigit
    exact Text.not_isSpace (by omega) (by omega)
  · decide

theorem wordStart_alone {c : Char} (h : Text.isWordStart c = true) :
    Text.isSpace c = false ∧ Token.isNumeral c = false := by
  obtain ⟨hlow, hhigh⟩ := Text.toNat_of_isWordStart h
  refine ⟨Text.not_isSpace (by omega) (by omega), Bool.eq_false_iff.2 fun hnumeral => ?_⟩
  rcases isNumeral_iff.1 hnumeral with hdigit | rfl
  · have := Text.toNat_of_isDigit hdigit
    omega
  · revert hlow
    decide

/-! ## Numbers -/

theorem Numeral.chars {run : List Char} {x : Float} (h : Numeral run x) :
    run ≠ [] ∧ ∀ c ∈ run, Token.isNumeral c = true := by
  cases h with
  | whole hdigits hne => exact ⟨hne, fun c hc => isNumeral_iff.2 (.inl (hdigits c hc))⟩
  | pointed hdigits hfraction hne =>
      refine ⟨by simp, fun c hc => isNumeral_iff.2 ?_⟩
      rcases List.mem_append.1 hc with hc | hc
      · exact .inl (hdigits c hc)
      · exact (List.mem_cons.1 hc).elim .inr fun hc => .inl (hfraction c hc)

theorem readLiteral?_whole {ds : List Char} (hd : Digits ds) :
    readLiteral? ds = if ds.isEmpty then none else some ⟨ds, [], 0⟩ := by
  have hspan : (ds ++ []).span Char.isDigit = (ds, []) := span_digits hd (by simp)
  rw [List.append_nil] at hspan
  simp only [readLiteral?, hspan, List.isEmpty_nil, Bool.and_true, readPower?, Option.map_some]

theorem readLiteral?_point {ds : List Char} (hd : Digits ds) (more : List Char) :
    readLiteral? (ds ++ '.' :: more) =
      if ds.isEmpty && (more.takeWhile Char.isDigit).isEmpty then none
      else (readPower? (more.dropWhile Char.isDigit)).map fun power =>
        ⟨ds, more.takeWhile Char.isDigit, power⟩ := by
  have hspan : (ds ++ '.' :: more).span Char.isDigit = (ds, '.' :: more) :=
    span_digits hd (by simp)
  simp only [readLiteral?, hspan, List.span_eq_takeWhile_dropWhile]

theorem Numeral.ofNumeral? {run : List Char} {x : Float} (h : Numeral run x) :
    Token.ofNumeral? run = some (.number x) := by
  cases h with
  | whole hdigits hne =>
      simp [Token.ofNumeral?, readLiteral?_whole hdigits, hne, Literal.toScientific]
  | @pointed ds fraction hdigits hfraction hne =>
      have htake : fraction.takeWhile Char.isDigit = fraction :=
        List.takeWhile_eq_self_iff.2 hfraction
      have hdrop : fraction.dropWhile Char.isDigit = [] := List.dropWhile_eq_nil_iff.2 hfraction
      have hsome : (ds.isEmpty && fraction.isEmpty) = false := by simpa using hne
      simp [Token.ofNumeral?, readLiteral?_point hdigits, htake, hdrop, hsome, readPower?,
        Literal.toScientific]

theorem digits_or_point {run : List Char} (hrun : ∀ c ∈ run, Token.isNumeral c = true) :
    Digits run ∨ ∃ ds more, Digits ds ∧ run = ds ++ '.' :: more := by
  have hdigits : Digits (run.takeWhile Char.isDigit) := fun c hc => List.mem_takeWhile_imp hc
  have hsplit := List.takeWhile_append_dropWhile (p := Char.isDigit) (l := run)
  cases hrest : run.dropWhile Char.isDigit with
  | nil =>
      rw [hrest, List.append_nil] at hsplit
      exact .inl (hsplit ▸ hdigits)
  | cons c more =>
      have hdigit := longest_dropWhile Char.isDigit run c (by rw [hrest]; rfl)
      have hc : c ∈ run := (List.dropWhile_sublist _).subset (hrest ▸ List.mem_cons_self)
      rcases isNumeral_iff.1 (hrun c hc) with h | rfl
      · rw [hdigit] at h
        cases h
      · exact .inr ⟨_, more, hdigits, (hrest ▸ hsplit).symm⟩

theorem numeral_of_ofNumeral? {run : List Char} {token : Token}
    (hrun : ∀ c ∈ run, Token.isNumeral c = true) (h : Token.ofNumeral? run = some token) :
    ∃ x, Numeral run x ∧ token = .number x := by
  obtain ⟨literal, hliteral, rfl⟩ := Option.map_eq_some_iff.1 h
  refine ⟨_, ?_, rfl⟩
  rcases digits_or_point hrun with hdigits | ⟨ds, more, hdigits, rfl⟩
  · rw [readLiteral?_whole hdigits] at hliteral
    split at hliteral
    · cases hliteral
    case isFalse hne =>
      obtain rfl := Option.some.inj hliteral
      simpa [Literal.toScientific] using Numeral.whole hdigits (by simpa using hne)
  · rw [readLiteral?_point hdigits] at hliteral
    have hmore : ∀ c ∈ more, Token.isNumeral c = true := fun c hc =>
      hrun c (List.mem_append_right _ (List.mem_cons_of_mem _ hc))
    rcases digits_or_point hmore with hfraction | ⟨fraction, after, hfraction, rfl⟩
    · rw [List.takeWhile_eq_self_iff.2 hfraction, List.dropWhile_eq_nil_iff.2 hfraction] at hliteral
      split at hliteral
      · cases hliteral
      case isFalse hne =>
        obtain rfl := Option.some.inj hliteral
        simpa [Literal.toScientific] using Numeral.pointed hdigits hfraction (by simpa using hne)
    · -- A second point is no power of ten.
      have hpoint : Longest Char.isDigit ('.' :: after) := by simp [Longest]
      rw [(hpoint.takeWhile hfraction).1, (hpoint.takeWhile hfraction).2] at hliteral
      split at hliteral <;> cases hliteral

/-! ## Scanning -/

theorem splits_of_scan {position : Nat} {cs : List Char} {tokens : Tokens}
    (h : Token.scan position cs = .ok tokens) : Splits cs (tokens.map Prod.snd) := by
  fun_induction Token.scan position cs generalizing tokens with
  | case1 position =>
      cases h
      exact .nil
  | case2 position c cs hspace ih => exact .space hspace (ih h)
  | case3 position c cs _ token htoken ih =>
      obtain ⟨rest, hrest, hpure⟩ := Outcome.bind_eq_ok.1 h
      cases hpure
      exact .symbol htoken (ih hrest)
  | case4 position c cs _ _ hnumeral run token htoken =>
      rename_i ih
      obtain ⟨rest, hrest, hpure⟩ := Outcome.bind_eq_ok.1 h
      cases hpure
      have hrun : ∀ c ∈ run, Token.isNumeral c = true :=
        List.forall_mem_cons.2 ⟨hnumeral, fun c hc => List.mem_takeWhile_imp hc⟩
      obtain ⟨x, hx, rfl⟩ := numeral_of_ofNumeral? hrun htoken
      have hsplits := Splits.number hx (longest_dropWhile _ cs) (ih hrest)
      rwa [List.cons_append, List.takeWhile_append_dropWhile] at hsplits
  | case5 => cases h
  | case6 position c cs _ _ _ hstart run =>
      rename_i ih
      obtain ⟨rest, hrest, hpure⟩ := Outcome.bind_eq_ok.1 h
      cases hpure
      have hrun : ∀ c ∈ cs.takeWhile Text.isWordChar, Text.isWordChar c = true :=
        fun c hc => List.mem_takeWhile_imp hc
      have hsplits := Splits.name hstart hrun (longest_dropWhile _ cs) (ih hrest)
      rwa [List.cons_append, List.takeWhile_append_dropWhile] at hsplits
  | case7 => cases h

theorem Splits.scan {cs : List Char} {tokens : List Token} (h : Splits cs tokens) (position : Nat) :
    ∃ found : Tokens, Token.scan position cs = .ok found ∧ found.map Prod.snd = tokens := by
  induction h generalizing position with
  | nil => exact ⟨[], by rw [Token.scan], rfl⟩
  | space hspace _ ih =>
      obtain ⟨found, hfound, htokens⟩ := ih (position + 1)
      exact ⟨found, by rw [Token.scan, if_pos hspace, hfound], htokens⟩
  | @symbol c token rest tokens htoken _ ih =>
      obtain ⟨found, hfound, rfl⟩ := ih (position + 1)
      refine ⟨(position, token) :: found, ?_, rfl⟩
      rw [Token.scan, if_neg (Bool.eq_false_iff.1 (symbol_alone htoken).1), htoken]
      simp only [hfound]
      rfl
  | @number run rest x tokens hx hlongest _ ih =>
      obtain ⟨hne, hrun⟩ := hx.chars
      obtain ⟨c, cs, rfl⟩ := List.exists_cons_of_ne_nil hne
      obtain ⟨hc, hcs⟩ := List.forall_mem_cons.1 hrun
      obtain ⟨htake, hdrop⟩ := hlongest.takeWhile hcs
      obtain ⟨found, hfound, rfl⟩ := ih (position + (c :: cs).length)
      refine ⟨(position, .number x) :: found, ?_, rfl⟩
      rw [List.cons_append, Token.scan, if_neg (Bool.eq_false_iff.1 (numeral_not_space hc)),
        ofSymbol?_numeral hc]
      simp only [hc, if_true, htake, hdrop, hx.ofNumeral?, hfound]
      rfl
  | @name c run rest tokens hstart hrun hlongest _ ih =>
      obtain ⟨hspace, hnumeral⟩ := wordStart_alone hstart
      obtain ⟨htake, hdrop⟩ := hlongest.takeWhile hrun
      obtain ⟨found, hfound, rfl⟩ := ih (position + (c :: run).length)
      refine ⟨(position, .name (String.ofList (c :: run))) :: found, ?_, rfl⟩
      rw [List.cons_append, Token.scan, if_neg (Bool.eq_false_iff.1 hspace),
        ofSymbol?_wordStart hstart]
      simp only [hnumeral, Bool.false_eq_true, if_false, hstart, if_true, htake, hdrop, hfound]
      rfl

theorem Splits.unique {cs : List Char} {tokens tokens' : List Token} (h : Splits cs tokens)
    (h' : Splits cs tokens') : tokens = tokens' := by
  obtain ⟨found, hfound, rfl⟩ := h.scan 0
  obtain ⟨found', hfound', rfl⟩ := h'.scan 0
  rw [hfound] at hfound'
  rw [Except.ok.inj hfound']

end Grammar

end RecordApps
