import RecordApps.Decimal.Layout
import RecordApps.Proofs.Decimal.Shortest
import RecordApps.Value.Parser

/-! # Numbers in stored text

A number in stored text has a sign, digits, possibly digits behind a point and possibly a power of
ten. Text of that shape is read back with the same parts, and the numbers that are written, whole or
not, are the numbers that are read.
-/

namespace RecordApps.Stored

open Decimal

/-! ## Runs of digits -/

/-- A text of digits. -/
def Digits (ds : List Char) : Prop :=
  ∀ c ∈ ds, c.isDigit = true

theorem digits_toDigits (n : ℕ) : Digits (Nat.toDigits 10 n) := fun _ =>
  Nat.isDigit_of_mem_toDigits (by decide) (by decide)

theorem digits_zeros (n : ℕ) : Digits (List.replicate n '0') := fun c hc => by
  rw [List.eq_of_mem_replicate hc]
  rfl

theorem Digits.append {as bs : List Char} (ha : Digits as) (hb : Digits bs) : Digits (as ++ bs) :=
  fun c hc => (List.mem_append.1 hc).elim (ha c) (hb c)

theorem span_digits {ds rest : List Char} (hd : Digits ds)
    (hrest : ∀ c ∈ rest.head?, c.isDigit = false) :
    (ds ++ rest).span Char.isDigit = (ds, rest) := by
  rw [List.span_eq_takeWhile_dropWhile, List.takeWhile_append_of_pos hd,
    List.dropWhile_append_of_pos hd]
  cases rest with
  | nil => simp
  | cons c rest => simp [hrest c rfl]

theorem ofDigits_append (as bs : List Char) :
    ofDigits (as ++ bs) = ofDigits as * 10 ^ bs.length + ofDigits bs := by
  show Nat.ofDigitChars 10 (as ++ bs) 0 =
    Nat.ofDigitChars 10 as 0 * 10 ^ bs.length + Nat.ofDigitChars 10 bs 0
  rw [Nat.ofDigitChars_append, Nat.ofDigitChars_eq_ofDigitChars_zero, mul_comm]

theorem ofDigits_toDigits (n : ℕ) : ofDigits (Nat.toDigits 10 n) = n :=
  Nat.ofDigitChars_ten_toDigits

theorem ofDigits_zeros (n : ℕ) : ofDigits (List.replicate n '0') = 0 := by
  show Nat.ofDigitChars 10 _ 0 = 0
  rw [Nat.ofDigitChars_replicate_zero, mul_zero]

theorem digitChar_ne_zero : ∀ n < 10, n ≠ 0 → n.digitChar ≠ '0' := by
  decide

/-- The digits of a number do not begin with a zero, unless the number is zero. -/
theorem head_toDigits {n : ℕ} (hn : n ≠ 0) : (Nat.toDigits 10 n).head? ≠ some '0' := by
  induction n using Nat.strong_induction_on with
  | h n ih =>
      rw [Nat.toDigits_eq_if (by decide)]
      split
      case isTrue h => simpa using digitChar_ne_zero n h hn
      case isFalse h =>
        rw [List.head?_append_of_ne_nil _ Nat.toDigits_ne_nil]
        exact ih _ (by omega) (by omega)

/-! ## The shape of a number -/

/-- Digits that stand in front of the point: at least one, and no zero before others. -/
def Leading (ds : List Char) : Prop :=
  Digits ds ∧ ds ≠ [] ∧ (ds = ['0'] ∨ ds.head? ≠ some '0')

theorem leading_toDigits (n : ℕ) : Leading (Nat.toDigits 10 n) := by
  refine ⟨digits_toDigits n, Nat.toDigits_ne_nil, ?_⟩
  rcases Nat.eq_zero_or_pos n with rfl | h
  · exact .inl (Nat.toDigits_zero 10)
  · exact .inr (head_toDigits h.ne')

/-- The parts of the text of a number. The power of ten has a sign of its own. -/
structure NumberText where
  negative : Bool
  whole : List Char
  fraction : List Char
  power : Option (Bool × List Char)

namespace NumberText

/-- The fraction and what stands before it. -/
def fractionChars (t : NumberText) : List Char :=
  if t.fraction = [] then [] else '.' :: t.fraction

/-- The power of ten and what stands before it. -/
def powerChars (t : NumberText) : List Char :=
  match t.power with
  | none => []
  | some (negative, ds) => 'e' :: (if negative then '-' else '+') :: ds

/-- The text. -/
def chars (t : NumberText) : List Char :=
  (if t.negative then ['-'] else []) ++ (t.whole ++ (t.fractionChars ++ t.powerChars))

/-- The power of ten that is written. -/
def exponent (t : NumberText) : Option Int :=
  t.power.map fun (negative, ds) => if negative then -(ofDigits ds : Int) else ofDigits ds

/-- What makes a text readable. -/
structure WellFormed (t : NumberText) : Prop where
  whole : Leading t.whole
  fraction : Digits t.fraction
  power : ∀ p ∈ t.power, Digits p.2 ∧ p.2 ≠ []

end NumberText

/-- A text that can follow a number: it does not go on with a digit, a point or a power. -/
def Delimited (rest : List Char) : Prop :=
  ∀ c ∈ rest.head?, c.isDigit = false ∧ c ≠ '.' ∧ c ≠ 'e' ∧ c ≠ 'E'

theorem delimited_nil : Delimited [] := by
  rintro c ⟨⟩

theorem whole?_append {ds rest : List Char} (hd : Leading ds)
    (hrest : ∀ c ∈ rest.head?, c.isDigit = false) : whole? (ds ++ rest) = some (ds, rest) := by
  obtain ⟨hdigits, hne, hzero⟩ := hd
  rw [whole?, span_digits hdigits hrest]
  match ds, hne, hzero with
  | [c], _, _ => by_cases hc : c = '0' <;> simp [hc]
  | c :: d :: ds, _, hzero =>
      have hc : c ≠ '0' := by simpa using hzero
      simp [hc]

theorem fraction?_append {t : NumberText} (h : t.WellFormed) {rest : List Char}
    (hrest : ∀ c ∈ rest.head?, c.isDigit = false ∧ c ≠ '.') :
    fraction? (t.fractionChars ++ rest) = some (t.fraction, rest) := by
  rw [NumberText.fractionChars]
  split
  case isTrue hnone =>
    rw [hnone, List.nil_append]
    cases rest with
    | nil => rfl
    | cons c rest =>
        have hc := (hrest c rfl).2
        simp [fraction?, hc]
  case isFalse hsome =>
    rw [List.cons_append, fraction?, span_digits h.fraction fun c hc => (hrest c hc).1]
    cases hf : t.fraction with
    | nil => exact absurd hf hsome
    | cons c ds => rfl

theorem power?_append {t : NumberText} (h : t.WellFormed) {rest : List Char}
    (hrest : Delimited rest) : power? (t.powerChars ++ rest) = some (t.exponent, rest) := by
  rw [NumberText.powerChars, NumberText.exponent]
  cases hpower : t.power with
  | none =>
      cases rest with
      | nil => rfl
      | cons c rest =>
          obtain ⟨-, -, he, hE⟩ := hrest c rfl
          simp [power?, he, hE]
  | some p =>
      obtain ⟨negative, ds⟩ := p
      obtain ⟨hdigits, hne⟩ := h.power _ hpower
      have hspan := span_digits hdigits fun c hc => (hrest c hc).1
      have hsign : readSign ((if negative then '-' else '+') :: (ds ++ rest)) =
          (negative, ds ++ rest) := by
        cases negative <;> rfl
      simp only [List.cons_append, power?, true_or, if_true, hsign, hspan]
      cases ds with
      | nil => exact absurd rfl hne
      | cons c ds => rfl

theorem numberShape?_chars {t : NumberText} (h : t.WellFormed) {rest : List Char}
    (hrest : Delimited rest) :
    numberShape? (t.chars ++ rest) =
      some ((t.negative, t.whole, t.fraction, t.exponent), rest) := by
  have hpoint : ∀ c ∈ (t.powerChars ++ rest).head?, c.isDigit = false ∧ c ≠ '.' := by
    rw [NumberText.powerChars]
    cases t.power with
    | none => exact fun c hc => ⟨(hrest c hc).1, (hrest c hc).2.1⟩
    | some p => rintro c ⟨⟩; decide
  have hdigit : ∀ c ∈ (t.fractionChars ++ (t.powerChars ++ rest)).head?, c.isDigit = false := by
    rw [NumberText.fractionChars]
    split
    case isTrue => exact fun c hc => (hpoint c hc).1
    case isFalse => rintro c ⟨⟩; rfl
  have hparts (cs : List Char) (hcs : cs = t.whole ++ (t.fractionChars ++ (t.powerChars ++ rest)))
      (negative : Bool) :
      ((whole? cs).bind fun whole => (fraction? whole.2).bind fun fraction =>
        (power? fraction.2).bind fun power =>
          some ((negative, whole.1, fraction.1, power.1), power.2)) =
        some ((negative, t.whole, t.fraction, t.exponent), rest) := by
    simp only [hcs, whole?_append h.whole hdigit, fraction?_append h hpoint, power?_append h hrest,
      Option.bind_some]
  simp only [NumberText.chars, List.append_assoc]
  cases t.negative with
  | true => exact hparts _ rfl true
  | false =>
      refine (numberShape?.eq_2 _ ?_).trans (hparts _ rfl false)
      obtain ⟨hdigits, hne, -⟩ := h.whole
      obtain ⟨c, ds, hwhole⟩ := List.exists_cons_of_ne_nil hne
      intro cs hsign
      rw [hwhole] at hdigits hsign
      obtain rfl : c = '-' := List.head_eq_of_cons_eq hsign
      exact absurd (hdigits '-' List.mem_cons_self) (by decide)

theorem number?_chars {t : NumberText} (h : t.WellFormed) {rest : List Char}
    (hrest : Delimited rest) : number? (t.chars ++ rest) =
      (numberValue? t.negative t.whole t.fraction t.exponent).map (·, rest) := by
  rw [number?, numberShape?_chars h hrest]
  simp only [Option.bind_eq_bind, Option.bind_some]
  cases numberValue? t.negative t.whole t.fraction t.exponent <;> rfl

/-- Whether a text is that of a number. -/
def NumberOf (cs : List Char) (v : Value) : Prop :=
  ∃ t : NumberText, cs = t.chars ∧ t.WellFormed ∧
    numberValue? t.negative t.whole t.fraction t.exponent = some v

theorem NumberOf.read {cs : List Char} {v : Value} (h : NumberOf cs v) {rest : List Char}
    (hrest : Delimited rest) : number? (cs ++ rest) = some (v, rest) := by
  obtain ⟨t, rfl, hwell, hvalue⟩ := h
  rw [number?_chars hwell hrest, hvalue]
  rfl

theorem NumberOf.head {cs : List Char} {v : Value} (h : NumberOf cs v) :
    ∃ c rest, cs = c :: rest ∧ (c = '-' ∨ c.isDigit = true) := by
  obtain ⟨t, rfl, hwell, -⟩ := h
  obtain ⟨hdigits, hne, -⟩ := hwell.whole
  obtain ⟨c, ds, hwhole⟩ := List.exists_cons_of_ne_nil hne
  have hc := hdigits c (hwhole ▸ List.mem_cons_self)
  rw [NumberText.chars, hwhole]
  cases t.negative with
  | true => exact ⟨'-', _, rfl, .inl rfl⟩
  | false => exact ⟨c, _, rfl, .inr hc⟩

/-! ## Floats -/

/-- The digits and the power of ten of a text. -/
def NumberText.literal (t : NumberText) : Literal :=
  ⟨t.whole, t.fraction, t.exponent.getD 0⟩

/-- Whether a text spells a decimal number, and not as a whole one. Few digits stand in front of the
    point, and all of them are those of the number, with zeros behind them up to the first place
    behind the point if there is no other. -/
structure NumberText.Spells (t : NumberText) (d : Scientific) : Prop where
  wellFormed : t.WellFormed
  notWhole : ¬(t.fraction = [] ∧ t.power = none)
  short : t.whole.length ≤ 16
  digits : ∃ places : ℕ, t.literal.toScientific = ⟨d.coefficient * 10 ^ places, d.scale - places⟩ ∧
    (places = 0 ∨ d.scale + 1 = places)

/-- Whether a text is the unsigned text of a decimal number, and not that of a whole one. -/
def Spells (cs : List Char) (d : Scientific) : Prop :=
  ∃ t : NumberText, cs = t.chars ∧ t.negative = false ∧ t.Spells d

theorem toList_toString (n : ℕ) : (toString n).toList = Nat.toDigits 10 n :=
  Nat.toList_repr

theorem length_toString (n : ℕ) : (toString n).length = (Nat.toDigits 10 n).length := by
  rw [← String.length_toList, toList_toString]

theorem toList_zeros (n : ℕ) : (zeros n).toList = List.replicate n '0' :=
  String.toList_ofList

theorem spells_zero : Spells "0.0".toList ⟨0, 0⟩ :=
  ⟨⟨false, ['0'], ['0'], none⟩, rfl, rfl, ⟨⟨digits_zeros 1, by simp, .inl rfl⟩, digits_zeros 1,
    by simp⟩, by simp, by decide, 1, rfl, .inr rfl⟩

theorem spells_whole {c e : ℕ} (hc : c ≠ 0) (hshort : (Nat.toDigits 10 c).length + e ≤ 16) :
    Spells (Scientific.plain ⟨c, .ofNat e⟩ ++ ".0").toList ⟨c, e⟩ := by
  have hplain : (Scientific.plain ⟨c, .ofNat e⟩ ++ ".0").toList =
      Nat.toDigits 10 c ++ List.replicate e '0' ++ ".0".toList := by
    simp only [Scientific.plain, if_neg hc, String.toList_append, toList_toString, toList_zeros]
  have hleading : Leading (Nat.toDigits 10 c ++ List.replicate e '0') := by
    refine ⟨(digits_toDigits c).append (digits_zeros e), by simp, .inr ?_⟩
    rw [List.head?_append_of_ne_nil _ Nat.toDigits_ne_nil]
    exact head_toDigits hc
  refine ⟨⟨false, Nat.toDigits 10 c ++ List.replicate e '0', ['0'], none⟩, ?_, rfl,
    ⟨hleading, digits_zeros 1, by simp⟩, by simp, ?_, e + 1, ?_, .inr rfl⟩
  · rw [hplain]
    simp [NumberText.chars, NumberText.fractionChars, NumberText.powerChars]
  · rwa [List.length_append, List.length_replicate]
  · have hzero : ofDigits ['0'] = 0 := rfl
    simp only [Literal.toScientific, NumberText.literal, NumberText.exponent,
      ofDigits_append, ofDigits_toDigits, ofDigits_zeros, List.length_replicate, hzero,
      List.length_singleton, Option.map_none, Option.getD_none, add_zero, pow_succ, mul_assoc]
    push_cast
    congr 1
    omega

/-- The digits of a number, with zeros in front until there are more than `places`. -/
def padded (c places : ℕ) : List Char :=
  List.replicate (places + 1 - (Nat.toDigits 10 c).length) '0' ++ Nat.toDigits 10 c

section Padded

variable {c places : ℕ}

theorem digits_padded : Digits (padded c places) :=
  (digits_zeros _).append (digits_toDigits c)

theorem ofDigits_padded : ofDigits (padded c places) = c := by
  rw [padded, ofDigits_append, ofDigits_zeros, zero_mul, zero_add, ofDigits_toDigits]

theorem length_padded : (padded c places).length = max (places + 1) (Nat.toDigits 10 c).length := by
  rw [padded, List.length_append, List.length_replicate]
  omega

/-- What stands in front of the point when the last digits are put behind it. -/
theorem leading_padded (hc : c ≠ 0) :
    Leading ((padded c places).take ((padded c places).length - places)) := by
  have hlength : (padded c places).length = max (places + 1) (Nat.toDigits 10 c).length :=
    length_padded
  have hsome : 0 < (padded c places).length - places := by omega
  refine ⟨fun d hd => digits_padded d (List.mem_of_mem_take hd), ?_, ?_⟩
  · rw [← List.length_pos_iff, List.length_take]
    omega
  · rcases Nat.lt_or_ge places (Nat.toDigits 10 c).length with hlong | hshort
    · -- Enough digits: nothing is put in front of them.
      rw [List.head?_take, if_neg hsome.ne', padded, Nat.sub_eq_zero_of_le hlong]
      exact .inr (head_toDigits hc)
    · -- Too few digits: zeros up to one in front of the point.
      have hone : (padded c places).length - places = 1 := by omega
      have hzero : places + 1 - (Nat.toDigits 10 c).length =
        places - (Nat.toDigits 10 c).length + 1 := by omega
      rw [hone, padded, hzero]
      exact .inl rfl

end Padded

theorem spells_fraction {c e : ℕ} (hc : c ≠ 0)
    (hshort : (Nat.toDigits 10 c).length ≤ 16 + (e + 1)) :
    Spells (Scientific.plain ⟨c, .negSucc e⟩).toList ⟨c, .negSucc e⟩ := by
  generalize hall : padded c (e + 1) = all
  have hdigits : Digits all := hall ▸ digits_padded
  have hleading : Leading (all.take (all.length - (e + 1))) := hall ▸ leading_padded hc
  have hvalue : ofDigits all = c := hall ▸ ofDigits_padded
  have hlength : e + 1 < all.length ∧ all.length ≤ 16 + (e + 1) := by
    rw [← hall, length_padded]
    omega
  have hplain : (Scientific.plain ⟨c, .negSucc e⟩).toList =
      all.take (all.length - (e + 1)) ++ '.' :: all.drop (all.length - (e + 1)) := by
    simp only [Scientific.plain, pointBefore, String.toList_append, toList_toString, toList_zeros,
      length_toString, String.toList_ofList, ← hall, padded]
    rfl
  have hfraction : (all.drop (all.length - (e + 1))).length = e + 1 := by
    rw [List.length_drop]
    omega
  have hsome : all.drop (all.length - (e + 1)) ≠ [] := by
    rw [← List.length_pos_iff, hfraction]
    omega
  refine ⟨⟨false, all.take (all.length - (e + 1)), all.drop (all.length - (e + 1)), none⟩, ?_, rfl,
    ⟨hleading, fun d hd => hdigits d (List.mem_of_mem_drop hd), by simp⟩, fun h => hsome h.1, ?_, 0,
    ?_, .inl rfl⟩
  · rw [hplain]
    simp [NumberText.chars, NumberText.fractionChars, NumberText.powerChars, hsome]
  · rw [List.length_take]
    omega
  · simp only [Literal.toScientific, NumberText.literal, NumberText.exponent, List.take_append_drop,
      hvalue, hfraction, pow_zero, mul_one]
    rfl

theorem spells_exponential {d : Scientific} (hc : d.coefficient ≠ 0) :
    Spells (Scientific.exponential d).toList d := by
  obtain ⟨digit, more, hdigits⟩ := List.exists_cons_of_ne_nil
    (Nat.toDigits_ne_nil (b := 10) (n := d.coefficient))
  have hall := digits_toDigits d.coefficient
  have hhead := head_toDigits hc
  have hvalue := ofDigits_toDigits d.coefficient
  rw [hdigits] at hall hhead hvalue
  generalize hpower : d.scale + (more.length : ℤ) = power
  have htext : (Scientific.exponential d).toList =
    digit :: ((if more = [] then [] else '.' :: more) ++
      'e' :: (if power < 0 then '-' else '+') :: Nat.toDigits 10 power.natAbs) := by
    simp only [Scientific.exponential, String.toList_append, toList_toString, hdigits,
      String.toList_ofList, List.length_cons, Nat.add_sub_cancel, hpower]
    by_cases hsign : power < 0 <;> cases more <;> simp [hsign]
  refine ⟨⟨false, [digit], more, some (power < 0, Nat.toDigits 10 power.natAbs)⟩, ?_, rfl,
    ⟨⟨?_, by simp, .inr (by simpa using hhead)⟩, ?_, ?_⟩, by simp, by simp, 0, ?_, .inl rfl⟩
  · rw [htext]
    simp [NumberText.chars, NumberText.fractionChars, NumberText.powerChars]
  · exact fun d hd => hall d (List.mem_cons.2 (.inl (List.mem_singleton.1 hd)))
  · exact fun d hd => hall d (List.mem_cons_of_mem _ hd)
  · rintro p ⟨⟩
    exact ⟨digits_toDigits _, Nat.toDigits_ne_nil⟩
  · have hexponent : (if decide (power < 0) = true then -((power.natAbs : ℕ) : ℤ)
        else (power.natAbs : ℕ)) = power := by
      simp only [decide_eq_true_eq]
      split <;> omega
    simp only [Literal.toScientific, NumberText.literal, NumberText.exponent,
      List.singleton_append, hvalue, Option.map_some, Option.getD_some, ofDigits_toDigits, hexponent]
    rw [← hpower, add_sub_cancel_right, pow_zero, mul_one, Nat.cast_zero, sub_zero]

theorem exists_storedText {x : Float} (hx : x.isFinite = true) :
    ∃ t : NumberText, (storedText x).toList = t.chars ∧ t.negative = isNegative x ∧
      t.Spells (shortest x) := by
  obtain ⟨cs, ⟨t, rfl, hplain, hspells⟩, htext⟩ : ∃ cs, Spells cs (shortest x) ∧
      (storedText x).toList = (if isNegative x then ['-'] else []) ++ cs := by
    have hsign : (signText x).toList = if isNegative x then ['-'] else [] := by
      rw [signText]
      split <;> rfl
    have hzero := shortest_eq_zero hx
    simp only [storedText, String.toList_append, hsign]
    refine ⟨_, ?_, rfl⟩
    generalize shortest x = d at hzero
    obtain ⟨c, e⟩ := d
    simp only [length_toString]
    split_ifs with hc hpower hscale
    · exact hzero hc ▸ spells_zero
    · obtain ⟨e, rfl⟩ := Int.eq_ofNat_of_zero_le hscale
      exact spells_whole hc (by omega)
    · obtain ⟨e, rfl⟩ := Int.eq_negSucc_of_lt_zero (not_le.1 hscale)
      exact spells_fraction hc (by omega)
    · exact spells_exponential hc
  obtain ⟨⟨hwhole, hfraction, hpower⟩, hnot, hshort, hdigits⟩ := hspells
  refine ⟨{ t with negative := isNegative x }, ?_, rfl, ⟨hwhole, hfraction, hpower⟩, hnot, hshort,
    hdigits⟩
  rw [htext]
  simp only [NumberText.chars, hplain]
  rfl

/-! ## Whole numbers -/

/-- The whole numbers that are stored as such: those of 64 bits, with or without a sign. -/
def Machine (n : ℤ) : Prop :=
  -2 ^ 63 ≤ n ∧ n < 2 ^ 64

theorem numberOf_toDigits (negative : Bool) {n : ℕ} (hn : n < 2 ^ 64) :
    NumberOf ((if negative then ['-'] else []) ++ Nat.toDigits 10 n) (wholeValue negative n) := by
  refine ⟨⟨negative, Nat.toDigits 10 n, [], none⟩, ?_, ⟨leading_toDigits n, ?_, ?_⟩, ?_⟩
  · simp [NumberText.chars, NumberText.fractionChars, NumberText.powerChars]
  · exact fun _ hc => absurd hc List.not_mem_nil
  · exact fun _ hp => by cases hp
  · have hvalue := ofDigits_toDigits n
    rw [numberValue?, if_pos ⟨rfl, rfl, hvalue.trans_lt hn⟩, hvalue]

theorem numberOf_toString {n : ℤ} (hn : Machine n) : NumberOf (toString n).toList (.int n) := by
  obtain ⟨hlow, hhigh⟩ := hn
  rw [Int.toString_eq_repr]
  cases n with
  | ofNat k =>
      have htext : (Int.repr (.ofNat k)).toList =
          (if false then ['-'] else []) ++ Nat.toDigits 10 k :=
        Nat.toList_repr
      rw [htext]
      exact numberOf_toDigits false (Int.ofNat_lt.1 hhigh)
  | negSucc k =>
      have hk : 0 < k + 1 ∧ k + 1 ≤ Nat.pow 2 63 := by
        rw [Nat.pow_eq]
        omega
      have htext : (Int.repr (.negSucc k)).toList =
          (if true then ['-'] else []) ++ Nat.toDigits 10 (k + 1) := by
        simp [Int.repr]
      have hvalue : wholeValue true (k + 1) = .int (.negSucc k) := by
        rw [wholeValue, if_pos rfl, if_pos hk]
        rfl
      rw [htext, ← hvalue]
      exact numberOf_toDigits true (hk.2.trans_lt (by decide))

/-! ## Kinds of numbers -/

theorem wholeValue_cases (negative : Bool) (n : ℕ) :
    (wholeValue negative n = .int n ∧ negative = false) ∨
      (wholeValue negative n = .int (-n) ∨ ∃ x, wholeValue negative n = .float x) ∧
        negative = true := by
  cases negative with
  | false => exact .inl ⟨rfl, rfl⟩
  | true =>
      rw [wholeValue, if_pos rfl]
      split
      · exact .inr ⟨.inl rfl, rfl⟩
      · exact .inr ⟨.inr ⟨_, rfl⟩, rfl⟩

/-- A number is spelled by digits alone: there is no sign, no point and no power of ten. -/
def NumberText.DigitsAlone (t : NumberText) : Prop :=
  t.negative = false ∧ t.fraction = [] ∧ t.power = none

/-- Digits alone are a whole number, if they fit into a machine. Of the other spellings, those with
    a sign may be whole numbers too. -/
theorem numberValue?_cases {t : NumberText} {v : Value}
    (h : numberValue? t.negative t.whole t.fraction t.exponent = some v) :
    (v = .int (ofDigits t.whole) ∧ t.DigitsAlone ∧ ofDigits t.whole < 2 ^ 64) ∨
      (v = .int (-ofDigits t.whole) ∧ ¬t.DigitsAlone) ∨
      ∃ x, v = .float x ∧ (t.DigitsAlone → 2 ^ 64 ≤ ofDigits t.whole) := by
  have hnone : t.exponent.isNone = true ↔ t.power = none := by
    rw [NumberText.exponent, Option.isNone_map, Option.isNone_iff_eq_none]
  rw [numberValue?] at h
  split at h
  case isTrue hwhole =>
    rw [List.isEmpty_iff, hnone] at hwhole
    obtain ⟨hfraction, hpower, hfits⟩ := hwhole
    rw [← Option.some.inj h]
    obtain ⟨hvalue, hsign⟩ | ⟨hvalue | ⟨x, hvalue⟩, hsign⟩ :=
      wholeValue_cases t.negative (ofDigits t.whole)
    all_goals rw [hvalue]
    · exact .inl ⟨rfl, ⟨hsign, hfraction, hpower⟩, hfits⟩
    · exact .inr (.inl ⟨rfl, fun halone => Bool.false_ne_true (halone.1.symm.trans hsign)⟩)
    · exact .inr (.inr ⟨x, rfl, fun halone => (Bool.false_ne_true (halone.1.symm.trans hsign)).elim⟩)
  case isFalse hwhole =>
    rw [List.isEmpty_iff, hnone] at hwhole
    dsimp only at h
    split at h <;> cases h
    exact .inr (.inr ⟨_, rfl, fun ⟨_, hfraction, hpower⟩ =>
      not_lt.1 fun hfits => hwhole ⟨hfraction, hpower, hfits⟩⟩)

end RecordApps.Stored
