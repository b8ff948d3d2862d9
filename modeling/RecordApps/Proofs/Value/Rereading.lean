import RecordApps.Proofs.Decimal.Scaled
import RecordApps.Proofs.Value.Numbers

/-! # Floats are read back, if not always as the same

A finite float is written with the fewest digits that determine it, and what is gathered of them is
scaled when they are read. The result is a finite float again. It is the same one if the digits make
up a number of 53 bits and few of them stand behind the point; of other floats, some are read as a
neighbour.
-/

namespace RecordApps.Stored

open Decimal Binary Float.Model Float.Model.UnpackedFloat

/-! ## Gathering digits -/

theorem ofDigits_cons (c : Char) (ds : List Char) :
    ofDigits (c :: ds) = digitValue c * 10 ^ ds.length + ofDigits ds := by
  have hone : ofDigits [c] = digitValue c := by simp [ofDigits]
  rw [← List.singleton_append, ofDigits_append, hone]

theorem digitValue_lt {c : Char} (h : c.isDigit = true) : digitValue c < 10 := by
  rw [Char.isDigit, Bool.and_eq_true, decide_eq_true_eq, decide_eq_true_eq] at h
  have hhigh : c.toNat ≤ 57 := h.2
  rw [digitValue]
  show c.toNat - 48 < 10
  omega

theorem Digits.ofDigits_lt {ds : List Char} (h : Digits ds) : ofDigits ds < 10 ^ ds.length := by
  induction ds with
  | nil => exact Nat.one_pos
  | cons c ds ih =>
      have hc := digitValue_lt (h c List.mem_cons_self)
      have hds := ih fun d hd => h d (List.mem_cons_of_mem _ hd)
      rw [ofDigits_cons, List.length_cons, pow_succ']
      calc digitValue c * 10 ^ ds.length + ofDigits ds
        _ < digitValue c * 10 ^ ds.length + 10 ^ ds.length := Nat.add_lt_add_left hds _
        _ = (digitValue c + 1) * 10 ^ ds.length := (Nat.succ_mul ..).symm
        _ ≤ 10 * 10 ^ ds.length := Nat.mul_le_mul_right _ hc

theorem gather_step (n : ℕ) (c : Char) (ds : List Char) :
    (10 * n + digitValue c) * 10 ^ ds.length + ofDigits ds =
      n * 10 ^ (c :: ds).length + ofDigits (c :: ds) := by
  rw [ofDigits_cons, List.length_cons, pow_succ]
  ring

theorem exists_gather {n : ℕ} (hn : n < 2 ^ 64) (ds : List Char) : ∃ taken dropped,
    ds = taken ++ dropped ∧ gather n ds = (n * 10 ^ taken.length + ofDigits taken, dropped) ∧
      n * 10 ^ taken.length + ofDigits taken < 2 ^ 64 := by
  have hnone : n * 10 ^ ([] : List Char).length + ofDigits [] = n := by simp [ofDigits]
  induction ds generalizing n with
  | nil => exact ⟨[], [], rfl, congrArg (·, []) hnone.symm, hnone.trans_lt hn⟩
  | cons c ds ih =>
      rw [gather]
      split
      case isTrue hfits =>
        obtain ⟨taken, dropped, rfl, hgather, hbound⟩ := ih hfits (by simp [ofDigits])
        rw [gather_step] at hgather hbound
        exact ⟨c :: taken, dropped, rfl, hgather, hbound⟩
      case isFalse =>
        exact ⟨[], c :: ds, rfl, congrArg (·, c :: ds) hnone.symm, hnone.trans_lt hn⟩

theorem gather_eq {n : ℕ} {ds : List Char} (h : n * 10 ^ ds.length + ofDigits ds < 2 ^ 64) :
    gather n ds = (n * 10 ^ ds.length + ofDigits ds, []) := by
  induction ds generalizing n with
  | nil => simp [gather, ofDigits]
  | cons c ds ih =>
      rw [← gather_step] at h ⊢
      have hfits : 10 * n + digitValue c < Nat.pow 2 64 :=
        (Nat.le_mul_of_pos_right _ (by positivity)).trans_lt ((Nat.le_add_right ..).trans_lt h)
      rw [gather, if_pos hfits, ih h]

section Literal

variable {l : Literal}

theorem gathered_eq (h : ofDigits (l.whole ++ l.fraction) < 2 ^ 64) :
    l.gathered = l.toScientific := by
  rw [ofDigits_append] at h
  have hwhole : 0 * 10 ^ l.whole.length + ofDigits l.whole = ofDigits l.whole := by
    rw [zero_mul, zero_add]
  have hfits : ofDigits l.whole < 2 ^ 64 :=
    (Nat.le_mul_of_pos_right _ (by positivity)).trans_lt ((Nat.le_add_right ..).trans_lt h)
  rw [Literal.gathered, gather_eq (hwhole.trans_lt hfits), hwhole, Literal.toScientific,
    ofDigits_append]
  dsimp only
  rw [gather_eq h]
  simp

/-- Digits that are dropped make a number smaller, if those in front of the point fit. -/
theorem gathered_le (h : ofDigits l.whole < 2 ^ 64) :
    l.gathered.coefficient < 2 ^ 64 ∧ l.gathered.value ≤ l.toScientific.value := by
  have hwhole : 0 * 10 ^ l.whole.length + ofDigits l.whole = ofDigits l.whole := by
    rw [zero_mul, zero_add]
  obtain ⟨taken, dropped, hfraction, hgather, hbound⟩ := exists_gather h l.fraction
  have hgathered : l.gathered = ⟨ofDigits l.whole * 10 ^ taken.length + ofDigits taken,
      l.power - (taken.length : ℤ)⟩ := by
    rw [Literal.gathered, gather_eq (hwhole.trans_lt h), hwhole]
    dsimp only
    rw [hgather, hfraction]
    simp
  refine ⟨hgathered ▸ hbound, ?_⟩
  rw [hgathered, Literal.toScientific, hfraction, Scientific.value, Scientific.value,
    ← List.append_assoc, ofDigits_append (_ ++ _), ofDigits_append, List.length_append]
  dsimp only
  generalize ofDigits l.whole * 10 ^ taken.length + ofDigits taken = kept
  have hpower : (10 : ℚ) ^ (l.power - (taken.length : ℤ)) =
      10 ^ dropped.length * 10 ^ (l.power - ((taken.length + dropped.length : ℕ) : ℤ)) := by
    rw [← zpow_natCast, ← zpow_add₀ (by norm_num)]
    congr 1
    push_cast
    ring
  rw [hpower, ← mul_assoc]
  refine mul_le_mul_of_nonneg_right ?_ (by positivity)
  exact_mod_cast Nat.le_add_right ..

end Literal

/-! ## Texts of floats -/

section Spelled

variable {t : NumberText} {d : Scientific}

theorem NumberText.Spells.value_eq (h : t.Spells d) : t.literal.toScientific.value = d.value := by
  obtain ⟨places, hdigits, -⟩ := h.digits
  rw [hdigits, Scientific.value, Scientific.value]
  dsimp only
  rw [zpow_sub₀ (by norm_num), zpow_natCast]
  push_cast
  field_simp

/-- Texts of floats are those of different floats, as each spells the digits of its own. -/
theorem storedText_injective {x y : Float} (hx : x.isFinite = true) (hy : y.isFinite = true)
    (h : storedText x = storedText y) : x = y := by
  obtain ⟨t, htext, hsign, hspells⟩ := exists_storedText hx
  obtain ⟨t', htext', hsign', hspells'⟩ := exists_storedText hy
  have hshape := numberShape?_chars hspells.wellFormed delimited_nil
  rw [← htext, h, htext', numberShape?_chars hspells'.wellFormed delimited_nil] at hshape
  obtain ⟨hnegative, hwhole, hfraction, hexponent⟩ :
      t'.negative = t.negative ∧ t'.whole = t.whole ∧ t'.fraction = t.fraction ∧
        t'.exponent = t.exponent := by
    simpa using hshape
  have hliteral : t'.literal = t.literal := by
    rw [NumberText.literal, NumberText.literal, hwhole, hfraction, hexponent]
  have habs : x.abs = y.abs := by
    rw [← toFloat_shortest hx, ← toFloat_shortest hy]
    refine Scientific.toFloat_congr ?_
    rw [← hspells.value_eq, ← hspells'.value_eq, hliteral]
  rw [← sign_abs hx, ← sign_abs hy, ← hsign, ← hsign', hnegative, habs]

theorem NumberText.Spells.whole_lt (h : t.Spells d) : ofDigits t.whole < 2 ^ 64 := calc
  ofDigits t.whole < 10 ^ t.whole.length := h.wellFormed.whole.1.ofDigits_lt
  _ ≤ 10 ^ 16 := Nat.pow_le_pow_right (by decide) h.short
  _ < 2 ^ 64 := by decide

/-- A text that is not that of a whole number is read as a float, if what it stands for is finite. -/
theorem numberValue?_eq (h : ¬(t.fraction = [] ∧ t.power = none)) :
    numberValue? t.negative t.whole t.fraction t.exponent =
      if (scaled t.literal.gathered).isFinite then some (.float
        (if t.negative then -scaled t.literal.gathered else scaled t.literal.gathered))
      else none := by
  have hwhole : ¬(t.fraction.isEmpty = true ∧ t.exponent.isNone = true ∧
      ofDigits t.whole < Nat.pow 2 64) := by
    rw [List.isEmpty_iff, NumberText.exponent, Option.isNone_map, Option.isNone_iff_eq_none]
    exact fun hall => h ⟨hall.1, hall.2.1⟩
  rw [numberValue?, if_neg hwhole]
  rfl

end Spelled

/-- The digits found for a float stand for a number that is no further above the float than half a
    unit. -/
theorem value_shortest_le (s : Sign) {m : ℕ} {e : ℤ} (h : Canonical m e) (hle : e ≤ 971) :
    (shortest (toFloat (.finite s m e h.pos))).value ≤ (m + 1 / 2) * 2 ^ e := by
  have hheld := Held.finite s h hle
  have hread := toFloat_shortest (isFinite_toFloat hheld)
  rw [Scientific.toFloat_eq_rounded, abs_toFloat hheld] at hread
  rcases le_or_gt (shortest (toFloat (.finite s m e h.pos))).value 0 with hnone | hpos
  · exact hnone.trans (mul_nonneg (by positivity) (zpow_nonneg two_pos.le e))
  · exact le_of_toFloat_rounded_eq hpos h hle hread

/-- The two largest floats stay finite, which the distance of their texts to the limit does not
    show. -/
theorem isSome_largest (s : Sign) : ∀ m ∈ [2 ^ 53 - 1, 2 ^ 53 - 2], ∀ h : 0 < m,
    (number? (storedText (toFloat (.finite s m 971 h))).toList).isSome = true := by
  cases s <;> decide +kernel

/-- A float that is not one of the two largest is well below the limit. -/
theorem add_half_mul_le {m : ℕ} {e : ℤ} (hm : m < 2 ^ 53) (hle : e ≤ 971)
    (htop : e = 971 → m + 3 ≤ 2 ^ 53) :
    ((m : ℚ) + 1 / 2) * 2 ^ e ≤ (2 ^ 53 - 5 / 2) * 2 ^ (971 : ℤ) := by
  have hunit : (0 : ℚ) < 2 ^ (971 : ℤ) := zpow_pos two_pos _
  rcases hle.lt_or_eq with hsmall | heq
  · have hpower : (2 : ℚ) ^ (e + 1) ≤ 2 ^ (971 : ℤ) :=
      zpow_le_zpow_right₀ one_le_two (by omega)
    rw [zpow_add₀ two_ne_zero, zpow_one] at hpower
    have hcast : (m : ℚ) < 2 ^ 53 := by exact_mod_cast hm
    calc ((m : ℚ) + 1 / 2) * 2 ^ e
      _ ≤ (2 ^ 53 + 1 / 2) * (2 ^ (971 : ℤ) / 2) :=
          mul_le_mul (by linarith) (by linarith) (zpow_nonneg two_pos.le e) (by norm_num)
      _ ≤ (2 ^ 53 - 5 / 2) * 2 ^ (971 : ℤ) := by
          generalize (2 : ℚ) ^ (971 : ℤ) = unit at hunit
          linarith
  · have hcast : (m : ℚ) + 3 ≤ 2 ^ 53 := by exact_mod_cast htop heq
    rw [heq]
    exact mul_le_mul_of_nonneg_right (by linarith) hunit.le

theorem isFinite_scaled_storedText {x : Float} (hx : x.isFinite = true) {t : NumberText}
    (htext : (storedText x).toList = t.chars) (hspells : t.Spells (shortest x)) :
    (scaled t.literal.gathered).isFinite = true := by
  have hgathered := gathered_le (l := t.literal) hspells.whole_lt
  have hlow (h : (shortest x).value ≤ (2 ^ 53 - 5 / 2) * 2 ^ (971 : ℤ)) :
      (scaled t.literal.gathered).isFinite = true :=
    isFinite_scaled hgathered.1 ((hgathered.2.trans_eq hspells.value_eq).trans h)
  obtain ⟨f, hheld, rfl⟩ := exists_held hx
  cases hheld with
  | zero s =>
      refine hlow ?_
      rw [shortest, (ofFloat_toFloat (.zero s)).1]
      show ((0 : ℕ) : ℚ) * 10 ^ (0 : ℤ) ≤ _
      rw [Nat.cast_zero, zero_mul]
      exact mul_nonneg (by norm_num) (zpow_nonneg two_pos.le _)
  | @finite s m e h hle =>
      by_cases hlargest : e = 971 ∧ m ∈ [2 ^ 53 - 1, 2 ^ 53 - 2]
      · obtain ⟨rfl, htop⟩ := hlargest
        have hsome := isSome_largest s m htop h.pos
        rw [htext, ← List.append_nil t.chars, number?_chars hspells.wellFormed delimited_nil,
          Option.isSome_map] at hsome
        by_contra hinfinite
        rw [numberValue?_eq hspells.notWhole, if_neg hinfinite] at hsome
        cases hsome
      · have hlt := h.lt
        refine hlow ((value_shortest_le s h hle).trans (add_half_mul_le hlt hle fun heq => ?_))
        have hnot : m ∉ [2 ^ 53 - 1, 2 ^ 53 - 2] := fun hmem => hlargest ⟨heq, hmem⟩
        simp only [List.mem_cons, List.not_mem_nil, or_false, not_or] at hnot
        omega

/-! ## Floats that are read back -/

/-- What a float is read as after it was written. -/
def reread (x : Float) : Float :=
  match number? (storedText x).toList with
  | some (.float y, _) => y
  | _ => x

theorem exists_reread {x : Float} (hx : x.isFinite = true) : ∃ t : NumberText,
    (storedText x).toList = t.chars ∧ t.negative = isNegative x ∧ t.Spells (shortest x) ∧
      reread x = (if isNegative x then -scaled t.literal.gathered else scaled t.literal.gathered) ∧
      numberValue? t.negative t.whole t.fraction t.exponent = some (.float (reread x)) := by
  obtain ⟨t, htext, hsign, hspells⟩ := exists_storedText hx
  have hvalue := numberValue?_eq hspells.notWhole
  rw [if_pos (isFinite_scaled_storedText hx htext hspells)] at hvalue
  have hread := number?_chars hspells.wellFormed delimited_nil
  rw [List.append_nil, hvalue, Option.map_some] at hread
  have hreread : reread x =
      if t.negative then -scaled t.literal.gathered else scaled t.literal.gathered := by
    rw [reread, htext, hread]
  refine ⟨t, htext, hsign, hspells, hsign ▸ hreread, ?_⟩
  rw [hreread, hvalue]

theorem numberOf_storedText {x : Float} (hx : x.isFinite = true) :
    NumberOf (storedText x).toList (.float (reread x)) := by
  obtain ⟨t, htext, -, hspells, -, hvalue⟩ := exists_reread hx
  exact ⟨t, htext, hspells.wellFormed, hvalue⟩

theorem isFinite_neg {x : Float} (hx : x.isFinite = true) : (-x).isFinite = true := by
  obtain ⟨f, hheld, rfl⟩ := exists_held hx
  rw [neg_toFloat hheld]
  exact isFinite_toFloat (held_neg hheld)

theorem isFinite_reread {x : Float} (hx : x.isFinite = true) : (reread x).isFinite = true := by
  obtain ⟨t, htext, -, hspells, hreread, -⟩ := exists_reread hx
  have hfinite := isFinite_scaled_storedText hx htext hspells
  rw [hreread]
  split
  · exact isFinite_neg hfinite
  · exact hfinite

/-- A float with few digits: without their point, and with a zero behind it if there is no other
    digit, they are a number of 53 bits, and at most 22 of them stand behind the point. -/
def FewDigits (x : Float) : Prop :=
  (shortest x).coefficient * 10 ^ ((shortest x).scale + 1).toNat < 2 ^ 53 ∧
    -22 ≤ (shortest x).scale

theorem reread_eq_self {x : Float} (hx : x.isFinite = true) (h : FewDigits x) : reread x = x := by
  obtain ⟨t, -, -, hspells, hreread, -⟩ := exists_reread hx
  obtain ⟨places, hdigits, hplaces⟩ := hspells.digits
  obtain ⟨hfew, hlow⟩ := h
  have hle : places ≤ ((shortest x).scale + 1).toNat := by omega
  have hcoefficient : (shortest x).coefficient * 10 ^ places < 2 ^ 53 :=
    (Nat.mul_le_mul_left _ (Nat.pow_le_pow_right (by decide) hle)).trans_lt hfew
  have hhigh : (shortest x).scale ≤ 22 := by
    by_contra hlarge
    have hne : (shortest x).coefficient ≠ 0 := fun hzero => by
      rw [shortest_eq_zero hx hzero] at hlarge
      exact hlarge (by decide)
    have hpower : 10 ^ 24 ≤ 10 ^ ((shortest x).scale + 1).toNat :=
      Nat.pow_le_pow_right (by decide) (by omega)
    have hmany := Nat.mul_le_mul (Nat.pos_of_ne_zero hne) hpower
    omega
  have hscaled : scaled t.literal.gathered = x.abs := by
    have hgathered : t.literal.gathered = t.literal.toScientific := gathered_eq <| by
      have hall : ofDigits (t.literal.whole ++ t.literal.fraction) = _ :=
        congrArg Scientific.coefficient hdigits
      rw [hall]
      exact hcoefficient.trans (by decide)
    rw [hgathered, hdigits, scaled_eq_toFloat hcoefficient, ← hdigits,
      Scientific.toFloat_congr hspells.value_eq, toFloat_shortest hx]
    all_goals
      dsimp only
      omega
  rw [hreread, hscaled, sign_abs hx]

theorem reread_next : reread 0.9452706955539223 = 0.9452706955539224 := by
  generalize ht : NumberText.mk false ['0'] (Nat.toDigits 10 9452706955539223) none = t
  have hwell : t.WellFormed := by
    rw [← ht]
    exact ⟨⟨digits_zeros 1, by simp, .inl rfl⟩, digits_toDigits 9452706955539223, by simp⟩
  have htext : (storedText 0.9452706955539223).toList = t.chars := by
    rw [← ht]
    decide +kernel
  have hgathered : t.literal.gathered = ⟨9452706955539223, .negSucc 15⟩ := by
    rw [← ht]
    decide +kernel
  have hscaled : scaled ⟨9452706955539223, .negSucc 15⟩ = 0.9452706955539224 := by
    rw [scaled]
    dsimp only
    rw [shrunk, if_pos (by decide)]
    exact Float.toBits_inj.1 (by decide +kernel)
  have hvalue : numberValue? t.negative t.whole t.fraction t.exponent =
      some (.float 0.9452706955539224) := by
    have hnot : ¬(t.fraction = [] ∧ t.power = none) := by
      rw [← ht]
      decide
    rw [numberValue?_eq hnot, hgathered, hscaled, if_pos (by decide +kernel), ← ht]
    rfl
  have hread := number?_chars hwell delimited_nil
  rw [List.append_nil, ← htext, hvalue] at hread
  rw [reread, hread]
  rfl

end RecordApps.Stored
