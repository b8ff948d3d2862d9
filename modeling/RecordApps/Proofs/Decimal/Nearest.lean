import RecordApps.Proofs.Decimal.Packing

/-! # Floats nearest to decimal numbers

A decimal number is read as the float nearest to it, whatever its coefficient and scale: the way
for short coefficients and small powers of ten, which computes with floats, rounds as rarely as the
way for all others. The float therefore depends on the number alone.
-/

namespace RecordApps.Binary

open Float.Model Float.Model.UnpackedFloat

/-! ## Small numbers as floats -/

theorem exists_canonical {m : ℕ} {e : ℤ} (h0 : 0 < m) (hlt : m < 2 ^ 53)
    (hleast : -1022 ≤ m.log2 + e) :
    Canonical (m * 2 ^ (52 - m.log2)) (e - (52 - m.log2 : ℕ)) ∧
      2 ^ 52 ≤ m * 2 ^ (52 - m.log2) ∧
      ((m * 2 ^ (52 - m.log2) : ℕ) : ℚ) * 2 ^ (e - (52 - m.log2 : ℕ)) = m * 2 ^ e := by
  have hlog : m.log2 < 53 := (Nat.log2_lt h0.ne').2 hlt
  have hsum : m.log2 + (52 - m.log2) = 52 := by omega
  have hlow : 2 ^ 52 ≤ m * 2 ^ (52 - m.log2) := by
    have h := Nat.mul_le_mul_right (2 ^ (52 - m.log2)) (Nat.log2_self_le h0.ne')
    rwa [← pow_add, hsum] at h
  have hhigh : m * 2 ^ (52 - m.log2) < 2 ^ 53 := by
    have h := Nat.mul_lt_mul_of_pos_right (Nat.lt_log2_self (n := m))
      (Nat.two_pow_pos (52 - m.log2))
    rwa [← pow_add, show m.log2 + 1 + (52 - m.log2) = 53 by omega] at h
  refine ⟨⟨by positivity, hhigh, by omega, .inl hlow⟩, hlow, ?_⟩
  rw [Nat.cast_mul, Nat.cast_pow, Nat.cast_two, mul_assoc, ← zpow_natCast,
    ← zpow_add₀ two_ne_zero, add_sub_cancel]

theorem round_eq_rounded (s : Sign) {m : ℕ} (e : ℤ) (h : 0 < m) :
    round .binary64 s m e = rounded s (m * 2 ^ e) := by
  have hm : (0 : ℚ) < m := by exact_mod_cast h
  have hq : (0 : ℚ) < m * 2 ^ e := by positivity
  have htarget : Format.binary64.targetExponent (totalExponent m e) = quantum (m * 2 ^ e) :=
    targetExponent_floor hq (by rw [mul_div_cancel_right₀ _ (by positivity), Nat.floor_natCast])
      fun h' => absurd h' h.ne'
  rw [UnpackedFloat.round, htarget, decreaseExponent]
  generalize hk : (e - quantum (m * 2 ^ e)).toNat = k
  have hscale : (m : ℚ) * 2 ^ e / 2 ^ (e - k) = (m <<< k : ℕ) := by
    rw [Nat.shiftLeft_eq, Nat.cast_mul, Nat.cast_pow, Nat.cast_two, mul_div_assoc,
      ← zpow_sub₀ two_ne_zero, sub_sub_cancel, zpow_natCast]
  refine roundWithAccuracy_eq hq.le ?_ (by omega) ?_ s
  · rw [ofMantissaAndAccuracy_exact, hscale]
  · refine targetExponent_floor hq (by rw [hscale, Nat.floor_natCast]) fun hzero => ?_
    rw [Nat.shiftLeft_eq] at hzero
    have := Nat.mul_pos h (Nat.two_pow_pos k)
    omega

theorem rounded_zero (s : Sign) : rounded s 0 = .zero s := by
  have hquantum : quantum 0 = -52 := by
    rw [quantum, Int.log_zero_right]
    rfl
  have hmantissa : (extended (0 : ℕ)).roundedMantissa = 0 := roundedMantissa_natCast 0
  have hshift : shiftToTargetExponent .binary64 0 (-52) .exact = (⟨0, false, false⟩, -52) := by
    rw [shiftToTargetExponent_of_le (by decide), extended_natCast]
  rw [Nat.cast_zero] at hmantissa
  simp only [rounded, hquantum, zero_div, hmantissa, hshift]
  rw [dif_pos trivial]

theorem toFloat_natCast {m : ℕ} (h : m < 2 ^ 53) :
    m.toUInt64.toFloat = toFloat (rounded .positive m) := by
  have hword : m.toUInt64.toNat = m := by
    rw [Nat.toUInt64, UInt64.toNat_ofNat']
    exact Nat.mod_eq_of_lt (h.trans (by decide))
  show toFloat (UnpackedFloat.normalize .binary64 (m.toUInt64.toNat : ℤ) 0 .positive) = _
  rw [hword]
  rcases Nat.eq_zero_or_pos m with rfl | hpos
  · rw [Nat.cast_zero, Nat.cast_zero, rounded_zero]
    rfl
  · have hcompare : compare (m : ℤ) 0 = .gt := compare_gt_iff_gt.2 (by omega)
    rw [UnpackedFloat.normalize, hcompare]
    simp only [Int.toNat_natCast, round_eq_rounded _ _ hpos, zpow_zero, mul_one]

theorem held_natCast {m : ℕ} (hpos : 0 < m) (hlt : m < 2 ^ 53) :
    ∃ M E, ∃ h : Canonical M E, E ≤ 971 ∧ 2 ^ 52 ≤ M ∧ (M : ℚ) * 2 ^ E = m ∧
      m.toUInt64.toFloat = toFloat (.finite .positive M E h.pos) := by
  have hlog : m.log2 < 53 := (Nat.log2_lt hpos.ne').2 hlt
  obtain ⟨h, hfull, hvalue⟩ := exists_canonical (e := 0) hpos hlt (by omega)
  rw [zpow_zero, mul_one] at hvalue
  refine ⟨_, _, h, by omega, hfull, hvalue, ?_⟩
  rw [toFloat_natCast hlt, ← hvalue, h.rounded_eq]

/-! ## Powers of ten -/

theorem powerOfTen_eq : ∀ e : Fin 23, getElem Float.exactlyRepresentablePowersOfTen e.1 e.2 =
    toFloat (.finite .positive (5 ^ e.1 * 2 ^ (52 - (5 ^ e.1).log2))
      (e.1 - (52 - (5 ^ e.1).log2 : ℕ)) (by positivity)) := by
  decide +kernel

theorem log2_five_pow : ∀ e : Fin 23, (5 ^ e.1).log2 < 53 := by
  decide

theorem held_powerOfTen {e : ℕ} (he : e < 23) :
    ∃ M E, ∃ h : Canonical M E, E ≤ 971 ∧ 2 ^ 52 ≤ M ∧ (M : ℚ) * 2 ^ E = 10 ^ (e : ℤ) ∧
      getElem Float.exactlyRepresentablePowersOfTen e he =
        toFloat (.finite .positive M E h.pos) := by
  have hlog : (5 ^ e).log2 < 53 := log2_five_pow ⟨e, he⟩
  have hlt : 5 ^ e < 2 ^ 53 := (Nat.log2_lt (by positivity)).1 hlog
  obtain ⟨h, hfull, hvalue⟩ := exists_canonical (e := e) (by positivity) hlt (by omega)
  have hten : (10 : ℚ) ^ (e : ℤ) = (5 ^ e : ℕ) * 2 ^ (e : ℤ) := by
    rw [zpow_natCast, zpow_natCast, Nat.cast_pow, ← mul_pow]
    norm_num
  exact ⟨_, _, h, by omega, hfull, hten ▸ hvalue, powerOfTen_eq ⟨e, he⟩⟩

/-! ## Products and quotients of floats -/

section Full

variable {M₁ M₂ : ℕ} {E₁ E₂ : ℤ}

theorem mul_full (h₁ : Canonical M₁ E₁) (h₂ : Canonical M₂ E₂) (hle₁ : E₁ ≤ 971) (hle₂ : E₂ ≤ 971)
    (hfull₁ : 2 ^ 52 ≤ M₁) (hfull₂ : 2 ^ 52 ≤ M₂) :
    toFloat (.finite .positive M₁ E₁ h₁.pos) * toFloat (.finite .positive M₂ E₂ h₂.pos) =
      toFloat (rounded .positive (M₁ * 2 ^ E₁ * (M₂ * 2 ^ E₂))) := by
  have hproduct : (M₁ : ℚ) * 2 ^ E₁ * (M₂ * 2 ^ E₂) = M₁ * M₂ * 2 ^ (E₁ + E₂) := by
    rw [zpow_add₀ two_ne_zero]
    ring
  have hlarge : (2 : ℚ) ^ (104 + (E₁ + E₂)) ≤ M₁ * 2 ^ E₁ * (M₂ * 2 ^ E₂) := by
    rw [hproduct, zpow_add₀ two_ne_zero]
    refine mul_le_mul_of_nonneg_right ?_ (by positivity)
    exact_mod_cast Nat.mul_le_mul hfull₁ hfull₂
  have hlog := le_log hlarge
  have hexponent : E₁ + E₂ ≤ quantum (M₁ * 2 ^ E₁ * (M₂ * 2 ^ E₂)) := by
    rw [quantum]
    omega
  rw [mul_toFloat (.finite .positive h₁ hle₁) (.finite .positive h₂ hle₂),
    mul_eq_rounded _ _ h₁.pos h₂.pos hproduct hexponent]
  rfl

theorem div_held (h₁ : Canonical M₁ E₁) (h₂ : Canonical M₂ E₂) (hle₁ : E₁ ≤ 971)
    (hle₂ : E₂ ≤ 971) :
    toFloat (.finite .positive M₁ E₁ h₁.pos) / toFloat (.finite .positive M₂ E₂ h₂.pos) =
      toFloat (rounded .positive (M₁ * 2 ^ E₁ / (M₂ * 2 ^ E₂))) := by
  have hquotient : (M₁ : ℚ) * 2 ^ E₁ / (M₂ * 2 ^ E₂) = M₁ / M₂ * 2 ^ (E₁ - E₂) := by
    rw [zpow_sub₀ two_ne_zero, div_mul_div_comm]
  rw [div_toFloat (.finite .positive h₁ hle₁) (.finite .positive h₂ hle₂),
    div_eq_rounded _ _ h₁.pos h₂.pos hquotient]
  rfl

end Full

/-- A small number times a power of ten of the table, or divided by it, is rounded once. -/
theorem fast_eq_rounded {m e : ℕ} (hm : m < 2 ^ 53) (he : e < 23) :
    m.toUInt64.toFloat * getElem Float.exactlyRepresentablePowersOfTen e he =
        toFloat (rounded .positive (m * 10 ^ (e : ℤ))) ∧
      m.toUInt64.toFloat / getElem Float.exactlyRepresentablePowersOfTen e he =
        toFloat (rounded .positive (m * 10 ^ (-(e : ℤ)))) := by
  obtain ⟨M₂, E₂, h₂, hle₂, hfull₂, hvalue₂, hpower⟩ := held_powerOfTen he
  rw [hpower]
  rcases Nat.eq_zero_or_pos m with rfl | hpos
  case inl =>
    have hheld₂ := Held.finite .positive h₂ hle₂
    rw [toFloat_natCast hm, Nat.cast_zero, zero_mul, zero_mul, rounded_zero,
      mul_toFloat (.zero _) hheld₂, div_toFloat (.zero _) hheld₂]
    exact ⟨rfl, rfl⟩
  case inr =>
    obtain ⟨M₁, E₁, h₁, hle₁, hfull₁, hvalue₁, hnumber⟩ := held_natCast hpos hm
    rw [hnumber, mul_full h₁ h₂ hle₁ hle₂ hfull₁ hfull₂, div_held h₁ h₂ hle₁ hle₂, hvalue₁, hvalue₂,
      zpow_neg, div_eq_mul_inv]
    exact ⟨rfl, rfl⟩

/-! ## All decimal numbers -/

section Decimal

variable {m : ℕ} {e : ℤ}

theorem huge_of_exponent (hm : 0 < m) (he : 2048 < e) : (2 : ℚ) ^ (1024 : ℤ) ≤ m * 10 ^ e := calc
  (2 : ℚ) ^ (1024 : ℤ) ≤ 2 ^ e := zpow_le_zpow_right₀ one_le_two (by omega)
  _ ≤ 10 ^ e := zpow_le_zpow_left₀ (by omega) two_pos.le (by norm_num)
  _ ≤ m * 10 ^ e := le_mul_of_one_le_left (by positivity) (by exact_mod_cast hm)

theorem tiny_of_exponent (he : e < -(2048 + m.log2)) : (m : ℚ) * 10 ^ e < 2 ^ (-1075 : ℤ) := by
  have hten : (10 : ℚ) ^ e ≤ 2 ^ e := by
    rw [← neg_neg e, zpow_neg, zpow_neg 2]
    exact inv_anti₀ (by positivity) (zpow_le_zpow_left₀ (by omega) two_pos.le (by norm_num))
  have hm : (m : ℚ) < 2 ^ ((m.log2 : ℤ) + 1) := by
    exact_mod_cast Nat.lt_log2_self (n := m)
  calc (m : ℚ) * 10 ^ e < 2 ^ ((m.log2 : ℤ) + 1) * 2 ^ e :=
        mul_lt_mul hm hten (by positivity) (by positivity)
    _ = 2 ^ ((m.log2 : ℤ) + 1 + e) := (zpow_add₀ two_ne_zero _ _).symm
    _ ≤ 2 ^ (-1075 : ℤ) := zpow_le_zpow_right₀ one_le_two (by omega)

theorem mul_powerOfTen (hm : 0 < m) (he : 0 ≤ e) {h h'} :
    UnpackedFloat.mul .binary64 (.finite .positive (m <<< 53) (-53) h)
        (.finite .positive (10 ^ e.toNat) 0 h') =
      rounded .positive (m * 10 ^ e) := by
  have hten : (10 : ℚ) ^ e = (10 ^ e.toNat : ℕ) := by
    rw [Nat.cast_pow, Nat.cast_ofNat, ← zpow_natCast, Int.toNat_of_nonneg he]
  have hvalue : m * (10 : ℚ) ^ e = (m <<< 53 : ℕ) * (10 ^ e.toNat : ℕ) * 2 ^ (-53 + 0 : ℤ) := by
    rw [hten, Nat.shiftLeft_eq, Nat.cast_mul m]
    norm_num
    ring
  have hone : (2 : ℚ) ^ (0 : ℤ) ≤ m * 10 ^ e := by
    rw [zpow_zero, hten]
    exact_mod_cast Nat.mul_pos hm (Nat.pow_pos (by decide))
  have hlog := le_log hone
  have hexponent : (-53 + 0 : ℤ) ≤ quantum (m * (10 : ℚ) ^ e) := by
    rw [quantum]
    omega
  exact mul_eq_rounded .positive .positive _ _ hvalue hexponent

theorem div_powerOfTen (he : e < 0) {h h'} :
    UnpackedFloat.div .binary64 (.finite .positive m 0 h)
        (.finite .positive (10 ^ (-e).toNat) 0 h') =
      rounded .positive (m * 10 ^ e) := by
  have hten : (10 : ℚ) ^ e = ((10 ^ (-e).toNat : ℕ) : ℚ)⁻¹ := by
    rw [Nat.cast_pow, Nat.cast_ofNat, ← zpow_natCast, ← zpow_neg,
      Int.toNat_of_nonneg (by omega), neg_neg]
  have hvalue : (m : ℚ) * 10 ^ e = m / (10 ^ (-e).toNat : ℕ) * 2 ^ (0 - 0 : ℤ) := by
    rw [hten, sub_zero, zpow_zero, mul_one, div_eq_mul_inv]
  exact div_eq_rounded .positive .positive h h' hvalue

/-- The way for all numbers rounds once. What lies beyond the floats on either side is not computed
    but decided by its exponent. -/
theorem ofScientific_eq_rounded (m : ℕ) (e : ℤ) :
    toFloat (UnpackedFloat.ofScientific .binary64 m e) =
      toFloat (rounded .positive (m * 10 ^ e)) := by
  rw [UnpackedFloat.ofScientific]
  split_ifs with hzero hhuge htiny hwhole
  · rw [hzero, Nat.cast_zero, zero_mul, rounded_zero]
  · obtain ⟨M, E, hM, hrounded, hle⟩ :=
      rounded_huge (huge_of_exponent (Nat.pos_of_ne_zero hzero) hhuge) .positive
    rw [hrounded, toFloat_huge _ hM hle]
  · have hm : (0 : ℚ) < m := by exact_mod_cast Nat.pos_of_ne_zero hzero
    rw [rounded_tiny (by positivity) (tiny_of_exponent htiny)]
  · exact congrArg toFloat (mul_powerOfTen (Nat.pos_of_ne_zero hzero) hwhole)
  · exact congrArg toFloat (div_powerOfTen (not_le.1 hwhole))

end Decimal

end RecordApps.Binary

namespace RecordApps.Scientific

/-- The number that is written. -/
def value (d : Scientific) : ℚ :=
  d.coefficient * 10 ^ d.scale

theorem ofScientific_eq_rounded (m : ℕ) (negative : Bool) (e : ℕ) :
    Float.ofScientific m negative e = Binary.toFloat
      (Binary.rounded .positive (m * 10 ^ if negative then -(e : ℤ) else e)) := by
  rw [Float.ofScientific]
  split
  case isTrue h =>
    obtain ⟨hmul, hdiv⟩ := Binary.fast_eq_rounded h.1 (Nat.lt_succ_of_le h.2)
    cases negative
    · exact hmul
    · exact hdiv
  case isFalse =>
    refine (Binary.ofScientific_eq_rounded m _).trans ?_
    cases negative
    · rfl
    · simp only [if_true, Int.negOfNat_eq, Int.ofNat_eq_natCast]

theorem toFloat_eq_rounded (d : Scientific) :
    d.toFloat = Binary.toFloat (Binary.rounded .positive d.value) := by
  rw [toFloat, value]
  obtain ⟨c, e | e⟩ := d
  · exact ofScientific_eq_rounded c false e
  · exact ofScientific_eq_rounded c true (e + 1)

/-- Decimal numbers that are equal are read as the same float, however they are written. -/
theorem toFloat_congr {d d' : Scientific} (h : d.value = d'.value) : d.toFloat = d'.toFloat := by
  rw [toFloat_eq_rounded, toFloat_eq_rounded, h]

end RecordApps.Scientific
