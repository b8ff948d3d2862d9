import RecordApps.Decimal.Scaled
import RecordApps.Proofs.Decimal.Accuracy

/-! # Numbers that are scaled

A coefficient is scaled by a product or by quotients, each of which rounds. The result is finite if
the number is below the largest float by what two roundings may add, and it is the nearest float if
the coefficient and the power of ten are floats themselves.
-/

namespace RecordApps.Binary

open Float.Model Float.Model.UnpackedFloat

/-! ## Products and quotients of rounded numbers -/

section Rounded

variable {p q : ℚ}

theorem value_rounded_nonneg (hp : 0 ≤ p) : 0 ≤ value (rounded .positive p) := by
  rcases hp.eq_or_lt with rfl | hpos
  · rw [rounded_zero]
    exact le_rfl
  rcases rounded_cases hpos rfl with ⟨-, h⟩ | ⟨m, e, h, hrounded, -, -⟩
  · rw [h]
    exact le_rfl
  · rw [hrounded]
    exact mul_nonneg m.cast_nonneg (zpow_nonneg two_pos.le e)

theorem value_lt_limit {f : UnpackedFloat} (hf : Held f) : value f < limit := by
  have hlimit : 0 < limit := mul_pos (by norm_num) (zpow_pos two_pos _)
  cases hf with
  | zero s => exact hlimit
  | @finite s m e h hle =>
      have hmantissa : (m : ℚ) ≤ 2 ^ 53 - 1 := by
        have hm : m + 1 ≤ 2 ^ 53 := h.lt
        have hcast : (m : ℚ) + 1 ≤ 2 ^ 53 := by exact_mod_cast hm
        linarith
      have hvalue : (m : ℚ) * 2 ^ e < limit := by
        refine lt_of_le_of_lt (mul_le_mul hmantissa (zpow_le_zpow_right₀ one_le_two hle)
          (zpow_nonneg two_pos.le e) (by norm_num)) ?_
        exact mul_lt_mul_of_pos_right (by norm_num) (zpow_pos two_pos _)
      cases s with
      | positive => exact hvalue
      | negative =>
          have hpos : 0 < (m : ℚ) * 2 ^ e := mul_pos (by exact_mod_cast h.pos) (zpow_pos two_pos e)
          exact lt_trans (neg_neg_of_pos hpos) hlimit

/-- A product of two numbers is finite if it is, after the factors were rounded. -/
theorem isFinite_mul_rounded (hp : 1 ≤ p) (hq : 1 ≤ q)
    (h : p * q * (1 + 1 / 2 ^ 53) ^ 2 < limit) :
    (toFloat (rounded .positive p) * toFloat (rounded .positive q)).isFinite = true := by
  have hsmaller {a b : ℚ} (ha : 0 ≤ a) (hb : 1 ≤ b) : a ≤ a * b * (1 + 1 / 2 ^ 53) ^ 2 := calc
    a = a * 1 * 1 := by rw [mul_one, mul_one]
    _ ≤ a * b * (1 + 1 / 2 ^ 53) ^ 2 :=
      mul_le_mul (mul_le_mul_of_nonneg_left hb ha) (by norm_num) zero_le_one (by positivity)
  have hplimit : p < limit := (hsmaller (by linarith) hq).trans_lt h
  have hqlimit : q < limit := (hsmaller (by linarith) hp).trans_lt (by rwa [mul_comm q])
  have hpvalue := value_rounded_le hp
  have hqvalue := value_rounded_le hq
  have hp0 := value_rounded_nonneg (by linarith : 0 ≤ p)
  have hq0 := value_rounded_nonneg (by linarith : 0 ≤ q)
  obtain ⟨m, e, hm, hle, hfull, hpeq⟩ := exists_full hp hplimit
  obtain ⟨m', e', hm', hle', hfull', hqeq⟩ := exists_full hq hqlimit
  rw [hpeq] at hpvalue hp0 ⊢
  rw [hqeq] at hqvalue hq0 ⊢
  rw [mul_full hm hm' hle hle' hfull hfull']
  refine isFinite_toFloat (held_rounded (mul_nonneg hp0 hq0) (lt_of_le_of_lt ?_ h))
  refine (mul_le_mul hpvalue hqvalue hq0 (by positivity)).trans_eq ?_
  ring

theorem exists_div_rounded (hp : 0 ≤ p) (hplimit : p < limit) (hq : 2 ≤ q) (hqlimit : q < limit) :
    ∃ r, 0 ≤ r ∧ r < limit ∧
      toFloat (rounded .positive p) / toFloat (rounded .positive q) =
        toFloat (rounded .positive r) := by
  have hheld := held_rounded hp hplimit
  have hlimit := value_lt_limit hheld
  have hp0 := value_rounded_nonneg hp
  have hq1 : 1 ≤ value (rounded .positive q) := by
    linarith [le_value_rounded (by linarith : 1 ≤ q)]
  obtain ⟨m', e', hm', hle', hfull', hqeq⟩ := exists_full (by linarith : 1 ≤ q) hqlimit
  have hsmaller := div_le_self hp0 hq1
  refine ⟨_, div_nonneg hp0 (by linarith), hsmaller.trans_lt hlimit, ?_⟩
  rcases hp.eq_or_lt with rfl | hpos
  · rw [hqeq, rounded_zero, div_toFloat (.zero _) (.finite _ hm' hle')]
    show _ = toFloat (rounded .positive (0 / _))
    rw [zero_div, rounded_zero]
    rfl
  rcases rounded_cases hpos rfl with ⟨-, h⟩ | ⟨m, e, h, heq, -, -⟩
  · rw [hqeq, h, div_toFloat (.zero _) (.finite _ hm' hle')]
    show _ = toFloat (rounded .positive (0 / _))
    rw [zero_div, rounded_zero]
    rfl
  · rw [heq] at hheld ⊢
    have hle : e ≤ 971 := by
      cases hheld
      assumption
    rw [hqeq]
    exact div_held h hm' hle hle'

end Rounded

end RecordApps.Binary

namespace RecordApps.Decimal

open Float.Model Float.Model.UnpackedFloat Binary

/-! ## Powers of ten -/

theorem tenPower_eq_rounded (e : ℕ) : tenPower e = toFloat (rounded .positive (10 ^ e)) := by
  rw [tenPower, Scientific.toFloat_eq_rounded, Scientific.value, Nat.cast_one, one_mul,
    zpow_natCast]

theorem tenPower_lt_limit {e : ℕ} (he : e ≤ 308) : (10 : ℚ) ^ e < limit := by
  have hnat : 10 ^ 308 < 3 * 2 ^ 51 * 2 ^ 971 := by decide +kernel
  calc (10 : ℚ) ^ e ≤ 10 ^ 308 := pow_le_pow_right₀ (by norm_num) he
    _ < 3 * 2 ^ 51 * 2 ^ 971 := by exact_mod_cast hnat
    _ ≤ limit := mul_le_mul_of_nonneg_right (by norm_num) (pow_nonneg two_pos.le _)

/-- The first powers of ten are those that decimal literals are computed with. -/
theorem tenPower_eq {e : ℕ} (he : e < 23) :
    tenPower e = getElem Float.exactlyRepresentablePowersOfTen e he := by
  obtain ⟨M, E, h, -, -, hvalue, hpower⟩ := held_powerOfTen he
  rw [hpower, tenPower_eq_rounded, ← zpow_natCast, ← hvalue, h.rounded_eq]

/-! ## Scaled numbers -/

theorem isFinite_shrunk {q : ℚ} (h0 : 0 ≤ q) (hq : q < limit) {places : ℕ} (hplaces : 0 < places) :
    (shrunk (toFloat (rounded .positive q)) places).isFinite = true := by
  have hdivide {q : ℚ} (h0 : 0 ≤ q) (hq : q < limit) {e : ℕ} (hpos : 0 < e) (he : e ≤ 308) :
      ∃ r, 0 ≤ r ∧ r < limit ∧
        toFloat (rounded .positive q) / tenPower e = toFloat (rounded .positive r) := by
    have hten : (10 : ℚ) ^ 1 ≤ 10 ^ e := pow_le_pow_right₀ (by norm_num) hpos
    rw [tenPower_eq_rounded]
    exact exists_div_rounded h0 hq (by linarith) (tenPower_lt_limit he)
  induction places using Nat.strong_induction_on generalizing q with
  | h places ih =>
      rw [shrunk]
      split_ifs with hfew hzero
      · obtain ⟨r, hr0, hr, hquotient⟩ := hdivide h0 hq hplaces hfew
        rw [hquotient]
        exact isFinite_toFloat (held_rounded hr0 hr)
      · exact isFinite_toFloat (held_rounded h0 hq)
      · obtain ⟨r, hr0, hr, hquotient⟩ := hdivide h0 hq (by decide : 0 < 308) le_rfl
        rw [hquotient]
        exact ih (places - 308) (by omega) hr0 hr (by omega)

/-- A number is scaled to a finite float if it is at least two units below the limit, and its
    coefficient is one of 64 bits. -/
theorem isFinite_scaled {d : Scientific} (hc : d.coefficient < 2 ^ 64)
    (hvalue : d.value ≤ (2 ^ 53 - 5 / 2) * 2 ^ (971 : ℤ)) : (scaled d).isFinite = true := by
  have hunit : (0 : ℚ) < 2 ^ (971 : ℤ) := zpow_pos two_pos _
  obtain ⟨c, e | e⟩ := d
  · rcases Nat.eq_zero_or_pos c with rfl | hpos
    · show (Float.ofNat 0).isFinite = true
      rw [ofNat_eq_rounded, Nat.cast_zero, rounded_zero]
      exact isFinite_toFloat (.zero _)
    have hone : (1 : ℚ) ≤ c := by exact_mod_cast hpos
    have hproduct : (c : ℚ) * 10 ^ e ≤ (2 ^ 53 - 5 / 2) * 2 ^ (971 : ℤ) := hvalue
    simp only [scaled, if_neg hpos.ne', ofNat_eq_rounded, tenPower_eq_rounded]
    refine isFinite_mul_rounded hone (one_le_pow₀ (by norm_num)) ?_
    calc (c : ℚ) * 10 ^ e * (1 + 1 / 2 ^ 53) ^ 2
      _ ≤ (2 ^ 53 - 5 / 2) * 2 ^ (971 : ℤ) * (1 + 1 / 2 ^ 53) ^ 2 :=
        mul_le_mul_of_nonneg_right hproduct (by norm_num)
      _ = (2 ^ 53 - 5 / 2) * (1 + 1 / 2 ^ 53) ^ 2 * 2 ^ (971 : ℤ) := mul_right_comm ..
      _ < limit := mul_lt_mul_of_pos_right (by norm_num) hunit
  · have hcoefficient : (c : ℚ) < limit := calc
      (c : ℚ) < 2 ^ 64 := by exact_mod_cast hc
      _ = 2 ^ 52 * 2 ^ (12 : ℤ) := by norm_num
      _ ≤ 2 ^ 52 * 2 ^ (971 : ℤ) :=
        mul_le_mul_of_nonneg_left (zpow_le_zpow_right₀ one_le_two (by decide)) (by norm_num)
      _ ≤ limit := mul_le_mul_of_nonneg_right (by norm_num) hunit.le
    simp only [scaled, ofNat_eq_rounded]
    exact isFinite_shrunk c.cast_nonneg hcoefficient (Nat.succ_pos e)

/-- A number is scaled to the nearest float if its coefficient has 53 bits at most and its power of
    ten is a small one. -/
theorem scaled_eq_toFloat {d : Scientific} (hc : d.coefficient < 2 ^ 53) (hlow : -22 ≤ d.scale)
    (hhigh : d.scale ≤ 22) : scaled d = d.toFloat := by
  obtain ⟨c, s⟩ := d
  have hnumber : Float.ofNat c = c.toUInt64.toFloat := by
    rw [ofNat_eq_rounded, toFloat_natCast hc]
  cases s with
  | ofNat e =>
      have he : e < 23 := by
        simp only [Int.ofNat_eq_natCast] at hhigh
        omega
      rw [scaled, Scientific.toFloat_eq_rounded]
      dsimp only
      split_ifs with hzero
      · rw [hzero, ofNat_eq_rounded, Scientific.value]
        simp
      · rw [hnumber, tenPower_eq he, (fast_eq_rounded hc he).1]
        rfl
  | negSucc e =>
      have he : e + 1 < 23 := by
        simp only [Int.negSucc_eq] at hlow
        omega
      rw [scaled, Scientific.toFloat_eq_rounded]
      dsimp only
      rw [shrunk, if_pos (by omega), hnumber, tenPower_eq he, (fast_eq_rounded hc he).2]
      rfl

end RecordApps.Decimal
