import RecordApps.Proofs.Decimal.Comparison

/-! # How far rounding moves a number

A number is rounded by half a unit of its last place at most. What is below the largest float by
more than that therefore stays finite, and a number that is rounded to a float is no further from it
than half a unit of the float.
-/

namespace RecordApps.Binary

open Float.Model Float.Model.UnpackedFloat

/-! ## Mantissas -/

theorem abs_roundedMantissa_sub_le {x : ℚ} (hx : 0 ≤ x) :
    |((extended x).roundedMantissa : ℚ) - x| ≤ 1 / 2 := by
  obtain ⟨n, f, rfl, h0, h1⟩ := exists_floor_add hx
  rw [extended_add n h0 h1, abs_le]
  rcases lt_trichotomy f (1 / 2) with hlow | rfl | hhigh
  · rw [decide_eq_false (not_le.2 hlow), roundedMantissa_below]
    constructor <;> linarith
  · have htie : (ExtendedMantissa.mk n true false).roundedMantissa = n + n % 2 := rfl
    rw [decide_eq_true le_rfl, decide_eq_false fun h => h.2 rfl, htie]
    rcases Nat.mod_two_eq_zero_or_one n with h | h <;> rw [h] <;> push_cast <;>
      constructor <;> linarith
  · have hup : (ExtendedMantissa.mk n true true).roundedMantissa = n + 1 := rfl
    rw [decide_eq_true hhigh.le, decide_eq_true ⟨by linarith, hhigh.ne'⟩, hup]
    push_cast
    constructor <;> linarith

theorem two_zpow_mul (n : ℕ) (k : ℤ) : (2 : ℚ) ^ n * 2 ^ k = 2 ^ (n + k : ℤ) := by
  rw [zpow_add₀ two_ne_zero, zpow_natCast]

section Mantissa

variable {q : ℚ}

/-- A number in units of its last place has at most 53 bits in front of the point. -/
theorem units_lt (q : ℚ) : q / 2 ^ quantum q < 2 ^ 53 := by
  rw [div_lt_iff₀ (by positivity), two_zpow_mul]
  refine (Int.lt_zpow_succ_log_self one_lt_two q).trans_le (zpow_le_zpow_right₀ one_le_two ?_)
  rw [quantum]
  push_cast
  omega

/-- There are 53 of them, unless the last place is the least one that there is. -/
theorem le_units (hq : 0 < q) (hquantum : -1074 < quantum q) : 2 ^ 52 ≤ q / 2 ^ quantum q := by
  rw [le_div_iff₀ (by positivity), two_zpow_mul]
  refine le_trans (zpow_le_zpow_right₀ one_le_two ?_) (Int.zpow_log_le_self one_lt_two hq)
  rw [quantum] at hquantum ⊢
  push_cast
  omega

theorem roundedMantissa_le (hq : 0 < q) :
    (extended (q / 2 ^ quantum q)).roundedMantissa ≤ 2 ^ 53 := by
  have hnear := abs_le.1 (abs_roundedMantissa_sub_le (x := q / 2 ^ quantum q) (by positivity))
  have hlt : ((extended (q / 2 ^ quantum q)).roundedMantissa : ℚ) < 2 ^ 53 + 1 := by
    linarith [hnear.2, units_lt q]
  exact Nat.le_of_lt_succ (by exact_mod_cast hlt)

theorem roundedMantissa_full (hq : 0 < q) :
    2 ^ 52 ≤ (extended (q / 2 ^ quantum q)).roundedMantissa ∨ quantum q = -1074 := by
  have hleast : -1074 ≤ quantum q := le_max_right ..
  rcases hleast.eq_or_lt with h | h
  · exact .inr h.symm
  · exact .inl ((Nat.le_floor (by exact_mod_cast le_units hq h)).trans (le_roundedMantissa _))

/-- The mantissa in units of the last place is the number, up to half a unit. -/
theorem abs_roundedMantissa_mul_sub_le (hq : 0 < q) :
    |((extended (q / 2 ^ quantum q)).roundedMantissa : ℚ) * 2 ^ quantum q - q| ≤
      2 ^ quantum q / 2 := by
  have hunit : (0 : ℚ) < 2 ^ quantum q := by positivity
  have hnear := abs_roundedMantissa_sub_le (x := q / 2 ^ quantum q) (by positivity)
  generalize (extended (q / 2 ^ quantum q)).roundedMantissa = M at hnear
  have hscale : (M : ℚ) * 2 ^ quantum q - q = (M - q / 2 ^ quantum q) * 2 ^ quantum q := by
    rw [sub_mul, div_mul_cancel₀ _ hunit.ne']
  rw [hscale, abs_mul, abs_of_pos hunit]
  linarith [mul_le_mul_of_nonneg_right hnear hunit.le]

end Mantissa

/-! ## Rounded numbers -/

/-- What a positive number is rounded to: zero, or a float whose last place is that of the number or
    the next one. Either is the rounded mantissa in units of the number. -/
theorem rounded_cases {q : ℚ} (hq : 0 < q) {M : ℕ}
    (hM : (extended (q / 2 ^ quantum q)).roundedMantissa = M) :
    (M = 0 ∧ rounded .positive q = .zero .positive) ∨
      ∃ m e, ∃ h : Canonical m e, rounded .positive q = .finite .positive m e h.pos ∧
        quantum q ≤ e ∧ (m : ℚ) * 2 ^ e = M * 2 ^ quantum q := by
  have hleast : -1074 ≤ quantum q := le_max_right ..
  have hhigh : M ≤ 2 ^ 53 := hM ▸ roundedMantissa_le hq
  have hfull : 2 ^ 52 ≤ M ∨ quantum q = -1074 := hM ▸ roundedMantissa_full hq
  rcases Nat.eq_zero_or_pos M with rfl | hpos
  · refine .inl ⟨rfl, ?_⟩
    have hshift : shiftToTargetExponent .binary64 0 (quantum q) .exact =
        (extended (0 : ℕ), quantum q) :=
      shiftToTargetExponent_of_le (by rw [Nat.log2_zero]; omega)
    simp only [rounded, hM, hshift, extended_natCast]
    rw [dif_pos trivial]
  rcases hhigh.lt_or_eq with hsmall | rfl
  · have hcanonical : Canonical M (quantum q) := ⟨hpos, hsmall, hleast, hfull⟩
    have hshift := shiftToTargetExponent_of_le hcanonical.targetExponent.le
    refine .inr ⟨M, quantum q, hcanonical, ?_, le_rfl, rfl⟩
    simp only [rounded, hM, hshift, extended_natCast]
    rw [dif_neg hpos.ne']
  · -- The mantissa was rounded up to 54 bits, and is shifted once more.
    have hcanonical : Canonical (2 ^ 52) (quantum q + 1) :=
      ⟨by positivity, by decide, by omega, .inl le_rfl⟩
    have hshift : shiftToTargetExponent .binary64 (2 ^ 53) (quantum q) .exact =
        (extended ((2 ^ 53 : ℕ) / 2 ^ 1), quantum q + (1 : ℕ)) :=
      shiftToTargetExponent_exact (by rw [Nat.log2_two_pow]; omega)
    have hhalf : ((2 ^ 53 : ℕ) : ℚ) / 2 ^ 1 = (2 ^ 52 : ℕ) := by norm_num
    refine .inr ⟨2 ^ 52, quantum q + 1, hcanonical, ?_, by omega, ?_⟩
    · simp only [rounded, hM, hshift, hhalf, extended_natCast]
      rw [dif_neg (by decide)]
      rfl
    · rw [zpow_add₀ two_ne_zero]
      push_cast
      ring

theorem abs_value_rounded_sub_le {q : ℚ} (hq : 0 < q) :
    |value (rounded .positive q) - q| ≤ 2 ^ quantum q / 2 := by
  have hnear := abs_roundedMantissa_mul_sub_le hq
  rcases rounded_cases hq rfl with ⟨hM, hzero⟩ | ⟨m, e, h, hrounded, -, hvalue⟩
  · rw [hM, Nat.cast_zero, zero_mul] at hnear
    rw [hzero]
    exact hnear
  · rw [hrounded]
    show |(m : ℚ) * 2 ^ e - q| ≤ _
    rwa [hvalue]

/-- The bound below which a number is rounded to a finite float: half a unit above the largest. -/
def limit : ℚ :=
  (2 ^ 53 - 1 / 2) * 2 ^ (971 : ℤ)

theorem held_rounded {q : ℚ} (h0 : 0 ≤ q) (hq : q < limit) : Held (rounded .positive q) := by
  rcases h0.eq_or_lt with rfl | hpos
  · rw [rounded_zero]
    exact .zero _
  have hnear := (abs_le.1 (abs_value_rounded_sub_le hpos)).2
  rcases rounded_cases hpos rfl with ⟨-, hzero⟩ | ⟨m, e, h, hrounded, -, -⟩
  · rw [hzero]
    exact .zero _
  rw [hrounded] at hnear ⊢
  refine .finite _ h ?_
  by_contra hlarge
  have hunit : (2 : ℚ) ^ quantum q ≤ 2 ^ (971 : ℤ) := by
    have hlog : Int.log 2 q < 53 + 971 := by
      refine log_lt hpos (hq.trans_le ?_)
      have hpower : (2 : ℚ) ^ (53 + 971 : ℤ) = 2 ^ 53 * 2 ^ (971 : ℤ) := (two_zpow_mul 53 971).symm
      rw [hpower, limit]
      exact mul_le_mul_of_nonneg_right (by norm_num) (by positivity)
    refine zpow_le_zpow_right₀ one_le_two ?_
    rw [quantum]
    omega
  have habove : (2 : ℚ) ^ 52 * 2 ^ (972 : ℤ) ≤ m * 2 ^ e := by
    have hfull : (2 : ℚ) ^ 52 ≤ m := by exact_mod_cast h.full.resolve_right (by omega)
    exact mul_le_mul hfull (zpow_le_zpow_right₀ one_le_two (by omega)) (zpow_nonneg two_pos.le _)
      m.cast_nonneg
  have hbelow : (m : ℚ) * 2 ^ e - q ≤ 2 ^ quantum q / 2 := hnear
  rw [show (972 : ℤ) = 971 + 1 from rfl, zpow_add₀ two_ne_zero, zpow_one] at habove
  rw [limit] at hq
  generalize (2 : ℚ) ^ (971 : ℤ) = largest at *
  linarith

/-- A number that is rounded to a float is no further from it than half a unit. -/
theorem le_of_toFloat_rounded_eq {q : ℚ} (hq : 0 < q) {m : ℕ} {e : ℤ} (h : Canonical m e)
    (hle : e ≤ 971)
    (hsame : toFloat (rounded .positive q) = toFloat (.finite .positive m e h.pos)) :
    q ≤ (m + 1 / 2) * 2 ^ e := by
  have hunpack := unpack_toFloat (.finite .positive h hle)
  rw [← hsame] at hunpack
  have hnear := (abs_le.1 (abs_value_rounded_sub_le hq)).1
  rcases rounded_cases hq rfl with ⟨-, hzero⟩ | ⟨m', e', h', hrounded, hquantum, -⟩
  · rw [hzero, unpack_toFloat (.zero _)] at hunpack
    cases hunpack
  rw [hrounded] at hunpack hnear
  have hle' : e' ≤ 971 := by
    by_contra hlarge
    rw [toFloat_huge _ h'.pos (by omega)] at hunpack
    cases hunpack
  rw [unpack_toFloat (.finite .positive h' hle')] at hunpack
  obtain ⟨-, rfl, rfl⟩ := UnpackedFloat.finite.inj hunpack
  have hunit : (2 : ℚ) ^ quantum q ≤ 2 ^ e' := zpow_le_zpow_right₀ one_le_two hquantum
  have hbelow : -(2 ^ quantum q / 2) ≤ (m' : ℚ) * 2 ^ e' - q := hnear
  linarith

/-! ## Numbers from one on -/

section One

variable {q : ℚ}

theorem quantum_div_le (hq : 1 ≤ q) : (2 : ℚ) ^ quantum q / 2 ≤ q / 2 ^ 53 := by
  have hlog : 0 ≤ Int.log 2 q := le_log (by rwa [zpow_zero])
  have hquantum : quantum q = Int.log 2 q - 52 := by
    rw [quantum]
    omega
  have hpower : (2 : ℚ) ^ Int.log 2 q ≤ q := Int.zpow_log_le_self one_lt_two (by linarith)
  rw [hquantum, zpow_sub₀ two_ne_zero, div_div]
  exact div_le_div₀ (by linarith) hpower (by norm_num) (by norm_num)

theorem value_rounded_le (hq : 1 ≤ q) : value (rounded .positive q) ≤ q * (1 + 1 / 2 ^ 53) := by
  have hnear := (abs_le.1 (abs_value_rounded_sub_le (by linarith : 0 < q))).2
  linarith [quantum_div_le hq]

theorem le_value_rounded (hq : 1 ≤ q) : q / 2 ≤ value (rounded .positive q) := by
  have hnear := (abs_le.1 (abs_value_rounded_sub_le (by linarith : 0 < q))).1
  linarith [quantum_div_le hq]

theorem exists_full (hq : 1 ≤ q) (hlimit : q < limit) :
    ∃ m e, ∃ h : Canonical m e, e ≤ 971 ∧ 2 ^ 52 ≤ m ∧
      rounded .positive q = .finite .positive m e h.pos := by
  have hpos : 0 < q := by linarith
  have hheld := held_rounded hpos.le hlimit
  have hlow := le_value_rounded hq
  rcases rounded_cases hpos rfl with ⟨-, hzero⟩ | ⟨m, e, h, hrounded, -, -⟩
  · rw [hzero] at hlow
    have : q / 2 ≤ 0 := hlow
    linarith
  rw [hrounded] at hheld hlow
  have hle : e ≤ 971 := by
    cases hheld
    assumption
  refine ⟨m, e, h, hle, h.full.resolve_right ?_, hrounded⟩
  rintro rfl
  have hsmall : (m : ℚ) * 2 ^ (-1074 : ℤ) < 1 / 2 := calc
    (m : ℚ) * 2 ^ (-1074 : ℤ) < 2 ^ 53 * 2 ^ (-1074 : ℤ) :=
      mul_lt_mul_of_pos_right (by exact_mod_cast h.lt) (by positivity)
    _ = 2 ^ (53 + -1074 : ℤ) := two_zpow_mul 53 (-1074)
    _ ≤ 2 ^ (-1 : ℤ) := zpow_le_zpow_right₀ one_le_two (by decide)
    _ = 1 / 2 := by norm_num
  have hlarge : q / 2 ≤ (m : ℚ) * 2 ^ (-1074 : ℤ) := hlow
  linarith only [hq, hsmall, hlarge]

end One

end RecordApps.Binary
