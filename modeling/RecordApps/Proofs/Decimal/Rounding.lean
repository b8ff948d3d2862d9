import Mathlib

/-! # Rounding to binary floating point

Floats are computed with by a mantissa, an exponent and two bits that say what has been shifted out
of the mantissa. The two bits and the mantissa are those of a rational number, so a rounded product
or quotient depends on its value alone, and not on the operands it was computed from.
-/

namespace RecordApps.Binary

open Float.Model Float.Model.UnpackedFloat

/-! ## Mantissas with the bits behind them -/

/-- The mantissa of a number and the bits behind it: half a unit, and anything smaller. -/
def extended (x : ℚ) : ExtendedMantissa where
  mantissa := ⌊x⌋₊
  roundBit := decide (1 / 2 ≤ Int.fract x)
  stickyBit := decide (Int.fract x ≠ 0 ∧ Int.fract x ≠ 1 / 2)

theorem extended_add (n : ℕ) {f : ℚ} (h0 : 0 ≤ f) (h1 : f < 1) :
    extended (n + f) = ⟨n, decide (1 / 2 ≤ f), decide (f ≠ 0 ∧ f ≠ 1 / 2)⟩ := by
  have hfract : Int.fract ((n : ℚ) + f) = f := by
    rw [Int.fract_natCast_add, Int.fract_eq_self.2 ⟨h0, h1⟩]
  have hfloor : ⌊(n : ℚ) + f⌋₊ = n := by
    rw [add_comm, Nat.floor_add_natCast h0, Nat.floor_eq_zero.2 h1, zero_add]
  rw [extended, hfract, hfloor]

theorem extended_natCast (n : ℕ) : extended n = ⟨n, false, false⟩ := by
  have h := extended_add n (le_refl (0 : ℚ)) one_pos
  rw [add_zero] at h
  rw [h]
  norm_num

theorem exists_floor_add {x : ℚ} (hx : 0 ≤ x) : ∃ (n : ℕ) (f : ℚ), x = n + f ∧ 0 ≤ f ∧ f < 1 := by
  refine ⟨⌊x⌋₊, x - ⌊x⌋₊, by ring, sub_nonneg.2 (Nat.floor_le hx), ?_⟩
  linarith [Nat.lt_floor_add_one x]

theorem shiftRightOne_add (n : ℕ) {f : ℚ} (h0 : 0 ≤ f) (h1 : f < 1) :
    (extended (n + f)).shiftRightOne = ⟨n / 2, n % 2 != 0, decide (f ≠ 0)⟩ := by
  have hsticky : (1 / 2 ≤ f ∨ f ≠ 0 ∧ f ≠ 1 / 2) ↔ f ≠ 0 := by
    constructor
    · rintro (hhalf | ⟨hzero, -⟩)
      · linarith
      · exact hzero
    · intro hzero
      by_cases hhalf : f = 1 / 2
      · exact .inl hhalf.ge
      · exact .inr ⟨hzero, hhalf⟩
  rw [extended_add n h0 h1, ExtendedMantissa.shiftRightOne, ← Bool.decide_or,
    decide_eq_decide.2 hsticky]

theorem shiftRightOne_extended {x : ℚ} (hx : 0 ≤ x) :
    (extended x).shiftRightOne = extended (x / 2) := by
  obtain ⟨n, f, rfl, h0, h1⟩ := exists_floor_add hx
  rw [shiftRightOne_add n h0 h1]
  obtain ⟨k, rfl | rfl⟩ := Nat.even_or_odd' n
  case inl =>
    have hhalf : ((2 * k : ℕ) + f) / 2 = k + f / 2 := by push_cast; ring
    have hround : ¬1 / 2 ≤ f / 2 := by linarith
    have hsticky : decide (f / 2 ≠ 0 ∧ f / 2 ≠ 1 / 2) = decide (f ≠ 0) :=
      decide_eq_decide.2 ⟨fun h hzero => h.1 (by rw [hzero, zero_div]), fun h =>
        ⟨fun hzero => h (by linarith), fun hone => by linarith⟩⟩
    rw [hhalf, extended_add k (by linarith) (by linarith), decide_eq_false hround,
      hsticky]
    simp
  case inr =>
    have hhalf : ((2 * k + 1 : ℕ) + f) / 2 = k + (1 + f) / 2 := by push_cast; ring
    have hround : 1 / 2 ≤ (1 + f) / 2 := by linarith
    have hsticky : decide ((1 + f) / 2 ≠ 0 ∧ (1 + f) / 2 ≠ 1 / 2) = decide (f ≠ 0) :=
      decide_eq_decide.2 ⟨fun h hzero => h.2 (by rw [hzero, add_zero]), fun h =>
        ⟨fun hzero => by linarith, fun hone => h (by linarith)⟩⟩
    rw [hhalf, extended_add k (by linarith) (by linarith), decide_eq_true hround,
      hsticky]
    simp [Nat.mul_add_div]

theorem shiftRight_extended {x : ℚ} (hx : 0 ≤ x) (n : ℕ) :
    extended x >>> n = extended (x / 2 ^ n) := by
  show n.repeat ExtendedMantissa.shiftRightOne (extended x) = _
  induction n with
  | zero => simp [Nat.repeat]
  | succ n ih =>
      rw [Nat.repeat, ih, shiftRightOne_extended (by positivity), pow_succ, div_div]

theorem ofMantissaAndAccuracy_exact (n : ℕ) :
    ExtendedMantissa.ofMantissaAndAccuracy n .exact = extended n :=
  (extended_natCast n).symm

theorem ofMantissaAndAccuracy_quotient (a : ℕ) {b : ℕ} (hb : 0 < b) :
    ExtendedMantissa.ofMantissaAndAccuracy (a / b) (accuracyOfFraction (a % b) b) =
      extended (a / b) := by
  have hb' : (0 : ℚ) < b := by exact_mod_cast hb
  rw [extended, Nat.floor_div_eq_div, Int.fract_div_natCast_eq_div_natCast_mod]
  generalize a % b = r
  have hhalf : (1 : ℚ) / 2 ≤ r / b ↔ b ≤ 2 * r := by
    rw [div_le_div_iff₀ two_pos hb', one_mul, mul_comm]
    exact_mod_cast Iff.rfl
  have hzero : (r : ℚ) / b = 0 ↔ r = 0 := by
    rw [div_eq_zero_iff, or_iff_left hb'.ne', Nat.cast_eq_zero]
  have htie : (r : ℚ) / b = 1 / 2 ↔ 2 * r = b := by
    rw [div_eq_div_iff hb'.ne' two_ne_zero, one_mul, mul_comm]
    exact_mod_cast Iff.rfl
  simp only [hhalf, ne_eq, hzero, htie]
  rw [accuracyOfFraction]
  split
  case isTrue h =>
    subst h
    simp [ExtendedMantissa.ofMantissaAndAccuracy, hb.ne']
  case isFalse h =>
    rcases lt_trichotomy (2 * r) b with hlt | heq | hgt
    · simp [ExtendedMantissa.ofMantissaAndAccuracy, Nat.compare_eq_lt.2 hlt, h, hlt.ne, hlt]
    · simp [ExtendedMantissa.ofMantissaAndAccuracy, heq]
    · simp [ExtendedMantissa.ofMantissaAndAccuracy, Nat.compare_eq_gt.2 hgt, h, hgt.ne', hgt.le]

/-! ## The exponent of a rounded number -/

/-- The exponent of the last bit of a number that is rounded to 53 bits, and to fewer where it is
    small. -/
def quantum (q : ℚ) : ℤ :=
  max (Int.log 2 q - 52) (-1074)

theorem targetExponent_eq (m : ℕ) (e : ℤ) :
    Format.binary64.targetExponent (totalExponent m e) = max (m.log2 + e - 52) (-1074) := by
  simp only [Format.targetExponent, totalExponent, Format.mantissaBits, Format.minExponent]
  norm_num
  omega

theorem le_log {q : ℚ} {k : ℤ} (h : (2 : ℚ) ^ k ≤ q) : k ≤ Int.log 2 q :=
  (Int.zpow_le_iff_le_log one_lt_two (lt_of_lt_of_le (by positivity) h)).1 h

theorem log_lt {q : ℚ} (hq : 0 < q) {k : ℤ} (h : q < (2 : ℚ) ^ k) : Int.log 2 q < k :=
  (Int.lt_zpow_iff_log_lt one_lt_two hq).1 h

theorem log_eq {q : ℚ} {k : ℤ} (hlow : (2 : ℚ) ^ k ≤ q) (hhigh : q < (2 : ℚ) ^ (k + 1)) :
    Int.log 2 q = k := by
  have h1 := le_log hlow
  have h2 := log_lt (lt_of_lt_of_le (by positivity) hlow) hhigh
  omega

theorem log_mul_zpow {x : ℚ} (hx : 0 < x) (e : ℤ) : Int.log 2 (x * 2 ^ e) = Int.log 2 x + e := by
  refine log_eq ?_ ?_
  · rw [zpow_add₀ two_ne_zero]
    exact mul_le_mul_of_nonneg_right (Int.zpow_log_le_self one_lt_two hx) (by positivity)
  · rw [add_right_comm, zpow_add₀ two_ne_zero]
    exact mul_lt_mul_of_pos_right (Int.lt_zpow_succ_log_self one_lt_two x) (by positivity)

theorem log_natCast {m : ℕ} : Int.log 2 (m : ℚ) = m.log2 := by
  rw [Int.log_natCast, Nat.log2_eq_log_two]

/-- A quotient has as many places as the lengths of its parts say, or one less. -/
theorem le_log_div {m₁ m₂ : ℕ} (h₁ : 0 < m₁) (h₂ : 0 < m₂) :
    (m₁.log2 : ℤ) - m₂.log2 - 1 ≤ Int.log 2 (m₁ / m₂ : ℚ) := by
  refine le_log ?_
  rw [sub_sub, zpow_sub₀ two_ne_zero]
  refine div_le_div₀ (Nat.cast_nonneg m₁) ?_ (Nat.cast_pos.2 h₂) ?_
  · exact_mod_cast Nat.log2_self_le h₁.ne'
  · exact_mod_cast Nat.lt_log2_self.le

/-- A number that is cut off below an exponent is rounded to the same exponent as before. -/
theorem targetExponent_floor {q : ℚ} (hq : 0 < q) {m : ℕ} {e : ℤ} (hm : m = ⌊q / 2 ^ e⌋₊)
    (hzero : m = 0 → e ≤ -1074) :
    Format.binary64.targetExponent (totalExponent m e) = quantum q := by
  have hx : 0 < q / 2 ^ e := by positivity
  have hlog : Int.log 2 q = Int.log 2 (q / 2 ^ e) + e := by
    rw [← log_mul_zpow hx, div_mul_cancel₀ _ (by positivity)]
  rw [targetExponent_eq, quantum]
  rcases Nat.eq_zero_or_pos m with h | h
  · have hsmall : q / 2 ^ e < 1 := Nat.floor_eq_zero.1 (hm.symm.trans h)
    have hneg : Int.log 2 (q / 2 ^ e) < 0 := log_lt hx (by rwa [zpow_zero])
    have he := hzero h
    rw [h, Nat.log2_zero]
    omega
  · have hone : 1 ≤ q / 2 ^ e := Nat.floor_pos.1 (hm ▸ h)
    rw [hlog, Int.log_of_one_le_right _ hone, ← hm, Nat.log2_eq_log_two]

/-! ## Rounding -/

/-- A number rounded to the nearest float, ties to the even mantissa. A mantissa that is rounded up
    to one bit too many is shifted once more. -/
def rounded (sign : Sign) (q : ℚ) : UnpackedFloat :=
  let mantissa := (extended (q / 2 ^ quantum q)).roundedMantissa
  let shifted := shiftToTargetExponent .binary64 mantissa (quantum q) .exact
  if h : shifted.1.mantissa = 0 then .zero sign
  else .finite sign shifted.1.mantissa shifted.2 (Nat.pos_of_ne_zero h)

theorem roundWithAccuracy_eq {q : ℚ} (hq : 0 ≤ q) {m : ℕ} {e : ℤ} {accuracy : Accuracy}
    (hmantissa : ExtendedMantissa.ofMantissaAndAccuracy m accuracy = extended (q / 2 ^ e))
    (hexponent : e ≤ quantum q)
    (htarget : Format.binary64.targetExponent (totalExponent m e) = quantum q) (sign : Sign) :
    roundWithAccuracy .binary64 sign m e accuracy = rounded sign q := by
  have hshift : shiftToTargetExponent .binary64 m e accuracy =
      (extended (q / 2 ^ quantum q), quantum q) := by
    have hsum : e + ((quantum q - e).toNat : ℤ) = quantum q := by omega
    have hscale : q / 2 ^ e / 2 ^ (quantum q - e).toNat = q / 2 ^ quantum q := by
      rw [div_div, ← zpow_natCast, ← zpow_add₀ two_ne_zero, hsum]
    rw [shiftToTargetExponent, htarget, shiftToExponent]
    simp only [hmantissa, hsum]
    rw [shiftRight_extended (by positivity), hscale]
  rw [roundWithAccuracy, hshift]
  rfl

theorem mul_eq_rounded (s₁ s₂ : Sign) {m₁ m₂ : ℕ} {e₁ e₂ : ℤ} (h₁ : 0 < m₁) (h₂ : 0 < m₂)
    {q : ℚ} (hq : q = m₁ * m₂ * 2 ^ (e₁ + e₂)) (hexponent : e₁ + e₂ ≤ quantum q) :
    mul .binary64 (.finite s₁ m₁ e₁ h₁) (.finite s₂ m₂ e₂ h₂) = rounded (s₁ * s₂) q := by
  have hpos : 0 < m₁ * m₂ := Nat.mul_pos h₁ h₂
  have hcast : (0 : ℚ) < (m₁ * m₂ : ℕ) := by exact_mod_cast hpos
  have hq' : q = (m₁ * m₂ : ℕ) * 2 ^ (e₁ + e₂) := by rw [hq]; push_cast; rfl
  have hscale : q / 2 ^ (e₁ + e₂) = (m₁ * m₂ : ℕ) := by
    rw [hq', mul_div_cancel_right₀ _ (by positivity)]
  have hqpos : 0 < q := by rw [hq']; positivity
  refine roundWithAccuracy_eq hqpos.le ?_ hexponent ?_ _
  · rw [ofMantissaAndAccuracy_exact, hscale]
  · exact targetExponent_floor hqpos (by rw [hscale, Nat.floor_natCast]) fun h => by omega

theorem div_eq_rounded (s₁ s₂ : Sign) {m₁ m₂ : ℕ} {e₁ e₂ : ℤ} (h₁ : 0 < m₁) (h₂ : 0 < m₂)
    {q : ℚ} (hq : q = m₁ / m₂ * 2 ^ (e₁ - e₂)) :
    div .binary64 (.finite s₁ m₁ e₁ h₁) (.finite s₂ m₂ e₂ h₂) = rounded (s₁ / s₂) q := by
  have hm₁ : (0 : ℚ) < m₁ := by exact_mod_cast h₁
  have hm₂ : (0 : ℚ) < m₂ := by exact_mod_cast h₂
  have hqpos : 0 < q := by rw [hq]; positivity
  have hlog : (m₁.log2 : ℤ) - m₂.log2 - 1 + (e₁ - e₂) ≤ Int.log 2 q := by
    rw [hq, log_mul_zpow (div_pos hm₁ hm₂)]
    exact add_le_add_left (le_log_div h₁ h₂) _
  have htarget : Format.binary64.targetExponent (totalExponent m₁ e₁ - totalExponent m₂ e₂) =
      max ((m₁.log2 : ℤ) - m₂.log2 + (e₁ - e₂) - 53) (-1074) := by
    simp only [Format.targetExponent, totalExponent, Format.mantissaBits, Format.minExponent]
    norm_num
    omega
  rw [UnpackedFloat.div, divCore, htarget]
  generalize ht : min (e₁ - e₂) (max ((m₁.log2 : ℤ) - m₂.log2 + (e₁ - e₂) - 53) (-1074)) = t
  dsimp only
  have hscale : q / 2 ^ t = (m₁ <<< (e₁ - e₂ - t).toNat : ℕ) / m₂ := by
    have hshift : (2 : ℚ) ^ (e₁ - e₂) = 2 ^ (e₁ - e₂ - t).toNat * 2 ^ t := by
      rw [← zpow_natCast, ← zpow_add₀ two_ne_zero]
      congr 1
      omega
    rw [hq, Nat.shiftLeft_eq, hshift, ← mul_assoc, mul_div_cancel_right₀ _ (by positivity)]
    push_cast
    ring
  have hexponent : t ≤ quantum q := by
    rw [quantum]
    omega
  refine roundWithAccuracy_eq hqpos.le ?_ hexponent ?_ _
  · rw [ofMantissaAndAccuracy_quotient _ h₂, hscale]
  · refine targetExponent_floor hqpos (by rw [hscale, Nat.floor_div_eq_div]) fun h => ?_
    have hsmall : q < 2 ^ t := by
      rw [← div_lt_one (by positivity : (0 : ℚ) < 2 ^ t), hscale, div_lt_one hm₂]
      exact_mod_cast (Nat.div_eq_zero_iff_lt h₂).1 h
    have hlow := log_lt hqpos hsmall
    omega

/-! ## Numbers that floats can hold, and others -/

/-- The mantissa and the exponent of a positive float: 53 bits, or fewer at the least exponent. -/
structure Canonical (m : ℕ) (e : ℤ) : Prop where
  pos : 0 < m
  lt : m < 2 ^ 53
  least_le : -1074 ≤ e
  full : 2 ^ 52 ≤ m ∨ e = -1074

theorem Canonical.targetExponent {m : ℕ} {e : ℤ} (h : Canonical m e) :
    max ((m.log2 : ℤ) + e - 52) (-1074) = e := by
  have hlt : m.log2 < 53 := (Nat.log2_lt h.pos.ne').2 h.lt
  have hleast := h.least_le
  rcases h.full with hfull | hleast'
  · have hge : 52 ≤ m.log2 := (Nat.le_log2 h.pos.ne').2 hfull
    omega
  · omega

theorem Canonical.quantum_eq {m : ℕ} {e : ℤ} (h : Canonical m e) : quantum (m * 2 ^ e) = e := by
  have hm : (0 : ℚ) < m := by exact_mod_cast h.pos
  rw [quantum, log_mul_zpow hm, log_natCast, h.targetExponent]

theorem shiftToTargetExponent_exact {m n : ℕ} {e : ℤ}
    (hn : (max ((m.log2 : ℤ) + e - 52) (-1074) - e).toNat = n) :
    shiftToTargetExponent .binary64 m e .exact = (extended (m / 2 ^ n), e + n) := by
  rw [shiftToTargetExponent, targetExponent_eq, shiftToExponent, hn, ofMantissaAndAccuracy_exact,
    shiftRight_extended (by positivity)]

theorem shiftToTargetExponent_of_le {m : ℕ} {e : ℤ}
    (h : max ((m.log2 : ℤ) + e - 52) (-1074) ≤ e) :
    shiftToTargetExponent .binary64 m e .exact = (extended m, e) := by
  rw [shiftToTargetExponent_exact (Int.toNat_of_nonpos (by omega)), pow_zero, div_one,
    Nat.cast_zero, add_zero]

theorem roundedMantissa_below (m : ℕ) (sticky : Bool) :
    (ExtendedMantissa.mk m false sticky).roundedMantissa = m := by
  cases sticky <;> rfl

theorem roundedMantissa_natCast (m : ℕ) : (extended m).roundedMantissa = m := by
  rw [extended_natCast, roundedMantissa_below]

theorem Canonical.rounded_eq {m : ℕ} {e : ℤ} (h : Canonical m e) (sign : Sign) :
    rounded sign (m * 2 ^ e) = .finite sign m e h.pos := by
  have hshift := shiftToTargetExponent_of_le h.targetExponent.le
  have hscale : (m : ℚ) * 2 ^ e / 2 ^ e = m := mul_div_cancel_right₀ _ (by positivity)
  simp only [rounded, h.quantum_eq, hscale, roundedMantissa_natCast, hshift]
  rw [dif_neg]
  · simp [extended_natCast]
  · simpa [extended_natCast] using h.pos.ne'

theorem rounded_tiny {q : ℚ} (h0 : 0 < q) (hq : q < 2 ^ (-1075 : ℤ)) (sign : Sign) :
    rounded sign q = .zero sign := by
  have hlog := log_lt h0 hq
  have hquantum : quantum q = -1074 := by
    rw [quantum]
    omega
  have hhalf : q / 2 ^ (-1074 : ℤ) < 1 / 2 := by
    rw [div_lt_iff₀ (by positivity)]
    refine lt_of_lt_of_eq hq ?_
    rw [one_div, ← zpow_neg_one, ← zpow_add₀ two_ne_zero]
    rfl
  have hx : 0 ≤ q / 2 ^ (-1074 : ℤ) := by positivity
  have hmantissa : (extended (q / 2 ^ (-1074 : ℤ))).roundedMantissa = 0 := by
    have h := extended_add 0 hx (by linarith)
    rw [Nat.cast_zero, zero_add] at h
    rw [h, decide_eq_false (not_le.2 hhalf), roundedMantissa_below]
  have hshift : shiftToTargetExponent .binary64 0 (-1074) .exact = (⟨0, false, false⟩, -1074) := by
    rw [shiftToTargetExponent_of_le (by decide), extended_natCast]
  simp only [rounded, hquantum, hmantissa, hshift]
  rw [dif_pos trivial]

theorem le_roundedMantissa (x : ℚ) : ⌊x⌋₊ ≤ (extended x).roundedMantissa := by
  rw [extended]
  generalize ⌊x⌋₊ = m
  generalize decide (1 / 2 ≤ Int.fract x) = round
  generalize decide (Int.fract x ≠ 0 ∧ Int.fract x ≠ 1 / 2) = sticky
  cases round <;> cases sticky <;>
    simp only [ExtendedMantissa.roundedMantissa, ExtendedMantissa.accuracy,
      Accuracy.roundToNearestEven] <;>
    omega

/-- What is beyond the largest float by a bit has an exponent beyond those of floats. -/
theorem rounded_huge {q : ℚ} (hq : 2 ^ (1024 : ℤ) ≤ q) (sign : Sign) :
    ∃ m e h, rounded sign q = .finite sign m e h ∧ 972 ≤ e := by
  have hpos : 0 < q := lt_of_lt_of_le (by positivity) hq
  have hlog := le_log hq
  have hquantum : quantum q = Int.log 2 q - 52 := by
    rw [quantum]
    omega
  generalize hr : (extended (q / 2 ^ quantum q)).roundedMantissa = r
  have hfull : 2 ^ 52 ≤ r := by
    rw [← hr]
    refine le_trans (Nat.le_floor ?_) (le_roundedMantissa _)
    rw [le_div_iff₀ (by positivity), hquantum, Nat.cast_pow, Nat.cast_two, ← zpow_natCast,
      ← zpow_add₀ two_ne_zero]
    refine (Int.zpow_log_le_self one_lt_two hpos).trans_eq' ?_
    congr 1
    ring
  have hlog2 : 52 ≤ r.log2 := (Nat.le_log2 (by omega)).2 hfull
  have hshift := shiftToTargetExponent_exact (m := r) (e := quantum q) (n := r.log2 - 52) (by omega)
  have hmantissa : (extended (r / 2 ^ (r.log2 - 52))).mantissa ≠ 0 := by
    refine (Nat.floor_pos.2 ?_).ne'
    rw [le_div_iff₀ (by positivity), one_mul]
    exact_mod_cast (Nat.pow_le_pow_right two_pos (Nat.sub_le ..)).trans
      (Nat.log2_self_le (by omega : r ≠ 0))
  refine ⟨_, quantum q + (r.log2 - 52 : ℕ), Nat.pos_of_ne_zero hmantissa, ?_, by omega⟩
  simp only [rounded, hr, hshift]
  rw [dif_neg hmantissa]

end RecordApps.Binary
