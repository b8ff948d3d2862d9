import RecordApps.Proofs.Decimal.Nearest

/-! # Decimal numbers found for floats

The decimal found for a finite float reads back as its magnitude, whether one of the short ones was
taken or all digits were written out. Together with the sign this is the float.
-/

namespace RecordApps

open Float.Model Float.Model.UnpackedFloat Binary

theorem Scientific.trimZeros_value (fuel : ℕ) (d : Scientific) :
    (d.trimZeros fuel).value = d.value := by
  induction fuel generalizing d with
  | zero => rfl
  | succ fuel ih =>
      rw [trimZeros]
      split
      case isTrue h =>
        have hcoefficient : (d.coefficient : ℚ) = (d.coefficient / 10 : ℕ) * 10 := by
          exact_mod_cast (Nat.div_mul_cancel (Nat.dvd_of_mod_eq_zero h.2)).symm
        rw [ih, value, value, hcoefficient, zpow_add_one₀ (by norm_num)]
        ring
      case isFalse => rfl

theorem Scientific.normalize_value (d : Scientific) : d.normalize.value = d.value :=
  trimZeros_value ..

theorem Dyadic.toScientific_value (d : Dyadic) :
    d.toScientific.value = d.mantissa * 2 ^ d.exponent := by
  obtain ⟨m, e | e⟩ := d
  · simp [toScientific, Scientific.value]
  · simp only [toScientific, Scientific.value, Nat.pow_eq, zpow_negSucc]
    have hten : (10 : ℚ) ^ (e + 1) = 5 ^ (e + 1) * 2 ^ (e + 1) := by
      rw [← mul_pow]
      norm_num
    rw [hten]
    push_cast
    field_simp

theorem toFloat_toScientific {m : ℕ} {e : ℤ} (h : Canonical m e) :
    (Dyadic.toScientific ⟨m, e⟩).toFloat = toFloat (.finite .positive m e h.pos) := by
  rw [Scientific.toFloat_eq_rounded, Dyadic.toScientific_value, h.rounded_eq]

/-- The decimal number of a finite float reads back as the magnitude of the float. -/
theorem toFloat_shortest {x : Float} (hx : x.isFinite = true) :
    (Decimal.shortest x).toFloat = x.abs := by
  obtain ⟨f, hheld, rfl⟩ := exists_held hx
  rw [abs_toFloat hheld, Decimal.shortest, (ofFloat_toFloat hheld).1]
  cases hheld with
  | zero s =>
      rw [Scientific.toFloat_eq_rounded]
      simp only [magnitude, if_true, Scientific.value, Nat.cast_zero, zero_mul, rounded_zero]
      rfl
  | @finite s m e h hle =>
      have hmantissa : ¬(magnitude (.finite s m e h.pos)).mantissa = 0 := h.pos.ne'
      rw [if_neg hmantissa, Scientific.toFloat_congr (Scientific.normalize_value _)]
      cases hfound : List.findSome? _ _ with
      | none => exact toFloat_toScientific h
      | some d =>
          obtain ⟨more, -, hfind⟩ := List.exists_of_findSome?_eq_some hfound
          have hreads := List.find?_some hfind
          rw [abs_toFloat (.finite s h hle)] at hreads
          exact Binary.eq_of_beq h hle hreads

theorem shortest_eq_zero {x : Float} (hx : x.isFinite = true)
    (h : (Decimal.shortest x).coefficient = 0) : Decimal.shortest x = ⟨0, 0⟩ := by
  have hread := toFloat_shortest hx
  rw [Scientific.toFloat_eq_rounded, Scientific.value, h, Nat.cast_zero, zero_mul, rounded_zero]
    at hread
  obtain ⟨f, hheld, rfl⟩ := exists_held hx
  cases hheld with
  | zero s =>
      rw [Decimal.shortest, (ofFloat_toFloat (.zero s)).1]
      exact if_pos rfl
  | finite s hcanonical hle =>
      have hunpack := unpack_toFloat (.finite .positive hcanonical hle)
      have hsame : toFloat (.zero .positive) = toFloat (.finite .positive _ _ hcanonical.pos) :=
        hread.trans (abs_toFloat (.finite s hcanonical hle))
      rw [← hsame, unpack_toFloat (.zero _)] at hunpack
      cases hunpack

theorem sign_abs {x : Float} (hx : x.isFinite = true) :
    (if Decimal.isNegative x then -x.abs else x.abs) = x := by
  obtain ⟨f, hheld, rfl⟩ := exists_held hx
  rw [(ofFloat_toFloat hheld).2, abs_toFloat hheld]
  obtain ⟨_ | _⟩ | ⟨_ | _, h, hle⟩ := hheld
  · exact neg_toFloat (.zero .positive)
  · rfl
  · exact neg_toFloat (.finite .positive h hle)
  · rfl

end RecordApps
