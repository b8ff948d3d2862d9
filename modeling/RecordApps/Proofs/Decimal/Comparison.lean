import RecordApps.Proofs.Decimal.Nearest

/-! # Comparing floats

Floats compare by what they hold. Numbers that compare equal are the same float, but for the sign of
zero. A whole number is a float that equals itself, whatever its size; whole numbers of at most 53
bits are held exactly, so that they are the same if their floats compare equal.
-/

namespace RecordApps.Binary

open Float.Model Float.Model.UnpackedFloat

/-! ## Packed numbers -/

theorem unpack_packComponents_ne (s : Sign) {E : BitVec 11} {M : BitVec 52}
    (h : E ≠ -1#11 ∨ M = 0#52) :
    unpack .binary64 (packComponents .binary64 s E M) ≠ .notANumber := by
  rw [unpack_packComponents]
  split_ifs <;> simp_all

theorem unpack_pack_ne {f : UnpackedFloat} (h : f ≠ .notANumber) :
    unpack .binary64 (UnpackedFloat.pack .binary64 f) ≠ .notANumber := by
  cases f with
  | notANumber => exact absurd rfl h
  | infinity s => exact unpack_packComponents_ne s (.inr rfl)
  | zero s => exact unpack_packComponents_ne s (.inr rfl)
  | finite s m e hpos =>
      rw [UnpackedFloat.pack]
      dsimp only
      split_ifs with hhuge
      · exact unpack_packComponents_ne s (.inr rfl)
      · refine unpack_packComponents_ne s (.inl fun hones => ?_)
        have hsmall := not_le.1 hhuge
        have hbits := congrArg BitVec.toNat hones
        rw [BitVec.toNat_ofNat, Nat.mod_eq_of_lt (Nat.lt_of_succ_lt hsmall)] at hbits
        rw [hbits] at hsmall
        exact absurd hsmall (by decide)
      · exact unpack_packComponents_ne s (.inl (by decide))

theorem rounded_ne (s : Sign) (q : ℚ) : rounded s q ≠ .notANumber := by
  rw [rounded]
  split_ifs <;> simp

theorem neg_ne {f : UnpackedFloat} (h : f ≠ .notANumber) : f.neg ≠ .notANumber := by
  cases f with
  | notANumber => exact absurd rfl h
  | infinity | zero | finite => simp [UnpackedFloat.neg]

/-! ## Equal floats -/

theorem beq_iff {x y : Float} :
    (x == y) = true ↔ x.toModel.unpack ≠ .notANumber ∧ y.toModel.unpack ≠ .notANumber ∧
      (x.toModel.unpack = y.toModel.unpack ∨
        x.toModel.unpack = .zero .positive ∧ y.toModel.unpack = .zero .negative ∨
        x.toModel.unpack = .zero .negative ∧ y.toModel.unpack = .zero .positive) :=
  beq_iff_ne_notANumber_and_eq x.toModel.unpack y.toModel.unpack

theorem beq_self {x : Float} (h : x.toModel.unpack ≠ .notANumber) : (x == x) = true :=
  beq_iff.2 ⟨h, h, .inl rfl⟩

theorem beq_self_of_isFinite {x : Float} (h : x.isFinite = true) : (x == x) = true := by
  refine beq_self fun hnone => ?_
  rw [Float.isFinite, Float.Model.isFinite, hnone] at h
  cases h

theorem eq_of_beq_of_ne_zero {x y : Float} (hx : (x == 0.0) = false) (h : (x == y) = true) :
    x = y := by
  have hzero (s : Sign) : (toFloat (.zero s) == 0.0) = true := by cases s <;> rfl
  obtain ⟨-, -, hsame | ⟨hheld, -⟩ | ⟨hheld, -⟩⟩ := beq_iff.1 h
  · rw [← toFloat_unpack x, hsame, toFloat_unpack]
  all_goals
    rw [← toFloat_unpack x, hheld, hzero] at hx
    cases hx

/-! ## Whole numbers -/

theorem ofNat_eq_rounded (n : ℕ) : Float.ofNat n = toFloat (rounded .positive n) := by
  refine (Scientific.ofScientific_eq_rounded n false 0).trans ?_
  simp

theorem ofInt_beq_self (n : ℤ) : (Float.ofInt n == Float.ofInt n) = true := by
  have hnat (k : ℕ) : (Float.ofNat k).toModel.unpack ≠ .notANumber := by
    rw [ofNat_eq_rounded]
    exact unpack_pack_ne (rounded_ne _ _)
  refine beq_self ?_
  cases n with
  | ofNat k => exact hnat k
  | negSucc k => exact unpack_pack_ne (neg_ne (hnat (k + 1)))

/-- The number that is held, with its sign. -/
def value : UnpackedFloat → ℚ
  | .finite .positive m e _ => m * 2 ^ e
  | .finite .negative m e _ => -(m * 2 ^ e)
  | _ => 0

theorem value_neg (f : UnpackedFloat) : value f.neg = -value f := by
  cases f with
  | finite s m e hpos =>
      cases s with
      | positive => rfl
      | negative => exact (neg_neg _).symm
  | notANumber | infinity | zero => simp [UnpackedFloat.neg, value]

theorem held_neg {f : UnpackedFloat} (h : Held f) : Held f.neg := by
  cases h with
  | zero s => exact .zero (-s)
  | finite s h hle => exact .finite (-s) h hle

theorem exists_held_ofNat {n : ℕ} (h : n < 2 ^ 53) :
    ∃ f, Held f ∧ Float.ofNat n = toFloat f ∧ value f = n := by
  rw [ofNat_eq_rounded]
  rcases Nat.eq_zero_or_pos n with rfl | hpos
  · refine ⟨.zero .positive, .zero _, ?_, Nat.cast_zero.symm⟩
    rw [Nat.cast_zero, rounded_zero]
  · have hlog : n.log2 < 53 := (Nat.log2_lt hpos.ne').2 h
    obtain ⟨hcanonical, -, hvalue⟩ := exists_canonical (e := 0) hpos h (by omega)
    rw [zpow_zero, mul_one] at hvalue
    refine ⟨_, .finite .positive hcanonical (by omega), ?_, hvalue⟩
    rw [← hvalue, hcanonical.rounded_eq]

theorem exists_held_ofInt {n : ℤ} (h : n.natAbs < 2 ^ 53) :
    ∃ f, Held f ∧ Float.ofInt n = toFloat f ∧ value f = n := by
  cases n with
  | ofNat k => exact exists_held_ofNat h
  | negSucc k =>
      obtain ⟨f, hheld, hfloat, hvalue⟩ := exists_held_ofNat h
      refine ⟨f.neg, held_neg hheld, ?_, ?_⟩
      · rw [← neg_toFloat hheld, ← hfloat]
        rfl
      · rw [value_neg, hvalue]
        simp

theorem eq_of_ofInt_beq {a b : ℤ} (ha : a.natAbs < 2 ^ 53) (hb : b.natAbs < 2 ^ 53)
    (h : (Float.ofInt a == Float.ofInt b) = true) : a = b := by
  obtain ⟨f, hf, hfloat, hvalue⟩ := exists_held_ofInt ha
  obtain ⟨g, hg, hfloat', hvalue'⟩ := exists_held_ofInt hb
  rw [hfloat, hfloat', beq_iff, unpack_toFloat hf, unpack_toFloat hg] at h
  have hsame : value f = value g := by
    obtain ⟨-, -, rfl | ⟨rfl, rfl⟩ | ⟨rfl, rfl⟩⟩ := h <;> rfl
  rw [hvalue, hvalue'] at hsame
  exact_mod_cast hsame

end RecordApps.Binary
