import RecordApps.Proofs.Decimal.Comparison

/-! # Zeros of either sign

Zero has a sign, but floats compare as if there were one zero only. Arithmetic agrees with that, as
long as nothing is divided by zero: operands that are the same but for the sign of zero have results
that are.
-/

namespace RecordApps.Binary

open Float.Model Float.Model.UnpackedFloat

/-! ## Operations -/

theorem sub_eq_add (f g : UnpackedFloat) :
    UnpackedFloat.sub .binary64 f g = UnpackedFloat.add .binary64 f g.neg := by
  cases f with
  | notANumber => rfl
  | infinity | zero => cases g <;> rfl
  | finite s m e hpos =>
      cases g with
      | notANumber | infinity | zero => rfl
      | finite t n k hpos' =>
          have happly (i : ℤ) : (-t).apply i = -t.apply i := by cases t <;> simp [Sign.apply]
          simp only [UnpackedFloat.sub, UnpackedFloat.add, UnpackedFloat.neg, happly,
            Int.sub_eq_add_neg]

/-- The same but for the sign of zero. -/
inductive Alike : UnpackedFloat → UnpackedFloat → Prop where
  | refl (f : UnpackedFloat) : Alike f f
  | zero (s s' : Sign) : Alike (.zero s) (.zero s')

namespace Alike

variable {f f' g g' h : UnpackedFloat}

theorem trans (hfg : Alike f g) (hgh : Alike g h) : Alike f h := by
  cases hfg with
  | refl => exact hgh
  | zero s s' =>
      cases hgh with
      | refl => exact .zero s s'
      | zero _ s'' => exact .zero s s''

theorem neg (hf : Alike f f') : Alike f.neg f'.neg := by
  cases hf with
  | refl => exact .refl _
  | zero s s' => exact .zero (-s) (-s')

theorem map₂ {op : UnpackedFloat → UnpackedFloat → UnpackedFloat}
    (hleft : ∀ s s' g, Alike (op (.zero s) g) (op (.zero s') g))
    (hright : ∀ f s s', Alike (op f (.zero s)) (op f (.zero s'))) (hf : Alike f f')
    (hg : Alike g g') : Alike (op f g) (op f' g') := by
  have hfirst : Alike (op f g) (op f' g) := by
    cases hf with
    | refl => exact .refl _
    | zero s s' => exact hleft s s' g
  refine hfirst.trans ?_
  cases hg with
  | refl => exact .refl _
  | zero s s' => exact hright f' s s'

theorem add (hf : Alike f f') (hg : Alike g g') :
    Alike (UnpackedFloat.add .binary64 f g) (UnpackedFloat.add .binary64 f' g') := by
  have hzeros (s t s' t' : Sign) : Alike (UnpackedFloat.add .binary64 (.zero s) (.zero t))
      (UnpackedFloat.add .binary64 (.zero s') (.zero t')) := by
    cases s <;> cases t <;> cases s' <;> cases t' <;> exact .zero _ _
  refine map₂ (fun s s' g => ?_) (fun f s s' => ?_) hf hg
  · cases g with
    | zero t => exact hzeros s t s' t
    | notANumber | infinity | finite => exact .refl _
  · cases f with
    | zero t => exact hzeros t s t s'
    | notANumber | infinity | finite => exact .refl _

theorem sub (hf : Alike f f') (hg : Alike g g') :
    Alike (UnpackedFloat.sub .binary64 f g) (UnpackedFloat.sub .binary64 f' g') := by
  rw [sub_eq_add, sub_eq_add]
  exact hf.add hg.neg

theorem mul (hf : Alike f f') (hg : Alike g g') :
    Alike (UnpackedFloat.mul .binary64 f g) (UnpackedFloat.mul .binary64 f' g') := by
  refine map₂ (fun s s' g => ?_) (fun f s s' => ?_) hf hg
  · cases g with
    | zero | finite => exact .zero _ _
    | notANumber | infinity => exact .refl _
  · cases f with
    | zero | finite => exact .zero _ _
    | notANumber | infinity => exact .refl _

theorem div (hf : Alike f f') (hzero : ∀ s, g ≠ .zero s) :
    Alike (UnpackedFloat.div .binary64 f g) (UnpackedFloat.div .binary64 f' g) := by
  cases hf with
  | refl => exact .refl _
  | zero s s' =>
      cases g with
      | zero t => exact absurd rfl (hzero t)
      | finite | infinity => exact .zero _ _
      | notANumber => exact .refl _

end Alike

/-! ## Floats -/

/-- The same float but for the sign of zero. -/
inductive Same : Float → Float → Prop where
  | refl (x : Float) : Same x x
  | zero (s s' : Sign) : Same (toFloat (.zero s)) (toFloat (.zero s'))

theorem Alike.same {f g : UnpackedFloat} (h : Alike f g) : Same (toFloat f) (toFloat g) := by
  cases h with
  | refl => exact .refl _
  | zero s s' => exact .zero s s'

namespace Same

variable {x x' y y' : Float}

theorem alike (h : Same x y) : Alike x.toModel.unpack y.toModel.unpack := by
  cases h with
  | refl => exact .refl _
  | zero s s' =>
      rw [unpack_toFloat (.zero s), unpack_toFloat (.zero s')]
      exact .zero s s'

theorem neg (hx : Same x x') : Same (-x) (-x') :=
  hx.alike.neg.same

theorem add (hx : Same x x') (hy : Same y y') : Same (x + y) (x' + y') :=
  (hx.alike.add hy.alike).same

theorem sub (hx : Same x x') (hy : Same y y') : Same (x - y) (x' - y') :=
  (hx.alike.sub hy.alike).same

theorem mul (hx : Same x x') (hy : Same y y') : Same (x * y) (x' * y') :=
  (hx.alike.mul hy.alike).same

theorem zero_beq (s : Sign) : (toFloat (.zero s) == 0.0) = true := by
  cases s <;> rfl

theorem div (hx : Same x x') (hy : Same y y') (hzero : (y == 0.0) = false) :
    Same (x / y) (x' / y') := by
  cases hy with
  | zero s s' =>
      rw [zero_beq] at hzero
      cases hzero
  | refl =>
      refine (hx.alike.div fun s hs => ?_).same
      rw [← toFloat_unpack y, hs, zero_beq] at hzero
      cases hzero

theorem beq_zero (h : Same x y) : (x == 0.0) = (y == 0.0) := by
  cases h with
  | refl => rfl
  | zero s s' => rw [zero_beq, zero_beq]

theorem isFinite_eq (h : Same x y) : x.isFinite = y.isFinite := by
  cases h with
  | refl => rfl
  | zero s s' => rw [isFinite_toFloat (.zero s), isFinite_toFloat (.zero s')]

theorem of_beq (h : (x == y) = true) : Same x y := by
  obtain ⟨-, -, hsame | ⟨hx, hy⟩ | ⟨hx, hy⟩⟩ := beq_iff.1 h
  · rw [← toFloat_unpack x, hsame, toFloat_unpack]
    exact .refl y
  all_goals
    rw [← toFloat_unpack x, ← toFloat_unpack y, hx, hy]
    exact .zero _ _

theorem beq (h : Same x y) (hfinite : x.isFinite = true) : (x == y) = true := by
  cases h with
  | refl => exact beq_self_of_isFinite hfinite
  | zero s s' => cases s <;> cases s' <;> rfl

end Same

end RecordApps.Binary
