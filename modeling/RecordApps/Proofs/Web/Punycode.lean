import Mathlib.Data.List.Basic
import Mathlib.Tactic.Ring
import RecordApps.Proofs.Outcome
import RecordApps.Proofs.Text.Words
import RecordApps.Web.Punycode

/-! # Punycode is unambiguous

A spelling is a sequence of numbers, each of which inserts a character into the ASCII characters of
a label. A number is spelled in one way only, because its digits tell where it ends. Characters are
inserted in ascending order, and equal ones from left to right, so that the label itself shows which
of them came last. It follows that no two spellings stand for the same label.
-/

namespace RecordApps.Web.Punycode

/-! ## Numbers -/

theorem digit?_eq_some {c : Char} {d : Nat} :
    digit? c = some d ↔
      97 ≤ c.toNat ∧ c.toNat ≤ 122 ∧ d = c.toNat - 97 ∨
        48 ≤ c.toNat ∧ c.toNat ≤ 57 ∧ d = c.toNat - 22 := by
  have hletter : 'a' ≤ c ∧ c ≤ 'z' ↔ 97 ≤ c.toNat ∧ c.toNat ≤ 122 := Iff.rfl
  have hdigit : c.isDigit = true ↔ 48 ≤ c.toNat ∧ c.toNat ≤ 57 := by
    rw [Char.isDigit, Bool.and_eq_true, decide_eq_true_iff, decide_eq_true_iff]
    rfl
  simp only [digit?, hletter, hdigit]
  split_ifs with hlow hhigh
  · rw [Option.some.injEq]
    omega
  · rw [Option.some.injEq]
    omega
  · simp only [false_iff]
    omega

theorem digit?_injective {c c' : Char} {d : Nat} (h : digit? c = some d) (h' : digit? c' = some d) :
    c = c' := by
  rw [digit?_eq_some] at h h'
  have hsame : c.toNat = c'.toNat := by omega
  exact Char.toNat_inj.1 hsame

theorem digit?_lt {c : Char} {d : Nat} (h : digit? c = some d) : d < 36 := by
  rw [digit?_eq_some] at h
  omega

theorem threshold_le (bias step : Nat) : threshold bias step ≤ 26 := by
  rw [threshold]
  split_ifs
  · decide
  · exact Nat.min_le_left _ _

/-- Digits that spell a number, the first of them at a position. -/
inductive Numeral (bias : Nat) : (step : Nat) → List Char → Nat → Prop where
  | last {step d : Nat} {c : Char} :
      digit? c = some d → d < threshold bias step → Numeral bias step [c] d
  | more {step d value : Nat} {c : Char} {ds : List Char} :
      digit? c = some d → threshold bias step ≤ d → Numeral bias (step + 36) ds value →
      Numeral bias step (c :: ds) (d + (36 - threshold bias step) * value)

theorem Numeral.unique {bias step value value' : Nat} {ds es : List Char}
    (h : Numeral bias step ds value) (h' : Numeral bias step es value') (heq : value = value') :
    ds = es := by
  induction h generalizing es value' with
  | last hc hd =>
      cases h' with
      | last hc' => rw [digit?_injective hc (heq ▸ hc')]
      | more hc' hd' => omega
  | @more step d value c ds hc hd _ ih =>
      cases h' with
      | last hc' hd' => omega
      | @more _ d' value' c' _ hc' hd' hrest =>
          have hfew := threshold_le bias step
          have hlt := digit?_lt hc
          have hlt' := digit?_lt hc'
          have hdigits : d = d' := by
            have hmod := congrArg (· % (36 - threshold bias step))
              (show d - threshold bias step + (36 - threshold bias step) * value =
                d' - threshold bias step + (36 - threshold bias step) * value' by omega)
            simp only [Nat.add_mul_mod_self_left] at hmod
            rw [Nat.mod_eq_of_lt (by omega), Nat.mod_eq_of_lt (by omega)] at hmod
            omega
          subst hdigits
          have hvalues : value = value' :=
            Nat.eq_of_mul_eq_mul_left (by omega) (Nat.add_left_cancel heq)
          rw [digit?_injective hc hc', ih hrest hvalues]

/-! ## Insertions -/

/-- A greatest number that is followed by smaller ones only parts a list in one way. -/
theorem eq_of_greatest {front back front' back' : List Nat} {c c' : Nat}
    (h : front ++ c :: back = front' ++ c' :: back') (hfront : ∀ code ∈ front, code ≤ c)
    (hback : ∀ code ∈ back, code < c) (hfront' : ∀ code ∈ front', code ≤ c')
    (hback' : ∀ code ∈ back', code < c') : front = front' ∧ c = c' ∧ back = back' := by
  have hle : ∀ code ∈ front ++ c :: back, code ≤ c := by
    rw [List.forall_mem_append, List.forall_mem_cons]
    exact ⟨hfront, le_rfl, fun code hmem => (hback code hmem).le⟩
  have hle' : ∀ code ∈ front' ++ c' :: back', code ≤ c' := by
    rw [List.forall_mem_append, List.forall_mem_cons]
    exact ⟨hfront', le_rfl, fun code hmem => (hback' code hmem).le⟩
  obtain rfl : c = c' := le_antisymm (hle' c (h ▸ by simp)) (hle c' (h.symm ▸ by simp))
  obtain ⟨z, rfl, hz⟩ | ⟨z, rfl, hz⟩ := List.append_eq_append_iff.1 h
  · cases z with
    | nil => exact ⟨(List.append_nil _).symm, rfl, (List.cons.inj hz).2⟩
    | cons d z =>
        have hrest : back = z ++ c :: back' := (List.cons.inj hz).2
        exact absurd (hback c (by simp [hrest])) (lt_irrefl c)
  · cases z with
    | nil => exact ⟨List.append_nil _, rfl, (List.cons.inj hz).2.symm⟩
    | cons d z =>
        have hrest : back' = z ++ c :: back := (List.cons.inj hz).2
        exact absurd (hback' c (by simp [hrest])) (lt_irrefl c)

namespace Reading

variable {r r' mid : Reading} {index : Nat}

/-- Between two numbers. -/
structure Idle (r : Reading) : Prop where
  step : r.step = 36
  weight : r.weight = 1
  start : r.start = r.index

/-- The characters so far are not above the one that was inserted last, and those behind the place
    of the next insertion are below it. -/
structure Ascending (r : Reading) : Prop where
  upTo : ∀ code ∈ r.output, code ≤ r.code
  behind : ∀ code ∈ r.output.drop r.index, code < r.code

theorem insert_eq_some (h : r.insert index = some r') :
    r'.Idle ∧ r'.code = r.code + index / (r.output.length + 1) ∧
      r'.index = index % (r.output.length + 1) + 1 ∧
      r'.output = r.output.take (index % (r.output.length + 1)) ++
        r'.code :: r.output.drop (index % (r.output.length + 1)) := by
  rw [insert] at h
  split_ifs at h
  obtain rfl := Option.some.inj h
  exact ⟨⟨rfl, rfl, rfl⟩, rfl, rfl, rfl⟩

/-- A character that is inserted stands behind all others of its kind, and none is above it. -/
theorem Ascending.insert (h : r.Ascending) (hindex : r.index ≤ index)
    (hinsert : r.insert index = some r') :
    ∃ front back, r.output = front ++ back ∧ r'.output = front ++ r'.code :: back ∧
      r'.index = front.length + 1 ∧ (∀ code ∈ front, code ≤ r'.code) ∧
      ∀ code ∈ back, code < r'.code := by
  obtain ⟨-, hcode, hplace, houtput⟩ := insert_eq_some hinsert
  have hle : index % (r.output.length + 1) ≤ r.output.length :=
    Nat.le_of_lt_succ (Nat.mod_lt _ (Nat.succ_pos _))
  refine ⟨_, _, (List.take_append_drop _ _).symm, houtput, ?_, ?_, ?_⟩
  · rw [hplace, List.length_take_of_le hle]
  · intro code hmem
    rw [hcode]
    exact (h.upTo code (List.mem_of_mem_take hmem)).trans (Nat.le_add_right _ _)
  · intro code hmem
    obtain hzero | hpos := Nat.eq_zero_or_pos (index / (r.output.length + 1))
    · have hsmall : index < r.output.length + 1 := by
        rcases Nat.div_eq_zero_iff.1 hzero with hnone | hsmall
        · omega
        · exact hsmall
      rw [Nat.mod_eq_of_lt hsmall] at hmem
      have hbehind := h.behind code ((List.drop_sublist_drop_left _ hindex).subset hmem)
      omega
    · have hbelow := h.upTo code (List.mem_of_mem_drop hmem)
      omega

theorem Ascending.step (h : r.Ascending) (hindex : r.index ≤ index)
    (hinsert : r.insert index = some r') : r'.Ascending := by
  obtain ⟨front, back, -, houtput, hplace, hfront, hback⟩ := h.insert hindex hinsert
  constructor
  · rw [houtput, List.forall_mem_append, List.forall_mem_cons]
    exact ⟨hfront, le_rfl, fun code hmem => (hback code hmem).le⟩
  · rw [houtput, hplace, List.drop_length_add_append]
    exact hback

theorem length_insert (h : r.insert index = some r') :
    r'.output.length = r.output.length + 1 := by
  obtain ⟨-, -, -, houtput⟩ := insert_eq_some h
  rw [houtput, List.length_append, List.length_cons, ← add_assoc, ← List.length_append,
    List.take_append_drop]

/-- An insertion shows the number that it was made for. -/
theorem eq_of_insert {value value' : Nat} {a b : Reading}
    (ha : r.insert (r.index + value) = some a) (hb : r.insert (r.index + value') = some b)
    (hcode : a.code = b.code) (hplace : a.index = b.index) : value = value' := by
  obtain ⟨-, hcode₁, hplace₁, -⟩ := insert_eq_some ha
  obtain ⟨-, hcode₂, hplace₂, -⟩ := insert_eq_some hb
  have hquotient := Nat.add_left_cancel (hcode₁.symm.trans (hcode.trans hcode₂))
  have hremainder := Nat.add_right_cancel (hplace₁.symm.trans (hplace.trans hplace₂))
  refine Nat.add_left_cancel (n := r.index) ?_
  rw [← Nat.div_add_mod (r.index + value) (r.output.length + 1), hquotient, hremainder,
    Nat.div_add_mod]

theorem push_eq_some {c : Char} (h : r.push c = some r') :
    ∃ d, digit? c = some d ∧
      (d < threshold r.bias r.step ∧ r.insert (r.index + d * r.weight) = some r' ∨
        threshold r.bias r.step ≤ d ∧
          r' = { r with
            index := r.index + d * r.weight
            weight := r.weight * (36 - threshold r.bias r.step)
            step := r.step + 36 }) := by
  rw [push, Option.bind_eq_bind, Option.bind_eq_some_iff] at h
  obtain ⟨d, hc, hpush⟩ := h
  refine ⟨d, hc, ?_⟩
  dsimp only at hpush
  split_ifs at hpush with hd
  · exact .inl ⟨hd, hpush⟩
  · exact .inr ⟨not_lt.1 hd, (Option.some.inj hpush).symm⟩

/-! ## Sequences of numbers -/

/-- Digits take a reading to another one, number by number. -/
inductive Reads (r : Reading) : List Char → Reading → Prop where
  | nil : Reads r [] r
  | snoc {ds es : List Char} {mid r' : Reading} {value : Nat} :
      Reads r ds mid → Numeral mid.bias 36 es value → mid.insert (mid.index + value) = some r' →
      Reads r (ds ++ es) r'

theorem Reads.cons {ds es : List Char} {value : Nat} (hnumeral : Numeral r.bias 36 es value)
    (hinsert : r.insert (r.index + value) = some mid) (h : Reads mid ds r') :
    Reads r (es ++ ds) r' := by
  induction h with
  | nil =>
      rw [List.append_nil, ← List.nil_append es]
      exact Reads.nil.snoc hnumeral hinsert
  | snoc _ hlast hinsert' ih =>
      rw [← List.append_assoc]
      exact ih.snoc hlast hinsert'

/-- Digits from the middle of a number on finish the number first. -/
theorem foldlM_push_cases {digits : List Char} {x weight step : Nat} (hstep : 36 ≤ step)
    (h : digits.foldlM push { r with index := r.index + x, weight := weight, step := step } =
      some r') (hend : r'.step = 36) :
    digits = [] ∧ r' = { r with index := r.index + x, weight := weight, step := step } ∨
      ∃ es rest value mid, digits = es ++ rest ∧ es ≠ [] ∧ Numeral r.bias step es value ∧
        r.insert (r.index + (x + weight * value)) = some mid ∧ rest.foldlM push mid = some r' := by
  induction digits generalizing x weight step with
  | nil => exact .inl ⟨rfl, (Option.some.inj h).symm⟩
  | cons c rest ih =>
      rw [List.foldlM_cons, Option.bind_eq_bind, Option.bind_eq_some_iff] at h
      obtain ⟨next, hpush, hrest⟩ := h
      obtain ⟨d, hc, ⟨hd, hinsert⟩ | ⟨hd, rfl⟩⟩ := push_eq_some hpush
      · refine .inr ⟨[c], rest, d, next, rfl, List.cons_ne_nil _ _, .last hc hd, ?_, hrest⟩
        rw [mul_comm, ← add_assoc]
        exact hinsert
      · dsimp only at hrest
        rw [add_assoc] at hrest
        obtain ⟨-, rfl⟩ | ⟨es, behind, value, mid, rfl, -, hnumeral, hinsert, hbehind⟩ :=
          ih (by omega) hrest
        · change step + 36 = 36 at hend
          omega
        · refine .inr ⟨c :: es, behind, _, mid, rfl, List.cons_ne_nil _ _,
            .more hc hd hnumeral, ?_, hbehind⟩
          rw [← hinsert]
          congr 2
          ring

theorem reads_of_foldlM {digits : List Char} (hidle : r.Idle)
    (h : digits.foldlM push r = some r') (hend : r'.step = 36) : Reads r digits r' := by
  induction hlength : digits.length using Nat.strong_induction_on generalizing digits r with
  | _ n ih =>
      have hsame : r = { r with index := r.index + 0, weight := 1, step := 36 } := by
        rw [add_zero, ← hidle.weight, ← hidle.step]
      rw [hsame] at h
      obtain ⟨rfl, hr⟩ | ⟨es, rest, value, mid, rfl, hes, hnumeral, hinsert, hrest⟩ :=
        foldlM_push_cases le_rfl h hend
      · rw [hr, ← hsame]
        exact .nil
      · rw [zero_add, one_mul] at hinsert
        have hshorter : rest.length < n := by
          have hpos := List.length_pos_of_ne_nil hes
          rw [List.length_append] at hlength
          omega
        exact .cons hnumeral hinsert
          (ih _ hshorter (insert_eq_some hinsert).1 hrest rfl)

namespace Reads

variable {a b : Reading} {ds es : List Char}

theorem ascending (h : Reads r ds a) (hr : r.Ascending) : a.Ascending := by
  induction h with
  | nil => exact hr
  | snoc _ _ hinsert ih => exact ih.step (Nat.le_add_right _ _) hinsert

theorem length_le (h : Reads r ds a) : r.output.length ≤ a.output.length := by
  induction h with
  | nil => exact le_rfl
  | snoc _ _ hinsert ih =>
      rw [length_insert hinsert]
      omega

/-- What has been read shows which digits there were. -/
theorem unique (hr : r.Ascending) (h : Reads r ds a) (h' : Reads r es b)
    (houtput : a.output = b.output) : ds = es ∧ a = b := by
  induction h generalizing es b with
  | nil =>
      cases h' with
      | nil => exact ⟨rfl, rfl⟩
      | snoc hreads _ hinsert =>
          have hlonger := length_insert hinsert
          have hle := hreads.length_le
          rw [houtput] at hle
          omega
  | snoc hreads hnumeral hinsert ih =>
      cases h' with
      | nil =>
          have hlonger := length_insert hinsert
          have hle := hreads.length_le
          rw [← houtput] at hle
          omega
      | snoc hreads' hnumeral' hinsert' =>
          obtain ⟨front, back, hparts, hall, hplace, hfront, hback⟩ :=
            (hreads.ascending hr).insert (Nat.le_add_right _ _) hinsert
          obtain ⟨front', back', hparts', hall', hplace', hfront', hback'⟩ :=
            (hreads'.ascending hr).insert (Nat.le_add_right _ _) hinsert'
          obtain ⟨rfl, hcode, rfl⟩ := eq_of_greatest (hall.symm.trans (houtput.trans hall')) hfront
            hback hfront' hback'
          obtain ⟨rfl, rfl⟩ := ih hreads' (hparts.trans hparts'.symm)
          have hvalues := eq_of_insert hinsert hinsert' hcode (hplace.trans hplace'.symm)
          obtain rfl := hnumeral.unique hnumeral' hvalues
          subst hvalues
          exact ⟨rfl, Option.some.inj (hinsert.symm.trans hinsert')⟩

/-- Only characters beyond ASCII are inserted. -/
theorem basic (h : Reads r ds a) (hr : 0x80 ≤ r.code) :
    0x80 ≤ a.code ∧ a.output.filter (· < 0x80) = r.output.filter (· < 0x80) := by
  induction h with
  | nil => exact ⟨hr, rfl⟩
  | @snoc _ _ mid r' _ _ _ hinsert ih =>
      obtain ⟨-, hcode, -, houtput⟩ := insert_eq_some hinsert
      have hbeyond : 0x80 ≤ r'.code := hcode ▸ ih.1.trans (Nat.le_add_right _ _)
      refine ⟨hbeyond, ?_⟩
      rw [houtput, List.filter_append, List.filter_cons_of_neg (by simpa using hbeyond),
        ← List.filter_append, List.take_append_drop, ih.2]

theorem code_mem (h : Reads r ds a) (hds : ds ≠ []) : a.code ∈ a.output := by
  cases h with
  | nil => exact absurd rfl hds
  | snoc _ _ hinsert =>
      obtain ⟨-, -, -, houtput⟩ := insert_eq_some hinsert
      rw [houtput]
      exact List.mem_append_right _ List.mem_cons_self

end Reads

theorem initial_ascending {basic : List Nat} (h : ∀ code ∈ basic, code < 0x80) :
    (initial basic).Ascending :=
  ⟨fun code hmem => (h code hmem).le, fun code hmem => h code (List.mem_of_mem_drop hmem)⟩

end Reading

/-! ## Labels -/

variable {spelling spelling' label : List Char}

theorem split_spelling (spelling : List Char) :
    spelling = if (split spelling).1 = [] then (split spelling).2
      else (split spelling).1 ++ '-' :: (split spelling).2 := by
  rw [split]
  split
  case h_1 digits c basic hsplit =>
    have hreverse := congrArg List.reverse (Text.splitOnce_eq_some hsplit)
    rw [List.reverse_reverse] at hreverse
    simp [hreverse]
  case h_2 => rfl

theorem split_injective (h : split spelling = split spelling') : spelling = spelling' := by
  rw [split_spelling spelling, split_spelling spelling', h]

theorem eq_map_toNat {codes : List Nat}
    (h : codes.map (fun code => if code.isValidChar then some (Char.ofNat code) else none) =
      label.map some) : codes = label.map Char.toNat := by
  induction codes generalizing label with
  | nil => rw [List.map_eq_nil_iff.1 h.symm, List.map_nil]
  | cons code rest ih =>
      cases label with
      | nil => cases h
      | cons c others =>
          obtain ⟨hcode, hrest⟩ := List.cons.inj h
          dsimp only at hcode
          split_ifs at hcode with hvalid
          have hsame : (Char.ofNat code).toNat = code := by
            rw [Char.ofNat, dif_pos hvalid]
            rfl
          rw [List.map_cons, ih hrest, ← Option.some.inj hcode, hsame]

theorem decode?_eq_some (h : decode? spelling = some label) :
    (split spelling).2 ≠ [] ∧ (∀ c ∈ (split spelling).1, c.toNat < 0x80) ∧
      ∃ r, Reading.Reads (.initial ((split spelling).1.map Char.toNat)) (split spelling).2 r ∧
        r.output = label.map Char.toNat := by
  simp only [decode?] at h
  split_ifs at h with hnone
  rw [Bool.or_eq_true, not_or, List.isEmpty_iff, Bool.not_eq_true', Bool.not_eq_false,
    List.all_eq_true] at hnone
  obtain ⟨r, hr, h⟩ := Option.bind_eq_some_iff.1 h
  split_ifs at h with hend
  exact ⟨hnone.1, fun c hc => of_decide_eq_true (hnone.2 c hc), r,
    Reading.reads_of_foldlM ⟨rfl, rfl, rfl⟩ hr (not_not.1 hend),
    eq_map_toNat (mapM_eq_some.1 h)⟩

/-- A label has the ASCII characters of its spelling, and at least one beyond ASCII. -/
theorem decode?_basic (h : decode? spelling = some label) :
    label.filter (·.toNat < 0x80) = (split spelling).1 ∧ ∃ c ∈ label, 0x80 ≤ c.toNat := by
  obtain ⟨hdigits, hbasic, r, hreads, houtput⟩ := decode?_eq_some h
  obtain ⟨hcode, hfilter⟩ := hreads.basic le_rfl
  have hkept : ((split spelling).1.map Char.toNat).filter (· < 0x80) =
      (split spelling).1.map Char.toNat :=
    List.filter_eq_self.2 (by simpa using hbasic)
  constructor
  · refine List.map_injective_iff.2 (fun _ _ => Char.toNat_inj.1) ?_
    rw [← hkept]
    refine Eq.trans ?_ hfilter
    rw [houtput, List.filter_map]
    rfl
  · have hmem := hreads.code_mem hdigits
    rw [houtput] at hmem
    obtain ⟨c, hc, hsame⟩ := List.mem_map.1 hmem
    exact ⟨c, hc, hsame ▸ hcode⟩

/-- No two spellings stand for the same label. -/
theorem decode?_injective (h : decode? spelling = some label)
    (h' : decode? spelling' = some label) : spelling = spelling' := by
  obtain ⟨-, hbasic, r, hreads, houtput⟩ := decode?_eq_some h
  obtain ⟨-, -, r', hreads', houtput'⟩ := decode?_eq_some h'
  have hsame : (split spelling).1 = (split spelling').1 :=
    (decode?_basic h).1.symm.trans (decode?_basic h').1
  rw [← hsame] at hreads'
  have hstart : (Reading.initial ((split spelling).1.map Char.toNat)).Ascending :=
    Reading.initial_ascending (List.forall_mem_map.2 hbasic)
  obtain ⟨hdigits, -⟩ := hreads.unique hstart hreads' (houtput.trans houtput'.symm)
  exact split_injective (Prod.ext hsame hdigits)

end RecordApps.Web.Punycode
