import Mathlib.Algebra.Ring.Nat
import Mathlib.Data.List.DropRight
import RecordApps.Proofs.Outcome
import RecordApps.Proofs.Text.Words
import RecordApps.Web.Address

/-! # Forms of addresses

Four decimal bytes inside an address of sixteen bytes are an address of four bytes by themselves.
Control characters and blanks around an address, and tabs and line breaks inside, do not count.
-/

namespace RecordApps.Web

/-! ## Four bytes -/

theorem hexValue?_digit {c : Char} (h : c.isDigit = true) :
    hexValue? c = some (Decimal.digitValue c) ∧ Decimal.digitValue c < 10 := by
  obtain ⟨hlow, hhigh⟩ := Text.toNat_of_isDigit h
  refine ⟨if_pos h, ?_⟩
  change c.toNat - 48 < 10
  omega

theorem ofBase?_ten {digits : List Char} (h : digits.all Char.isDigit = true) :
    ofBase? 10 digits = some (Decimal.ofDigits digits) := by
  rw [ofBase?, Decimal.ofDigits]
  generalize 0 = value
  induction digits generalizing value with
  | nil => rfl
  | cons c rest ih =>
      rw [List.all_cons, Bool.and_eq_true] at h
      obtain ⟨hvalue, hlt⟩ := hexValue?_digit h.1
      rw [List.foldlM_cons, hvalue, Option.bind_eq_bind, Option.bind_some, if_pos hlt,
        List.foldl_cons, mul_comm]
      exact ih h.2 _

/-- A decimal byte without leading zeros. -/
def IsByte (part : List Char) : Prop :=
  part ≠ [] ∧ part.all Char.isDigit = true ∧ Decimal.ofDigits part ≤ 255 ∧
    (part.length = 1 ∨ part.head? ≠ some '0')

theorem IsByte.addressPart? {part : List Char} (h : IsByte part) :
    Web.addressPart? part = some (Decimal.ofDigits part) := by
  obtain ⟨hsome, hdigits, -, hzero⟩ := h
  have hshort (c : Char) (rest : List Char) : part ≠ '0' :: c :: rest := by
    rintro rfl
    obtain hone | hhead := hzero
    · cases hone
    · exact hhead rfl
  rw [← ofBase?_ten hdigits]
  exact addressPart?.eq_5 part hsome (hshort 'x') (hshort 'X') hshort

theorem isDottedQuad_iff {cs : List Char} :
    isDottedQuad cs = true ↔
      (Text.splitAt '.' cs).length = 4 ∧ ∀ part ∈ Text.splitAt '.' cs, IsByte part := by
  simp only [isDottedQuad, IsByte, Bool.and_eq_true, decide_eq_true_eq, List.all_eq_true,
    Bool.or_eq_true, Bool.not_eq_true', List.isEmpty_eq_false_iff, and_assoc, ne_eq]

theorem isFourByteAddress_of_dottedQuad {cs : List Char} (h : isDottedQuad cs = true) :
    isFourByteAddress cs = true := by
  obtain ⟨hlength, hparts⟩ := isDottedQuad_iff.1 h
  have hnames : nameParts cs = Text.splitAt '.' cs := by
    rw [nameParts]
    refine if_neg fun hempty => ?_
    exact (hparts [] (List.mem_of_getLast? hempty.2)).1 rfl
  have hnumbers : (nameParts cs).mapM addressPart? =
      some ((nameParts cs).map Decimal.ofDigits) := by
    rw [mapM_eq_some, List.map_map, hnames]
    exact List.map_congr_left fun part hpart => (hparts part hpart).addressPart?
  rw [isFourByteAddress, hnumbers, hnames]
  match hsplit : Text.splitAt '.' cs, hlength with
  | [a, b, c, d], _ =>
      simp only [hsplit, List.forall_mem_cons] at hparts
      obtain ⟨⟨-, -, ha, -⟩, ⟨-, -, hb, -⟩, ⟨-, -, hc, -⟩, ⟨-, -, hd, -⟩, -⟩ := hparts
      simp [ha, hb, hc, Nat.lt_succ_of_le hd]

/-! ## What counts -/

theorem dropWhile_filter {keep drop : Char → Bool} (hkeep : ∀ c, drop c = false → keep c = true)
    {cs : List Char} (h : cs.dropWhile drop = cs) :
    (cs.filter keep).dropWhile drop = cs.filter keep := by
  cases cs with
  | nil => rfl
  | cons c rest =>
      have hc : drop c = false := by
        have hhead := List.head?_dropWhile_not drop (c :: rest)
        rwa [h] at hhead
      rw [List.filter_cons_of_pos (hkeep c hc), List.dropWhile_cons_of_neg (by simp [hc])]

theorem dropWhile_of_front {drop : Char → Bool} {cs front : List Char} (h : front <+: cs)
    (hcs : cs.dropWhile drop = cs) : front.dropWhile drop = front := by
  obtain ⟨back, rfl⟩ := h
  cases front with
  | nil => rfl
  | cons c rest =>
      have hhead := List.head?_dropWhile_not drop (c :: rest ++ back)
      rw [hcs] at hhead
      exact List.dropWhile_cons_of_neg (by simpa using hhead)

theorem significant_idempotent (cs : List Char) :
    significant (significant cs) = significant cs := by
  have hkeep (c : Char) (hc : isControlOrBlank c = false) :
      (c ≠ '\t' && c ≠ '\n' && c ≠ '\r') = true := by
    rw [isControlOrBlank, decide_eq_false_iff_not] at hc
    simp only [Bool.and_eq_true, decide_eq_true_eq]
    refine ⟨⟨?_, ?_⟩, ?_⟩ <;> rintro rfl <;> exact hc (by decide)
  have hfront : ((cs.dropWhile isControlOrBlank).reverse.dropWhile isControlOrBlank).reverse <+:
      cs.dropWhile isControlOrBlank := by
    rw [← List.reverse_suffix, List.reverse_reverse]
    exact List.dropWhile_suffix _
  have hstart : (significant cs).dropWhile isControlOrBlank = significant cs :=
    dropWhile_filter hkeep (dropWhile_of_front hfront (List.dropWhile_idempotent _ _))
  have hend : (significant cs).reverse.dropWhile isControlOrBlank = (significant cs).reverse := by
    rw [significant, ← List.filter_reverse, List.reverse_reverse]
    exact dropWhile_filter hkeep (List.dropWhile_idempotent _ _)
  rw [significant, hstart, hend, List.reverse_reverse]
  exact List.filter_eq_self.2 fun c hc => (List.mem_filter.1 hc).2

theorem isAddress_significant (cs : List Char) : isAddress (significant cs) = isAddress cs := by
  rw [isAddress, isAddress, significant_idempotent]

end RecordApps.Web
