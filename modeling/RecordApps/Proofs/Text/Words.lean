import Mathlib.Data.List.TakeDrop
import RecordApps.Text.Blank

/-! # Words and the space around them

Letters, digits and underscores lie in one stretch of ASCII, in which there is no white space.
Trimming takes nothing off a word, and nothing that is not white space out of a text.
-/

namespace RecordApps.Text

variable {c : Char} {cs : List Char}

theorem not_isSpace (hlow : 33 ≤ c.toNat) (hhigh : c.toNat ≤ 126) : isSpace c = false := by
  simp [isSpace, inRanges, spaceRanges]
  omega

theorem toNat_of_isDigit (h : c.isDigit = true) : 48 ≤ c.toNat ∧ c.toNat ≤ 57 := by
  simpa [Char.isDigit, UInt32.le_iff_toNat_le] using h

theorem toNat_of_isWordStart (h : isWordStart c = true) : 65 ≤ c.toNat ∧ c.toNat ≤ 122 := by
  change (decide ('A'.val ≤ c.val ∧ c.val ≤ 'Z'.val) ||
    (decide ('a'.val ≤ c.val) && decide (c.val ≤ 'z'.val)) || decide (c = '_')) = true at h
  simp [UInt32.le_iff_toNat_le] at h
  obtain (⟨hlow, hhigh⟩ | ⟨hlow, hhigh⟩) | rfl := h
  · exact ⟨hlow, by omega⟩
  · exact ⟨by omega, hhigh⟩
  · decide

theorem isWordChar_iff : isWordChar c = true ↔ isWordStart c = true ∨ c.isDigit = true := by
  simp [isWordChar, isWordStart, Char.isAlphanum, or_right_comm]

theorem toNat_of_isWordChar (h : isWordChar c = true) : 48 ≤ c.toNat ∧ c.toNat ≤ 122 := by
  rcases isWordChar_iff.1 h with hstart | hdigit
  · have := toNat_of_isWordStart hstart
    omega
  · have := toNat_of_isDigit hdigit
    omega

/-! ## Trimming -/

theorem trimStart_eq_self (h : ∀ c ∈ cs, isSpace c = false) : trimStart cs = cs := by
  cases cs with
  | nil => rfl
  | cons head rest =>
      rw [trimStart, List.dropWhile_cons, h head List.mem_cons_self]
      rfl

theorem trimChars_eq_self (h : ∀ c ∈ cs, isSpace c = false) : trimChars cs = cs := by
  rw [trimChars, trimStart_eq_self h, trimStart_eq_self, List.reverse_reverse]
  exact fun c hc => h c (List.mem_reverse.1 hc)

theorem splitOnce_eq_some {separator : Char} {front back : List Char}
    (h : splitOnce separator cs = some (front, back)) : cs = front ++ separator :: back := by
  have hhead := List.head?_dropWhile_not (· != separator) cs
  rw [splitOnce, List.span_eq_takeWhile_dropWhile] at h
  cases hrest : cs.dropWhile (· != separator) with
  | nil =>
      rw [hrest] at h
      cases h
  | cons c rest =>
      rw [hrest] at h hhead
      obtain ⟨rfl, rfl⟩ := Prod.mk.inj (Option.some.inj h)
      obtain rfl : c = separator := by simpa using hhead
      rw [← hrest, List.takeWhile_append_dropWhile]

theorem mem_trimStart (hc : c ∈ cs) (h : isSpace c = false) : c ∈ trimStart cs := by
  induction cs with
  | nil => exact hc
  | cons head rest ih =>
      rw [trimStart, List.dropWhile_cons]
      split
      case isFalse => exact hc
      case isTrue hspace =>
        refine ih ((List.mem_cons.1 hc).resolve_left ?_)
        rintro rfl
        exact absurd (h.symm.trans hspace) Bool.false_ne_true

theorem mem_trimChars (hc : c ∈ cs) (h : isSpace c = false) : c ∈ trimChars cs :=
  List.mem_reverse.2 (mem_trimStart (List.mem_reverse.2 (mem_trimStart hc h)) h)

end RecordApps.Text
