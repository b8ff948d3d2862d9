import Mathlib.Data.String.Basic
import RecordApps.Access.Resolution

/-! # The rule that decides

Of the rules that apply, the one that is outranked by none decides, and of several of the same
rank the first. The fold that looks for it finds exactly this rule.
-/

namespace RecordApps.Ranked

variable {R : Type} [Ranked R] {a b c rule : R}

/-! ## The rank

Ranks are compared like pairs of a priority and an id, higher priorities and smaller ids
first.
-/

theorem outranks_iff :
    outranks a b = true ↔ priority b < priority a ∨ priority a = priority b ∧ id a < id b := by
  simp [outranks]

theorem outranks_irrefl (a : R) : outranks a a = false := by
  simp [outranks]

theorem outranks_trans (hab : outranks a b = true) (hbc : outranks b c = true) :
    outranks a c = true := by
  rw [outranks_iff] at *
  rcases hab with hab | ⟨hab, hid⟩
  · rcases hbc with hbc | ⟨hbc, -⟩
    · exact .inl (hbc.trans hab)
    · exact .inl (hbc ▸ hab)
  · rcases hbc with hbc | ⟨hbc, hid'⟩
    · exact .inl (hab ▸ hbc)
    · exact .inr ⟨hab.trans hbc, hid.trans hid'⟩

theorem not_outranks_trans (hab : outranks a b = false) (hbc : outranks b c = false) :
    outranks a c = false := by
  rw [← Bool.not_eq_true, outranks_iff] at *
  simp only [not_or, not_and, not_lt] at *
  obtain ⟨hab, hid⟩ := hab
  obtain ⟨hbc, hid'⟩ := hbc
  refine ⟨hab.trans hbc, fun heq => ?_⟩
  have hba : priority a = priority b := by omega
  have hcb : priority b = priority c := by omega
  exact (hid' hcb).trans (hid hba)

/-! ## The fold -/

/-- A rule decides in a list of rules that apply: it outranks all earlier ones, and no later one
    outranks it. -/
def Leads (rules : List R) (rule : R) : Prop :=
  ∃ before after, rules = before ++ rule :: after ∧
    (∀ earlier ∈ before, outranks rule earlier = true) ∧
    ∀ later ∈ after, outranks later rule = false

/-- The rule that decides among those that apply. -/
def Decides (applies : R → Bool) (rules : List R) (rule : R) : Prop :=
  Leads (rules.filter applies) rule

theorem foldl_better_of_not_outranks {after : List R}
    (h : ∀ later ∈ after, outranks later rule = false) :
    after.foldl better (some rule) = some rule := by
  induction after with
  | nil => rfl
  | cons head rest ih =>
      obtain ⟨hhead, hrest⟩ := List.forall_mem_cons.1 h
      rw [List.foldl_cons, better, hhead, if_neg Bool.false_ne_true]
      exact ih hrest

theorem foldl_better_mem (rules : List R) :
    ∀ best, rules.foldl better (some rule) = some best → best = rule ∨ best ∈ rules := by
  induction rules generalizing rule with
  | nil =>
      intro best h
      exact .inl (Option.some.inj h).symm
  | cons head rest ih =>
      intro best h
      rw [List.foldl_cons, better] at h
      split at h
      · exact .inr (List.mem_cons.2 (ih best h))
      · exact (ih best h).imp_right (List.mem_cons_of_mem _)

theorem better_of_outranks {before : List R}
    (h : ∀ earlier ∈ before, outranks rule earlier = true) :
    better (before.foldl better none) rule = some rule := by
  rcases hbest : before.foldl better none with _ | best
  · rfl
  · have hmem : best ∈ before := by
      cases before with
      | nil => cases hbest
      | cons head rest => exact List.mem_cons.2 (foldl_better_mem rest best hbest)
    rw [better, if_pos (h best hmem)]

theorem Leads.foldl_better {rules : List R} (h : Leads rules rule) :
    rules.foldl better none = some rule := by
  obtain ⟨before, after, rfl, hbefore, hafter⟩ := h
  rw [List.foldl_append, List.foldl_cons, better_of_outranks hbefore]
  exact foldl_better_of_not_outranks hafter

theorem exists_leads {rules : List R} (h : rules ≠ []) : ∃ rule, Leads rules rule := by
  induction rules with
  | nil => exact absurd rfl h
  | cons head rest ih =>
      rcases Decidable.em (rest = []) with rfl | hrest
      · exact ⟨head, [], [], rfl, by simp, by simp⟩
      obtain ⟨best, before, after, rfl, hbefore, hafter⟩ := ih hrest
      -- What leads in the rest still leads if it outranks the head. If not, nothing does.
      cases hhead : outranks best head with
      | true =>
          refine ⟨best, head :: before, after, rfl, ?_, hafter⟩
          exact List.forall_mem_cons.2 ⟨hhead, hbefore⟩
      | false =>
          refine ⟨head, [], before ++ best :: after, rfl, by simp, fun later hmem => ?_⟩
          rcases List.mem_append.1 hmem with hmem | hmem
          · have hbest := hbefore later hmem
            cases hlater : outranks later head with
            | true => exact (outranks_trans hbest hlater).symm.trans hhead
            | false => rfl
          · rcases List.mem_cons.1 hmem with rfl | hmem
            · exact hhead
            · exact not_outranks_trans (hafter later hmem) hhead

theorem deciding_eq_some_iff {applies : R → Bool} {rules : List R} :
    deciding applies rules = some rule ↔ Decides applies rules rule := by
  refine ⟨fun h => ?_, Leads.foldl_better⟩
  have hne : rules.filter applies ≠ [] := fun hnil => by simp [deciding, hnil] at h
  obtain ⟨best, hbest⟩ := exists_leads hne
  obtain rfl : best = rule := Option.some.inj (hbest.foldl_better.symm.trans h)
  exact hbest

theorem deciding_eq_none_iff {applies : R → Bool} {rules : List R} :
    deciding applies rules = none ↔ ∀ rule ∈ rules, applies rule = false := by
  constructor
  · intro h rule hmem
    by_contra happlies
    have hne : rules.filter applies ≠ [] :=
      List.ne_nil_of_mem (List.mem_filter.2 ⟨hmem, Bool.not_eq_false _ ▸ happlies⟩)
    obtain ⟨best, hbest⟩ := exists_leads hne
    rw [deciding, hbest.foldl_better] at h
    cases h
  · intro h
    rw [deciding, List.filter_eq_nil_iff.2 fun rule hmem => Bool.not_eq_true _ ▸ h rule hmem]
    rfl

namespace Decides

variable {applies : R → Bool} {rules : List R}

theorem mem (h : Decides applies rules rule) : rule ∈ rules ∧ applies rule = true := by
  obtain ⟨before, after, hsplit, -, -⟩ := h
  refine List.mem_filter.1 ?_
  rw [hsplit]
  exact List.mem_append_right _ List.mem_cons_self

theorem not_outranked (h : Decides applies rules rule) {other : R} (hmem : other ∈ rules)
    (happlies : applies other = true) : outranks other rule = false := by
  obtain ⟨before, after, hsplit, hbefore, hafter⟩ := h
  have hother : other ∈ before ++ rule :: after :=
    hsplit ▸ List.mem_filter.2 ⟨hmem, happlies⟩
  rcases List.mem_append.1 hother with hother | hother
  · cases houtranks : outranks other rule with
    | true => exact (outranks_trans houtranks (hbefore other hother)).symm.trans (outranks_irrefl _)
    | false => rfl
  · rcases List.mem_cons.1 hother with rfl | hother
    · exact outranks_irrefl _
    · exact hafter other hother

theorem unique {other : R} (h : Decides applies rules rule) (hother : Decides applies rules other) :
    rule = other :=
  Option.some.inj (h.foldl_better.symm.trans hother.foldl_better)

end Decides

end RecordApps.Ranked
