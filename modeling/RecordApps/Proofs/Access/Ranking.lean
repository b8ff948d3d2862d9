import Mathlib.Data.List.Perm.Subperm
import RecordApps.Proofs.Access.Ownership
import RecordApps.Proofs.Access.Saving

/-! # Ranking rules in a given order

The rules of a table are ranked by a list of their ids. The list is taken if it names every rule
once, and then priorities fall along it, so that no two rules have the same: whichever rules apply,
the one that is listed first decides.
-/

namespace RecordApps

namespace Ranked

variable {R : Type} [Ranked R] {rules ranked : List R} {rule other : R} {ids known seen : List String}
  {applies : R → Bool}

/-- Changing the priority changes nothing else of the rank. -/
class LawfulRanked (R : Type) [Ranked R] : Prop where
  id_withPriority : ∀ (rule : R) (rank : Int), id (withPriority rule rank) = id rule
  priority_withPriority : ∀ (rule : R) (rank : Int), priority (withPriority rule rank) = rank

instance : (kind : Engine.RuleKind) → LawfulRanked kind.Row
  | .app | .field | .record => ⟨fun _ _ => rfl, fun _ _ => rfl⟩

/-! ## Lists that are taken -/

theorem checkListed_eq_ok_iff :
    checkListed known seen ids = .ok () ↔
      ids.Nodup ∧ ∀ listed ∈ ids, listed ∈ known ∧ listed ∉ seen := by
  induction ids generalizing seen with
  | nil => simp [checkListed]
  | cons head rest ih =>
      rw [checkListed, Outcome.check_bind_eq_ok, Outcome.check_bind_eq_ok, ensure_eq_ok,
        ensure_eq_ok, ih, List.nodup_cons, List.forall_mem_cons]
      simp only [List.contains_eq_mem, decide_eq_true_eq, Bool.not_eq_true',
        decide_eq_false_iff_not, List.mem_cons, not_or]
      constructor
      · rintro ⟨hknown, hfresh, hnodup, hrest⟩
        refine ⟨⟨fun hmem => (hrest head hmem).2.1 rfl, hnodup⟩, ⟨hknown, hfresh⟩, ?_⟩
        exact fun listed hlisted => ⟨(hrest listed hlisted).1, (hrest listed hlisted).2.2⟩
      · rintro ⟨⟨hhead, hnodup⟩, ⟨hknown, hfresh⟩, hrest⟩
        refine ⟨hknown, hfresh, hnodup, fun listed hlisted => ⟨(hrest listed hlisted).1, ?_⟩⟩
        exact ⟨fun hsame => hhead (hsame ▸ hlisted), (hrest listed hlisted).2⟩

theorem eraseDups_of_nodup (h : ids.Nodup) : ids.eraseDups = ids := by
  induction ids with
  | nil => rfl
  | cons head rest ih =>
      obtain ⟨hhead, hrest⟩ := List.nodup_cons.1 h
      have hkept : rest.filter (fun listed => !listed == head) = rest :=
        List.filter_eq_self.2 fun listed hlisted => by
          simpa using fun hsame : listed = head => hhead (hsame ▸ hlisted)
      rw [List.eraseDups_cons, hkept, ih hrest]

/-- How far from the end of a list the id of a rule stands. -/
def rankIn (ids : List String) (rule : R) : Nat :=
  ids.length - ids.idxOf (id rule)

/-- The rule with its rank in a list of ids as its priority. -/
def rankedBy (ids : List String) (rule : R) : R :=
  withPriority rule (rankIn ids rule)

theorem rankBy_eq_ok (hlength : (ids.length : Int) ≤ maxPriority) (rule : R) :
    rankBy ids rule = .ok (rankedBy ids rule) := by
  have hrank : ((rankIn ids rule : Nat) : Int) ≤ maxPriority := by
    have := Nat.sub_le ids.length (ids.idxOf (id rule))
    rw [rankIn]
    omega
  rw [rankBy, Outcome.check_bind_eq_ok]
  exact ⟨ensure_eq_ok.2 (decide_eq_true hrank), rfl⟩

theorem mapM_rankBy (hlength : (ids.length : Int) ≤ maxPriority) :
    rules.mapM (rankBy ids) = .ok (rules.map (rankedBy ids)) := by
  rw [Outcome.mapM_eq_ok, List.map_map]
  exact List.map_congr_left fun rule _ => rankBy_eq_ok hlength rule

/-- Where ids are distinct and their number is no larger than priorities may be, rules are ranked
    exactly by the lists that name each of them once. -/
theorem reorder_eq_ok_iff (hids : (rules.map id).Nodup)
    (hlength : (rules.length : Int) ≤ maxPriority) :
    reorder rules ids = .ok ranked ↔
      ids.Perm (rules.map id) ∧ ranked = rules.map (rankedBy ids) := by
  rw [reorder, eraseDups_of_nodup hids, Outcome.check_bind_eq_ok, Outcome.check_bind_eq_ok,
    checkListed_eq_ok_iff, ensure_eq_ok, beq_iff_eq]
  constructor
  · rintro ⟨⟨hnodup, hknown⟩, hall, hranked⟩
    have hperm : ids.Perm (rules.map id) :=
      (List.subperm_of_subset hnodup fun listed hlisted => (hknown listed hlisted).1)
        |>.perm_of_length_le hall.le
    have hlength' : (ids.length : Int) ≤ maxPriority := by
      rwa [← hall, List.length_map]
    rw [mapM_rankBy hlength'] at hranked
    exact ⟨hperm, (Except.ok.inj hranked).symm⟩
  · rintro ⟨hperm, rfl⟩
    have hlength' : (ids.length : Int) ≤ maxPriority := by
      rwa [hperm.length_eq, List.length_map]
    refine ⟨⟨hperm.nodup_iff.2 hids, fun listed hlisted => ⟨hperm.mem_iff.1 hlisted, ?_⟩⟩, ?_, ?_⟩
    · exact List.not_mem_nil
    · exact hperm.length_eq.symm
    · exact mapM_rankBy hlength'

/-! ## The rule that is listed first -/

/-- The rule that is listed first among those that apply. -/
def firstListed (applies : R → Bool) (rules : List R) (ids : List String) : Option R :=
  ids.findSome? fun listed => rules.find? fun rule => id rule == listed && applies rule

/-- The rule that is listed first applies, and no rule that applies is listed before it. -/
theorem firstListed_eq_some (h : firstListed applies rules ids = some rule) :
    rule ∈ rules ∧ applies rule = true ∧
      ∀ other ∈ rules, applies other = true → ids.idxOf (id rule) ≤ ids.idxOf (id other) := by
  obtain ⟨before, listed, after, rfl, hfound, hbefore⟩ := List.findSome?_eq_some_iff.1 h
  obtain ⟨hid, happlies⟩ : id rule = listed ∧ applies rule = true := by
    simpa using List.find?_some hfound
  have hmem := List.mem_of_find?_eq_some hfound
  have hnotBefore : ∀ other ∈ rules, applies other = true → id other ∉ before := by
    intro other hother hfits hlisted
    have hnone := List.find?_eq_none.1 (hbefore _ hlisted) other hother
    exact hnone (by rw [beq_self_eq_true, hfits]; rfl)
  refine ⟨hmem, happlies, fun other hother hfits => ?_⟩
  rw [List.idxOf_append_of_notMem (hnotBefore rule hmem happlies),
    List.idxOf_append_of_notMem (hnotBefore other hother hfits), hid, List.idxOf_cons_self]
  exact Nat.add_le_add_left (Nat.zero_le _) _

theorem firstListed_eq_none (hids : ∀ rule ∈ rules, id rule ∈ ids)
    (h : firstListed applies rules ids = none) : ∀ rule ∈ rules, applies rule = false := by
  intro rule hrule
  have hnone := List.findSome?_eq_none_iff.1 h (id rule) (hids rule hrule)
  simpa using List.find?_eq_none.1 hnone rule hrule

section Lawful

variable [LawfulRanked R]

theorem id_rankedBy (rule : R) : id (rankedBy ids rule) = id rule :=
  LawfulRanked.id_withPriority _ _

theorem map_id_rankedBy : (rules.map (rankedBy ids)).map id = rules.map id := by
  rw [List.map_map]
  exact List.map_congr_left fun rule _ => id_rankedBy rule

theorem priority_rankedBy (rule : R) : priority (rankedBy ids rule) = rankIn ids rule :=
  LawfulRanked.priority_withPriority _ _

theorem deciding_rankedBy (hids : (rules.map id).Nodup) (hperm : ids.Perm (rules.map id)) :
    deciding applies (rules.map (rankedBy ids)) =
      firstListed applies (rules.map (rankedBy ids)) ids := by
  have hdecided : DecidedBy applies (rules.map (rankedBy ids)) _ :=
    deciding_decidedBy (by rwa [map_id_rankedBy])
  have hlisted : ∀ rule ∈ rules.map (rankedBy ids), id rule ∈ ids := by
    intro rule hrule
    obtain ⟨rule, hmem, rfl⟩ := List.mem_map.1 hrule
    rw [hperm.mem_iff, id_rankedBy]
    exact List.mem_map_of_mem hmem
  have hpriority : ∀ rule ∈ rules.map (rankedBy ids), priority rule = rankIn ids rule := by
    intro rule hrule
    obtain ⟨rule, -, rfl⟩ := List.mem_map.1 hrule
    rw [priority_rankedBy, rankIn, rankIn, id_rankedBy]
  cases hfirst : firstListed applies (rules.map (rankedBy ids)) ids with
  | none => exact hdecided.none_iff.2 (firstListed_eq_none hlisted hfirst)
  | some rule =>
      obtain ⟨hmem, happlies, hleast⟩ := firstListed_eq_some hfirst
      refine (hdecided.some_iff rule).2 ⟨hmem, happlies, fun other hother hfits => ?_⟩
      have hle := hleast other hother hfits
      have hlt := List.idxOf_lt_length_iff.2 (hlisted other hother)
      rw [hpriority rule hmem, hpriority other hother, rankIn, rankIn]
      rintro (habove | ⟨hsame, hid⟩)
      · omega
      · -- Rules of the same rank have the same id.
        have hidx : ids.idxOf (id other) = ids.idxOf (id rule) := by omega
        rw [(List.idxOf_inj (hlisted other hother)).1 hidx] at hid
        exact lt_irrefl _ hid

end Lawful

end Ranked

namespace Engine

open Workspace

variable {settings : Settings} {ws ws' : Workspace} {app : AppId} {kind : RuleKind}
  {ids : List String}

theorem owner_rankedBy (row : kind.Row) :
    kind.owner (Ranked.rankedBy ids row) = kind.owner row := by
  cases kind <;> rfl

/-- A table with distinct ids is ranked exactly by the lists that name each of its rules once. -/
theorem run_reorder_eq_ok (h : ws.OwnRules) (hids : ((ws.table app kind).map Ranked.id).Nodup)
    (hlength : ((ws.table app kind).length : Int) ≤ Ranked.maxPriority) :
    run settings ws (reorder app kind ids) = (.ok (), ws') ↔
      ids.Perm ((ws.table app kind).map Ranked.id) ∧
        ws' = ws.withTable app kind ((ws.table app kind).map (Ranked.rankedBy ids)) := by
  rw [run_reorder, run_lift_bind_eq_ok]
  simp only [Ranked.reorder_eq_ok_iff hids hlength, run_replace_eq_ok]
  constructor
  · rintro ⟨_, ⟨hperm, rfl⟩, -, rfl⟩
    exact ⟨hperm, rfl⟩
  · rintro ⟨hperm, rfl⟩
    refine ⟨_, ⟨hperm, rfl⟩, fun row hrow => ?_, rfl⟩
    obtain ⟨row, hmem, rfl⟩ := List.mem_map.1 hrow
    rw [owner_rankedBy]
    exact h app kind row hmem

/-- Rules decide in the order in which they are listed. Where the rules of a stored table have
    distinct ids, and are no more than priorities may be, a list of ids is taken exactly if it names
    every rule once. Of the rules that apply, to whatever is asked, the one that is listed first
    then decides; nothing but the priorities of that table has changed. A list that is refused
    changes nothing. -/
theorem reordered_as_listed (h : ws.Maintained) (app : AppId) (kind : RuleKind)
    (hids : ((ws.table app kind).map Ranked.id).Nodup)
    (hlength : ((ws.table app kind).length : Int) ≤ Ranked.maxPriority) (settings : Settings)
    (ids : List String) :
    ((∃ ws', run settings ws (reorder app kind ids) = (.ok (), ws')) ↔
      ids.Perm ((ws.table app kind).map Ranked.id)) ∧
    (∀ ws', run settings ws (reorder app kind ids) = (.ok (), ws') →
      (∀ applies, Ranked.deciding applies (ws'.table app kind) =
        Ranked.firstListed applies (ws'.table app kind) ids) ∧
      (∃ rank : kind.Row → Int, ws' = ws.withTable app kind
        ((ws.table app kind).map fun row => Ranked.withPriority row (rank row))) ∧
      ∀ other kind', kind' ≠ kind ∨ other ≠ app →
        ws'.table other kind' = ws.table other kind') ∧
    ∀ fault ws', run settings ws (reorder app kind ids) = (.error fault, ws') → ws' = ws := by
  have hiff {ws' : Workspace} : run settings ws (reorder app kind ids) = (.ok (), ws') ↔ _ :=
    run_reorder_eq_ok h.ownRules hids hlength
  refine ⟨⟨fun ⟨ws', ran⟩ => (hiff.1 ran).1, fun hperm => ⟨_, hiff.2 ⟨hperm, rfl⟩⟩⟩, ?_, ?_⟩
  · intro ws' ran
    obtain ⟨hperm, rfl⟩ := hiff.1 ran
    refine ⟨fun applies => ?_, ⟨fun row => Ranked.rankIn ids row, rfl⟩, fun other kind' hother => ?_⟩
    · rw [table_withTable]
      exact Ranked.deciding_rankedBy hids hperm
    · exact table_withTable_other hother
  · exact fun fault ws' => reorder_atomic app kind ids settings ws fault ws'

end Engine

namespace Orders

/-- The app with a row for the clerk and one that lets nobody do anything. -/
def contested : Workspace :=
  defined.serve settings (.permissions (.saveApp lockRow))

end Orders

namespace Engine

open Workspace

/-- At first the row with the smaller id locks the clerk out. Once the clerk's row is listed first,
    it decides. -/
theorem reordered_as_listed_orders :
    Orders.contested.Maintained ∧
    ((Orders.contested.table Orders.app .app).map Ranked.id) = ["clerks", "all"] ∧
    Ranked.deciding (fun _ => true) (Orders.contested.table Orders.app .app) =
      some Orders.lockRow ∧
    ∃ ws', run Orders.settings Orders.contested (reorder Orders.app .app ["clerks", "all"]) =
        (.ok (), ws') ∧
      Ranked.deciding (fun _ => true) (ws'.table Orders.app .app) =
        some { Orders.clerkRow with priority := 2 } := by
  have hmaintained : Orders.contested.Maintained := (defined_reachable.served _ _).maintained
  have hids : (Orders.contested.table Orders.app .app).map Ranked.id = ["clerks", "all"] := rfl
  have hnodup : ((Orders.contested.table Orders.app .app).map Ranked.id).Nodup := by
    rw [hids]
    decide
  have ran : run Orders.settings Orders.contested (reorder Orders.app .app ["clerks", "all"]) =
      (.ok (), Orders.contested.serve Orders.settings
        (.permissions (.reorder Orders.app .app ["clerks", "all"]))) := rfl
  obtain ⟨-, hdone, -⟩ := reordered_as_listed hmaintained Orders.app .app hnodup (by decide)
    Orders.settings ["clerks", "all"]
  obtain ⟨hdecides, -, -⟩ := hdone _ ran
  exact ⟨hmaintained, hids, rfl, _, ran, (hdecides _).trans rfl⟩

end Engine

end RecordApps
