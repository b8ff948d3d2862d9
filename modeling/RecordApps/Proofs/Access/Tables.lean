import RecordApps.Proofs.Access.Resolution
import RecordApps.Proofs.Engine.Reachable

/-! # Tables of rules

A rule is saved in the place of the one with its id, and ranking rules keeps their ids. The ids
of a table are therefore distinct in every workspace that comes about.
-/

namespace RecordApps

/-! ## Rows with distinct ids -/

section Rows

variable {R : Type} {key : R → String} {row other : R} {rows : List R}

theorem map_key_putRow :
    (putRow key row rows).map key =
      if key row ∈ rows.map key then rows.map key else rows.map key ++ [key row] := by
  induction rows with
  | nil => rfl
  | cons head rest ih =>
      rw [putRow]
      by_cases h : key head = key row
      · simp [h]
      · simp only [beq_iff_eq, if_neg h, List.map_cons, ih, List.mem_cons, Ne.symm h, false_or]
        split <;> rfl

theorem nodup_putRow (h : (rows.map key).Nodup) : ((putRow key row rows).map key).Nodup := by
  rw [map_key_putRow]
  split
  case isTrue => exact h
  case isFalse hnew =>
    refine List.nodup_append'.2 ⟨h, List.nodup_singleton _, ?_⟩
    exact List.disjoint_singleton.2 hnew

theorem mem_putRow_iff (h : (rows.map key).Nodup) :
    other ∈ putRow key row rows ↔ other = row ∨ other ∈ rows ∧ key other ≠ key row := by
  induction rows with
  | nil => simp [putRow]
  | cons head rest ih =>
      rw [List.map_cons, List.nodup_cons] at h
      rw [putRow]
      by_cases hid : key head = key row
      · have hrest : other ∈ rest → key other ≠ key row := by
          intro hmem hsame
          exact h.1 (hid ▸ hsame ▸ List.mem_map_of_mem hmem)
        rw [if_pos (beq_iff_eq.2 hid), List.mem_cons, List.mem_cons]
        constructor
        · rintro (rfl | hmem)
          · exact .inl rfl
          · exact .inr ⟨.inr hmem, hrest hmem⟩
        · rintro (rfl | ⟨rfl | hmem, hne⟩)
          · exact .inl rfl
          · exact absurd hid hne
          · exact .inr hmem
      · rw [if_neg (by simpa using hid), List.mem_cons, List.mem_cons, ih h.2]
        constructor
        · rintro (rfl | rfl | ⟨hmem, hne⟩)
          · exact .inr ⟨.inl rfl, hid⟩
          · exact .inl rfl
          · exact .inr ⟨.inr hmem, hne⟩
        · rintro (rfl | ⟨rfl | hmem, hne⟩)
          · exact .inr (.inl rfl)
          · exact .inl rfl
          · exact .inr (.inr ⟨hmem, hne⟩)

end Rows

/-! ## Rows that are saved one after the other -/

section Saves

variable {σ S ρ κ : Type} {save : σ → S → σ} {inv : σ → Prop} {accepted : S → Prop}
  {In : σ → ρ → Prop} {row : S → ρ} {place : ρ → κ}

/-- Where a row that is accepted takes its place, and one that is refused changes nothing, the rows
    that are there after all saves, no two of them for the same place, are those that were accepted
    and those that were there before in other places. -/
theorem in_foldl_save_iff (hinv : ∀ {s item}, inv s → inv (save s item))
    (hput : ∀ {s item other}, inv s → accepted item →
      (In (save s item) other ↔ other = row item ∨ In s other ∧ place other ≠ place (row item)))
    (hskip : ∀ {s item}, inv s → ¬accepted item → save s item = s) {s : σ} (hs : inv s)
    {saves : List S} (hplaces : (saves.map fun item => place (row item)).Nodup) {other : ρ} :
    In (saves.foldl save s) other ↔
      (∃ item ∈ saves, accepted item ∧ other = row item) ∨
        In s other ∧ ∀ item ∈ saves, accepted item → place other ≠ place (row item) := by
  induction saves generalizing s with
  | nil => simp
  | cons head rest ih =>
      rw [List.map_cons, List.nodup_cons] at hplaces
      rw [List.foldl_cons, ih (hinv hs) hplaces.2]
      simp only [List.exists_mem_cons_iff, List.forall_mem_cons]
      by_cases haccepted : accepted head
      · rw [hput hs haccepted]
        have hfree : ∀ item ∈ rest, place (row head) ≠ place (row item) :=
          fun item hitem hsame => hplaces.1 (hsame ▸ List.mem_map_of_mem hitem)
        constructor
        · rintro (hrest | ⟨rfl | ⟨hin, hne⟩, hothers⟩)
          · exact .inl (.inr hrest)
          · exact .inl (.inl ⟨haccepted, rfl⟩)
          · exact .inr ⟨hin, fun _ => hne, hothers⟩
        · rintro ((⟨-, rfl⟩ | hrest) | ⟨hin, hhead, hothers⟩)
          · exact .inr ⟨.inl rfl, fun item hitem _ => hfree item hitem⟩
          · exact .inl hrest
          · exact .inr ⟨.inr ⟨hin, hhead haccepted⟩, hothers⟩
      · rw [hskip hs haccepted]
        refine or_congr ?_ (and_congr_right fun _ => ?_)
        · exact (or_iff_right fun hhead => haccepted hhead.1).symm
        · exact (and_iff_right fun hhead => absurd hhead haccepted).symm

end Saves

theorem Ranked.reorder_ids {R : Type} [Ranked R] {rules ranked : List R} {ids : List String}
    (hid : ∀ (rule : R) priority, id (withPriority rule priority) = id rule)
    (h : reorder rules ids = .ok ranked) : ranked.map id = rules.map id := by
  rw [reorder, Outcome.check_bind_eq_ok, Outcome.check_bind_eq_ok, Outcome.mapM_eq_ok] at h
  obtain ⟨-, -, h⟩ := h
  induction rules generalizing ranked with
  | nil => rw [List.map_eq_nil_iff.1 h.symm]
  | cons head rest ih =>
      cases ranked with
      | nil => cases h
      | cons first others =>
          obtain ⟨hfirst, hothers⟩ := List.cons.inj h
          rw [rankBy, Outcome.check_bind_eq_ok] at hfirst
          obtain rfl := Outcome.pure_eq_ok.1 hfirst.2
          rw [List.map_cons, List.map_cons, hid, ih hothers]

namespace Workspace

variable {ws ws' : Workspace} {app : AppId}

/-- In every table of every app the ids are distinct. -/
def DistinctRules (ws : Workspace) : Prop :=
  ∀ app, (ws.ruleSet app).DistinctIds

theorem DistinctRules.of_eq (h : ws.DistinctRules) (hsame : ws'.ruleSet = ws.ruleSet) :
    ws'.DistinctRules := by
  intro app
  rw [hsame]
  exact h app

theorem ruleSet_app (rows : List AppPermission) (other : AppId) :
    { ws with appPermissions := ws.appPermissions.insert app rows }.ruleSet other =
      if other = app then { ws.ruleSet other with app := rows } else ws.ruleSet other := by
  simp only [ruleSet, Table.get?_insert]
  split <;> rfl

theorem ruleSet_field (rows : List FieldPermission) (other : AppId) :
    { ws with fieldPermissions := ws.fieldPermissions.insert app rows }.ruleSet other =
      if other = app then { ws.ruleSet other with field := rows } else ws.ruleSet other := by
  simp only [ruleSet, Table.get?_insert]
  split <;> rfl

theorem ruleSet_record (rules : List RecordRule) (other : AppId) :
    { ws with recordRules := ws.recordRules.insert app rules }.ruleSet other =
      if other = app then { ws.ruleSet other with record := rules } else ws.ruleSet other := by
  simp only [ruleSet, Table.get?_insert]
  split <;> rfl

namespace DistinctRules

theorem withApp (h : ws.DistinctRules) {rows : List AppPermission}
    (hrows : (rows.map Ranked.id).Nodup) :
    { ws with appPermissions := ws.appPermissions.insert app rows }.DistinctRules := by
  intro other
  rw [ruleSet_app]
  split
  · exact ⟨hrows, (h other).field, (h other).record⟩
  · exact h other

theorem withField (h : ws.DistinctRules) {rows : List FieldPermission}
    (hrows : (rows.map Ranked.id).Nodup) :
    { ws with fieldPermissions := ws.fieldPermissions.insert app rows }.DistinctRules := by
  intro other
  rw [ruleSet_field]
  split
  · exact ⟨(h other).app, hrows, (h other).record⟩
  · exact h other

theorem withRecord (h : ws.DistinctRules) {rules : List RecordRule}
    (hrules : (rules.map Ranked.id).Nodup) :
    { ws with recordRules := ws.recordRules.insert app rules }.DistinctRules := by
  intro other
  rw [ruleSet_record]
  split
  · exact ⟨(h other).app, (h other).field, hrules⟩
  · exact h other

end DistinctRules

end Workspace

namespace Engine

variable {α : Type} {settings : Settings} {ws ws' : Workspace}

open Workspace

/-! ## Steps keep ids distinct -/

theorem reorder_distinct (h : ws.DistinctRules) {app : AppId} {kind : RuleKind} {ids : List String}
    (ran : run settings ws (reorder app kind ids) = (.ok (), ws')) : ws'.DistinctRules := by
  have hids := h app
  cases kind with
  | app =>
      obtain ⟨rows, hrows, replaced⟩ := reorder_ok ran
      obtain ⟨-, rfl⟩ := replaceAppPermissions_ok replaced
      exact h.withApp (Ranked.reorder_ids (fun _ _ => rfl) hrows ▸ hids.app)
  | field =>
      obtain ⟨rows, hrows, replaced⟩ := reorder_ok ran
      obtain ⟨-, rfl⟩ := replaceFieldPermissions_ok replaced
      exact h.withField (Ranked.reorder_ids (fun _ _ => rfl) hrows ▸ hids.field)
  | record =>
      obtain ⟨rules, hrules, replaced⟩ := reorder_ok ran
      obtain ⟨-, rfl⟩ := replaceRecordRules_ok replaced
      exact h.withRecord (Ranked.reorder_ids (fun _ _ => rfl) hrules ▸ hids.record)

theorem permissionCall_distinct (h : ws.DistinctRules) (call : PermissionCall α) {answer : α}
    (ran : run settings ws call.perform = (.ok answer, ws')) : ws'.DistinctRules := by
  cases call with
  | saveApp row =>
      obtain ⟨-, -, rfl⟩ := saveAppPermission_ok ran
      exact h.withApp (nodup_putRow (h row.app).app)
  | saveField row =>
      obtain ⟨-, -, rfl⟩ := saveFieldPermission_ok ran
      exact h.withField (nodup_putRow (h row.app).field)
  | saveRecord rule =>
      obtain ⟨-, -, rfl⟩ := saveRecordRule_ok ran
      exact h.withRecord (nodup_putRow (h rule.app).record)
  | reorder app kind ids => exact reorder_distinct h ran
  | rules | access => exact (permissionCall_onlyReads rfl).unchanged ran ▸ h

end Engine

namespace Workspace

theorem distinctRules_invariant : RuleInvariant DistinctRules where
  congr hsame h := h.of_eq hsame.ruleSet
  permissions call _ ran h := Engine.permissionCall_distinct h call ran
  notifications call _ ran h := by
    obtain ⟨_, rfl⟩ := Engine.notificationCall_onlyRules call ran
    exact h.of_eq rfl

theorem Reachable.distinct {ws : Workspace} (h : ws.Reachable) : ws.DistinctRules :=
  distinctRules_invariant.reachable (fun _ => ⟨List.nodup_nil, List.nodup_nil, List.nodup_nil⟩) h

end Workspace

end RecordApps
