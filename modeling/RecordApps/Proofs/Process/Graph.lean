import Mathlib.Data.List.Nodup
import RecordApps.Process.Transition
import RecordApps.Proofs.Outcome

/-! # Valid graphs

A valid graph has one initial status, and its actions lead from a status of the graph to
another. An action that is authorized is an action of the graph that leads away from the present
status, and one that the user may take.
-/

namespace RecordApps.ProcessGraph

variable {graph : ProcessGraph}

theorem validate_ok (h : graph.validate = .ok ()) :
    graph.statuses.countP (·.initial) = 1 ∧ graph.checkActions [] graph.actions = .ok () := by
  rw [validate, Outcome.check_bind_eq_ok, Outcome.check_bind_eq_ok] at h
  obtain ⟨-, -, h⟩ := h
  rw [Outcome.check_bind_eq_ok, ensure_eq_ok, beq_iff_eq] at h
  exact h

theorem single_initial (h : graph.validate = .ok ()) :
    ∃ status, graph.statuses.filter (·.initial) = [status] ∧ graph.initialStatus = .ok status := by
  have hcount := (validate_ok h).1
  rw [List.countP_eq_length_filter, List.length_eq_one_iff] at hcount
  obtain ⟨status, hstatus⟩ := hcount
  refine ⟨status, hstatus, ?_⟩
  have hfind : graph.statuses.find? (·.initial) = some status := by
    rw [← List.head?_filter, hstatus, List.head?_cons]
  rw [initialStatus, hfind]

theorem checkActions_ok {seen : List String} {actions : List ProcessAction}
    (h : graph.checkActions seen actions = .ok ()) :
    ∀ action ∈ actions, (graph.status? action.source.text).isSome = true ∧
      (graph.status? action.target.text).isSome = true := by
  induction actions generalizing seen with
  | nil => simp
  | cons head rest ih =>
      rw [checkActions, Outcome.check_bind_eq_ok, Outcome.check_bind_eq_ok] at h
      obtain ⟨-, hends, hrest⟩ := h
      have hends := Outcome.forM_eq_ok.1 hends
      refine List.forall_mem_cons.2 ⟨⟨?_, ?_⟩, ih hrest⟩
      · exact ensure_eq_ok.1 (hends head.source (by simp))
      · exact ensure_eq_ok.1 (hends head.target (by simp))

theorem checkActions_nodup {seen : List String} {actions : List ProcessAction}
    (h : graph.checkActions seen actions = .ok ()) :
    (∀ action ∈ actions, action.id.text ∉ seen) ∧ (actions.map (·.id.text)).Nodup := by
  induction actions generalizing seen with
  | nil => simp
  | cons head rest ih =>
      rw [checkActions, Outcome.check_bind_eq_ok, Outcome.check_bind_eq_ok] at h
      obtain ⟨hhead, -, hrest⟩ := h
      obtain ⟨hfresh, hnodup⟩ := ih hrest
      constructor
      · refine List.forall_mem_cons.2 ⟨by simpa using hhead, fun action hmem hseen => ?_⟩
        exact hfresh action hmem (List.mem_cons_of_mem _ hseen)
      · -- The ids of earlier actions are refused for all that follow.
        refine List.nodup_cons.2 ⟨fun hmem => ?_, hnodup⟩
        obtain ⟨action, haction, hsame⟩ := List.mem_map.1 hmem
        exact hfresh action haction (hsame ▸ List.mem_cons_self)

theorem eq_of_action_id (h : graph.validate = .ok ()) {a b : ProcessAction}
    (ha : a ∈ graph.actions) (hb : b ∈ graph.actions) (hid : a.id.text = b.id.text) : a = b :=
  List.inj_on_of_nodup_map (checkActions_nodup (validate_ok h).2).2 ha hb hid

theorem source_status (h : graph.validate = .ok ()) {action : ProcessAction}
    (haction : action ∈ graph.actions) :
    ∃ status, graph.status? action.source.text = some status :=
  Option.isSome_iff_exists.1 (checkActions_ok (validate_ok h).2 action haction).1

theorem action?_eq_some {id : String} {action : ProcessAction}
    (h : graph.action? id = some action) : action ∈ graph.actions ∧ action.id.text = id :=
  ⟨List.mem_of_find?_eq_some h, by simpa using List.find?_some h⟩

/-- An authorized action is one of the graph that leads away from the present status. The user
    is assigned, unless everyone may take the action or the status takes no assignees. -/
theorem authorize_ok {current : Option String} {id actor : String} {assignees : List String}
    {action : ProcessAction} (h : graph.authorize current id actor assignees = .ok action) :
    action ∈ graph.actions ∧ action.id.text = id ∧ current = some action.source.text ∧
      (action.type = .nonAssignee ∨ graph.takesAssignees action.source.text = false ∨
        actor ∈ assignees) := by
  rw [authorize] at h
  split at h
  case h_1 => cases h
  case h_2 found hfound =>
    split at h
    · cases h
    case isFalse hcurrent =>
      split at h
      · cases h
      case isFalse hassigned =>
        split at h
        · cases h
        · obtain rfl := Except.ok.inj h
          obtain ⟨hmem, hid⟩ := action?_eq_some hfound
          refine ⟨hmem, hid, by simpa using hcurrent, ?_⟩
          cases htype : found.type with
          | nonAssignee => exact .inl rfl
          | normal =>
              cases htakes : graph.takesAssignees found.source.text with
              | false => exact .inr (.inl rfl)
              | true =>
                  refine .inr (.inr ?_)
                  simpa [htype, htakes] using hassigned

end RecordApps.ProcessGraph
