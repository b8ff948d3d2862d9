import RecordApps.Engine.Definitions
import RecordApps.Engine.Records
import RecordApps.Proofs.Outcome

/-! # Running changes

A change is run step by step: every step hands its answer and its workspace to the next one,
and a refusal ends the run in the workspace it was raised in. The lemmas below say what a run
that succeeded consists of.
-/

namespace RecordApps.Engine

variable {α β : Type} {settings : Settings} {ws ws' : Workspace}

theorem run_bind (x : Engine α) (f : α → Engine β) :
    run settings ws (x >>= f) = match run settings ws x with
      | (.ok a, ws') => run settings ws' (f a)
      | (.error fault, ws') => (.error fault, ws') := by
  show (match x settings ws with
    | (answer, mid) => ExceptT.bindCont (fun a => f a settings) answer mid) = _
  simp only [run]
  rcases x settings ws with ⟨answer, mid⟩
  cases answer <;> rfl

@[simp] theorem run_pure (a : α) : run settings ws (pure a) = (.ok a, ws) := rfl

@[simp] theorem run_get : run settings ws get = (.ok ws, ws) := rfl

@[simp] theorem run_read : run settings ws read = (.ok settings, ws) := rfl

@[simp] theorem run_set : run settings ws (set ws') = (.ok ⟨⟩, ws') := rfl

@[simp] theorem run_modify (f : Workspace → Workspace) :
    run settings ws (modify f) = (.ok ⟨⟩, f ws) := rfl

@[simp] theorem run_throw (fault : Fault) :
    run settings ws (throw fault : Engine α) = (.error fault, ws) := rfl

@[simp] theorem run_lift (outcome : Outcome α) :
    run settings ws (liftM outcome : Engine α) = (outcome, ws) := by
  cases outcome <;> rfl

theorem run_bind_eq_ok {x : Engine α} {f : α → Engine β} {b : β} :
    run settings ws (x >>= f) = (.ok b, ws') ↔
      ∃ a mid, run settings ws x = (.ok a, mid) ∧ run settings mid (f a) = (.ok b, ws') := by
  rw [run_bind]
  rcases run settings ws x with ⟨_ | a, mid⟩
  · simp
  · constructor
    · exact fun h => ⟨a, mid, rfl, h⟩
    · rintro ⟨_, _, ⟨⟩, h⟩
      exact h

/-! ## Steps in front of a change

Steps that only read, and steps that only write, are passed through; a check or a look-up
leaves the fact that it succeeded.
-/

@[simp] theorem run_pure_bind (a : α) (f : α → Engine β) :
    run settings ws (pure a >>= f) = run settings ws (f a) := by
  rw [run_bind]
  rfl

@[simp] theorem run_get_bind (f : Workspace → Engine β) :
    run settings ws (get >>= f) = run settings ws (f ws) := by
  rw [run_bind]
  rfl

@[simp] theorem run_read_bind (f : Settings → Engine β) :
    run settings ws (read >>= f) = run settings ws (f settings) := by
  rw [run_bind]
  rfl

@[simp] theorem run_set_bind (next : Workspace) (f : PUnit → Engine β) :
    run settings ws (set next >>= f) = run settings next (f ⟨⟩) := by
  rw [run_bind]
  rfl

@[simp] theorem run_throw_bind (fault : Fault) (f : α → Engine β) :
    run settings ws (throw fault >>= f) = (.error fault, ws) := by
  rw [run_bind]
  rfl

@[simp] theorem run_lift_bind_eq_ok {outcome : Outcome α} {f : α → Engine β} {b : β} :
    run settings ws (liftM outcome >>= f) = (.ok b, ws') ↔
      ∃ a, outcome = .ok a ∧ run settings ws (f a) = (.ok b, ws') := by
  cases outcome with
  | error fault => simp [run_bind]
  | ok a => simp [run_bind]

theorem run_ok_bind {outcome : Outcome α} {a : α} (h : outcome = .ok a)
    (f : α → Engine β) : run settings ws (liftM outcome >>= f) = run settings ws (f a) := by
  rw [run_bind, run_lift, h]

@[simp] theorem run_check_bind_eq_ok {check : Outcome Unit} {f : Unit → Engine β} {b : β} :
    run settings ws (liftM check >>= f) = (.ok b, ws') ↔
      check = .ok () ∧ run settings ws (f ()) = (.ok b, ws') := by
  rw [run_lift_bind_eq_ok]
  exact ⟨fun ⟨_, passed, rest⟩ => ⟨passed, rest⟩, fun ⟨passed, rest⟩ => ⟨(), passed, rest⟩⟩

/-! ## Questions

A question to the workspace, with or without the settings, is answered as the workspace answers
it.
-/

theorem answer_of_run {answer : Workspace → Outcome α} {a : α}
    (ran : run settings ws (get >>= fun ws => liftM (answer ws)) = (.ok a, ws')) :
    answer ws = .ok a := by
  rw [run_get_bind, run_lift] at ran
  exact (Prod.mk.inj ran).1

theorem answer_of_run_settings {answer : Workspace → Settings → Outcome α} {a : α}
    (ran : run settings ws (get >>= fun ws => read >>= fun s => liftM (answer ws s)) =
      (.ok a, ws')) :
    answer ws settings = .ok a := by
  rw [run_get_bind, run_read_bind, run_lift] at ran
  exact (Prod.mk.inj ran).1

end RecordApps.Engine
