import RecordApps.Fault

/-! # Checks that pass

What has happened when a sequence of checks and look-ups succeeds: each of them has
succeeded, and what comes later has only seen their answers.
-/

namespace RecordApps

variable {α β : Type}

namespace Outcome

@[simp] theorem ok_bind (a : α) (f : α → Outcome β) : ((.ok a : Outcome α) >>= f) = f a := rfl

@[simp] theorem error_bind (fault : Fault) (f : α → Outcome β) :
    ((.error fault : Outcome α) >>= f) = .error fault := rfl

@[simp] theorem bind_eq_ok {ε : Type} {x : Except ε α} {f : α → Except ε β} {b : β} :
    (x >>= f) = .ok b ↔ ∃ a, x = .ok a ∧ f a = .ok b := by
  cases x with
  | error fault => simp [bind, Except.bind]
  | ok a => simp [bind, Except.bind]

@[simp] theorem check_bind_eq_ok {check : Outcome Unit} {f : Unit → Outcome β} {b : β} :
    (check >>= f) = .ok b ↔ check = .ok () ∧ f () = .ok b := by
  rw [bind_eq_ok]
  exact ⟨fun ⟨_, passed, rest⟩ => ⟨passed, rest⟩, fun ⟨passed, rest⟩ => ⟨(), passed, rest⟩⟩

@[simp] theorem pure_eq_ok {a b : α} : (pure a : Outcome α) = .ok b ↔ a = b := by
  simp [pure, Except.pure]

@[simp] theorem map_bind {γ : Type} (g : α → γ) (x : Outcome α) (f : γ → Outcome β) :
    (x.map g >>= f) = x >>= fun a => f (g a) := by
  cases x <;> rfl

theorem forM_eq_ok {check : α → Outcome Unit} {items : List α} :
    forM items check = .ok () ↔ ∀ item ∈ items, check item = .ok () := by
  induction items with
  | nil => simp
  | cons head rest ih => rw [List.forM_cons, check_bind_eq_ok, ih, List.forall_mem_cons]

theorem mapM_eq_ok {f : α → Outcome β} {items : List α} {results : List β} :
    items.mapM f = .ok results ↔ items.map f = results.map .ok := by
  induction items generalizing results with
  | nil =>
      rw [List.mapM_nil, pure_eq_ok, List.map_nil, eq_comm, eq_comm (a := []), List.map_eq_nil_iff]
  | cons head rest ih =>
      rw [List.mapM_cons, List.map_cons, bind_eq_ok]
      simp only [bind_eq_ok, pure_eq_ok, ih]
      constructor
      · rintro ⟨first, hfirst, others, hothers, rfl⟩
        rw [hfirst, hothers, List.map_cons]
      · intro hresults
        cases results with
        | nil => cases hresults
        | cons first others =>
            obtain ⟨hfirst, hothers⟩ := List.cons.inj hresults
            exact ⟨first, hfirst, others, hothers, rfl⟩

theorem exists_foldlM_eq_ok {σ : Type} {f : σ → α → Outcome σ} {items : List α}
    (h : ∀ item ∈ items, ∀ state, ∃ next, f state item = .ok next) (state : σ) :
    ∃ result, items.foldlM f state = .ok result := by
  induction items generalizing state with
  | nil => exact ⟨state, rfl⟩
  | cons head rest ih =>
      obtain ⟨hhead, hrest⟩ := List.forall_mem_cons.1 h
      obtain ⟨next, hnext⟩ := hhead state
      obtain ⟨result, hresult⟩ := ih hrest next
      exact ⟨result, by rw [List.foldlM_cons, hnext, ok_bind, hresult]⟩

theorem exists_mapM_eq_ok {f : α → Outcome β} {items : List α} :
    (∃ results, items.mapM f = .ok results) ↔ ∀ item ∈ items, ∃ result, f item = .ok result := by
  constructor
  · rintro ⟨results, hresults⟩ item hitem
    have hmem : f item ∈ results.map .ok := mapM_eq_ok.1 hresults ▸ List.mem_map_of_mem hitem
    obtain ⟨result, -, hresult⟩ := List.mem_map.1 hmem
    exact ⟨result, hresult.symm⟩
  · intro h
    induction items with
    | nil => exact ⟨[], rfl⟩
    | cons head rest ih =>
        obtain ⟨⟨first, hfirst⟩, hrest⟩ := List.forall_mem_cons.1 h
        obtain ⟨others, hothers⟩ := ih hrest
        exact ⟨first :: others, by rw [List.mapM_cons, hfirst, hothers]; rfl⟩

/-- Where every step commutes with a change of the state, so do all steps together. -/
theorem foldlM_map {σ τ : Type} {g : σ → τ} {f : σ → α → Outcome σ} {f' : τ → α → Outcome τ}
    (h : ∀ state a, f' (g state) a = (f state a).map g) (items : List α) (state : σ) :
    items.foldlM f' (g state) = (items.foldlM f state).map g := by
  induction items generalizing state with
  | nil => rfl
  | cons head rest ih =>
      rw [List.foldlM_cons, List.foldlM_cons, h]
      cases f state head with
      | error fault => rfl
      | ok next => exact ih next

theorem mapM_map {γ δ : Type} {k : α → γ} {g : β → δ} {f : α → Outcome β} {f' : γ → Outcome δ}
    (h : ∀ a, f' (k a) = (f a).map g) (items : List α) :
    (items.map k).mapM f' = (items.mapM f).map (List.map g) := by
  induction items with
  | nil => rfl
  | cons head rest ih =>
      rw [List.map_cons, List.mapM_cons, List.mapM_cons, h, ih]
      cases f head with
      | error fault => rfl
      | ok first => cases rest.mapM f <;> rfl

/-- Refuse what has been found, if anything. -/
def refuseFound (cause : α → Invalid) : Option α → Outcome Unit
  | none => .ok ()
  | some item => .error (.invalid (cause item))

theorem forM_ensure (passes : α → Bool) (cause : α → Invalid) (items : List α) :
    forM items (fun item => ensure (passes item) (cause item)) =
      refuseFound cause (items.find? (!passes ·)) := by
  induction items with
  | nil => rfl
  | cons head rest ih =>
      rw [List.forM_cons, ih, List.find?_cons]
      cases passes head <;> rfl

theorem forM_replicate (check : α → Outcome Unit) (item : α) {n : Nat} (hn : n ≠ 0) :
    forM (List.replicate n item) check = check item := by
  obtain ⟨n, rfl⟩ := Nat.exists_eq_succ_of_ne_zero hn
  rw [List.replicate_succ, List.forM_cons]
  cases hitem : check item with
  | error fault => rfl
  | ok =>
      refine forM_eq_ok.2 fun other hother => ?_
      rwa [List.eq_of_mem_replicate hother]

end Outcome

/-- The values that are looked up are those of the items, one after the other. -/
theorem mapM_eq_some {f : α → Option β} {items : List α} {results : List β} :
    items.mapM f = some results ↔ items.map f = results.map some := by
  induction items generalizing results with
  | nil => cases results <;> simp
  | cons head rest ih =>
      rw [List.mapM_cons, List.map_cons]
      simp only [Option.bind_eq_bind, Option.bind_eq_some_iff, Option.pure_def,
        Option.some.injEq, ih]
      constructor
      · rintro ⟨first, hfirst, others, hothers, rfl⟩
        rw [hfirst, hothers, List.map_cons]
      · intro hresults
        cases results with
        | nil => cases hresults
        | cons first others =>
            obtain ⟨hfirst, hothers⟩ := List.cons.inj hresults
            exact ⟨first, hfirst, others, hothers, rfl⟩

@[simp] theorem ensure_eq_ok {holds : Bool} {cause : Invalid} :
    ensure holds cause = .ok () ↔ holds = true := by
  cases holds <;> simp [ensure]

end RecordApps
