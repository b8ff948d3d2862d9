import RecordApps.Proofs.Records.Run

/-! # Required and unique fields

Every draft and every revision is checked when its derived values have been filled in, so that
required fields of stored records are never empty. The check of unique fields looks at two other
records at most. As the ids of records are distinct, that is enough to find one that holds the
same value, wherever it stands.
-/

namespace RecordApps

/-! ## Required fields -/

namespace AppSchema

variable {schema : AppSchema} {f : FieldDefinition} {data data' : Fields}

/-- No required field is empty. -/
def Complete (schema : AppSchema) (data : Fields) : Prop :=
  ∀ f ∈ schema.activeFields, f.required = true → isEmptyField (data.get? f.code.text) = false

theorem checkRequired_ok (hvalid : schema.validate = .ok ())
    (h : schema.checkRequired data = .ok ()) : schema.Complete data := by
  intro f hf hrequired
  rw [checkRequired, ensure_eq_ok, emptyRequired, List.isEmpty_iff, List.map_eq_nil_iff,
    List.filter_eq_nil_iff] at h
  have hfull := h f hf
  rw [hrequired, acceptsInput_of_required hvalid hf hrequired] at hfull
  simpa using hfull

theorem Complete.of_metadata (hvalid : schema.validate = .ok ())
    (hsame : ∀ key, Key.isReserved key = false → data'.get? key = data.get? key)
    (h : schema.Complete data) : schema.Complete data' := by
  intro f hf hrequired
  rw [hsame _ (code_not_reserved hvalid hf)]
  exact h f hf hrequired

end AppSchema

/-! ## Unique fields -/

/-- Two records hold values under a code that are shown alike, and neither is empty. -/
def Collide (code : String) (a b : Fields) : Prop :=
  ∃ v w, a.get? code = some v ∧ b.get? code = some w ∧ v.isEmptyValue = false ∧
    w.isEmptyValue = false ∧ v.asText = w.asText

namespace Collide

variable {code : String} {a a' b b' : Fields}

theorem symm (h : Collide code a b) : Collide code b a := by
  obtain ⟨v, w, hv, hw, hfull, hfull', htext⟩ := h
  exact ⟨w, v, hw, hv, hfull', hfull, htext.symm⟩

theorem congr_left (hcode : a'.get? code = a.get? code) (h : Collide code a' b) :
    Collide code a b := by
  obtain ⟨v, w, hv, hrest⟩ := h
  exact ⟨v, w, hcode ▸ hv, hrest⟩

theorem accepted {v : Value} (hv : a.get? code = some v) (h : Collide code a b) :
    (RecordFilter.having code v).accepts b = true := by
  obtain ⟨v', w, hv', hw, -, hfull, htext⟩ := h
  obtain rfl : v = v' := Option.some.inj (hv.symm.trans hv')
  have hnull : w.isNull = false := by
    cases w with
    | null => cases hfull
    | bool | int | float | text | list | object => rfl
  simp [RecordFilter.accepts, RecordFilter.having, RecordFilter.holdsValue, KeyMap.value, hw, hnull,
    htext]

/-- What it takes for no two records to collide, with one of them singled out. -/
theorem pairwise_middle {record : Record} {before after : List Record} :
    (before ++ record :: after).Pairwise (fun a b => ¬Collide code a.data b.data) ↔
      (∀ other ∈ before ++ after, ¬Collide code record.data other.data) ∧
        (before ++ after).Pairwise fun a b => ¬Collide code a.data b.data := by
  rw [List.pairwise_middle fun hne hcollide => hne hcollide.symm, List.pairwise_cons]

end Collide

namespace Workspace

variable {ws : Workspace} {schema : AppSchema} {data : Fields} {own : Option String}
  {f : FieldDefinition} {record : Record}

/-- Of the items of a list with distinct keys, the first two tell whether there is one with
    another key than the own one. -/
theorem key_of_take_two {α : Type} (key : α → String) {items : List α} {item : α}
    (hkeys : (items.map key).Nodup) (htwo : ∀ other ∈ items.take 2, some (key other) = own)
    (hmem : item ∈ items) : some (key item) = own := by
  cases items with
  | nil => cases hmem
  | cons first rest =>
      have hfirst : some (key first) = own := htwo first (by simp)
      rcases List.mem_cons.1 hmem with rfl | hmem
      · exact hfirst
      · cases rest with
        | nil => cases hmem
        | cons second others =>
            have hsecond : some (key second) = own := htwo second (by simp)
            have hsame : key first = key second := Option.some.inj (hfirst.trans hsecond.symm)
            rw [List.map_cons, List.nodup_cons] at hkeys
            exact absurd (hsame ▸ List.mem_map_of_mem List.mem_cons_self) hkeys.1

theorem checkUniqueField_ok
    (hids : ((ws.store.records schema.code.text).map (·.id.text)).Nodup)
    (h : ws.checkUniqueField schema data own f = .ok ())
    (hmem : record ∈ ws.store.records schema.code.text)
    (hcollide : Collide f.code.text data record.data) : some record.id.text = own := by
  obtain ⟨v, -, hv, -, hfull, -, -⟩ := id hcollide
  simp only [checkUniqueField, hv, hfull, Bool.false_eq_true, if_false] at h
  split at h
  · cases h
  case isFalse hholders =>
    have hfound : record ∈ (ws.store.records schema.code.text).filter fun record =>
        (RecordFilter.having f.code.text v).accepts record.data :=
      List.mem_filter.2 ⟨hmem, hcollide.accepted hv⟩
    refine key_of_take_two (·.id.text) (hids.sublist (List.filter_sublist.map _)) ?_ hfound
    intro other hother
    by_contra hne
    exact hholders (List.any_eq_true.2 ⟨other, hother, bne_iff_ne.2 hne⟩)

theorem checkUnique_ok (hids : ((ws.store.records schema.code.text).map (·.id.text)).Nodup)
    (h : ws.checkUnique schema data own = .ok ()) (hf : f ∈ schema.activeFields)
    (hunique : f.unique = true) (hmem : record ∈ ws.store.records schema.code.text)
    (hcollide : Collide f.code.text data record.data) : some record.id.text = own := by
  have hchecked := Outcome.forM_eq_ok.1 h f (List.mem_filter.2 ⟨hf, hunique⟩)
  exact checkUniqueField_ok hids hchecked hmem hcollide

/-! ## Runs -/

/-- What the check of unique fields relies on, and what it ensures: the ids of the records of an
    app are distinct ones that have been given already, and no two records collide. -/
structure Distinct (ws : Workspace) (ids : Nat → String) (schema : AppSchema) : Prop where
  ids_nodup : ((ws.store.records schema.code.text).map (·.id.text)).Nodup
  ids_given : ∀ record ∈ ws.store.records schema.code.text, ∃ n ≤ ws.created,
    record.id.text = ids n
  apart : ∀ f ∈ schema.activeFields, f.unique = true →
    (ws.store.records schema.code.text).Pairwise fun a b => ¬Collide f.code.text a.data b.data

namespace Distinct

variable {ws' : Workspace} {settings : Settings} {ids : Nat → String} {app : AppId}
  {stored next : Record} {before after : List Record}

theorem of_nil (hrecords : ws.store.records schema.code.text = []) : ws.Distinct ids schema where
  ids_nodup := by simp [hrecords]
  ids_given := by simp [hrecords]
  apart := by simp [hrecords]

/-- A record may give way to one with the same id that collides with none of the others. -/
theorem replace (h : ws.Distinct ids schema)
    (hsplit : ws.store.records schema.code.text = before ++ stored :: after)
    (hrecords : ws'.store.records schema.code.text = before ++ next :: after)
    (hcreated : ws'.created = ws.created) (hid : next.id = stored.id)
    (hapart : ∀ f ∈ schema.activeFields, f.unique = true → ∀ other ∈ before ++ after,
      ¬Collide f.code.text next.data other.data) : ws'.Distinct ids schema where
  ids_nodup := by
    have hnodup := h.ids_nodup
    rw [hsplit] at hnodup
    simpa [hrecords, hid] using hnodup
  ids_given := by
    have hgiven := h.ids_given
    simp only [hsplit, List.forall_mem_append, List.forall_mem_cons] at hgiven
    simp only [hrecords, hcreated, hid, List.forall_mem_append, List.forall_mem_cons]
    exact hgiven
  apart f hf hunique := by
    have hpairs := h.apart f hf hunique
    rw [hsplit, Collide.pairwise_middle] at hpairs
    rw [hrecords, Collide.pairwise_middle]
    exact ⟨hapart f hf hunique, hpairs.2⟩

theorem other_id (h : ws.Distinct ids schema)
    (hsplit : ws.store.records schema.code.text = before ++ stored :: after) {other : Record}
    (hother : other ∈ before ++ after) : other.id.text ≠ stored.id.text := by
  have hnodup := h.ids_nodup
  rw [hsplit, List.map_append, List.map_cons, List.nodup_middle, ← List.map_append,
    List.nodup_cons] at hnodup
  intro hsame
  exact hnodup.1 (hsame ▸ List.mem_map_of_mem hother)

theorem created (hinjective : Function.Injective ids) (h : ws.Distinct ids schema)
    {refresh : Refresh} (hunique : ws.checkUnique schema refresh.data none = .ok ())
    (hdata : next.data = refresh.data) (hid : next.id.text = ids (ws.created + 1))
    (hcreated : ws'.created = ws.created + 1)
    (hrecords : ws'.store.records schema.code.text = ws.store.records schema.code.text ++ [next]) :
    ws'.Distinct ids schema where
  ids_nodup := by
    rw [hrecords, List.map_append, List.map_singleton, List.nodup_append_comm,
      List.singleton_append, List.nodup_cons]
    refine ⟨fun hmem => ?_, h.ids_nodup⟩
    obtain ⟨other, hother, hsame⟩ := List.mem_map.1 hmem
    obtain ⟨n, hn, hgiven⟩ := h.ids_given other hother
    have hnumber : n = ws.created + 1 := hinjective (hgiven.symm.trans (hsame.trans hid))
    omega
  ids_given := by
    simp only [hrecords, hcreated, List.forall_mem_append, List.forall_mem_singleton]
    refine ⟨fun record hmem => ?_, ws.created + 1, le_refl _, hid⟩
    obtain ⟨n, hn, hgiven⟩ := h.ids_given record hmem
    exact ⟨n, Nat.le_succ_of_le hn, hgiven⟩
  apart f hf hset := by
    rw [hrecords, List.pairwise_append]
    refine ⟨h.apart f hf hset, List.pairwise_singleton _ _, fun other hother last hlast => ?_⟩
    obtain rfl := List.mem_singleton.1 hlast
    intro hcollide
    have hown := checkUnique_ok h.ids_nodup hunique hf hset hother (hdata ▸ hcollide.symm)
    cases hown

theorem deleted (h : ws.Distinct ids schema)
    (hsplit : ws.store.records schema.code.text = before ++ stored :: after)
    (hrecords : ws'.store.records schema.code.text = before ++ after)
    (hcreated : ws'.created = ws.created) : ws'.Distinct ids schema := by
  have hsublist : List.Sublist (ws'.store.records schema.code.text)
      (ws.store.records schema.code.text) := hrecords ▸ RecordStore.sublist_of_split hsplit
  constructor
  case ids_nodup => exact h.ids_nodup.sublist (hsublist.map _)
  case ids_given =>
    intro record hmem
    rw [hcreated]
    exact h.ids_given record (hsublist.subset hmem)
  case apart =>
    intro f hf hunique
    exact (h.apart f hf hunique).sublist hsublist

theorem writes (hinjective : Function.Injective ids) (hids : settings.newRecordId = ids)
    (hvalid : schema.validate = .ok ()) (hwrites : Writes settings ws ws' schema)
    (h : ws.Distinct ids schema) : ws'.Distinct ids schema := by
  cases hwrites with
  | kept hrecords hcreated =>
      constructor
      case ids_nodup => exact hrecords ▸ h.ids_nodup
      case apart => exact hrecords ▸ h.apart
      case ids_given =>
        rw [hrecords]
        intro record hmem
        obtain ⟨n, hn, hgiven⟩ := h.ids_given record hmem
        exact ⟨n, hn.trans hcreated, hgiven⟩
  | created hdraft hdata hid hcreated hrecords =>
      obtain ⟨-, -, -, -, -, hunique⟩ := draft_ok hdraft
      exact h.created hinjective hunique hdata (hids ▸ hid) hcreated hrecords
  | @revised actor changes refresh stored before after hrevision hsplit hrecords hcreated =>
      obtain ⟨-, -, -, -, -, hunique⟩ := revision_ok hrevision
      refine h.replace hsplit hrecords hcreated rfl fun f hf hset other hother hcollide => ?_
      have hmem := (RecordStore.sublist_of_split hsplit).subset hother
      have hown := checkUnique_ok h.ids_nodup hunique hf hset hmem hcollide
      exact h.other_id hsplit hother (Option.some.inj hown)
  | moved actor action hsplit hrecords hcreated =>
      refine h.replace hsplit hrecords hcreated rfl fun f hf hset other hother hcollide => ?_
      have hpairs := h.apart f hf hset
      rw [hsplit, Collide.pairwise_middle] at hpairs
      refine hpairs.1 other hother (hcollide.congr_left ?_)
      exact Record.moved_get? _ _ _ _ (AppSchema.code_not_reserved hvalid hf)
  | deleted hsplit hrecords hcreated => exact h.deleted hsplit hrecords hcreated

end Distinct

/-- Required and unique fields keep their word: along any run of requests about records, from a
    workspace in which an app has none, no required field of a stored record is empty, and no two
    records hold values of a unique field that are shown alike. -/
theorem constraints_hold {ids : Nat → String} {start : Workspace} {app : AppId}
    (hinjective : Function.Injective ids) (hdefines : start.Defines app schema)
    (hstart : start.store.records schema.code.text = []) (hruns : start.RecordRuns ids ws) :
    (∀ record ∈ ws.store.records schema.code.text, ∀ f ∈ schema.activeFields,
      f.required = true → isEmptyField (record.data.get? f.code.text) = false) ∧
    ∀ f ∈ schema.activeFields, f.unique = true →
      (ws.store.records schema.code.text).Pairwise fun a b =>
        ¬Collide f.code.text a.data b.data := by
  have hvalid := hdefines.schema_valid
  constructor
  · refine hruns.forall_data (P := schema.Complete) hdefines hstart ?_ ?_ ?_
    · intro data data' hsame hcomplete
      exact hcomplete.of_metadata hvalid hsame
    · intro ws settings actor input refresh hdraft
      obtain ⟨-, -, -, -, hrequired, -⟩ := draft_ok hdraft
      exact AppSchema.checkRequired_ok hvalid hrequired
    · intro ws settings actor stored changes refresh hrevision
      obtain ⟨-, -, -, -, hrequired, -⟩ := revision_ok hrevision
      exact AppSchema.checkRequired_ok hvalid hrequired
  · have hinvariant := hruns.invariant (P := fun ws => ws.Distinct ids schema) hdefines
      (.of_nil hstart) fun hids hdefined hwrites h =>
        h.writes hinjective hids hdefined.schema_valid hwrites
    exact hinvariant.2.apart

end Workspace

namespace Orders

/-- Orders whose item is required and unique. -/
def strictSchema : AppSchema :=
  { schema with
    processEnabled := false
    fields := schema.fields.map fun field =>
      if field.code.text == "item" then { field with required := true, unique := true } else field }

/-- The app with these orders, where the clerk may add and edit them. -/
def strict : Workspace :=
  (Workspace.empty.serve settings (.schemas (.save strictSchema))).serve settings
    (.permissions (.saveApp clerkRow))

/-- The clerk orders tea and coffee. -/
def ordered : Workspace :=
  (strict.serve settings (.records clerk app (.create (.ofList [("item", .text "tea")])))).serve
    settings (.records clerk app (.create (.ofList [("item", .text "coffee")])))

/-- The clerk changes the first order to coffee, which is refused. -/
def changed : Workspace :=
  ordered.serve settings
    (.records clerk app (.update "r" (.ofList [("item", .text "coffee")])))

theorem newRecordId_injective : Function.Injective settings.newRecordId := by
  intro m n h
  have hlength := congrArg List.length (String.ofList_injective h)
  rwa [List.length_replicate, List.length_replicate] at hlength

end Orders

namespace Workspace

/-- In the small app, two orders are there after three requests, and their items differ. -/
theorem constraints_hold_orders :
    Orders.strict.Defines Orders.app Orders.strictSchema ∧
    Orders.strict.store.records "orders" = [] ∧
    Orders.strict.RecordRuns Orders.settings.newRecordId Orders.changed ∧
    (Orders.changed.store.records "orders").length = 2 ∧
    (∀ record ∈ Orders.changed.store.records "orders",
      isEmptyField (record.data.get? "item") = false) ∧
    (Orders.changed.store.records "orders").Pairwise fun a b => ¬Collide "item" a.data b.data := by
  have hreachable : Orders.strict.Reachable := Reachable.empty.served _ _ |>.served _ _
  have hdefines : Orders.strict.Defines Orders.app Orders.strictSchema :=
    ⟨hreachable.coherent, rfl, rfl⟩
  have hruns : Orders.strict.RecordRuns Orders.settings.newRecordId Orders.changed :=
    .step _ _ _ _ rfl (.step _ _ _ _ rfl (.step _ _ _ _ rfl .nil))
  obtain ⟨hrequired, hunique⟩ :=
    constraints_hold Orders.newRecordId_injective hdefines rfl hruns
  refine ⟨hdefines, rfl, hruns, rfl, fun record hmem => ?_, ?_⟩
  · exact hrequired record hmem _ List.mem_cons_self rfl
  · exact hunique _ List.mem_cons_self rfl

end Workspace

end RecordApps
