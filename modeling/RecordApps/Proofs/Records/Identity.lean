import RecordApps.Proofs.Schema.History

/-! # Which record is which

A request adds a record with an id that was never given before, writes one in the place of
another with the same id, drops one, or leaves the records alone. As long as the supply of ids
does not repeat itself, an id therefore names one record of all apps, and a record stays under
the code it was made under.
-/

namespace RecordApps

namespace Workspace

variable {settings : Settings} {ids : Nat → String} {ws ws' : Workspace}

/-- Every id is one of those that were given so far, and names one record. -/
structure Identified (ids : Nat → String) (ws : Workspace) : Prop where
  given : ∀ {code record}, record ∈ ws.store.records code →
    ∃ n ≤ ws.created, record.id.text = ids n
  unique : ∀ {code code' a b}, a ∈ ws.store.records code → b ∈ ws.store.records code' →
    a.id.text = b.id.text → code = code' ∧ a = b

namespace Identified

theorem of_nil (hempty : ∀ code, ws.store.records code = []) : ws.Identified ids where
  given hmem := by simp [hempty] at hmem
  unique hmem := by simp [hempty] at hmem

theorem find?_iff (h : ws.Identified ids) {code id : String} {record : Record} :
    ws.store.find? code id = some record ↔
      record ∈ ws.store.records code ∧ record.id.text = id := by
  constructor
  · intro hfound
    exact ⟨RecordStore.mem_of_find? hfound, RecordStore.find?_id hfound⟩
  · rintro ⟨hmem, rfl⟩
    exact RecordStore.find?_of_unique hmem fun other hother hsame =>
      (h.unique hother hmem hsame).2

/-- A record after an update is the one that is written, or one with another id. -/
theorem mem_of_update (h : ws.Identified ids) (hordered : ws.store.Ordered) {store : RecordStore}
    {code : String} {record : Record} {expected : Option String}
    (hupdate : ws.store.update code record expected = .ok store) {other : String} {b : Record}
    (hb : b ∈ store.records other) :
    b ∈ ws.store.records other ∧ b.id.text ≠ record.id.text ∨ other = code ∧ b = record := by
  obtain ⟨stored, -, -, hfind, -, hnumber, hid, -⟩ := RecordStore.update_ok hupdate
  refine (RecordStore.mem_of_update hordered hupdate hb).imp_left ?_
  rintro ⟨hb, hother⟩
  refine ⟨hb, fun hsame => ?_⟩
  obtain ⟨rfl, rfl⟩ := h.unique hb (RecordStore.mem_of_find? hfind) (hsame.trans hid.symm)
  exact hother rfl hnumber

theorem fresh (hinjective : Function.Injective ids) (h : ws.Identified ids) {code id : String}
    {record : Record} (hmem : record ∈ ws.store.records code) (hid : id = ids (ws.created + 1)) :
    record.id.text ≠ id := by
  intro hsame
  obtain ⟨n, hn, hgiven⟩ := h.given hmem
  have heq := hinjective (hgiven.symm.trans (hsame.trans hid))
  omega

theorem step (hinjective : Function.Injective ids) (hids : settings.newRecordId = ids)
    (hordered : ws.store.Ordered) (h : ws.Identified ids) (hstep : StoreStep settings ws ws') :
    ws'.Identified ids := by
  cases hstep with
  | kept hstore hcreated =>
      constructor
      · rw [hstore, hcreated]; exact h.given
      · rw [hstore]; exact h.unique
  | @inserted code data record hinsert hcreated =>
      obtain ⟨-, hid, -⟩ := RecordStore.insert_ok hinsert
      rw [hids] at hid
      constructor
      · intro other b hb
        rcases RecordStore.mem_of_insert hinsert hb with hb | ⟨rfl, rfl⟩
        · obtain ⟨n, hn, hgiven⟩ := h.given hb
          exact ⟨n, by omega, hgiven⟩
        · exact ⟨ws.created + 1, hcreated.ge, hid⟩
      · intro code code' a b ha hb hsame
        rcases RecordStore.mem_of_insert hinsert ha with ha | ⟨rfl, rfl⟩ <;>
          rcases RecordStore.mem_of_insert hinsert hb with hb | ⟨rfl, rfl⟩
        · exact h.unique ha hb hsame
        · exact absurd hsame (h.fresh hinjective ha hid)
        · exact absurd hsame.symm (h.fresh hinjective hb hid)
        · exact ⟨rfl, rfl⟩
  | @updated code record expected hupdate hcreated =>
      obtain ⟨stored, -, -, hfind, -, -, hid, -⟩ := RecordStore.update_ok hupdate
      constructor
      · intro other b hb
        rw [hcreated]
        rcases h.mem_of_update hordered hupdate hb with ⟨hb, -⟩ | ⟨rfl, rfl⟩
        · exact h.given hb
        · exact hid ▸ h.given (RecordStore.mem_of_find? hfind)
      · intro code code' a b ha hb hsame
        rcases h.mem_of_update hordered hupdate ha with ⟨ha, hne⟩ | ⟨rfl, rfl⟩ <;>
          rcases h.mem_of_update hordered hupdate hb with ⟨hb, hne'⟩ | ⟨rfl, rfl⟩
        · exact h.unique ha hb hsame
        · exact absurd hsame hne
        · exact absurd hsame.symm hne'
        · exact ⟨rfl, rfl⟩
  | deleted hdelete hcreated =>
      constructor
      · intro code b hb
        rw [hcreated]
        exact h.given (RecordStore.mem_of_delete hdelete hb)
      · intro code code' a b ha hb
        exact h.unique (RecordStore.mem_of_delete hdelete ha) (RecordStore.mem_of_delete hdelete hb)

end Identified

end Workspace

/-- The record that a request is about, if it is about a single one. -/
def RecordCall.record? : {α : Type} → RecordCall α → Option String
  | _, .create _ | _, .list _ => none
  | _, .update id _ | _, .delete id | _, .read id | _, .related id _ | _, .act id _ | _, .actions id
  | _, .assign id _ | _, .comment id _ => some id

namespace Engine

open Workspace

variable {α : Type} {settings : Settings} {ids : Nat → String} {ws ws' : Workspace}

/-! ## One request -/

theorem serviceCall_store (call : ServiceCall α) {answer : α}
    (ran : run settings ws call.perform = (.ok answer, ws')) : StoreStep settings ws ws' := by
  cases call with
  | records actor app call => exact (recordCall_step call ran).records
  | schemas call =>
      obtain ⟨_, rfl⟩ := schemaCall_onlySchemas call ran
      exact .kept rfl rfl
  | processes call =>
      obtain hstep | ⟨_, rfl⟩ | ⟨_, rfl⟩ := processCall_cases call ran
      · exact hstep.records
      · exact .kept rfl rfl
      · exact .kept rfl rfl
  | permissions call =>
      have hsame := permissionCall_sameApps call ran
      exact .kept hsame.store hsame.created
  | notifications call =>
      have hsame := notificationCall_sameApps call ran
      exact .kept hsame.store hsame.created

/-- A request about records leaves the records of other apps alone, and all records but the one it
    is about. -/
theorem recordCall_find? {actor : Actor} {app : AppId} (call : RecordCall α) {answer : α}
    (ran : run settings ws (call.perform actor app) = (.ok answer, ws')) {code id : String}
    (hother : (∀ schema, ws.schemas.get? app = some schema → code ≠ schema.code.text) ∨
      call.record? ≠ some id) {record : Record}
    (hfound : ws.store.find? code id = some record) : ws'.store.find? code id = some record := by
  cases call with
  | create input =>
      obtain ⟨_, _, _, _, -, -, hinsert, rfl, -⟩ := createRecord_ok ran
      exact RecordStore.find?_insert hinsert hfound
  | update id' changes =>
      obtain ⟨schema, stored, _, _, hschema, hstored, -, hupdate, rfl, -⟩ := updateRecord_ok ran
      rw [RecordStore.find?_update_other hupdate, hfound]
      refine hother.imp (fun hcode => hcode schema hschema) fun hne hid => hne (congrArg some ?_)
      exact (RecordStore.find?_id hstored).symm.trans hid
  | delete id' =>
      obtain ⟨schema, _, _, hschema, -, -, hdelete, rfl, -⟩ := deleteRecord_ok ran
      rw [RecordStore.find?_delete_other hdelete, hfound]
      exact hother.imp (fun hcode => hcode schema hschema) fun hne hid =>
        hne (congrArg some hid.symm)
  | act id' action =>
      obtain ⟨schema, stored, _, hschema, hstored, -, moved, -⟩ := executeAction_ok ran
      obtain ⟨_, -, -, rfl⟩ | ⟨_, store, -, hupdate, -, rfl⟩ := transition_ok moved
      · exact hfound
      · refine (RecordStore.find?_update_other hupdate ?_).trans hfound
        refine hother.imp (fun hcode => hcode schema hschema) fun hne hid => hne (congrArg some ?_)
        exact (RecordStore.find?_id hstored).symm.trans hid
  | assign id' assignees =>
      obtain ⟨_, _, -, -, -, -, assigned⟩ := assignRecord_ok ran
      obtain ⟨_, -, rfl⟩ := assign_ok assigned
      exact hfound
  | read | list | related | actions | comment =>
      exact (recordCall_onlyReads rfl).unchanged ran ▸ hfound

end Engine

namespace Workspace

theorem Identified.answered {α : Type} {settings : Settings} {ids : Nat → String}
    {ws ws' : Workspace} (hinjective : Function.Injective ids) (hids : settings.newRecordId = ids)
    (hordered : ws.store.Ordered) (h : ws.Identified ids) (call : ServiceCall α) {answer : α}
    (ran : Engine.run settings ws call.perform = (.ok answer, ws')) : ws'.Identified ids :=
  h.step hinjective hids hordered (Engine.serviceCall_store call ran)

/-! ## Runs of calls of some kind -/

/-- One call of a kind, refused or not, where the n-th record that is created gets the n-th id. -/
inductive Serves (ids : Nat → String)
    (kind : Settings → Workspace → {α : Type} → ServiceCall α → Prop) :
    Workspace → Workspace → Prop where
  | call {α : Type} {ws : Workspace} (settings : Settings) (call : ServiceCall α) :
      settings.newRecordId = ids → kind settings ws call →
      Serves ids kind ws (ws.serve settings call)

def RunsOf (ids : Nat → String)
    (kind : Settings → Workspace → {α : Type} → ServiceCall α → Prop) :
    Workspace → Workspace → Prop :=
  Relation.ReflTransGen (Serves ids kind)

variable {ids : Nat → String} {start ws : Workspace}
  {kind : Settings → Workspace → {α : Type} → ServiceCall α → Prop}

theorem RunsOf.sound (hruns : start.RunsOf ids kind ws) (hsound : start.Sound) : ws.Sound := by
  induction hruns with
  | refl => exact hsound
  | tail _ hstep ih =>
      obtain ⟨settings, call, -, -⟩ := hstep
      exact Engine.serve_keeps ih fun ran => ih.answered call ran

theorem RunsOf.identified (hinjective : Function.Injective ids) (hruns : start.RunsOf ids kind ws)
    (hsound : start.Sound) (hidentified : start.Identified ids) : ws.Identified ids := by
  induction hruns with
  | refl => exact hidentified
  | tail hbefore hstep ih =>
      have hordered := (RunsOf.sound hbefore hsound).ordered
      obtain ⟨settings, call, hids, -⟩ := hstep
      exact Engine.serve_keeps ih fun ran => ih.answered hinjective hids hordered call ran

end Workspace

end RecordApps
