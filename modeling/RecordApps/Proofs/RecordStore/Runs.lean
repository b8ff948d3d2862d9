import RecordApps.Derived.Lookup
import RecordApps.Proofs.RecordStore

/-! # Runs of a record store

Records are loaded, added, replaced and deleted in any order, and a write that is refused changes
nothing. The last number that was given is never lowered, not even when its record is deleted or an
older one is loaded. It bounds all numbers that the app ever had, so the next one is new.
-/

namespace RecordApps

/-- A write to a record store. The number of a loaded record fits into a word. -/
inductive StoreWrite where
  | restore (code : String) (record : Record) (word : record.number < wordLimit)
  | insert (code id : String) (data : Fields)
  | update (code : String) (record : Record) (expected : Option String)
  | delete (code id : String)

namespace StoreWrite

def perform (store : RecordStore) : StoreWrite → Outcome RecordStore
  | .restore code record _ => store.restore code record
  | .insert code id data => (store.insert code id data).map Prod.snd
  | .update code record expected => store.update code record expected
  | .delete code id => store.delete code id

/-- The id of a new record is not in use. -/
def FreshId (store : RecordStore) : StoreWrite → Prop
  | .insert code id _ => store.find? code id = none
  | .restore _ _ _ | .update _ _ _ | .delete _ _ => True

theorem perform_insert_eq_ok {store after : RecordStore} {code id : String} {data : Fields} :
    (StoreWrite.insert code id data).perform store = .ok after ↔
      ∃ record, store.insert code id data = .ok (record, after) := by
  rw [perform]
  cases hmade : store.insert code id data with
  | error fault => simp [Except.map]
  | ok made => simp [Except.map, Prod.ext_iff]

end StoreWrite

namespace AppRecords

theorem place_perm (record : Record) (records : List Record) :
    (place record records).Perm (record :: records) := by
  induction records with
  | nil => exact .refl _
  | cons head rest ih =>
      rw [place]
      split
      · exact .refl _
      · exact (ih.cons head).trans (.swap record head rest)

variable {app : AppRecords} {test : Record → Bool} {record : Record}

end AppRecords

theorem LookupConfig.source?_eq_find? (config : LookupConfig) (store : RecordStore) {key : Value}
    (hkey : key.asText ≠ "") :
    config.source? store key = (store.records config.app).find? fun record =>
      RecordFilter.holdsValue record.data config.keyField key := by
  rw [source?, if_neg (by simpa using hkey), RecordStore.list, RecordFilter.cut]
  simp [RecordFilter.withLimit, RecordFilter.having, RecordFilter.accepts, List.head?_take]

namespace RecordStore

variable {store after : RecordStore} {code id : String} {record : Record} {past : List RecordStore}

/-! ## Ids -/

/-- No two records of an app have the same id. -/
def DistinctIds (store : RecordStore) : Prop :=
  ∀ code, ((store.records code).map (·.id.text)).Nodup

namespace DistinctIds

theorem empty : RecordStore.empty.DistinctIds := fun _ => List.nodup_nil

theorem withApp (h : store.DistinctIds) {records : AppRecords}
    (hrecords : (records.records.map (·.id.text)).Nodup) :
    (store.withApp code records).DistinctIds := by
  intro other
  rw [records_withApp]
  split
  · exact hrecords
  · exact h other

theorem withRecord (h : store.DistinctIds) (hfresh : store.find? code record.id.text = none)
    {lastNumber : Nat} {records : List Record}
    (hperm : records.Perm (record :: store.records code)) :
    (store.withApp code ⟨lastNumber, records⟩).DistinctIds := by
  refine h.withApp ?_
  rw [(hperm.map _).nodup_iff, List.map_cons, List.nodup_cons]
  refine ⟨?_, h code⟩
  simpa using find?_eq_none_iff.1 hfresh

theorem insert (h : store.DistinctIds) (hfresh : store.find? code id = none) {data : Fields}
    (hinsert : store.insert code id data = .ok (record, after)) : after.DistinctIds := by
  obtain ⟨-, rfl, -, -, rfl⟩ := insert_ok hinsert
  exact h.withRecord hfresh (List.perm_append_singleton record _)

theorem restore (h : store.DistinctIds) (hrestore : store.restore code record = .ok after) :
    after.DistinctIds := by
  obtain ⟨hfresh, -, rfl⟩ := restore_ok hrestore
  exact h.withRecord hfresh (AppRecords.place_perm record _)

theorem update (h : store.DistinctIds) {expected : Option String}
    (hupdate : store.update code record expected = .ok after) : after.DistinctIds := by
  obtain ⟨stored, before, rest, -, -, -, hid, -, hsplit, rfl⟩ := update_ok hupdate
  refine h.withApp ?_
  have hids := h code
  rw [hsplit] at hids
  simpa [hid] using hids

theorem delete (h : store.DistinctIds) (hdelete : store.delete code id = .ok after) :
    after.DistinctIds := by
  obtain ⟨stored, before, rest, -, hsplit, rfl⟩ := delete_ok hdelete
  exact h.withApp ((h code).sublist ((sublist_of_split hsplit).map _))

theorem find?_delete (h : store.DistinctIds) (hdelete : store.delete code id = .ok after) :
    after.find? code id = none := by
  obtain ⟨stored, before, rest, hfound, hsplit, rfl⟩ := delete_ok hdelete
  have hids := h code
  rw [hsplit, List.map_append, List.map_cons, List.nodup_middle, List.nodup_cons,
    find?_id hfound, ← List.map_append] at hids
  rw [find?_eq_none_iff, records_withApp, if_pos rfl]
  intro record hmem hid
  exact hids.1 (List.mem_map.2 ⟨record, hmem, hid⟩)

theorem perform (h : store.DistinctIds) (write : StoreWrite) (hfresh : write.FreshId store)
    (hdone : write.perform store = .ok after) : after.DistinctIds := by
  cases write with
  | restore code record word => exact h.restore hdone
  | insert code id data =>
      obtain ⟨_, hinsert⟩ := StoreWrite.perform_insert_eq_ok.1 hdone
      exact h.insert hfresh hinsert
  | update code record expected => exact h.update hdone
  | delete code id => exact h.delete hdone

end DistinctIds

/-! ## One write -/

/-- The last number has stayed, or a record has got a larger one. -/
def Advances (before after : AppRecords) : Prop :=
  after.lastNumber = before.lastNumber ∨
    before.lastNumber < after.lastNumber ∧
      ∃ record ∈ after.records, record.number = after.lastNumber

theorem Advances.le {before after : AppRecords} (h : Advances before after) :
    before.lastNumber ≤ after.lastNumber := by
  rcases h with hsame | ⟨hlt, -⟩
  · exact hsame.ge
  · exact hlt.le

theorem Advances.withApp {records : AppRecords} (h : Advances (store.app code) records)
    (other : String) : Advances (store.app other) ((store.withApp code records).app other) := by
  rw [app_withApp]
  split
  case isTrue hother => exact hother ▸ h
  case isFalse => exact .inl rfl

theorem perform_advances (hordered : store.Ordered) (write : StoreWrite)
    (h : write.perform store = .ok after) :
    after.Ordered ∧ ∀ code, Advances (store.app code) (after.app code) := by
  cases write with
  | restore code record word =>
      refine ⟨hordered.restore word h, ?_⟩
      obtain ⟨-, -, rfl⟩ := restore_ok h
      apply Advances.withApp
      rcases Nat.lt_or_ge (store.app code).lastNumber record.number with hlt | hge
      · exact .inr ⟨hlt.trans_le (Nat.le_max_right _ _), record,
          AppRecords.mem_place.2 (.inl rfl), (Nat.max_eq_right hlt.le).symm⟩
      · exact .inl (Nat.max_eq_left hge)
  | insert code id data =>
      obtain ⟨record, hinsert⟩ := StoreWrite.perform_insert_eq_ok.1 h
      refine ⟨(hordered.insert hinsert).2, ?_⟩
      obtain ⟨-, -, hnumber, -, rfl⟩ := insert_ok hinsert
      apply Advances.withApp
      have hlt : (store.app code).lastNumber < record.number := hnumber ▸ Nat.lt_succ_self _
      exact .inr ⟨hlt, record, by simp, rfl⟩
  | update code record expected =>
      refine ⟨hordered.update h, ?_⟩
      obtain ⟨_, _, _, -, -, -, -, -, -, rfl⟩ := update_ok h
      exact Advances.withApp (.inl rfl)
  | delete code id =>
      refine ⟨hordered.delete h, ?_⟩
      obtain ⟨_, _, _, -, -, rfl⟩ := delete_ok h
      exact Advances.withApp (.inl rfl)

/-! ## Runs -/

/-- The store after a write, refused or not. -/
def serve (store : RecordStore) (write : StoreWrite) : RecordStore :=
  match write.perform store with
  | .ok after => after
  | .error _ => store

theorem serve_cases (store : RecordStore) (write : StoreWrite) :
    store.serve write = store ∨ write.perform store = .ok (store.serve write) := by
  cases h : write.perform store with
  | error fault => exact .inl (by rw [serve, h])
  | ok after => exact .inr (by rw [serve, h])

/-- Writes to the empty store: the stores that were, the latest first, and the store that is. -/
inductive Run (allowed : RecordStore → StoreWrite → Prop) :
    List RecordStore → RecordStore → Prop where
  | start : Run allowed [] empty
  | write {past : List RecordStore} {store : RecordStore} (write : StoreWrite) :
      allowed store write → Run allowed past store →
        Run allowed (store :: past) (store.serve write)

variable {allowed : RecordStore → StoreWrite → Prop}

theorem Run.performed (hrun : Run allowed past store) (write : StoreWrite)
    (hallowed : allowed store write) (hdone : write.perform store = .ok after) :
    Run allowed (store :: past) after := by
  have hserve : store.serve write = after := by rw [serve, hdone]
  exact hserve ▸ .write write hallowed hrun

/-- Some store of a run holds a record of the app with this number. -/
def Held (stores : List RecordStore) (code : String) (number : Nat) : Prop :=
  ∃ store ∈ stores, ∃ record ∈ store.records code, record.number = number

theorem held_cons {stores : List RecordStore} {number : Nat} :
    Held (store :: stores) code number ↔
      (∃ record ∈ store.records code, record.number = number) ∨ Held stores code number := by
  simp [Held]

/-- The last number is the largest that a record of the app ever had. -/
structure Numbered (past : List RecordStore) (store : RecordStore) : Prop where
  ordered : store.Ordered
  bounded : ∀ code number, Held (store :: past) code number →
    number ≤ (store.app code).lastNumber
  attained : ∀ code, (store.app code).lastNumber = 0 ∨
    Held (store :: past) code (store.app code).lastNumber

theorem Numbered.write (h : Numbered past store) (write : StoreWrite) :
    Numbered (store :: past) (store.serve write) := by
  rcases serve_cases store write with hrefused | hdone
  · rw [hrefused]
    refine ⟨h.ordered, fun code number hheld => ?_, fun code => ?_⟩
    · rcases held_cons.1 hheld with hnow | hheld
      · exact h.bounded code number (held_cons.2 (.inl hnow))
      · exact h.bounded code number hheld
    · exact (h.attained code).imp_right fun hheld => held_cons.2 (.inr hheld)
  · obtain ⟨hordered, hadvances⟩ := perform_advances h.ordered write hdone
    refine ⟨hordered, fun code number hheld => ?_, fun code => ?_⟩
    · rcases held_cons.1 hheld with ⟨record, hmem, rfl⟩ | hheld
      · exact (hordered code).bounded record hmem
      · exact (h.bounded code number hheld).trans (hadvances code).le
    · rcases hadvances code with hsame | ⟨-, hnew⟩
      · rw [hsame]
        exact (h.attained code).imp_right fun hheld => held_cons.2 (.inr hheld)
      · exact .inr (held_cons.2 (.inl hnew))

theorem Run.numbered (hrun : Run allowed past store) : Numbered past store := by
  induction hrun with
  | start =>
      exact ⟨empty_ordered, by simp [Held, records, app, empty, AppRecords.empty],
        fun _ => .inl rfl⟩
  | write write _ _ ih => exact ih.write write

theorem Run.distinctIds (hrun : Run StoreWrite.FreshId past store) : store.DistinctIds := by
  induction hrun with
  | start => exact .empty
  | @write _ store write hfresh _ ih =>
      rcases serve_cases store write with hrefused | hdone
      · rw [hrefused]
        exact ih
      · exact ih.perform write hfresh hdone

/-! ## What a store of a run does -/

theorem Numbered.insert_larger (h : Numbered past store) {data : Fields}
    (hinsert : store.insert code id data = .ok (record, after)) :
    ∀ number, Held (store :: past) code number → number < record.number := by
  intro number hheld
  obtain ⟨-, -, hnumber, -⟩ := insert_ok hinsert
  rw [hnumber]
  exact Nat.lt_succ_of_le (h.bounded code number hheld)

def oldOrder : Record :=
  ⟨⟨"old", by decide⟩, 7, .empty⟩

def loadOrder : StoreWrite :=
  .restore "orders" oldOrder (by decide)

end RecordStore

end RecordApps
