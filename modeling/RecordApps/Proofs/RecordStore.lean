import RecordApps.Proofs.KeyMap
import RecordApps.Proofs.Outcome
import RecordApps.RecordStore

/-! # The record store

What a write does to the records of an app, and the order they are kept in: numbers go up
along the list, and the last number that was given bounds them all. A number therefore names
one record for ever.
-/

namespace RecordApps

theorem NonBlank.eq_of_text {a b : NonBlank} (h : a.text = b.text) : a = b := by
  cases a
  cases b
  simpa using h

@[simp] theorem NonBlank.make_eq_ok {text : String} {s : NonBlank} :
    NonBlank.make text = .ok s ↔ s.text = text := by
  simp only [NonBlank.make, NonBlank.ofText?]
  split
  case h_1 t hsome =>
    split at hsome
    · obtain rfl := Option.some.inj hsome
      cases s
      simp [eq_comm]
    · cases hsome
  case h_2 hnone =>
    split at hnone
    · cases hnone
    case isFalse hblank =>
      simp only [reduceCtorEq, false_iff]
      exact fun heq => hblank (heq ▸ s.notBlank)

theorem Record.make_eq_ok {id : String} {number : Nat} {data : Fields} {record : Record} :
    Record.make id number data = .ok record ↔
      number ≠ 0 ∧ record.id.text = id ∧ record.number = number ∧ record.data = data := by
  obtain ⟨rid, rnumber, rdata⟩ := record
  rw [Record.make, Outcome.check_bind_eq_ok, ensure_eq_ok, bne_iff_ne]
  simp only [Outcome.bind_eq_ok, NonBlank.make_eq_ok, Outcome.pure_eq_ok, Record.mk.injEq]
  constructor
  · rintro ⟨hnumber, s, rfl, rfl, rfl, rfl⟩
    exact ⟨hnumber, rfl, rfl, rfl⟩
  · rintro ⟨hnumber, hid, rfl, rfl⟩
    exact ⟨hnumber, rid, hid, rfl, rfl, rfl⟩

theorem checkedWord_eq_ok {n number : Nat} :
    checkedWord n = .ok number ↔ n < wordLimit ∧ n = number := by
  rw [checkedWord]
  split
  case isTrue h => simp [h]
  case isFalse h => simp [h]

theorem RecordFilter.mem_of_mem_cut {α : Type} {filter : RecordFilter} {items : List α} {item : α}
    (h : item ∈ filter.cut items) : item ∈ items := by
  rw [cut] at h
  split at h
  · exact List.mem_of_mem_take h
  · exact h

namespace AppRecords

/-- Numbers go up along the list, up to the last one that was given. -/
structure Ordered (app : AppRecords) : Prop where
  increasing : (app.records.map Record.number).Pairwise (· < ·)
  bounded : ∀ record ∈ app.records, record.number ≤ app.lastNumber
  word : app.lastNumber < wordLimit

theorem empty_ordered : empty.Ordered where
  increasing := List.Pairwise.nil
  bounded := by simp [empty]
  word := by decide

theorem Ordered.eq_of_number {app : AppRecords} (h : app.Ordered) {a b : Record}
    (ha : a ∈ app.records) (hb : b ∈ app.records) (heq : a.number = b.number) : a = b := by
  have hnodup : (app.records.map Record.number).Nodup := h.increasing.imp Nat.ne_of_lt
  exact List.inj_on_of_nodup_map hnodup ha hb heq

theorem Ordered.number_ne {app : AppRecords} (h : app.Ordered) {stored : Record}
    {before after : List Record} (hsplit : app.records = before ++ stored :: after) {b : Record}
    (hb : b ∈ before ++ after) : b.number ≠ stored.number := by
  have hincreasing := h.increasing
  rw [hsplit, List.pairwise_map, List.pairwise_append, List.pairwise_cons] at hincreasing
  obtain ⟨-, ⟨hafter, -⟩, hbefore⟩ := hincreasing
  rcases List.mem_append.1 hb with hb | hb
  · exact (hbefore b hb stored List.mem_cons_self).ne
  · exact (hafter b hb).ne'

theorem find?_eq_some {app : AppRecords} {id : String} {record : Record}
    (h : app.find? id = some record) :
    ∃ before after, app.records = before ++ record :: after ∧ record.id.text = id ∧
      ∀ other ∈ before, other.id.text ≠ id := by
  obtain ⟨hid, before, after, hsplit, hbefore⟩ := List.find?_eq_some_iff_append.1 h
  refine ⟨before, after, hsplit, by simpa using hid, fun other hmem => ?_⟩
  simpa using hbefore other hmem

theorem replaceFirst_append {record stored : Record} {before after : List Record}
    (hbefore : ∀ other ∈ before, other.id.text ≠ record.id.text)
    (hstored : stored.id.text = record.id.text) :
    replaceFirst record (before ++ stored :: after) = before ++ record :: after := by
  induction before with
  | nil => simp [replaceFirst, hstored]
  | cons head rest ih =>
      obtain ⟨hhead, hrest⟩ := List.forall_mem_cons.1 hbefore
      simp only [List.cons_append, replaceFirst, beq_iff_eq, if_neg hhead, ih hrest]

theorem dropFirst_append {stored : Record} {before after : List Record}
    (hbefore : ∀ other ∈ before, other.id.text ≠ stored.id.text) :
    dropFirst stored.id.text (before ++ stored :: after) = before ++ after := by
  rw [dropFirst, List.eraseP_append_right _ (by simpa using hbefore),
    List.eraseP_cons_of_pos (by simp)]

theorem mem_place {record other : Record} {records : List Record} :
    other ∈ place record records ↔ other = record ∨ other ∈ records := by
  induction records with
  | nil => simp [place]
  | cons head rest ih =>
      rw [place]
      split
      · simp
      · simp only [List.mem_cons, ih]
        exact or_left_comm

theorem place_increasing {record : Record} {records : List Record}
    (h : (records.map Record.number).Pairwise (· < ·))
    (hfree : ∀ other ∈ records, other.number ≠ record.number) :
    ((place record records).map Record.number).Pairwise (· < ·) := by
  rw [List.pairwise_map] at h ⊢
  induction records with
  | nil => simp [place]
  | cons head rest ih =>
      obtain ⟨hhead, hrest⟩ := List.pairwise_cons.1 h
      obtain ⟨hne, hfree⟩ := List.forall_mem_cons.1 hfree
      rw [place]
      split
      case isTrue hlt =>
        refine List.pairwise_cons.2 ⟨fun other hmem => ?_, h⟩
        rcases List.mem_cons.1 hmem with rfl | hmem
        · exact hlt
        · exact hlt.trans (hhead other hmem)
      case isFalse hge =>
        refine List.pairwise_cons.2 ⟨fun other hmem => ?_, ih hrest hfree⟩
        rcases mem_place.1 hmem with rfl | hmem
        · omega
        · exact hhead other hmem

end AppRecords

namespace RecordStore

variable {store store' : RecordStore} {code id : String} {record : Record}

/-- The records of every app are in order. -/
def Ordered (store : RecordStore) : Prop :=
  ∀ code, (store.app code).Ordered

@[simp] theorem app_withApp (store : RecordStore) (code other : String) (records : AppRecords) :
    (store.withApp code records).app other = if other = code then records else store.app other := by
  simp only [app, withApp, KeyMap.get?_insert]
  split <;> rfl

@[simp] theorem records_withApp (store : RecordStore) (code other : String)
    (records : AppRecords) :
    (store.withApp code records).records other =
      if other = code then records.records else store.records other := by
  rw [RecordStore.records, app_withApp]
  split <;> rfl

theorem empty_ordered : empty.Ordered := fun _ => AppRecords.empty_ordered

theorem Ordered.withApp {records : AppRecords} (h : store.Ordered) (hrecords : records.Ordered) :
    (store.withApp code records).Ordered := by
  intro other
  rw [app_withApp]
  split
  · exact hrecords
  · exact h other

theorem sublist_of_split {before after : List Record}
    (h : store.records code = before ++ record :: after) :
    List.Sublist (before ++ after) (store.records code) := by
  rw [h]
  exact List.Sublist.append_left (List.sublist_cons_self _ _) _

theorem mem_of_mem_list {filter : RecordFilter} (h : record ∈ store.list code filter) :
    record ∈ store.records code :=
  List.mem_of_mem_filter (RecordFilter.mem_of_mem_cut h)

theorem find?_id (h : store.find? code id = some record) : record.id.text = id := by
  obtain ⟨_, _, -, hid, -⟩ := AppRecords.find?_eq_some h
  exact hid

theorem find?_eq_none_iff :
    store.find? code id = none ↔ ∀ record ∈ store.records code, record.id.text ≠ id := by
  simp [find?, AppRecords.find?, records]

theorem mem_of_find? (h : store.find? code id = some record) : record ∈ store.records code :=
  List.mem_of_find?_eq_some h

theorem find?_of_unique (hmem : record ∈ store.records code)
    (hunique : ∀ other ∈ store.records code, other.id.text = record.id.text → other = record) :
    store.find? code record.id.text = some record := by
  cases hfound : store.find? code record.id.text with
  | none => simpa using List.find?_eq_none.1 hfound record hmem
  | some other => rw [hunique other (mem_of_find? hfound) (find?_id hfound)]

/-! ## What a write does -/

theorem insert_ok {data : Fields} (h : store.insert code id data = .ok (record, store')) :
    record.number < wordLimit ∧ record.id.text = id ∧
      record.number = (store.app code).nextNumber ∧ record.data = data ∧
      store' = store.withApp code ⟨record.number, (store.app code).records ++ [record]⟩ := by
  simp only [insert, Outcome.bind_eq_ok, checkedWord_eq_ok, Outcome.pure_eq_ok,
    Prod.mk.injEq] at h
  obtain ⟨number, ⟨hword, rfl⟩, made, hmade, rfl, rfl⟩ := h
  obtain ⟨-, hid, hnumber, hdata⟩ := Record.make_eq_ok.1 hmade
  exact ⟨hnumber ▸ hword, hid, hnumber, hdata, rfl⟩

theorem update_ok {expected : Option String}
    (h : store.update code record expected = .ok store') :
    ∃ stored before after,
      store.find? code record.id.text = some stored ∧
      stored.status = expected ∧ stored.number = record.number ∧
      stored.id.text = record.id.text ∧ (∀ other ∈ before, other.id.text ≠ record.id.text) ∧
      store.records code = before ++ stored :: after ∧
      store' = store.withApp code ⟨(store.app code).lastNumber, before ++ record :: after⟩ := by
  simp only [update] at h
  split at h
  case h_1 => cases h
  case h_2 stored hfind =>
    obtain ⟨before, after, hsplit, hid, hbefore⟩ := AppRecords.find?_eq_some hfind
    rw [hsplit, AppRecords.replaceFirst_append hbefore hid] at h
    split at h
    · cases h
    case isFalse hstatus =>
      split at h
      · cases h
      case isFalse hnumber =>
        cases h
        exact ⟨stored, before, after, hfind, by simpa using hstatus, by simpa using hnumber, hid,
          hbefore, hsplit, rfl⟩

/-- A record that has been found gives way to the one that is stored in its place. -/
theorem update_found {stored : Record} {expected : Option String}
    (hfound : store.find? code id = some stored)
    (h : store.update code record expected = .ok store') (hid : record.id = stored.id) :
    ∃ before after, store.records code = before ++ stored :: after ∧
      store' = store.withApp code ⟨(store.app code).lastNumber, before ++ record :: after⟩ := by
  obtain ⟨found, before, after, hfind, -, -, -, -, hsplit, rfl⟩ := update_ok h
  rw [hid, find?_id hfound, hfound] at hfind
  obtain rfl := Option.some.inj hfind
  exact ⟨before, after, hsplit, rfl⟩

theorem update_self {stored : Record} (record : Record)
    (hfound : store.find? code record.id.text = some stored)
    (hnumber : record.number = stored.number) :
    ∃ store', store.update code record stored.status = .ok store' := by
  have hfind : (store.app code).find? record.id.text = some stored := hfound
  simp only [update, hfind]
  simp [hnumber]

theorem delete_ok (h : store.delete code id = .ok store') :
    ∃ stored before after,
      store.find? code id = some stored ∧
      store.records code = before ++ stored :: after ∧
      store' = store.withApp code ⟨(store.app code).lastNumber, before ++ after⟩ := by
  simp only [delete] at h
  split at h
  case h_1 => cases h
  case h_2 stored hfind =>
    obtain ⟨before, after, hsplit, rfl, hbefore⟩ := AppRecords.find?_eq_some hfind
    rw [hsplit, AppRecords.dropFirst_append hbefore] at h
    cases h
    exact ⟨stored, before, after, hfind, hsplit, rfl⟩

theorem restore_ok (h : store.restore code record = .ok store') :
    store.find? code record.id.text = none ∧
      (∀ other ∈ store.records code, other.number ≠ record.number) ∧
      store' = store.withApp code
        ⟨max (store.app code).lastNumber record.number,
          AppRecords.place record (store.records code)⟩ := by
  simp only [restore] at h
  split at h
  · cases h
  case isFalse hid =>
    split at h
    · cases h
    case isFalse hnumber =>
      cases h
      refine ⟨Option.not_isSome_iff_eq_none.1 hid, fun other hmem heq => ?_, rfl⟩
      exact hnumber (List.any_eq_true.2 ⟨other, hmem, beq_iff_eq.2 heq⟩)

/-! ## Writes keep the order -/

theorem Ordered.insert (hordered : store.Ordered) {data : Fields}
    (h : store.insert code id data = .ok (record, store')) :
    (∀ other ∈ store.records code, other.number < record.number) ∧ store'.Ordered := by
  obtain ⟨hword, -, hnumber, -, rfl⟩ := insert_ok h
  have happ := hordered code
  have hlarger : ∀ other ∈ store.records code, other.number < record.number := by
    intro other hmem
    rw [hnumber]
    exact Nat.lt_succ_of_le (happ.bounded other hmem)
  refine ⟨hlarger, hordered.withApp ⟨?_, ?_, hword⟩⟩
  · rw [List.map_append, List.map_singleton]
    refine List.pairwise_append.2 ⟨happ.increasing, List.pairwise_singleton _ _, ?_⟩
    intro number hnum last hlast
    obtain ⟨other, hmem, rfl⟩ := List.mem_map.1 hnum
    obtain rfl := List.mem_singleton.1 hlast
    exact hlarger other hmem
  · intro other hmem
    rcases List.mem_append.1 hmem with hmem | hmem
    · exact (hlarger other hmem).le
    · exact List.mem_singleton.1 hmem ▸ le_refl _

/-- A record that is replaced keeps its number, so the list of numbers is the same. -/
theorem Ordered.update (hordered : store.Ordered) {expected : Option String}
    (h : store.update code record expected = .ok store') : store'.Ordered := by
  obtain ⟨stored, before, after, -, -, hnumber, -, -, hsplit, rfl⟩ := update_ok h
  obtain ⟨hincreasing, hbounded, hword⟩ := hordered code
  rw [show (store.app code).records = before ++ stored :: after from hsplit] at hincreasing hbounded
  refine hordered.withApp ⟨?_, ?_, hword⟩
  · simpa [hnumber] using hincreasing
  · intro other hmem
    rcases List.mem_append.1 hmem with hmem | hmem
    · exact hbounded other (List.mem_append_left _ hmem)
    · rcases List.mem_cons.1 hmem with rfl | hmem
      · exact hnumber ▸ hbounded stored (List.mem_append_right _ List.mem_cons_self)
      · exact hbounded other (List.mem_append_right _ (List.mem_cons_of_mem _ hmem))

theorem Ordered.delete (hordered : store.Ordered)
    (h : store.delete code id = .ok store') : store'.Ordered := by
  obtain ⟨stored, before, after, -, hsplit, rfl⟩ := delete_ok h
  obtain ⟨hincreasing, hbounded, hword⟩ := hordered code
  have hsublist := sublist_of_split hsplit
  exact hordered.withApp ⟨hincreasing.sublist (hsublist.map _),
    fun other hmem => hbounded other (hsublist.subset hmem), hword⟩

theorem Ordered.restore (hordered : store.Ordered) (hword : record.number < wordLimit)
    (h : store.restore code record = .ok store') : store'.Ordered := by
  obtain ⟨-, hfree, rfl⟩ := restore_ok h
  have happ := hordered code
  refine hordered.withApp ⟨AppRecords.place_increasing happ.increasing hfree, ?_, ?_⟩
  · intro other hmem
    rcases AppRecords.mem_place.1 hmem with rfl | hmem
    · exact le_max_right _ _
    · exact (happ.bounded other hmem).trans (le_max_left _ _)
  · exact max_lt happ.word hword

/-! ## What is stored after a write

A record after a write is one from before it, or the one that is written.
-/

theorem mem_of_insert {data : Fields} (h : store.insert code id data = .ok (record, store'))
    {other : String} {b : Record} (hb : b ∈ store'.records other) :
    b ∈ store.records other ∨ other = code ∧ b = record := by
  obtain ⟨-, -, -, -, rfl⟩ := insert_ok h
  rw [records_withApp] at hb
  split at hb
  case isTrue hcode =>
    subst hcode
    exact (List.mem_append.1 hb).imp_right fun hb => ⟨rfl, List.mem_singleton.1 hb⟩
  case isFalse => exact .inl hb

theorem mem_of_update (hordered : store.Ordered) {expected : Option String}
    (h : store.update code record expected = .ok store') {other : String} {b : Record}
    (hb : b ∈ store'.records other) :
    b ∈ store.records other ∧ (other = code → b.number ≠ record.number) ∨
      other = code ∧ b = record := by
  obtain ⟨stored, before, after, -, -, hnumber, -, -, hsplit, rfl⟩ := update_ok h
  rw [records_withApp] at hb
  split at hb
  case isTrue hcode =>
    subst hcode
    rw [List.mem_append, List.mem_cons, or_left_comm, ← List.mem_append] at hb
    refine hb.symm.imp (fun hb => ?_) fun hb => ⟨rfl, hb⟩
    have hother := (hordered other).number_ne hsplit hb
    exact ⟨(sublist_of_split hsplit).subset hb, fun _ => hnumber ▸ hother⟩
  case isFalse hcode => exact .inl ⟨hb, fun hsame => absurd hsame hcode⟩

theorem mem_of_delete (h : store.delete code id = .ok store') {other : String} {b : Record}
    (hb : b ∈ store'.records other) : b ∈ store.records other := by
  obtain ⟨stored, before, after, -, hsplit, rfl⟩ := delete_ok h
  rw [records_withApp] at hb
  split at hb
  case isTrue hcode => exact hcode ▸ (sublist_of_split hsplit).subset hb
  case isFalse => exact hb

theorem number_of_update {expected : Option String}
    (h : store.update code record expected = .ok store') {b : Record}
    (hb : b ∈ store'.records code) : ∃ a ∈ store.records code, a.number = b.number := by
  obtain ⟨stored, before, after, -, -, hnumber, -, -, hsplit, rfl⟩ := update_ok h
  rw [records_withApp, if_pos rfl] at hb
  rw [hsplit]
  rcases List.mem_append.1 hb with hb | hb
  · exact ⟨b, List.mem_append_left _ hb, rfl⟩
  · rcases List.mem_cons.1 hb with rfl | hb
    · exact ⟨stored, List.mem_append_right _ List.mem_cons_self, hnumber⟩
    · exact ⟨b, List.mem_append_right _ (List.mem_cons_of_mem _ hb), rfl⟩

/-! ## Survivors

A record before a write and one after it are the same record when they have the same number.
-/

theorem survivor_of_insert (hordered : store.Ordered) {data : Fields}
    (h : store.insert code id data = .ok (record, store')) {a b : Record}
    (ha : a ∈ store.records code) (hb : b ∈ store'.records code) (hnumber : a.number = b.number) :
    b = a := by
  rcases mem_of_insert h hb with hb | ⟨-, rfl⟩
  · exact (hordered code).eq_of_number hb ha hnumber.symm
  · exact absurd hnumber ((hordered.insert h).1 a ha).ne

theorem survivor_of_update (hordered : store.Ordered) {expected : Option String}
    (h : store.update code record expected = .ok store') {a b : Record}
    (ha : a ∈ store.records code) (hb : b ∈ store'.records code) (hnumber : a.number = b.number) :
    b = a ∨ b = record ∧ store.find? code record.id.text = some a ∧
      a.id.text = record.id.text ∧ a.status = expected := by
  rcases mem_of_update hordered h hb with ⟨hb, -⟩ | ⟨-, rfl⟩
  · exact .inl ((hordered code).eq_of_number hb ha hnumber.symm)
  · obtain ⟨stored, _, _, hfind, hstatus, hsame, hid, -⟩ := update_ok h
    obtain rfl := (hordered code).eq_of_number ha (mem_of_find? hfind) (hnumber.trans hsame.symm)
    exact .inr ⟨rfl, hfind, hid, hstatus⟩

theorem find?_update {expected : Option String}
    (h : store.update code record expected = .ok store') :
    store'.find? code record.id.text = some record := by
  obtain ⟨stored, before, after, -, -, -, -, hbefore, -, rfl⟩ := update_ok h
  rw [find?, app_withApp, if_pos rfl, AppRecords.find?, List.find?_eq_some_iff_append]
  exact ⟨by simp, before, after, rfl, fun other hmem => by simpa using hbefore other hmem⟩

theorem find?_replaced {stored : Record} {expected : Option String}
    (hfound : store.find? code id = some stored)
    (h : store.update code record expected = .ok store') (hid : record.id = stored.id) :
    store'.find? code id = some record := by
  rw [← find?_id hfound, ← hid]
  exact find?_update h

theorem find?_inserted (hfresh : store.find? code id = none) {data : Fields}
    (h : store.insert code id data = .ok (record, store')) : store'.find? code id = some record := by
  obtain ⟨-, hid, -, -, rfl⟩ := insert_ok h
  rw [find?, app_withApp, if_pos rfl, AppRecords.find?, List.find?_append,
    show (store.app code).records.find? _ = none from hfresh]
  simp [hid]

/-! ## What writes leave alone

A write is about one record of one app. It neither moves nor hides any other.
-/

theorem find?_withApp {records : AppRecords} {other : String}
    (h : other = code → records.find? id = store.find? code id) :
    (store.withApp code records).find? other id = store.find? other id := by
  rw [find?, app_withApp]
  split
  case isTrue hcode => rw [h hcode, hcode]
  case isFalse => rfl

theorem find?_insert {data : Fields} (h : store.insert code id data = .ok (record, store'))
    {other id' : String} {stored : Record} (hstored : store.find? other id' = some stored) :
    store'.find? other id' = some stored := by
  obtain ⟨-, -, -, -, rfl⟩ := insert_ok h
  rw [find?_withApp, hstored]
  rintro rfl
  rw [AppRecords.find?, List.find?_append, show (store.app other).records.find? _ = some stored
    from hstored, Option.some_or, hstored]

theorem find?_update_other {expected : Option String}
    (h : store.update code record expected = .ok store') {other : String}
    (hother : other ≠ code ∨ record.id.text ≠ id) :
    store'.find? other id = store.find? other id := by
  obtain ⟨stored, before, after, -, -, -, hid, -, hsplit, rfl⟩ := update_ok h
  refine find?_withApp fun hcode => ?_
  have hne : record.id.text ≠ id := hother.resolve_left (not_not_intro hcode)
  rw [find?, AppRecords.find?, AppRecords.find?, show (store.app code).records = _ from hsplit]
  simp [List.find?_append, hid, hne]

theorem number_ne_of_delete (hordered : store.Ordered) (h : store.delete code id = .ok store')
    (hfound : store.find? code id = some record) {b : Record} (hb : b ∈ store'.records code) :
    b.number ≠ record.number := by
  obtain ⟨stored, before, after, hfind, hsplit, rfl⟩ := delete_ok h
  obtain rfl := Option.some.inj (hfound.symm.trans hfind)
  rw [records_withApp, if_pos rfl] at hb
  exact (hordered code).number_ne hsplit hb

theorem find?_delete_other (h : store.delete code id = .ok store') {other id' : String}
    (hother : other ≠ code ∨ id' ≠ id) : store'.find? other id' = store.find? other id' := by
  obtain ⟨stored, before, after, hfind, hsplit, rfl⟩ := delete_ok h
  refine find?_withApp fun hcode => ?_
  have hne : stored.id.text ≠ id' := by
    rw [find?_id hfind]
    exact (hother.resolve_left (not_not_intro hcode)).symm
  rw [find?, AppRecords.find?, AppRecords.find?, show (store.app code).records = _ from hsplit]
  simp [List.find?_append, hne]

end RecordStore

end RecordApps
