import Mathlib.Data.List.Forall2
import RecordApps.Proofs.Engine.RecordEffect
import RecordApps.Proofs.RecordStore
import RecordApps.Proofs.Service

/-! # Hidden values stay hidden

Two stores that differ only in values that an actor may not read are the same to that actor: a
record is shown in the same way, and every filter finds the same records. Filters see raw
records, before rules are asked, and calculated values are shown before hidden ones are left
out; neither lets a hidden value through.
-/

namespace RecordApps

section Lists

variable {α β γ : Type} {R : α → β → Prop}

theorem find?_of_forall₂ {l : List α} {l' : List β} (h : List.Forall₂ R l l') {p : α → Bool}
    {q : β → Bool} (hpq : ∀ a b, R a b → p a = q b) :
    (l.find? p = none ∧ l'.find? q = none) ∨
      ∃ a b, l.find? p = some a ∧ l'.find? q = some b ∧ R a b := by
  induction h with
  | nil => exact .inl ⟨rfl, rfl⟩
  | @cons a b l l' hab _ ih =>
      have hsame := hpq a b hab
      rw [List.find?_cons, List.find?_cons, ← hsame]
      cases hp : p a with
      | true => exact .inr ⟨a, b, rfl, rfl, hab⟩
      | false => exact ih

theorem filterMap_of_forall₂ {l : List α} {l' : List β} (h : List.Forall₂ R l l')
    {f : α → Option γ} {g : β → Option γ} (hfg : ∀ a b, R a b → f a = g b) :
    l.filterMap f = l'.filterMap g := by
  induction h with
  | nil => rfl
  | @cons a b l l' hab _ ih =>
      rw [List.filterMap_cons, List.filterMap_cons, hfg a b hab, ih]

/-- What is found under a key depends only on the items that have an entry there. -/
theorem lookup_filterMap_congr {items : List α} {f g : α → Option (String × β)} {k : String}
    (h : ∀ item ∈ items, (f item).filter (·.1 = k) = (g item).filter (·.1 = k)) :
    (items.filterMap f).lookup k = (items.filterMap g).lookup k := by
  have hfilter : ∀ entries : List (String × β),
      entries.lookup k = (entries.filter (·.1 = k)).lookup k := by
    intro entries
    induction entries with
    | nil => rfl
    | cons entry rest ih =>
        obtain ⟨k', v⟩ := entry
        by_cases hk : k' = k
        · simp [hk]
        · rw [Rows.lookup_cons, if_neg (Ne.symm hk), List.filter_cons_of_neg (by simp [hk]), ih]
  rw [hfilter, hfilter (items.filterMap g), List.filter_filterMap, List.filter_filterMap]
  congr 1
  exact List.filterMap_congr h

end Lists

namespace RecordStore

theorem forall₂_records {store store' : RecordStore} {code : String} (hordered : store.Ordered)
    (hordered' : store'.Ordered)
    (hsame : ∀ id number,
      (∃ a ∈ store.records code, a.id.text = id ∧ a.number = number) ↔
        ∃ b ∈ store'.records code, b.id.text = id ∧ b.number = number) :
    List.Forall₂ (fun a b => a.id.text = b.id.text ∧ a.number = b.number ∧
      a ∈ store.records code ∧ b ∈ store'.records code)
      (store.records code) (store'.records code) := by
  let key := fun record : Record => (record.id.text, record.number)
  have hincreasing : ∀ {store : RecordStore}, store.Ordered →
      ((store.records code).map key).Pairwise fun a b => a.2 < b.2 := by
    intro store hordered
    have h := (hordered code).increasing
    rw [List.pairwise_map] at h ⊢
    exact h
  -- Numbers go up along both lists, so what stands in both stands in the same order.
  have hkeys : (store.records code).map key = (store'.records code).map key := by
    have : Std.Irrefl fun a b : String × Nat => a.2 < b.2 := ⟨fun a => Nat.lt_irrefl a.2⟩
    refine List.Pairwise.eq_of_mem_iff (hincreasing hordered) (hincreasing hordered') ?_
    rintro ⟨id, number⟩
    simpa [key] using hsame id number
  have hpairs : List.Forall₂ (fun a b => key a = key b)
      (store.records code) (store'.records code) := by
    rw [← List.forall₂_map_right_iff (R := fun a k => key a = k),
      ← List.forall₂_map_left_iff (R := (· = ·)), List.forall₂_eq_eq_eq]
    exact hkeys
  obtain ⟨hlength, hzip⟩ := List.forall₂_iff_zip.1 hpairs
  refine List.forall₂_iff_zip.2 ⟨hlength, fun {a b} hmem => ?_⟩
  obtain ⟨ha, hb⟩ := List.of_mem_zip hmem
  obtain ⟨hid, hnumber⟩ := Prod.mk.inj (hzip hmem)
  exact ⟨hid, hnumber, ha, hb⟩

end RecordStore

/-- Two records that an actor with some access cannot tell apart: they have the same id and
    number, and hold the same values where the actor may read. -/
structure Record.Indistinguishable (access : Access) (a b : Record) : Prop where
  id : a.id.text = b.id.text
  number : a.number = b.number
  readable : ∀ key, access.fields.mayRead key = true → a.data.get? key = b.data.get? key

namespace Record.Indistinguishable

variable {access : Access} {a b : Record} {schema : AppSchema}

theorem value_eq (h : Indistinguishable access a b) {key : String}
    (hkey : access.fields.mayRead key = true) : a.value key = b.value key := by
  rw [value, KeyMap.value, h.readable key hkey]
  rfl

theorem mayRead_of_level {code : String} (h : access.fields.level code ≠ .hidden) :
    access.fields.mayRead code = true := by
  rw [KeyMap.mayRead, bne_iff_ne.2 h, Bool.or_true]

theorem autoValue_eq (h : Indistinguishable access a b) (type : FieldType) :
    type.autoValue? a = type.autoValue? b := by
  have hmeta : ∀ key, Key.isReserved key = true → a.value key = b.value key := by
    intro key hkey
    exact h.value_eq (by rw [KeyMap.mayRead, hkey, Bool.true_or])
  cases type with
  | recordNumber => simp only [FieldType.autoValue?, h.number]
  | creator => simp only [FieldType.autoValue?, hmeta Key.createdBy rfl]
  | createdTime => simp only [FieldType.autoValue?, hmeta Key.createdAt rfl]
  | modifier => simp only [FieldType.autoValue?, hmeta Key.updatedBy rfl]
  | modifiedTime => simp only [FieldType.autoValue?, hmeta Key.updatedAt rfl]
  | _ => rfl

theorem projectedData_get? (h : Indistinguishable access a b) {key : String}
    (hkey : access.fields.mayRead key = true) :
    (schema.projectedData a).get? key = (schema.projectedData b).get? key := by
  have hauto : schema.autoValues a = schema.autoValues b := by
    simp only [AppSchema.autoValues, h.autoValue_eq]
  rw [AppSchema.projectedData, AppSchema.projectedData, KeyMap.get?_insertAll,
    KeyMap.get?_insertAll, hauto, h.readable key hkey]

theorem formatted_get? (h : Indistinguishable access a b) {code symbol : String}
    (hcode : access.fields.mayRead code = true) :
    (schema.formatted (schema.projectedData a) symbol).get? code =
      (schema.formatted (schema.projectedData b) symbol).get? code := by
  rw [AppSchema.formatted, AppSchema.formatted, KeyMap.get?_ofList, KeyMap.get?_ofList,
    ← List.filterMap_reverse, ← List.filterMap_reverse]
  refine lookup_filterMap_congr fun f _ => ?_
  split
  case h_1 config _ =>
    by_cases hf : f.code.text = code
    · rw [h.projectedData_get? (hf ▸ hcode)]
    · have hother : ∀ value : Option Value,
          (value.map fun v => (f.code.text, AppSchema.formatValue config symbol v)).filter
            (·.1 = code) = none := by
        intro value
        cases value <;> simp [hf]
      rw [hother, hother]
  case h_2 => rfl

theorem ofRecord_eq (h : Indistinguishable access a b) (symbol : String) :
    RecordView.ofRecord schema symbol a access = RecordView.ofRecord schema symbol b access := by
  have hdata : access.fields.redact (schema.projectedData a) =
      access.fields.redact (schema.projectedData b) :=
    KeyMap.filter_key_congr fun _ hkey => h.projectedData_get? hkey
  have hformatted : ((schema.formatted (schema.projectedData a) symbol).filter fun code _ =>
      access.fields.level code != .hidden) =
      (schema.formatted (schema.projectedData b) symbol).filter fun code _ =>
        access.fields.level code != .hidden :=
    KeyMap.filter_key_congr fun _ hcode => h.formatted_get? (mayRead_of_level (bne_iff_ne.1 hcode))
  simp only [RecordView.ofRecord, h.id, h.number, hdata, hformatted]

theorem accepts_eq (h : Indistinguishable access a b) {filter : RecordFilter}
    (hsees : Workspace.maySeeFilter access filter = true) :
    filter.accepts a.data = filter.accepts b.data := by
  rw [RecordFilter.accepts, RecordFilter.accepts, Bool.eq_iff_iff, List.all_eq_true,
    List.all_eq_true]
  refine forall₂_congr fun entry hmem => ?_
  have hlevel := List.all_eq_true.1 hsees entry.1 (List.mem_map_of_mem hmem)
  have hvalue : a.data.value entry.1 = b.data.value entry.1 :=
    h.value_eq (mayRead_of_level (bne_iff_ne.1 hlevel))
  simp only [RecordFilter.holdsValue, hvalue]

end Record.Indistinguishable

namespace Workspace

variable {ws : Workspace} {store store' : RecordStore} {settings : Settings} {actor : Actor}
  {app : AppId} {schema : AppSchema}

/-- Two stores that an actor cannot tell apart where an app is concerned: they hold the same ids
    and numbers, and for each of them records with the same access that agree on everything the
    actor may read. -/
structure Indistinguishable (ws : Workspace) (actor : Actor) (schema : AppSchema)
    (store store' : RecordStore) : Prop where
  /-- The same ids and numbers. -/
  same : ∀ id number,
    (∃ a ∈ store.records schema.code.text, a.id.text = id ∧ a.number = number) ↔
      ∃ b ∈ store'.records schema.code.text, b.id.text = id ∧ b.number = number
  /-- The same access. -/
  access : ∀ a ∈ store.records schema.code.text, ∀ b ∈ store'.records schema.code.text,
    a.id.text = b.id.text → a.number = b.number →
      ws.access actor schema (some a) = ws.access actor schema (some b)
  /-- The same values under metadata keys and under the keys that are not hidden. -/
  readable : ∀ a ∈ store.records schema.code.text, ∀ b ∈ store'.records schema.code.text,
    a.id.text = b.id.text → a.number = b.number → ∀ key,
      Key.isReserved key = true ∨
          (ws.access actor schema (some a)).fields.level key ≠ .hidden →
        a.data.get? key = b.data.get? key

theorem Indistinguishable.pair (h : ws.Indistinguishable actor schema store store') {a b : Record}
    (ha : a ∈ store.records schema.code.text) (hb : b ∈ store'.records schema.code.text)
    (hid : a.id.text = b.id.text) (hnumber : a.number = b.number) :
    ws.access actor schema (some a) = ws.access actor schema (some b) ∧
      Record.Indistinguishable (ws.access actor schema (some b)) a b := by
  have haccess := h.access a ha b hb hid hnumber
  refine ⟨haccess, hid, hnumber, fun key hkey => h.readable a ha b hb hid hnumber key ?_⟩
  rw [haccess]
  simpa [KeyMap.mayRead] using hkey

theorem Indistinguishable.forall₂ (h : ws.Indistinguishable actor schema store store')
    (hordered : store.Ordered) (hordered' : store'.Ordered) :
    List.Forall₂ (fun a b => ws.access actor schema (some a) = ws.access actor schema (some b) ∧
        Record.Indistinguishable (ws.access actor schema (some b)) a b)
      (store.records schema.code.text) (store'.records schema.code.text) := by
  refine (RecordStore.forall₂_records hordered hordered' h.same).imp ?_
  rintro a b ⟨hid, hnumber, ha, hb⟩
  exact h.pair ha hb hid hnumber

/-- The workspace with other records. -/
def withStore (ws : Workspace) (store : RecordStore) : Workspace :=
  { ws with store := store }

theorem withStore_requireSchema (hschema : ws.schemas.get? app = some schema) :
    (ws.withStore store).requireSchema app = .ok schema :=
  requireSchema_eq_ok.2 hschema

/-! ## Showing a record -/

theorem withStore_readRecord (hschema : ws.schemas.get? app = some schema) (id : String) :
    (ws.withStore store).readRecord settings actor app id =
      match (store.records schema.code.text).find? (·.id.text == id) with
      | none => .error (.notFound (.record id schema.code.text))
      | some record =>
          match ws.view? settings actor schema record with
          | some view => .ok view
          | none => .error (.forbidden (.view actor.id record.id.text)) := by
  rw [readRecord, withStore_requireSchema hschema, Outcome.ok_bind, requireRecord,
    show (ws.withStore store).store.find? schema.code.text id =
      (store.records schema.code.text).find? (·.id.text == id) from rfl]
  cases (store.records schema.code.text).find? (·.id.text == id) with
  | none => rfl
  | some record =>
      simp only [Outcome.ok_bind, requireAccess, view?]
      rw [show (ws.withStore store).access = ws.access from rfl]
      split
      · rfl
      · rfl

theorem view?_eq {a b : Record}
    (haccess : ws.access actor schema (some a) = ws.access actor schema (some b))
    (hab : Record.Indistinguishable (ws.access actor schema (some b)) a b) :
    ws.view? settings actor schema a = ws.view? settings actor schema b := by
  simp only [view?, haccess, hab.ofRecord_eq]

theorem readRecord_withStore (hschema : ws.schemas.get? app = some schema)
    (h : ws.Indistinguishable actor schema store store') (hordered : store.Ordered)
    (hordered' : store'.Ordered) (id : String) :
    (ws.withStore store).readRecord settings actor app id =
      (ws.withStore store').readRecord settings actor app id := by
  rw [withStore_readRecord hschema, withStore_readRecord hschema]
  have hfound := find?_of_forall₂ (h.forall₂ hordered hordered')
    (p := fun a => a.id.text == id) (q := fun b => b.id.text == id)
    fun a b hab => by rw [hab.2.id]
  rcases hfound with ⟨hnone, hnone'⟩ | ⟨a, b, ha, hb, haccess, hab⟩
  · rw [hnone, hnone']
  · rw [ha, hb]
    simp only [view?_eq haccess hab, hab.id]

/-! ## Listing records -/

/-- What a filter lists of a record: its view, if the filter accepts it and the actor sees all
    fields of the filter. -/
def listed? (ws : Workspace) (settings : Settings) (actor : Actor) (schema : AppSchema)
    (filter : RecordFilter) (record : Record) : Option RecordView :=
  if filter.accepts record.data && maySeeFilter (ws.access actor schema (some record)) filter then
    ws.view? settings actor schema record
  else none

theorem withStore_listRecords (hschema : ws.schemas.get? app = some schema)
    (filter : RecordFilter) :
    (ws.withStore store).listRecords settings actor app filter =
      if ((ws.ruleSet schema.id).appCapabilities actor).mayView then
        .ok (filter.cut ((store.records schema.code.text).filterMap
          (ws.listed? settings actor schema filter)))
      else .error (.forbidden (.viewApp actor.id schema.code.text)) := by
  rw [listRecords, withStore_requireSchema hschema, Outcome.ok_bind]
  have hlisted : ((store.records schema.code.text).filter fun record =>
        filter.accepts record.data).filterMap (fun record =>
          let access := ws.access actor schema (some record)
          if access.record.mayView && maySeeFilter access filter then
            some (RecordView.ofRecord schema settings.currencySymbol record access)
          else none) =
      (store.records schema.code.text).filterMap (ws.listed? settings actor schema filter) := by
    rw [List.filterMap_filter]
    refine List.filterMap_congr fun record _ => ?_
    simp only [listed?, view?]
    cases filter.accepts record.data <;>
      cases maySeeFilter (ws.access actor schema (some record)) filter <;> simp
  exact congrArg (fun views => if ((ws.ruleSet schema.id).appCapabilities actor).mayView then
    (.ok (filter.cut views) : Outcome (List RecordView))
    else .error (.forbidden (.viewApp actor.id schema.code.text))) hlisted

theorem listed?_eq {a b : Record} {filter : RecordFilter}
    (haccess : ws.access actor schema (some a) = ws.access actor schema (some b))
    (hab : Record.Indistinguishable (ws.access actor schema (some b)) a b) :
    ws.listed? settings actor schema filter a = ws.listed? settings actor schema filter b := by
  rw [listed?, listed?, view?_eq haccess hab, haccess]
  cases hsees : maySeeFilter (ws.access actor schema (some b)) filter with
  | true => rw [hab.accepts_eq hsees]
  | false => rw [Bool.and_false, Bool.and_false]

theorem listRecords_withStore (hschema : ws.schemas.get? app = some schema)
    (h : ws.Indistinguishable actor schema store store') (hordered : store.Ordered)
    (hordered' : store'.Ordered) (filter : RecordFilter) :
    (ws.withStore store).listRecords settings actor app filter =
      (ws.withStore store').listRecords settings actor app filter := by
  rw [withStore_listRecords hschema, withStore_listRecords hschema,
    filterMap_of_forall₂ (h.forall₂ hordered hordered') fun a b hab => listed?_eq hab.1 hab.2]

/-- Hidden values do not leak. Where two stores cannot be told apart by an actor, showing a
    record and listing records gives the same answers for both, whatever record is asked for and
    whatever the filter and its limit are, filters over hidden and unknown fields included. -/
theorem hidden_values_unread (settings : Settings) (hschema : ws.schemas.get? app = some schema)
    (hordered : store.Ordered) (hordered' : store'.Ordered)
    (h : ws.Indistinguishable actor schema store store') :
    (∀ id, (ws.withStore store).readRecord settings actor app id =
      (ws.withStore store').readRecord settings actor app id) ∧
    ∀ filter, (ws.withStore store).listRecords settings actor app filter =
      (ws.withStore store').listRecords settings actor app filter := by
  constructor
  · intro id
    exact readRecord_withStore hschema h hordered hordered' id
  · intro filter
    exact listRecords_withStore hschema h hordered hordered' filter

/-- The clerk cannot tell a high margin from none: the order is shown and listed in the same
    way, by a filter over the margin too. -/
theorem hidden_values_unread_orders :
    let store := fun margin => RecordStore.empty.withApp "orders" ⟨1, [Orders.order margin]⟩
    Orders.defined.Indistinguishable Orders.clerk Orders.schema (store "") (store "high") ∧
    (Orders.defined.withStore (store "")).readRecord Orders.settings Orders.clerk Orders.app "r" =
      (Orders.defined.withStore (store "high")).readRecord Orders.settings Orders.clerk
        Orders.app "r" ∧
    (Orders.defined.withStore (store "")).listRecords Orders.settings Orders.clerk Orders.app
        (.having "margin" (.text "high")) =
      (Orders.defined.withStore (store "high")).listRecords Orders.settings Orders.clerk
        Orders.app (.having "margin" (.text "high")) := by
  intro store
  have hrecords : ∀ margin, (store margin).records "orders" = [Orders.order margin] := fun _ => rfl
  have hword : 1 < wordLimit := by decide
  have hordered : ∀ margin, (store margin).Ordered := by
    intro margin
    refine RecordStore.empty_ordered.withApp ⟨List.pairwise_singleton _ _, ?_, hword⟩
    exact List.forall_mem_singleton.2 (le_refl 1)
  have hsame : Orders.defined.Indistinguishable Orders.clerk Orders.schema (store "")
      (store "high") := by
    constructor
    · intro id number
      constructor
      · rintro ⟨a, ha, hid⟩
        obtain rfl := List.mem_singleton.1 ha
        exact ⟨_, List.mem_singleton_self _, hid⟩
      · rintro ⟨b, hb, hid⟩
        obtain rfl := List.mem_singleton.1 hb
        exact ⟨_, List.mem_singleton_self _, hid⟩
    · intro a ha b hb _ _
      obtain rfl := List.mem_singleton.1 ha
      obtain rfl := List.mem_singleton.1 hb
      rfl
    · intro a ha b hb _ _ key hkey
      obtain rfl := List.mem_singleton.1 ha
      obtain rfl := List.mem_singleton.1 hb
      have hmargin : key ≠ "margin" := by
        rintro rfl
        exact hkey.elim (fun hreserved => by cases hreserved) fun hvisible => hvisible rfl
      simp only [Orders.order, KeyMap.get?_insert, if_neg hmargin]
  have hschema : Orders.defined.schemas.get? Orders.app = some Orders.schema := rfl
  obtain ⟨hread, hlist⟩ := hidden_values_unread Orders.settings hschema (hordered "")
    (hordered "high") hsame
  exact ⟨hsame, hread "r", hlist _⟩

end Workspace

end RecordApps
