import RecordApps.Proofs.Access.Filtering
import RecordApps.Proofs.Access.Mediation
import RecordApps.Proofs.Records.WrittenValues
import RecordApps.Proofs.Schema.History

/-! # Related records

The records of another app that belong to a record are those with its key, and they are shown by
the rules of the other app. Two things set them apart from views. They are chosen by a key that
the actor may not be allowed to read, so that the choice tells something about it. And they show
what is stored under a code, where a view fills in the automatic fields.
-/

namespace RecordApps

namespace AppSchema

variable {schema : AppSchema} {record : Record} {f : FieldDefinition}

theorem projectedData_get?_auto (hvalid : schema.validate = .ok ()) (hf : f ∈ schema.activeFields)
    {shown : Value} (hshown : f.type.autoValue? record = some shown) :
    (schema.projectedData record).get? f.code.text = some shown := by
  rw [projectedData, KeyMap.get?_insertAll]
  cases hauto : (schema.autoValues record).reverse.lookup f.code.text with
  | none =>
      have hmem : (f.code.text, shown) ∈ schema.autoValues record :=
        List.mem_filterMap.2 ⟨f, hf, by rw [hshown]; rfl⟩
      rw [Rows.lookup_eq_none_iff, List.map_reverse, List.mem_reverse] at hauto
      exact absurd (List.mem_map_of_mem hmem) hauto
  | some v =>
      obtain ⟨g, hg, hcode, hv⟩ := autoValue?_of_lookup hauto
      rw [eq_of_code hvalid hg hf hcode, hshown] at hv
      exact hv.symm

end AppSchema

theorem RelatedRecord.ofRecord_get? (record : Record) (codes : List String) (code : String) :
    (ofRecord record codes).fields.get? code =
      if code ∈ codes then some (record.value code) else none := by
  rw [ofRecord, KeyMap.get?_ofList, ← List.map_reverse]
  refine (Rows.lookup_map_key (fun code => code) record.value _ _).trans ?_
  simp only [List.map_id', List.mem_reverse]

namespace RelatedConfig

/-- Whether a record has the key of the record with some data. -/
def matchesKey (config : RelatedConfig) (data : Fields) (record : Record) : Bool :=
  !(data.value config.thisField).asText.isEmpty &&
    RecordFilter.holdsValue record.data config.keyField (data.value config.thisField)

theorem sources_eq_filter (config : RelatedConfig) (store : RecordStore) (data : Fields) :
    config.sources store data = (store.records config.app).filter (config.matchesKey data) := by
  rw [sources]
  split
  case isTrue hempty =>
    refine (List.filter_eq_nil_iff.2 fun record _ => ?_).symm
    simp [matchesKey, hempty]
  case isFalse hkey =>
    refine List.filter_congr fun record _ => ?_
    simp [matchesKey, hkey, RecordFilter.accepts, RecordFilter.having]

theorem matchesKey_eq {config : RelatedConfig} {access : Access} {a b : Record}
    (hab : Record.Indistinguishable access a b)
    (hkey : access.fields.mayRead config.keyField = true) (data : Fields) :
    config.matchesKey data a = config.matchesKey data b := by
  have hvalue : a.data.value config.keyField = b.data.value config.keyField := hab.value_eq hkey
  rw [matchesKey, matchesKey, RecordFilter.holdsValue, RecordFilter.holdsValue, hvalue]

end RelatedConfig

namespace Orders

/-- The code of the number of an account. -/
def account : NonBlank :=
  ⟨"account", by decide⟩

/-- Customers with an account, who show who added them. -/
def ownedSchema : AppSchema :=
  { customerSchema with
    fields := customerSchema.fields ++
      [line account, { line ⟨"owner", by decide⟩ with type := .creator }] }

/-- Nobody sees the account of a customer. -/
def accountRow : FieldPermission :=
  { marginRow with app := customers, field := account }

/-- Customers by their account, with their name and who added them. -/
def byAccount : RelatedConfig :=
  ⟨"customers", "account", "account", ["name", "owner"]⟩

/-- Orders for an account, which show its customers. -/
def relatingSchema : AppSchema :=
  { schema with
    processEnabled := false
    fields :=
      [line account, { line ⟨"matches", by decide⟩ with type := .relatedRecords byAccount }] }

/-- The apps of customers and orders, where the clerk may do everything. -/
def relating : Workspace :=
  let ws := Workspace.empty.serve settings (.schemas (.save ownedSchema))
  let ws := ws.serve settings (.schemas (.save relatingSchema))
  let ws := ws.serve settings (.permissions (.saveApp { clerkRow with app := customers }))
  ws.serve settings (.permissions (.saveApp clerkRow))

/-- The same with hidden accounts. -/
def secret : Workspace :=
  relating.serve settings (.permissions (.saveField accountRow))

/-- A customer of the clerk with some account. -/
def customer (number : String) : Record where
  id := ⟨"c", by decide⟩
  number := 1
  data := (KeyMap.ofList
    [(Key.createdBy, .text "clerk"), ("name", .text "Acme")]).insert "account" (.text number)

/-- An order for the account C. -/
def accountOrder : Record where
  id := ⟨"o", by decide⟩
  number := 1
  data := .ofList [("account", .text "C")]

/-- The order, and a customer with some account. -/
def accounts (number : String) : RecordStore :=
  (RecordStore.empty.withApp "orders" ⟨1, [accountOrder]⟩).withApp "customers"
    ⟨1, [customer number]⟩

/-- The clerk adds a customer and an order for its account. -/
def related : Workspace :=
  let ws := relating.serve settings (.records clerk customers
    (.create (.ofList [("account", .text "C"), ("name", .text "Acme")])))
  ws.serve settings (.records clerk app (.create (.ofList [("account", .text "C")])))

end Orders

namespace Workspace

variable {ws : Workspace} {settings : Settings} {store store' : RecordStore} {actor : Actor}
  {app : AppId} {schema remote : AppSchema} {config : RelatedConfig} {id code : String}
  {record : Record} {found : List RelatedRecord}

/-- What is shown of a record of the other app: nothing, unless it has the key. -/
def related? (ws : Workspace) (actor : Actor) (remote : AppSchema) (config : RelatedConfig)
    (data : Fields) (record : Record) : Option RelatedRecord :=
  if config.matchesKey data record then
    relatedView? (ws.ruleSet remote.id) actor remote config.displayFields record
  else none

theorem related?_eq_some {data : Fields} {related : RelatedRecord}
    (h : ws.related? actor remote config data record = some related) :
    config.matchesKey data record = true ∧
      (ws.access actor remote (some record)).record.mayView = true ∧
      related.id = record.id.text ∧ related.number = record.number := by
  rw [related?] at h
  split at h
  case isTrue hkey =>
    obtain ⟨hview, rfl⟩ := relatedView?_eq_some h
    exact ⟨hkey, hview, rfl, rfl⟩
  case isFalse => cases h

theorem related?_isSome {data : Fields} (hkey : config.matchesKey data record = true)
    (hview : (ws.access actor remote (some record)).record.mayView = true) :
    ∃ related, ws.related? actor remote config data record = some related := by
  rw [related?, if_pos hkey, relatedView?]
  exact ⟨_, if_pos hview⟩

theorem relatedView?_eq {a b : Record}
    (haccess : ws.access actor remote (some a) = ws.access actor remote (some b))
    (hab : Record.Indistinguishable (ws.access actor remote (some b)) a b) (codes : List String) :
    relatedView? (ws.ruleSet remote.id) actor remote codes a =
      relatedView? (ws.ruleSet remote.id) actor remote codes b := by
  have hfields : (ws.access actor remote (some b)).fields.redact
        (RelatedRecord.ofRecord a codes).fields =
      (ws.access actor remote (some b)).fields.redact (RelatedRecord.ofRecord b codes).fields := by
    refine KeyMap.filter_key_congr fun key hkey => ?_
    rw [RelatedRecord.ofRecord_get?, RelatedRecord.ofRecord_get?, hab.value_eq hkey]
  rw [access, access] at haccess
  rw [access] at hfields
  simp only [relatedView?, haccess, hfields]
  simp only [RelatedRecord.ofRecord, hab.id, hab.number]

theorem schemaByCode?_code (h : ws.schemaByCode? code = some remote) : remote.code.text = code := by
  simpa using List.find?_some h

theorem relatedRecords_cases (hschema : ws.schemas.get? app = some schema)
    (hconfig : (schema.field? code).map FieldDefinition.type = some (.relatedRecords config))
    (hremote : ws.schemaByCode? config.app = some remote) (actor : Actor) (id : String)
    (record : Record) :
    (∃ fault, ∀ store, store.find? schema.code.text id = some record →
      (ws.withStore store).relatedRecords actor app id code = .error fault) ∨
    ∀ store, store.find? schema.code.text id = some record →
      (ws.withStore store).relatedRecords actor app id code =
        .ok ((store.records remote.code.text).filterMap
          (ws.related? actor remote config (schema.projectedData record))) := by
  have hopened : ∀ store, store.find? schema.code.text id = some record →
      (ws.withStore store).relatedRecords actor app id code =
        (ws.requireAccess actor schema record >>= fun access =>
          if access.fields.level code == .hidden then .error (.forbidden (.hiddenField code))
          else .ok ((config.sources store (schema.projectedData record)).filterMap
            (relatedView? (ws.ruleSet remote.id) actor remote config.displayFields))) := by
    intro store hrecord
    have hfound : (ws.withStore store).requireRecord schema id = .ok record :=
      requireRecord_eq_ok.2 hrecord
    have hother : (ws.withStore store).schemaByCode? config.app = some remote := hremote
    rw [relatedRecords, withStore_requireSchema hschema, Outcome.ok_bind, hfound, Outcome.ok_bind,
      hconfig]
    simp only [hother]
    rfl
  cases haccess : ws.requireAccess actor schema record with
  | error fault =>
      refine .inl ⟨fault, fun store hrecord => ?_⟩
      rw [hopened store hrecord, haccess, Outcome.error_bind]
  | ok access =>
      cases hlevel : access.fields.level code == .hidden with
      | true =>
          refine .inl ⟨.forbidden (.hiddenField code), fun store hrecord => ?_⟩
          rw [hopened store hrecord, haccess, Outcome.ok_bind, hlevel, if_pos rfl]
      | false =>
          refine .inr fun store hrecord => ?_
          rw [hopened store hrecord, haccess, Outcome.ok_bind, hlevel,
            if_neg Bool.false_ne_true, RelatedConfig.sources_eq_filter, List.filterMap_filter,
            schemaByCode?_code hremote]
          rfl

/-! ## What the key tells -/

/-- Wherever an actor may view a record of two stores, it has the key in both or in none. -/
def AgreeOnKey (ws : Workspace) (actor : Actor) (remote : AppSchema) (config : RelatedConfig)
    (data : Fields) (store store' : RecordStore) : Prop :=
  ∀ a ∈ store.records remote.code.text, ∀ b ∈ store'.records remote.code.text,
    a.id.text = b.id.text → a.number = b.number →
      (ws.access actor remote (some a)).record.mayView = true →
        config.matchesKey data a = config.matchesKey data b

theorem Indistinguishable.related?_eq (h : ws.Indistinguishable actor remote store store')
    {data : Fields} {a b : Record} (ha : a ∈ store.records remote.code.text)
    (hb : b ∈ store'.records remote.code.text) (hid : a.id.text = b.id.text)
    (hnumber : a.number = b.number) (hkey : config.matchesKey data a = config.matchesKey data b) :
    ws.related? actor remote config data a = ws.related? actor remote config data b := by
  obtain ⟨haccess, hab⟩ := h.pair ha hb hid hnumber
  rw [related?, related?, hkey, relatedView?_eq haccess hab config.displayFields]

theorem related?_invisible {data : Fields}
    (hview : (ws.access actor remote (some record)).record.mayView = false) :
    ws.related? actor remote config data record = none := by
  cases hrelated : ws.related? actor remote config data record with
  | none => rfl
  | some related =>
      obtain ⟨-, hvisible, -⟩ := related?_eq_some hrelated
      rw [hview] at hvisible
      cases hvisible

/-- A record that is listed for one store and not for the other tells them apart. -/
theorem matchesKey_of_mem (hordered : store'.Ordered) {data : Fields} {a b : Record}
    (hsame : (store.records remote.code.text).filterMap (ws.related? actor remote config data) =
      (store'.records remote.code.text).filterMap (ws.related? actor remote config data))
    (ha : a ∈ store.records remote.code.text) (hb : b ∈ store'.records remote.code.text)
    (hnumber : a.number = b.number)
    (hview : (ws.access actor remote (some a)).record.mayView = true)
    (hkey : config.matchesKey data a = true) : config.matchesKey data b = true := by
  obtain ⟨related, hrelated⟩ := related?_isSome hkey hview
  have hmem : related ∈
      (store.records remote.code.text).filterMap (ws.related? actor remote config data) :=
    List.mem_filterMap.2 ⟨a, ha, hrelated⟩
  rw [hsame] at hmem
  obtain ⟨other, hother, hlisted⟩ := List.mem_filterMap.1 hmem
  obtain ⟨-, -, -, hshown⟩ := related?_eq_some hrelated
  obtain ⟨hmatches, -, -, hshown'⟩ := related?_eq_some hlisted
  obtain rfl := (hordered remote.code.text).eq_of_number hother hb
    (hshown'.symm.trans (hshown.trans hnumber))
  exact hmatches

theorem filterMap_related?_eq_iff (hordered : store.Ordered) (hordered' : store'.Ordered)
    (h : ws.Indistinguishable actor remote store store') (config : RelatedConfig) (data : Fields) :
    (store.records remote.code.text).filterMap (ws.related? actor remote config data) =
        (store'.records remote.code.text).filterMap (ws.related? actor remote config data) ↔
      ws.AgreeOnKey actor remote config data store store' := by
  constructor
  · intro hsame a ha b hb hid hnumber hview
    have hview' : (ws.access actor remote (some b)).record.mayView = true :=
      (h.pair ha hb hid hnumber).1 ▸ hview
    rw [Bool.eq_iff_iff]
    constructor
    · exact matchesKey_of_mem hordered' hsame ha hb hnumber hview
    · exact matchesKey_of_mem hordered hsame.symm hb ha hnumber.symm hview'
  · intro hagree
    refine filterMap_of_forall₂ (RecordStore.forall₂_records hordered hordered' h.same) ?_
    rintro a b ⟨hid, hnumber, ha, hb⟩
    cases hview : (ws.access actor remote (some a)).record.mayView with
    | true => exact h.related?_eq ha hb hid hnumber (hagree a ha b hb hid hnumber hview)
    | false =>
        have hview' := (h.pair ha hb hid hnumber).1 ▸ hview
        rw [related?_invisible hview, related?_invisible hview']

theorem Indistinguishable.agreeOnKey (h : ws.Indistinguishable actor remote store store')
    (hreads : ∀ a ∈ store.records remote.code.text,
      (ws.access actor remote (some a)).record.mayView = true →
        (ws.access actor remote (some a)).fields.mayRead config.keyField = true) (data : Fields) :
    ws.AgreeOnKey actor remote config data store store' := by
  intro a ha b hb hid hnumber hview
  obtain ⟨haccess, hab⟩ := h.pair ha hb hid hnumber
  exact RelatedConfig.matchesKey_eq hab (haccess ▸ hreads a ha hview) data

theorem Indistinguishable.eq_of_listed (h : ws.Indistinguishable actor remote store store')
    {data : Fields} {related related' : RelatedRecord}
    (hlisted : related ∈
      (store.records remote.code.text).filterMap (ws.related? actor remote config data))
    (hlisted' : related' ∈
      (store'.records remote.code.text).filterMap (ws.related? actor remote config data))
    (hid : related.id = related'.id) (hnumber : related.number = related'.number) :
    related = related' := by
  obtain ⟨a, ha, hrelated⟩ := List.mem_filterMap.1 hlisted
  obtain ⟨b, hb, hrelated'⟩ := List.mem_filterMap.1 hlisted'
  obtain ⟨hkey, -, hidA, hnumberA⟩ := related?_eq_some hrelated
  obtain ⟨hkey', -, hidB, hnumberB⟩ := related?_eq_some hrelated'
  rw [hidA, hidB] at hid
  rw [hnumberA, hnumberB] at hnumber
  rw [h.related?_eq ha hb hid hnumber (hkey.trans hkey'.symm), hrelated'] at hrelated
  exact (Option.some.inj hrelated).symm

/-- What related records reveal of hidden values is who has the key. Where two stores of the other
    app cannot be told apart by an actor, the answers for a record are the same exactly if the
    request is refused or the records that the actor may view agree on the key, as they do if the
    actor may read the key field on all of them. A record that is in both answers is shown in the
    same way. -/
theorem related_records_reveal_key (hschema : ws.schemas.get? app = some schema)
    (hconfig : (schema.field? code).map FieldDefinition.type = some (.relatedRecords config))
    (hremote : ws.schemaByCode? config.app = some remote) (hordered : store.Ordered)
    (hordered' : store'.Ordered) (h : ws.Indistinguishable actor remote store store')
    (hrecord : store.find? schema.code.text id = some record)
    (hrecord' : store'.find? schema.code.text id = some record) :
    ((ws.withStore store).relatedRecords actor app id code =
        (ws.withStore store').relatedRecords actor app id code ↔
      (∃ fault, (ws.withStore store).relatedRecords actor app id code = .error fault) ∨
        ws.AgreeOnKey actor remote config (schema.projectedData record) store store') ∧
    ((∀ a ∈ store.records remote.code.text,
        (ws.access actor remote (some a)).record.mayView = true →
          (ws.access actor remote (some a)).fields.mayRead config.keyField = true) →
      (ws.withStore store).relatedRecords actor app id code =
        (ws.withStore store').relatedRecords actor app id code) ∧
    ∀ found found', (ws.withStore store).relatedRecords actor app id code = .ok found →
      (ws.withStore store').relatedRecords actor app id code = .ok found' →
        ∀ a ∈ found, ∀ b ∈ found', a.id = b.id → a.number = b.number → a = b := by
  rcases relatedRecords_cases hschema hconfig hremote actor id record with
    ⟨fault, hrefused⟩ | hlisted
  · rw [hrefused store hrecord, hrefused store' hrecord']
    refine ⟨⟨fun _ => .inl ⟨fault, rfl⟩, fun _ => rfl⟩, fun _ => rfl, ?_⟩
    intro found found' hfound
    cases hfound
  · rw [hlisted store hrecord, hlisted store' hrecord']
    have hiff := filterMap_related?_eq_iff hordered hordered' h config
      (schema.projectedData record)
    refine ⟨⟨?_, ?_⟩, ?_, ?_⟩
    · intro hsame
      exact .inr (hiff.1 (Except.ok.inj hsame))
    · rintro (⟨fault, hfault⟩ | hagree)
      · cases hfault
      · rw [hiff.2 hagree]
    · intro hreads
      rw [hiff.2 (h.agreeOnKey hreads _)]
    · intro found found' hfound hfound' a ha b hb hid hnumber
      cases hfound
      cases hfound'
      exact h.eq_of_listed ha hb hid hnumber

theorem accounts_ordered (number : String) : (Orders.accounts number).Ordered := by
  have hword : 1 < wordLimit := by decide
  have hone : ∀ record : Record, record.number = 1 → (AppRecords.mk 1 [record]).Ordered := by
    intro record hnumber
    exact ⟨List.pairwise_singleton _ _, List.forall_mem_singleton.2 hnumber.le, hword⟩
  exact (RecordStore.empty_ordered.withApp (hone _ rfl)).withApp (hone _ rfl)

theorem relating_reachable : Orders.relating.Reachable :=
  Reachable.empty.served _ _ |>.served _ _ |>.served _ _ |>.served _ _

theorem secret_level (number : String) :
    (Orders.secret.access Orders.clerk Orders.ownedSchema
      (some (Orders.customer number))).fields.level "account" = .hidden := by
  have hsame : Orders.secret.access Orders.clerk Orders.ownedSchema
      (some (Orders.customer number)) =
    Orders.secret.access Orders.clerk Orders.ownedSchema (some (Orders.customer "")) := rfl
  rw [hsame]
  decide +kernel

theorem accounts_indistinguishable (a b : String) :
    Orders.secret.Indistinguishable Orders.clerk Orders.ownedSchema (Orders.accounts a)
      (Orders.accounts b) := by
  constructor
  · intro id number
    constructor
    · rintro ⟨a, ha, hid⟩
      obtain rfl := List.mem_singleton.1 ha
      exact ⟨_, List.mem_singleton_self _, hid⟩
    · rintro ⟨b, hb, hid⟩
      obtain rfl := List.mem_singleton.1 hb
      exact ⟨_, List.mem_singleton_self _, hid⟩
  · intro a ha b hb _ _
    obtain rfl := List.mem_singleton.1 ha
    obtain rfl := List.mem_singleton.1 hb
    rfl
  · intro a ha b hb _ _ code hcode
    obtain rfl := List.mem_singleton.1 ha
    obtain rfl := List.mem_singleton.1 hb
    have hother : code ≠ "account" := by
      rintro rfl
      rcases hcode with hreserved | hvisible
      · cases hreserved
      · exact hvisible (secret_level _)
    simp only [Orders.customer, KeyMap.get?_insert, if_neg hother]

/-- The clerk cannot tell the accounts D and E apart, for which there is no order. -/
theorem related_records_reveal_key_accounts :
    Orders.secret.Indistinguishable Orders.clerk Orders.ownedSchema (Orders.accounts "D")
      (Orders.accounts "E") ∧
    (Orders.secret.withStore (Orders.accounts "D")).relatedRecords Orders.clerk Orders.app "o"
        "matches" =
      (Orders.secret.withStore (Orders.accounts "E")).relatedRecords Orders.clerk Orders.app "o"
        "matches" := by
  have hsame := accounts_indistinguishable "D" "E"
  have hschema : Orders.secret.schemas.get? Orders.app = some Orders.relatingSchema := by
    with_unfolding_all rfl
  have hconfig : (Orders.relatingSchema.field? "matches").map FieldDefinition.type =
    some (.relatedRecords Orders.byAccount) := rfl
  have hremote : Orders.secret.schemaByCode? Orders.byAccount.app = some Orders.ownedSchema := by
    with_unfolding_all rfl
  have horder : ∀ number, (Orders.accounts number).find? "orders" "o" = some Orders.accountOrder :=
    fun _ => rfl
  obtain ⟨hiff, -, -⟩ := related_records_reveal_key hschema hconfig hremote (accounts_ordered "D")
    (accounts_ordered "E") hsame (horder "D") (horder "E")
  refine ⟨hsame, hiff.2 (.inr ?_)⟩
  intro a ha b hb _ _ _
  obtain rfl := List.mem_singleton.1 ha
  obtain rfl := List.mem_singleton.1 hb
  rfl

/-- The clerk sees nothing of the accounts C and D, and yet is told which of them is that of the
    order. -/
theorem hidden_account_revealed :
    Orders.secret.Reachable ∧
    Orders.secret.Indistinguishable Orders.clerk Orders.ownedSchema (Orders.accounts "C")
      (Orders.accounts "D") ∧
    ((Orders.secret.withStore (Orders.accounts "C")).relatedRecords Orders.clerk Orders.app "o"
      "matches").map (fun found => found.map (·.id)) = .ok ["c"] ∧
    ((Orders.secret.withStore (Orders.accounts "D")).relatedRecords Orders.clerk Orders.app "o"
      "matches").map (fun found => found.map (·.id)) = .ok [] := by
  refine ⟨?_, accounts_indistinguishable "C" "D", rfl, rfl⟩
  exact relating_reachable.served _ _

/-! ## What is shown of a related record -/

theorem related?_get? {data : Fields} {related : RelatedRecord}
    (h : ws.related? actor remote config data record = some related) {f : String}
    (hf : f ∈ config.displayFields)
    (hread : (ws.access actor remote (some record)).fields.mayRead f = true) :
    related.fields.get? f = some (record.value f) := by
  rw [related?] at h
  split at h
  case isFalse => cases h
  case isTrue =>
    obtain ⟨-, rfl⟩ := relatedView?_eq_some h
    rw [access] at hread
    simp only [KeyMap.redact, KeyMap.get?_filter_key, hread, RelatedRecord.ofRecord_get?,
      if_pos hf, if_true]

theorem view?_get? {view : RecordView} (h : ws.view? settings actor schema record = some view)
    {key : String} {v : Value} (hkey : view.data.get? key = some v) :
    (ws.access actor schema (some record)).fields.mayRead key = true ∧
      (schema.projectedData record).get? key = some v := by
  obtain ⟨-, rfl⟩ := view?_eq_some.1 h
  rw [RecordView.ofRecord, KeyMap.redact, KeyMap.get?_filter_key] at hkey
  split at hkey
  case isTrue hread => exact ⟨hread, hkey⟩
  case isFalse => cases hkey

theorem relatedRecords_ok (h : ws.relatedRecords actor app id code = .ok found) :
    ∃ schema record config remote, ws.schemas.get? app = some schema ∧
      ws.store.find? schema.code.text id = some record ∧
      (schema.field? code).map FieldDefinition.type = some (.relatedRecords config) ∧
      ws.schemaByCode? config.app = some remote ∧
      found = (ws.store.records remote.code.text).filterMap
        (ws.related? actor remote config (schema.projectedData record)) := by
  obtain ⟨⟨schema, record, hschema, hrecord, -⟩, stored, config, remote, hstored, hconfig,
    hremote, -⟩ := relatedRecords_authorized h
  obtain rfl : stored = schema := Option.some.inj (hstored.symm.trans hschema)
  refine ⟨stored, record, config, remote, hschema, hrecord, hconfig, hremote, ?_⟩
  rcases relatedRecords_cases hschema hconfig hremote actor id record with
    ⟨fault, hrefused⟩ | hlisted
  · cases h.symm.trans (hrefused ws.store hrecord)
  · exact Except.ok.inj (h.symm.trans (hlisted ws.store hrecord))

theorem Coherent.schemaByCode? (h : ws.Coherent) (hremote : ws.schemaByCode? code = some remote) :
    ws.schemas.get? remote.id = some remote := by
  obtain ⟨app, happ⟩ := Table.mem_values_iff.1 (List.mem_of_find?_eq_some hremote)
  rw [h.own_id happ]
  exact happ

/-- A related record is one that the actor may read in the other app, and shows what is stored of
    it. Where its view holds a value under a shown field, so does the related record, and the value
    is the same unless the field is an automatic one: then the view shows a piece of metadata, and
    the related record what happens to be stored under the code, or null. -/
theorem related_agrees_unless_automatic (settings : Settings) (h : ws.Reachable)
    (hfound : ws.relatedRecords actor app id code = .ok found) :
    ∃ schema config remote, ws.schemas.get? app = some schema ∧
      (schema.field? code).map FieldDefinition.type = some (.relatedRecords config) ∧
      ws.schemaByCode? config.app = some remote ∧
      ∀ related ∈ found,
        (((ws.store.records remote.code.text).map (·.id.text)).Nodup →
          ∃ view, ws.readRecord settings actor remote.id related.id = .ok view ∧
            view.number = related.number) ∧
        ∀ view, ws.readRecord settings actor remote.id related.id = .ok view →
          view.number = related.number →
          ∃ stored, ws.store.find? remote.code.text related.id = some stored ∧
            ∀ f ∈ config.displayFields, ∀ v, view.data.get? f = some v →
              related.fields.get? f = some (stored.value f) ∧
              ((∀ g ∈ remote.activeFields, g.code.text = f → g.type.isAuto = false) →
                stored.value f = v) ∧
              ∀ g ∈ remote.activeFields, g.code.text = f →
                ∀ shown, g.type.autoValue? stored = some shown → v = shown := by
  obtain ⟨schema, record, config, remote, hschema, -, hconfig, hremote, rfl⟩ :=
    relatedRecords_ok hfound
  have hother := h.coherent.schemaByCode? hremote
  refine ⟨schema, config, remote, hschema, hconfig, hremote, fun related hrelated => ?_⟩
  obtain ⟨stored, hstored, hlisted⟩ := List.mem_filterMap.1 hrelated
  obtain ⟨-, hview, hid, hnumber⟩ := related?_eq_some hlisted
  constructor
  · intro hids
    have hread : ws.store.find? remote.code.text stored.id.text = some stored :=
      RecordStore.find?_of_unique hstored fun other hmem hsame =>
        List.inj_on_of_nodup_map hids hmem hstored hsame
    rw [hid, hnumber]
    exact ⟨_, (readRecord_eq_ok hother).2 ⟨stored, hread, view?_eq_some.2 ⟨hview, rfl⟩⟩, rfl⟩
  · intro view hread hsame
    obtain ⟨read, hrecord, hshown⟩ := (readRecord_eq_ok hother).1 hread
    have hviewed : read.number = view.number := by rw [← (view?_eq_some.1 hshown).2]; rfl
    obtain rfl : read = stored := by
      refine (h.coherent.ordered remote.code.text).eq_of_number ?_ hstored ?_
      · exact RecordStore.mem_of_find? hrecord
      · rw [hviewed, hsame, hnumber]
    refine ⟨read, hrecord, fun f hf v hv => ?_⟩
    obtain ⟨hmay, hdata⟩ := view?_get? hshown hv
    refine ⟨related?_get? hlisted hf hmay, ?_, ?_⟩
    · intro hplain
      rw [AppSchema.projectedData_get?_plain hplain] at hdata
      rw [Record.value, KeyMap.value, hdata]
      rfl
    · rintro g hg rfl shown hauto
      have hvalid := h.sound.schema_valid hother
      rw [AppSchema.projectedData_get?_auto hvalid hg hauto] at hdata
      exact (Option.some.inj hdata).symm

theorem related_reachable : Orders.related.Reachable :=
  relating_reachable.served _ _ |>.served _ _

/-- The order shows the name of its customer as the clerk reads it. -/
theorem related_agrees_unless_automatic_orders :
    Orders.related.Reachable ∧
    ∃ found, Orders.related.relatedRecords Orders.clerk Orders.app "rr" "matches" = .ok found ∧
      ∃ customer ∈ found, ∃ view,
        Orders.related.readRecord Orders.settings Orders.clerk Orders.customers customer.id =
          .ok view ∧
        view.data.get? "name" = some (.text "Acme") ∧
        customer.fields.get? "name" = some (.text "Acme") := by
  have hids : (Orders.related.relatedRecords Orders.clerk Orders.app "rr" "matches").map
    (fun found => found.map (·.id)) = .ok ["r"] := rfl
  have hname : (Orders.related.readRecord Orders.settings Orders.clerk Orders.customers "r").map
    (fun view => view.data.get? "name") = .ok (some (.text "Acme")) := rfl
  have honly : (Orders.related.store.records Orders.ownedSchema.code.text).map (·.id.text) =
    ["r"] := rfl
  have hdefined : Orders.related.schemas.get? Orders.app = some Orders.relatingSchema := by
    with_unfolding_all rfl
  have hother : Orders.related.schemaByCode? "customers" = some Orders.ownedSchema := by
    with_unfolding_all rfl
  cases hfound : Orders.related.relatedRecords Orders.clerk Orders.app "rr" "matches" with
  | error fault =>
      rw [hfound] at hids
      cases hids
  | ok found =>
      rw [hfound] at hids
      obtain ⟨schema, config, remote, hschema, hconfig, hremote, hshown⟩ :=
        related_agrees_unless_automatic Orders.settings related_reachable hfound
      obtain rfl : Orders.relatingSchema = schema := Option.some.inj (hdefined.symm.trans hschema)
      obtain rfl : Orders.byAccount = config :=
        FieldType.relatedRecords.inj (Option.some.inj hconfig)
      obtain rfl : Orders.ownedSchema = remote := Option.some.inj (hother.symm.trans hremote)
      have hlisted : found.map (·.id) = ["r"] := Except.ok.inj hids
      obtain ⟨customer, hcustomer, hid⟩ : ∃ customer ∈ found, customer.id = "r" :=
        List.mem_map.1 (hlisted ▸ List.mem_singleton_self _)
      obtain ⟨hreads, hagrees⟩ := hshown customer hcustomer
      obtain ⟨view, hview, hnumber⟩ := hreads (honly ▸ List.nodup_singleton _)
      obtain ⟨stored, -, hfields⟩ := hagrees view hview hnumber
      have hvalue : view.data.get? "name" = some (.text "Acme") := by
        rw [hid] at hview
        rw [show Orders.customers = Orders.ownedSchema.id from rfl, hview] at hname
        exact Except.ok.inj hname
      obtain ⟨hstored, hplain, -⟩ := hfields "name" (by decide) _ hvalue
      rw [hplain (by decide)] at hstored
      exact ⟨related_reachable, found, rfl, customer, hcustomer, view, hview, hvalue, hstored⟩

/-- The view of a customer shows who added it, and the order shows nothing there. -/
theorem related_owner_null :
    Orders.related.Reachable ∧
    ((Orders.related.readRecord Orders.settings Orders.clerk Orders.customers "r").map
      fun view => view.data.get? "owner") = .ok (some (.text "clerk")) ∧
    ((Orders.related.relatedRecords Orders.clerk Orders.app "rr" "matches").map
      fun found => found.map fun customer => (customer.id, customer.fields.get? "owner")) =
        .ok [("r", some .null)] :=
  ⟨related_reachable, rfl, rfl⟩

end Workspace

end RecordApps
