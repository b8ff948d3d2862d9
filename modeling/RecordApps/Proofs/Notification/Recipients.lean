import Mathlib.Data.List.Nodup
import RecordApps.Notification.Rule

/-! # Whom a rule notifies

A rule names its recipients directly, or by a value of the record. A value may name users at many
places, in lists inside of lists and in objects, and the same user at several of them. A rule
notifies everyone who is named, once, in the order in which they are named first.
-/

namespace RecordApps

/-! ## First occurrences -/

/-- The items that occur at some place, each once, in the order of their first places. -/
structure FirstOccurrences {α κ : Type} [LT κ] (occurs : α → κ → Prop) (items : List α) :
    Prop where
  nodup : items.Nodup
  mem_iff : ∀ item, item ∈ items ↔ ∃ place, occurs item place
  /-- An item has a place before all places of the items behind it. -/
  ordered : items.Pairwise fun a b => ∃ place, occurs a place ∧ ∀ other, occurs b other →
    place < other

namespace FirstOccurrences

variable {α κ : Type} [LT κ] {occurs occurs' : α → κ → Prop} {items : List α}

theorem congr (h : FirstOccurrences occurs items)
    (hsame : ∀ item place, occurs item place ↔ occurs' item place) :
    FirstOccurrences occurs' items := by
  have heq : occurs = occurs' := funext₂ fun item place => propext (hsame item place)
  exact heq ▸ h

theorem singleton (item : α) (place : κ)
    (h : ∀ other otherPlace, occurs other otherPlace ↔ other = item ∧ otherPlace = place) :
    FirstOccurrences occurs [item] where
  nodup := List.nodup_singleton item
  mem_iff other := by simp [h]
  ordered := List.pairwise_singleton _ item

theorem nil (h : ∀ item place, ¬occurs item place) : FirstOccurrences occurs [] where
  nodup := List.nodup_nil
  mem_iff item := by simp [h]
  ordered := List.Pairwise.nil

/-- Of items that are listed with their places from first to last, duplicates may be dropped. -/
theorem eraseDups [BEq α] [LawfulBEq α] {found : List (κ × α)}
    (hordered : found.Pairwise fun a b => a.1 < b.1) :
    FirstOccurrences (fun item place => (place, item) ∈ found)
      (found.map Prod.snd).eraseDups := by
  induction hlength : found.length using Nat.strongRecOn generalizing found with
  | ind n ih =>
      cases found with
      | nil => exact nil fun _ _ => List.not_mem_nil
      | cons head rest =>
          obtain ⟨first, a⟩ := head
          obtain ⟨hfirst, hrest⟩ := List.pairwise_cons.1 hordered
          have hothers : (rest.map Prod.snd).filter (fun item => !item == a) =
              (rest.filter fun entry => !entry.2 == a).map Prod.snd := by
            rw [List.filter_map]
            rfl
          have hshorter : (rest.filter fun entry => !entry.2 == a).length < n := by
            have := List.length_filter_le (fun entry : κ × α => !entry.2 == a) rest
            rw [← hlength, List.length_cons]
            omega
          have hih := ih _ hshorter (hrest.filter _) rfl
          have hmem : ∀ {place : κ} {item : α},
              (place, item) ∈ rest.filter (fun entry => !entry.2 == a) ↔
                (place, item) ∈ rest ∧ item ≠ a := by
            simp [List.mem_filter]
          simp only [hmem] at hih
          rw [List.map_cons, List.eraseDups_cons, hothers]
          have hnotFirst : ∀ {item : α} {place : κ}, item ≠ a →
              ((place, item) ∈ (first, a) :: rest ↔ (place, item) ∈ rest) := by
            intro item place hne
            simp [hne]
          refine ⟨List.nodup_cons.2 ⟨fun hdup => ?_, hih.nodup⟩, fun item => ?_,
            List.pairwise_cons.2 ⟨fun item hitem => ?_, ?_⟩⟩
          · obtain ⟨_, -, hne⟩ := (hih.mem_iff a).1 hdup
            exact hne rfl
          · by_cases hitem : item = a
            · subst hitem
              exact iff_of_true List.mem_cons_self ⟨first, List.mem_cons_self⟩
            · rw [List.mem_cons, or_iff_right hitem, hih.mem_iff]
              simp only [hnotFirst hitem, and_iff_left hitem]
          · obtain ⟨_, -, hne⟩ := (hih.mem_iff item).1 hitem
            refine ⟨first, List.mem_cons_self, fun other hother => ?_⟩
            exact hfirst _ ((hnotFirst hne).1 hother)
          · refine hih.ordered.imp_of_mem fun {x y} _ hy ⟨place, hplace, hbefore⟩ => ?_
            obtain ⟨_, -, hne⟩ := (hih.mem_iff y).1 hy
            refine ⟨place, List.mem_cons_of_mem _ hplace.1, fun other hother => ?_⟩
            exact hbefore other ⟨(hnotFirst hne).1 hother, hne⟩

end FirstOccurrences

/-! ## Users that a value names -/

/-- A user is named at a place of a value. The place is the way to it through the items of lists;
    an object leads to its `code`, or else to its `id`. -/
inductive Value.Names (user : String) : Value → List Nat → Prop where
  | text : Text.isBlank user = false → Names user (.text user) []
  | item {items : List Value} {i : Nat} {item : Value} {place : List Nat} :
      items[i]? = some item → Names user item place → Names user (.list items) (i :: place)
  | code {entries : List (String × Value)} {v : Value} {place : List Nat} :
      entries.lookup "code" = some v → Names user v place → Names user (.object entries) place
  | id {entries : List (String × Value)} {v : Value} {place : List Nat} :
      entries.lookup "code" = none → entries.lookup "id" = some v → Names user v place →
      Names user (.object entries) place

namespace Value

/-- The users that a value names, with their places, from left to right. -/
structure Listed (v : Value) (found : List (List Nat × String)) : Prop where
  users : found.map Prod.snd = v.userIds
  ordered : found.Pairwise fun a b => a.1 < b.1
  mem_iff : ∀ {place user}, (place, user) ∈ found ↔ v.Names user place

/-- The same for the items of a list, where the first of them has the number `n`. -/
structure ListedFrom (n : Nat) (items : List Value) (found : List (List Nat × String)) :
    Prop where
  users : found.map Prod.snd = Value.userIdsOfItems items
  ordered : found.Pairwise fun a b => a.1 < b.1
  mem_iff : ∀ {place user}, (place, user) ∈ found ↔
    ∃ i item rest, items[i]? = some item ∧ place = (n + i) :: rest ∧ item.Names user rest

theorem listed_nil {v : Value} (husers : v.userIds = [])
    (hnames : ∀ user place, ¬v.Names user place) : v.Listed [] where
  users := husers.symm
  ordered := List.Pairwise.nil
  mem_iff := by simp [hnames]

theorem listed_text (user : String) : ∃ found, (Value.text user).Listed found := by
  cases hblank : Text.isBlank user with
  | true =>
      refine ⟨[], listed_nil (by rw [userIds, hblank]; rfl) fun other place hnames => ?_⟩
      cases hnames with
      | text hother =>
          rw [hblank] at hother
          cases hother
  | false =>
      refine ⟨[([], user)], by rw [userIds, hblank]; rfl, List.pairwise_singleton _ _, ?_⟩
      intro place other
      rw [List.mem_singleton, Prod.mk.injEq]
      constructor
      · rintro ⟨rfl, rfl⟩
        exact .text hblank
      · intro hnames
        cases hnames with
        | text => exact ⟨rfl, rfl⟩

theorem ListedFrom.list {items : List Value} {found : List (List Nat × String)}
    (h : ListedFrom 0 items found) : (Value.list items).Listed found where
  users := h.users
  ordered := h.ordered
  mem_iff := by
    intro place user
    rw [h.mem_iff]
    constructor
    · rintro ⟨i, item, rest, hitem, rfl, hnames⟩
      rw [Nat.zero_add]
      exact .item hitem hnames
    · intro hnames
      cases hnames with
      | item hitem hnames => exact ⟨_, _, _, hitem, by rw [Nat.zero_add], hnames⟩

theorem ListedFrom.cons {n : Nat} {item : Value} {items : List Value}
    {found others : List (List Nat × String)} (hothers : ListedFrom (n + 1) items others)
    (h : item.Listed found) :
    ListedFrom n (item :: items) (found.map (fun entry => (n :: entry.1, entry.2)) ++ others) where
  users := by
    rw [List.map_append, List.map_map, hothers.users, userIdsOfItems, ← h.users]
    rfl
  ordered := by
    refine List.pairwise_append.2 ⟨List.pairwise_map.2 ?_, hothers.ordered, ?_⟩
    · exact h.ordered.imp fun hlt => List.cons_lt_cons_iff.2 (.inr ⟨rfl, hlt⟩)
    · rintro entry hentry ⟨place, user⟩ hother
      obtain ⟨first, -, rfl⟩ := List.mem_map.1 hentry
      obtain ⟨i, _, rest, -, rfl, -⟩ := hothers.mem_iff.1 hother
      exact List.cons_lt_cons_iff.2 (.inl (by omega))
  mem_iff := by
    intro place user
    rw [List.mem_append, List.mem_map, hothers.mem_iff]
    constructor
    · rintro (⟨⟨rest, _⟩, hmem, heq⟩ | ⟨i, other, rest, hother, rfl, hnames⟩)
      · obtain ⟨rfl, rfl⟩ := Prod.mk.inj heq
        exact ⟨0, item, rest, rfl, rfl, h.mem_iff.1 hmem⟩
      · exact ⟨i + 1, other, rest, hother, by rw [Nat.add_right_comm, Nat.add_assoc], hnames⟩
    · rintro ⟨i, other, rest, hother, rfl, hnames⟩
      cases i with
      | zero =>
          obtain rfl := Option.some.inj hother
          exact .inl ⟨(rest, user), h.mem_iff.2 hnames, rfl⟩
      | succ i =>
          exact .inr ⟨i, other, rest, hother, by rw [Nat.add_right_comm, Nat.add_assoc], hnames⟩

theorem userIdsUnder_eq (key : String) (entries : List (String × Value)) :
    userIdsUnder key entries = (entries.lookup key).map userIds := by
  induction entries with
  | nil => rfl
  | cons entry rest ih =>
      obtain ⟨k, v⟩ := entry
      rw [userIdsUnder, List.lookup_cons]
      by_cases hkey : k = key
      · rw [if_pos hkey, beq_iff_eq.2 hkey.symm]
        rfl
      · rw [if_neg hkey, ih, beq_false_of_ne (Ne.symm hkey)]

theorem listed_object {entries : List (String × Value)}
    (h : ∀ {key v}, entries.lookup key = some v → ∃ found, v.Listed found) :
    ∃ found, (Value.object entries).Listed found := by
  have husers : (Value.object entries).userIds =
      ((entries.lookup "code").map userIds).getD
        (((entries.lookup "id").map userIds).getD []) := by
    rw [userIds, userIdsUnder_eq, userIdsUnder_eq]
    cases entries.lookup "code" <;> rfl
  cases hcode : entries.lookup "code" with
  | some v =>
      obtain ⟨found, hfound⟩ := h hcode
      rw [hcode] at husers
      refine ⟨found, hfound.users.trans husers.symm, hfound.ordered, hfound.mem_iff.trans ?_⟩
      refine ⟨.code hcode, fun hnames => ?_⟩
      cases hnames with
      | code hlookup hnames => exact Option.some.inj (hcode.symm.trans hlookup) ▸ hnames
      | id hnone => cases hcode.symm.trans hnone
  | none =>
      cases hid : entries.lookup "id" with
      | some v =>
          obtain ⟨found, hfound⟩ := h hid
          rw [hcode, hid] at husers
          refine ⟨found, hfound.users.trans husers.symm, hfound.ordered,
            hfound.mem_iff.trans ?_⟩
          refine ⟨.id hcode hid, fun hnames => ?_⟩
          cases hnames with
          | code hlookup => cases hcode.symm.trans hlookup
          | id _ hlookup hnames => exact Option.some.inj (hid.symm.trans hlookup) ▸ hnames
      | none =>
          rw [hcode, hid] at husers
          refine ⟨[], listed_nil husers fun user place hnames => ?_⟩
          cases hnames with
          | code hlookup => cases hcode.symm.trans hlookup
          | id _ hlookup => cases hid.symm.trans hlookup

mutual

theorem exists_listed (v : Value) : ∃ found, v.Listed found := by
  cases v with
  | text user => exact listed_text user
  | list items =>
      obtain ⟨found, hfound⟩ := exists_listedFrom 0 items
      exact ⟨found, hfound.list⟩
  | object entries => exact listed_object (exists_listed_of_lookup entries)
  | null | bool | int | float => exact ⟨[], listed_nil rfl fun _ _ hnames => nomatch hnames⟩
termination_by sizeOf v

theorem exists_listedFrom (n : Nat) (items : List Value) :
    ∃ found, ListedFrom n items found := by
  cases items with
  | nil => exact ⟨[], rfl, List.Pairwise.nil, by simp⟩
  | cons item rest =>
      obtain ⟨found, hfound⟩ := exists_listed item
      obtain ⟨others, hothers⟩ := exists_listedFrom (n + 1) rest
      exact ⟨_, hothers.cons hfound⟩
termination_by sizeOf items

theorem exists_listed_of_lookup {key : String} {v : Value} :
    ∀ entries : List (String × Value), entries.lookup key = some v → ∃ found, v.Listed found
  | [], h => nomatch h
  | (k, first) :: rest, h => by
      rw [List.lookup_cons] at h
      split at h
      · exact Option.some.inj h ▸ exists_listed first
      · exact exists_listed_of_lookup rest h
termination_by entries => sizeOf entries

end

end Value

/-! ## Recipients -/

namespace NotificationRule

/-- Whom a rule names about a record, and the place in the value of a field at which it does, if
    that is where it looks. -/
def Names (rule : NotificationRule) (record : Record) (recipient : Recipient)
    (place : List Nat) : Prop :=
  match rule.notifyType with
  | .creator => ∃ user, record.createdBy = some user ∧ recipient = .user user ∧ place = []
  | .user => recipient = .user (rule.targetId.getD "") ∧ place = []
  | .role => recipient = .role (rule.targetId.getD "") ∧ place = []
  | .organization => recipient = .organization (rule.targetId.getD "") ∧ place = []
  | .fieldValue => ∃ code user, rule.targetField = some code ∧ recipient = .user user ∧
      (record.value code).Names user place

variable {rule : NotificationRule} {record : Record}

theorem firstOccurrences_users (v : Value) :
    FirstOccurrences
      (fun recipient place => ∃ user, recipient = Recipient.user user ∧ v.Names user place)
      (v.userIds.map Recipient.user).eraseDups := by
  obtain ⟨found, hfound⟩ := v.exists_listed
  have hordered : (found.map fun entry => (entry.1, Recipient.user entry.2)).Pairwise
      fun a b => a.1 < b.1 := List.pairwise_map.2 hfound.ordered
  have husers : (found.map fun entry => (entry.1, Recipient.user entry.2)).map Prod.snd =
      v.userIds.map Recipient.user := by
    rw [← hfound.users, List.map_map, List.map_map]
    rfl
  refine husers ▸ (FirstOccurrences.eraseDups hordered).congr fun recipient place => ?_
  rw [List.mem_map]
  constructor
  · rintro ⟨⟨_, user⟩, hmem, heq⟩
    obtain ⟨rfl, rfl⟩ := Prod.mk.inj heq
    exact ⟨user, rfl, hfound.mem_iff.1 hmem⟩
  · rintro ⟨user, rfl, hnames⟩
    exact ⟨(place, user), hfound.mem_iff.2 hnames, rfl⟩

/-- A rule notifies everyone it names, once, in the order in which they are named first. -/
theorem recipients_firstOccurrences (rule : NotificationRule) (record : Record) :
    FirstOccurrences (rule.Names record) (rule.recipients record) := by
  cases htype : rule.notifyType with
  | creator =>
      rw [recipients, htype]
      cases hcreator : record.createdBy with
      | none => exact .nil fun _ _ => by simp [Names, htype, hcreator]
      | some user =>
          refine .singleton (Recipient.user user) [] fun _ _ => ?_
          simp [Names, htype, hcreator]
  | user | role | organization =>
      rw [recipients, htype]
      exact .singleton _ [] fun _ _ => by rw [Names, htype]
  | fieldValue =>
      rw [recipients, htype]
      cases hfield : rule.targetField with
      | none => exact .nil fun _ _ => by simp [Names, htype, hfield]
      | some code =>
          refine (firstOccurrences_users (record.value code)).congr fun _ _ => ?_
          simp [Names, htype, hfield]

end NotificationRule

end RecordApps
