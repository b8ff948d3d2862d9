import Mathlib.Data.List.Sort
import RecordApps.KeyMap
import RecordApps.Table

/-! # Maps and tables by their look-ups

What is found under a key after an entry has been put, dropped or filtered. A map is known by
its look-ups, so these are all that later proofs need to know of its entries.
-/

namespace RecordApps

variable {α : Type} {κ : Type} [DecidableEq κ]

namespace Rows

theorem lookup_cons (k key : κ) (value : α) (rest : List (κ × α)) :
    ((key, value) :: rest).lookup k = if k = key then some value else rest.lookup k := by
  by_cases h : k = key
  · simp [h]
  · simp [List.lookup_cons, beq_false_of_ne h, h]

theorem lookup_eq_none_iff {rows : List (κ × α)} {k : κ} :
    rows.lookup k = none ↔ k ∉ rows.map Prod.fst := by
  rw [List.lookup_eq_none_iff, List.mem_map]
  constructor
  · rintro h ⟨row, hmem, rfl⟩
    exact bne_iff_ne.1 (h row hmem) rfl
  · exact fun h row hmem => bne_iff_ne.2 fun heq => h ⟨row, hmem, heq.symm⟩

theorem lookup_insert (key k : κ) (value : α) (rows : List (κ × α)) :
    (insert key value rows).lookup k = if k = key then some value else rows.lookup k := by
  induction rows with
  | nil => exact lookup_cons k key value []
  | cons row rest ih =>
      obtain ⟨k', v'⟩ := row
      rw [insert]
      split
      case isTrue heq =>
        subst heq
        rw [lookup_cons, lookup_cons]
        split <;> rfl
      case isFalse hne =>
        rw [lookup_cons, ih, lookup_cons]
        by_cases h : k = k'
        · subst h
          simp [hne]
        · simp [h]

theorem insert_eq_self {key : κ} {value : α} {rows : List (κ × α)}
    (h : rows.lookup key = some value) : insert key value rows = rows := by
  induction rows with
  | nil => cases h
  | cons row rest ih =>
      obtain ⟨k, v⟩ := row
      rw [lookup_cons] at h
      rw [insert]
      split
      case isTrue heq =>
        obtain rfl : v = value := Option.some.inj (by rwa [if_pos heq.symm] at h)
        rw [heq]
      case isFalse hne =>
        rw [if_neg (Ne.symm hne)] at h
        rw [ih h]

theorem lookup_map_values {β : Type} (g : α → β) (rows : List (κ × α)) (k : κ) :
    (rows.map fun row => (row.1, g row.2)).lookup k = (rows.lookup k).map g := by
  induction rows with
  | nil => rfl
  | cons row rest ih =>
      rw [List.map_cons, lookup_cons, lookup_cons, ih]
      split <;> rfl

theorem lookup_filter_ne (key k : κ) (rows : List (κ × α)) :
    (rows.filter (·.1 ≠ key)).lookup k = if k = key then none else rows.lookup k := by
  induction rows with
  | nil => simp
  | cons row rest ih =>
      obtain ⟨k', v'⟩ := row
      by_cases hkey : k' = key
      · subst hkey
        rw [List.filter_cons_of_neg (by simp), ih, lookup_cons]
        split <;> rfl
      · rw [List.filter_cons_of_pos (by simp [hkey]), lookup_cons, ih, lookup_cons]
        by_cases h : k = k'
        · subst h
          simp [hkey]
        · simp [h]

/-- Where the values depend on the keys only, it does not matter which row is found. -/
theorem lookup_map_key {γ : Type} (key : γ → κ) (value : κ → α) (items : List γ) (k : κ) :
    (items.map fun item => (key item, value (key item))).lookup k =
      if k ∈ items.map key then some (value k) else none := by
  induction items with
  | nil => rfl
  | cons head rest ih =>
      rw [List.map_cons, List.map_cons, lookup_cons, ih]
      by_cases h : k = key head <;> simp [h]

/-- Where no key comes twice, what is found under a key is what stands there. -/
theorem lookup_eq_some_iff_mem {rows : List (κ × α)} (hnodup : (rows.map Prod.fst).Nodup)
    {k : κ} {v : α} : rows.lookup k = some v ↔ (k, v) ∈ rows := by
  induction rows with
  | nil => simp
  | cons row rest ih =>
      obtain ⟨k', v'⟩ := row
      obtain ⟨hhead, hrest⟩ := List.nodup_cons.1 hnodup
      rw [lookup_cons, List.mem_cons, Prod.mk.injEq]
      by_cases h : k = k'
      · subst h
        have hother : (k, v) ∉ rest := fun hmem => hhead (List.mem_map.2 ⟨(k, v), hmem, rfl⟩)
        simp [hother, eq_comm]
      · simp [h, ih hrest]

theorem lookup_reverse {rows : List (κ × α)} (hnodup : (rows.map Prod.fst).Nodup) (k : κ) :
    rows.reverse.lookup k = rows.lookup k := by
  have hreverse : (rows.reverse.map Prod.fst).Nodup := by
    rw [List.map_reverse]
    exact List.nodup_reverse.2 hnodup
  refine Option.ext fun v => ?_
  rw [lookup_eq_some_iff_mem hnodup, lookup_eq_some_iff_mem hreverse, List.mem_reverse]

end Rows

namespace Entries

theorem nodup_keys {entries : List (String × α)} (hsorted : Sorted entries) :
    (entries.map Prod.fst).Nodup := by
  refine List.pairwise_map.2 (hsorted.imp fun hlt heq => ?_)
  exact String.lt_irrefl _ (heq ▸ hlt)

theorem lookup_insert (key k : String) (value : α) (entries : List (String × α)) :
    (insert key value entries).lookup k = if k = key then some value else entries.lookup k := by
  induction entries with
  | nil => exact Rows.lookup_cons k key value []
  | cons head rest ih =>
      obtain ⟨k', v'⟩ := head
      simp only [insert]
      split
      · rw [Rows.lookup_cons]
      · split
        case isTrue heq =>
          subst heq
          rw [Rows.lookup_cons, Rows.lookup_cons]
          split <;> rfl
        case isFalse hne =>
          rw [Rows.lookup_cons, ih, Rows.lookup_cons]
          by_cases h : k = k'
          · subst h
            simp [Ne.symm hne]
          · simp [h]

theorem lookup_insertAll (k : String) (added entries : List (String × α)) :
    (insertAll entries added).lookup k = (added.reverse.lookup k).or (entries.lookup k) := by
  induction added generalizing entries with
  | nil => rfl
  | cons entry rest ih =>
      rw [insertAll, List.foldl_cons, ← insertAll, ih, lookup_insert, List.reverse_cons,
        List.lookup_append, Option.or_assoc, Rows.lookup_cons]
      by_cases h : k = entry.1 <;> simp [h]

end Entries

namespace KeyMap

@[simp] theorem get?_empty (k : String) : (empty : KeyMap α).get? k = none := rfl

@[simp] theorem get?_insert (m : KeyMap α) (key k : String) (value : α) :
    (m.insert key value).get? k = if k = key then some value else m.get? k :=
  Entries.lookup_insert key k value m.entries

theorem get?_insertAll (m : KeyMap α) (added : List (String × α)) (k : String) :
    (m.insertAll added).get? k = (added.reverse.lookup k).or (m.get? k) :=
  Entries.lookup_insertAll k added m.entries

theorem get?_insertAll_of_notMem {m : KeyMap α} {added : List (String × α)} {k : String}
    (h : k ∉ added.map Prod.fst) : (m.insertAll added).get? k = m.get? k := by
  rw [get?_insertAll, Option.or_eq_right_of_none]
  rw [Rows.lookup_eq_none_iff, List.map_reverse, List.mem_reverse]
  exact h

theorem get?_insertAll_entries (m added : KeyMap α) (k : String) :
    (m.insertAll added.entries).get? k = (added.get? k).or (m.get? k) := by
  rw [get?_insertAll, Rows.lookup_reverse (Entries.nodup_keys added.sorted)]
  rfl

theorem get?_ofList (entries : List (String × α)) (k : String) :
    (ofList entries).get? k = entries.reverse.lookup k := by
  rw [ofList, get?_insertAll, get?_empty, Option.or_none]

theorem mem_or_of_get?_insertAll {m : KeyMap α} {added : List (String × α)} {k : String} {v : α}
    (h : (m.insertAll added).get? k = some v) : (k, v) ∈ added ∨ m.get? k = some v := by
  rw [get?_insertAll, Option.or_eq_some_iff] at h
  refine h.imp (fun hadded => ?_) And.right
  obtain ⟨before, after, hsplit, -⟩ := List.lookup_eq_some_iff.1 hadded
  rw [← List.mem_reverse, hsplit]
  exact List.mem_append_right _ List.mem_cons_self

theorem mem_of_get?_ofList {entries : List (String × α)} {k : String} {v : α}
    (h : (ofList entries).get? k = some v) : (k, v) ∈ entries := by
  refine (mem_or_of_get?_insertAll h).resolve_right fun hempty => ?_
  rw [get?_empty] at hempty
  cases hempty

theorem mem_entries_iff {m : KeyMap α} {k : String} {v : α} :
    (k, v) ∈ m.entries ↔ m.get? k = some v :=
  (Rows.lookup_eq_some_iff_mem (Entries.nodup_keys m.sorted)).symm

theorem ext_get? {m m' : KeyMap α} (h : ∀ k, m.get? k = m'.get? k) : m = m' := by
  have hentries : m.entries = m'.entries := by
    have : Std.Irrefl fun a b : String × α => a.1 < b.1 := ⟨fun a => String.lt_irrefl a.1⟩
    refine List.Pairwise.eq_of_mem_iff m.sorted m'.sorted fun ⟨k, v⟩ => ?_
    rw [mem_entries_iff, mem_entries_iff, h k]
  cases m
  cases m'
  cases hentries
  rfl

theorem ofList_entries (m : KeyMap α) : ofList m.entries = m := by
  refine ext_get? fun k => ?_
  rw [get?_ofList, Rows.lookup_reverse (Entries.nodup_keys m.sorted)]
  rfl

theorem insert_eq_self {m : KeyMap α} {key : String} {value : α} (h : m.get? key = some value) :
    m.insert key value = m := by
  refine ext_get? fun k => ?_
  rw [get?_insert]
  split
  case isTrue hk => rw [hk, h]
  case isFalse => rfl

theorem mem_keys_iff {m : KeyMap α} {k : String} : k ∈ m.keys ↔ ∃ v, m.get? k = some v := by
  simp only [keys, List.mem_map, Prod.exists, exists_and_right, exists_eq_right, mem_entries_iff]

theorem contains_iff {m : KeyMap α} {k : String} : m.contains k = true ↔ k ∈ m.keys := by
  rw [contains, Option.isSome_iff_exists, mem_keys_iff]

theorem contains_of_get? {m : KeyMap α} {k : String} {v : α} (h : m.get? k = some v) :
    m.contains k = true :=
  contains_iff.2 (mem_keys_iff.2 ⟨v, h⟩)

theorem mem_keys_ofList {entries : List (String × α)} {k : String} :
    k ∈ (ofList entries).keys ↔ k ∈ entries.map Prod.fst := by
  rw [mem_keys_iff, ← Option.ne_none_iff_exists', get?_ofList, ne_eq, Rows.lookup_eq_none_iff,
    List.map_reverse, List.mem_reverse, not_not]

theorem get?_filter_eq_some_iff {m : KeyMap α} {keep : String → α → Bool} {k : String} {v : α} :
    (m.filter keep).get? k = some v ↔ m.get? k = some v ∧ keep k v = true := by
  rw [← mem_entries_iff, ← mem_entries_iff, filter, List.mem_filter]

theorem get?_filter_key (m : KeyMap α) (keep : String → Bool) (k : String) :
    (m.filter fun key _ => keep key).get? k = if keep k then m.get? k else none := by
  refine Option.ext fun v => ?_
  rw [get?_filter_eq_some_iff]
  by_cases h : keep k = true <;> simp [h]

/-- Two maps that agree on the keys a filter keeps are the same once filtered. -/
theorem filter_key_congr {m m' : KeyMap α} {keep : String → Bool}
    (h : ∀ k, keep k = true → m.get? k = m'.get? k) :
    (m.filter fun key _ => keep key) = m'.filter fun key _ => keep key := by
  refine ext_get? fun k => ?_
  rw [get?_filter_key, get?_filter_key]
  split
  case isTrue hkeep => exact h k hkeep
  case isFalse => rfl

/-! ## Changing every value -/

section Values

variable {β : Type}

/-- The map with a function applied to every value. -/
def mapValues (g : α → β) (m : KeyMap α) : KeyMap β where
  entries := m.entries.map fun entry => (entry.1, g entry.2)
  sorted := by
    rw [Entries.Sorted, List.pairwise_map]
    exact m.sorted

@[simp] theorem get?_mapValues (g : α → β) (m : KeyMap α) (k : String) :
    (m.mapValues g).get? k = (m.get? k).map g :=
  Rows.lookup_map_values g m.entries k

@[simp] theorem keys_mapValues (g : α → β) (m : KeyMap α) : (m.mapValues g).keys = m.keys := by
  rw [keys, mapValues, List.map_map]
  rfl

theorem ofList_mapValues (g : α → β) (entries : List (String × α)) :
    ofList (entries.map fun entry => (entry.1, g entry.2)) = (ofList entries).mapValues g := by
  refine ext_get? fun k => ?_
  rw [get?_ofList, get?_mapValues, get?_ofList, ← List.map_reverse, Rows.lookup_map_values]

end Values

/-! ## What all values have -/

/-- Every value has what its key asks of it. -/
def Each (q : String → α → Prop) (m : KeyMap α) : Prop :=
  ∀ key value, m.get? key = some value → q key value

namespace Each

variable {q : String → α → Prop} {m : KeyMap α} {key : String} {value : α}

theorem insert (h : Each q m) (hvalue : q key value) : Each q (m.insert key value) := by
  intro other v hv
  rw [get?_insert] at hv
  split at hv
  case isTrue hother => exact hother ▸ Option.some.inj hv ▸ hvalue
  case isFalse => exact h other v hv

theorem insertAll {added : KeyMap α} (h : Each q m) (hadded : Each q added) :
    Each q (m.insertAll added.entries) := by
  intro key v hv
  rw [get?_insertAll_entries, Option.or_eq_some_iff] at hv
  rcases hv with hv | ⟨-, hv⟩
  · exact hadded key v hv
  · exact h key v hv

theorem ofList {entries : List (String × α)} (h : ∀ entry ∈ entries, q entry.1 entry.2) :
    Each q (ofList entries) := by
  intro key v hv
  exact h (key, v) (mem_of_get?_ofList hv)

theorem foldl {β γ : Type} {data : β → KeyMap α} {step : β → γ → β} {items : List γ} {state : β}
    (h : Each q (data state))
    (hstep : ∀ item ∈ items, ∀ state, Each q (data state) → Each q (data (step state item))) :
    Each q (data (items.foldl step state)) := by
  induction items generalizing state with
  | nil => exact h
  | cons head rest ih =>
      obtain ⟨hhead, hrest⟩ := List.forall_mem_cons.1 hstep
      exact ih (hhead state h) hrest

end Each

/-- The second map is the first one with values put under some of the keys that `p` names. -/
def PutWhere (p : String → Prop) (m m' : KeyMap α) : Prop :=
  ∀ key, m'.get? key = m.get? key ∨ p key ∧ (m'.get? key).isSome = true

namespace PutWhere

variable {p q : String → Prop} {m m' m'' : KeyMap α} {key : String}

theorem refl (m : KeyMap α) : PutWhere p m m := fun _ => .inl rfl

theorem trans (h : PutWhere p m m') (h' : PutWhere p m' m'') : PutWhere p m m'' := by
  intro key
  rcases h' key with hsame | hput
  · rw [hsame]
    exact h key
  · exact .inr hput

theorem mono (h : PutWhere p m m') (hpq : ∀ key, p key → q key) : PutWhere q m m' :=
  fun key => (h key).imp_right (And.imp_left (hpq key))

theorem insert (hkey : p key) (value : α) : PutWhere p m (m.insert key value) := by
  intro other
  rw [get?_insert]
  split
  case isTrue hother => exact .inr ⟨hother ▸ hkey, rfl⟩
  case isFalse => exact .inl rfl

theorem insertAll (added : KeyMap α) (hkeys : ∀ key ∈ added.keys, p key) :
    PutWhere p m (m.insertAll added.entries) := by
  intro key
  rw [get?_insertAll_entries]
  cases hvalue : added.get? key with
  | none => exact .inl (Option.none_or ..)
  | some value => exact .inr ⟨hkeys key (mem_keys_iff.2 ⟨value, hvalue⟩), rfl⟩

theorem get?_eq (h : PutWhere p m m') (hkey : ¬p key) : m'.get? key = m.get? key :=
  (h key).resolve_right fun hput => hkey hput.1

theorem contains (h : PutWhere p m m') (hkey : m.contains key = true) :
    m'.contains key = true := by
  rcases h key with hsame | hput
  · rw [KeyMap.contains, hsame]
    exact hkey
  · exact hput.2

theorem foldl {β γ : Type} {data : β → KeyMap α} {step : β → γ → β} {items : List γ} {state : β}
    (hstep : ∀ item ∈ items, ∀ state, PutWhere p (data state) (data (step state item))) :
    PutWhere p (data state) (data (items.foldl step state)) := by
  induction items generalizing state with
  | nil => exact .refl _
  | cons head rest ih =>
      obtain ⟨hhead, hrest⟩ := List.forall_mem_cons.1 hstep
      exact (hhead state).trans (ih hrest)

end PutWhere

end KeyMap

namespace Table

@[simp] theorem get?_insert (table : Table κ α) (key k : κ) (value : α) :
    (table.insert key value).get? k = if k = key then some value else table.get? k :=
  Rows.lookup_insert key k value table.rows

@[simp] theorem get?_erase (table : Table κ α) (key k : κ) :
    (table.erase key).get? k = if k = key then none else table.get? k :=
  Rows.lookup_filter_ne key k table.rows

theorem insert_eq_self {table : Table κ α} {key : κ} {value : α}
    (h : table.get? key = some value) : table.insert key value = table := by
  have hrows := Rows.insert_eq_self h
  cases table
  simp only [insert, hrows]

theorem mem_values_iff {table : Table κ α} {value : α} :
    value ∈ table.values ↔ ∃ key, table.get? key = some value := by
  rw [values, List.mem_map]
  constructor
  · rintro ⟨⟨key, value⟩, hmem, rfl⟩
    exact ⟨key, (Rows.lookup_eq_some_iff_mem table.nodup).2 hmem⟩
  · rintro ⟨key, hget⟩
    exact ⟨(key, value), (Rows.lookup_eq_some_iff_mem table.nodup).1 hget, rfl⟩

end Table

end RecordApps
