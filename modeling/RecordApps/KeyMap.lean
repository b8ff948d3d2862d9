/-! # Maps from keys to values, in key order

Record data, labels and reports are read in the order of their keys, by code point. A map
lists its entries in that order, each key once, so two maps with the same look-ups are
equal.
-/

namespace RecordApps

namespace Entries

variable {α : Type}

def Sorted (entries : List (String × α)) : Prop :=
  entries.Pairwise fun a b => a.1 < b.1

/-- Put a value under a key, in place of an earlier one. -/
def insert (key : String) (value : α) : List (String × α) → List (String × α)
  | [] => [(key, value)]
  | (k, v) :: rest =>
      if key < k then (key, value) :: (k, v) :: rest
      else if key = k then (key, value) :: rest
      else (k, v) :: insert key value rest

/-- Put every entry of a list, later ones in place of earlier ones. -/
def insertAll (entries added : List (String × α)) : List (String × α) :=
  added.foldl (fun acc entry => insert entry.1 entry.2 acc) entries

theorem mem_insert {key : String} {value : α} {entries : List (String × α)} {e : String × α}
    (h : e ∈ insert key value entries) : e = (key, value) ∨ e ∈ entries := by
  induction entries with
  | nil => simpa [insert] using h
  | cons head rest ih =>
      obtain ⟨k, v⟩ := head
      simp only [insert] at h
      split at h
      · simpa using h
      · split at h
        · rcases List.mem_cons.1 h with h | h
          · exact .inl h
          · exact .inr (List.mem_cons_of_mem _ h)
        · rcases List.mem_cons.1 h with h | h
          · exact .inr (h ▸ List.mem_cons_self)
          · exact (ih h).imp_right (List.mem_cons_of_mem _)

theorem sorted_insert {entries : List (String × α)} (h : Sorted entries) (key : String)
    (value : α) : Sorted (insert key value entries) := by
  induction entries with
  | nil => simp [insert, Sorted]
  | cons head rest ih =>
      obtain ⟨k, v⟩ := head
      have hrest := List.pairwise_cons.1 h
      simp only [insert]
      split
      case isTrue hlt =>
        refine List.pairwise_cons.2 ⟨fun e he => ?_, h⟩
        rcases List.mem_cons.1 he with he | he
        · exact he ▸ hlt
        · exact String.lt_trans hlt (hrest.1 e he)
      case isFalse hlt =>
        split
        case isTrue heq =>
          exact List.pairwise_cons.2 ⟨fun e he => heq ▸ hrest.1 e he, hrest.2⟩
        case isFalse hne =>
          refine List.pairwise_cons.2 ⟨fun e he => ?_, ih hrest.2⟩
          rcases mem_insert he with he | he
          · exact he ▸ Std.lt_of_le_of_ne (String.not_lt.1 hlt) (Ne.symm hne)
          · exact hrest.1 e he

theorem sorted_insertAll {entries : List (String × α)} (h : Sorted entries)
    (added : List (String × α)) : Sorted (insertAll entries added) := by
  induction added generalizing entries with
  | nil => exact h
  | cons entry rest ih => exact ih (sorted_insert h entry.1 entry.2)

end Entries

/-- A map from keys to values. -/
structure KeyMap (α : Type) where
  entries : List (String × α)
  sorted : Entries.Sorted entries
  deriving Repr

namespace KeyMap

variable {α : Type}

def empty : KeyMap α :=
  ⟨[], List.Pairwise.nil⟩

instance : Inhabited (KeyMap α) := ⟨empty⟩

instance [DecidableEq α] : DecidableEq (KeyMap α) := fun a b =>
  decidable_of_iff (a.entries = b.entries) (by cases a; cases b; simp)

def get? (m : KeyMap α) (key : String) : Option α :=
  m.entries.lookup key

def contains (m : KeyMap α) (key : String) : Bool :=
  (m.get? key).isSome

def insert (m : KeyMap α) (key : String) (value : α) : KeyMap α :=
  ⟨Entries.insert key value m.entries, Entries.sorted_insert m.sorted key value⟩

/-- Put every entry of a list, later ones in place of earlier ones. -/
def insertAll (m : KeyMap α) (added : List (String × α)) : KeyMap α :=
  ⟨Entries.insertAll m.entries added, Entries.sorted_insertAll m.sorted added⟩

/-- The map with the given entries; of two under one key the last counts. -/
def ofList (entries : List (String × α)) : KeyMap α :=
  empty.insertAll entries

def keys (m : KeyMap α) : List String :=
  m.entries.map Prod.fst

def filter (m : KeyMap α) (keep : String → α → Bool) : KeyMap α :=
  ⟨m.entries.filter fun entry => keep entry.1 entry.2, m.sorted.filter _⟩

end KeyMap

end RecordApps
