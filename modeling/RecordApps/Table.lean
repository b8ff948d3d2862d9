/-! # Tables

A table holds one value a key, in the order in which the keys came. A value that is replaced
keeps its place.
-/

namespace RecordApps

namespace Rows

variable {κ α : Type} [DecidableEq κ]

/-- Put a value under a key, in place of an earlier one or behind all others. -/
def insert (key : κ) (value : α) : List (κ × α) → List (κ × α)
  | [] => [(key, value)]
  | (k, v) :: rest => if k = key then (key, value) :: rest else (k, v) :: insert key value rest

theorem mem_keys_insert {key k : κ} {value : α} {rows : List (κ × α)}
    (h : k ∈ (insert key value rows).map Prod.fst) : k = key ∨ k ∈ rows.map Prod.fst := by
  induction rows with
  | nil => simpa [insert] using h
  | cons row rest ih =>
      obtain ⟨k', v'⟩ := row
      simp only [insert] at h
      split at h
      case isTrue heq => exact (List.mem_cons.1 h).imp_right (List.mem_cons_of_mem _)
      case isFalse hne =>
        rcases List.mem_cons.1 h with h | h
        · exact .inr (h ▸ List.mem_cons_self)
        · exact (ih h).imp_right (List.mem_cons_of_mem _)

theorem nodup_insert {rows : List (κ × α)} (h : (rows.map Prod.fst).Nodup) (key : κ)
    (value : α) : ((insert key value rows).map Prod.fst).Nodup := by
  induction rows with
  | nil => simp [insert]
  | cons row rest ih =>
      obtain ⟨k, v⟩ := row
      have hrest := List.nodup_cons.1 h
      simp only [insert]
      split
      case isTrue heq => exact List.nodup_cons.2 ⟨heq ▸ hrest.1, hrest.2⟩
      case isFalse hne =>
        refine List.nodup_cons.2 ⟨fun hmem => ?_, ih hrest.2⟩
        exact (mem_keys_insert hmem).elim hne hrest.1

omit [DecidableEq κ] in
theorem nodup_filter {rows : List (κ × α)} (h : (rows.map Prod.fst).Nodup)
    (keep : κ × α → Bool) : ((rows.filter keep).map Prod.fst).Nodup :=
  List.Nodup.sublist (List.Sublist.map _ List.filter_sublist) h

end Rows

/-- Values under keys. -/
structure Table (κ α : Type) where
  rows : List (κ × α)
  nodup : (rows.map Prod.fst).Nodup
  deriving Repr

namespace Table

variable {κ α : Type} [DecidableEq κ]

def empty : Table κ α :=
  ⟨[], List.nodup_nil⟩

def get? (table : Table κ α) (key : κ) : Option α :=
  table.rows.lookup key

def insert (table : Table κ α) (key : κ) (value : α) : Table κ α :=
  ⟨Rows.insert key value table.rows, Rows.nodup_insert table.nodup key value⟩

def erase (table : Table κ α) (key : κ) : Table κ α :=
  ⟨table.rows.filter (·.1 ≠ key), Rows.nodup_filter table.nodup _⟩

def values (table : Table κ α) : List α :=
  table.rows.map Prod.snd

end Table

/-- Put a row into a list of rows, in place of the first row with its id or behind all
    others. -/
def putRow {R : Type} (id : R → String) (row : R) : List R → List R
  | [] => [row]
  | other :: rest => if id other == id row then row :: rest else other :: putRow id row rest

end RecordApps
