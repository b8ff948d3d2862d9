import RecordApps.Proofs.KeyMap
import RecordApps.Proofs.Value.Rereading
import RecordApps.Value.Written

/-! # Stored text is read as it was written

Every value that can be stored is read back from its text, whatever follows it, with the floats in it
as they are read. The values that can be stored are those whose numbers fit into a machine, whose
objects are in key order, and whose lists and objects do not lie too deep inside each other.
-/

namespace RecordApps

open Stored

/-! ## Texts -/

namespace Stored

theorem hexValue?_hexDigit : ∀ n < 16, hexValue? (Value.hexDigit n) = some n := by
  decide

theorem chars?_plain (fuel : ℕ) {c : Char} (hquote : c ≠ '"') (hslash : c ≠ '\\')
    (hcontrol : ¬c.toNat < 32) (cs : List Char) :
    chars? (fuel + 1) (c :: cs) = (chars? fuel cs).map fun (more, rest) => (c :: more, rest) := by
  rw [chars?.eq_def]
  simp only [if_neg hquote, if_neg hcontrol, if_neg hslash]
  cases chars? fuel cs <;> rfl

theorem chars?_short (fuel : ℕ) {e c : Char} (he : e ≠ 'u') (hc : shortEscape? e = some c)
    (cs : List Char) :
    chars? (fuel + 1) ('\\' :: e :: cs) =
      (chars? fuel cs).map fun (more, rest) => (c :: more, rest) := by
  rw [chars?, if_neg (by decide), if_neg (by decide), if_pos rfl, hc]
  · cases chars? fuel cs <;> rfl
  · exact he

theorem chars?_unit (fuel : ℕ) {n : ℕ} (hn : n < 32) (cs : List Char) :
    chars? (fuel + 1)
        ('\\' :: 'u' :: '0' :: '0' :: Value.hexDigit (n / 16) :: Value.hexDigit (n % 16) :: cs) =
      (chars? fuel cs).map fun (more, rest) => (Char.ofNat n :: more, rest) := by
  have hzero : hexValue? '0' = some 0 := rfl
  have hhigh := hexValue?_hexDigit (n / 16) (by omega)
  have hlow := hexValue?_hexDigit (n % 16) (by omega)
  have hunit : unitEscape?
      ('0' :: '0' :: Value.hexDigit (n / 16) :: Value.hexDigit (n % 16) :: cs) =
        some (Char.ofNat n, cs) := by
    have hvalue : ((0 * 16 + 0) * 16 + n / 16) * 16 + n % 16 = n := by omega
    have hpair : isHighUnit n = false ∧ isLowUnit n = false := by
      simp only [isHighUnit, isLowUnit, Bool.and_eq_false_imp, decide_eq_true_eq,
        decide_eq_false_iff_not]
      omega
    simp only [unitEscape?, hexUnit?, hzero, hhigh, hlow, Option.bind_eq_bind, Option.bind_some,
      Option.pure_def, hvalue, hpair, Bool.false_eq_true, if_false]
  rw [chars?, if_neg (by decide), if_neg (by decide), if_pos rfl, hunit]
  simp only [Option.bind_eq_bind, Option.bind_some]
  cases chars? fuel cs <;> rfl

theorem chars?_escaped (fuel : ℕ) (c : Char) (cs : List Char) :
    chars? (fuel + 1) (Value.escaped c ++ cs) =
      (chars? fuel cs).map fun (more, rest) => (c :: more, rest) := by
  have hcontrol {n : ℕ} {e : Char} (h : c.toNat = n) (he : e ≠ 'u')
      (hletter : shortEscape? e = some (Char.ofNat n)) :
      chars? (fuel + 1) (['\\', e] ++ cs) =
        (chars? fuel cs).map fun (more, rest) => (c :: more, rest) := by
    rw [← h, Char.ofNat_toNat] at hletter
    exact chars?_short fuel he hletter cs
  rw [Value.escaped]
  split_ifs with hquote hslash h8 h9 h10 h12 h13 h32
  · exact hquote ▸ chars?_short fuel (e := '"') (by decide) rfl cs
  · exact hslash ▸ chars?_short fuel (e := '\\') (by decide) rfl cs
  · exact hcontrol h8 (by decide) rfl
  · exact hcontrol h9 (by decide) rfl
  · exact hcontrol h10 (by decide) rfl
  · exact hcontrol h12 (by decide) rfl
  · exact hcontrol h13 (by decide) rfl
  · have hunit := chars?_unit fuel h32 cs
    rwa [Char.ofNat_toNat] at hunit
  · exact chars?_plain fuel hquote hslash h32 cs

theorem chars?_flatMap (fuel : ℕ) (l rest : List Char) (hfuel : l.length < fuel) :
    chars? fuel (l.flatMap Value.escaped ++ '"' :: rest) = some (l, rest) := by
  induction l generalizing fuel with
  | nil =>
      obtain ⟨fuel, rfl⟩ := Nat.exists_eq_succ_of_ne_zero (Nat.pos_iff_ne_zero.1 hfuel)
      rfl
  | cons c l ih =>
      obtain ⟨fuel, rfl⟩ := Nat.exists_eq_succ_of_ne_zero (Nat.ne_zero_of_lt hfuel)
      rw [List.flatMap_cons, List.append_assoc, chars?_escaped,
        ih fuel (Nat.lt_of_succ_lt_succ hfuel)]
      rfl

theorem length_le_escaped (l : List Char) : l.length ≤ (l.flatMap Value.escaped).length := by
  have hone (c : Char) : 1 ≤ (Value.escaped c).length := by
    rw [Value.escaped]
    repeat' split
    all_goals simp
  induction l with
  | nil => exact Nat.zero_le _
  | cons c l ih =>
      rw [List.flatMap_cons, List.length_append, List.length_cons, Nat.add_comm]
      exact Nat.add_le_add (hone c) ih

theorem text?_quoted (s : String) (rest : List Char) :
    text? (Value.quoted s ++ rest) = some (s, rest) := by
  have hquoted : Value.quoted s ++ rest =
      '"' :: (s.toList.flatMap Value.escaped ++ '"' :: rest) := by
    rw [Value.quoted, List.cons_append, List.cons_append, List.append_assoc]
    rfl
  have hfuel : s.toList.length < (s.toList.flatMap Value.escaped ++ '"' :: rest).length + 1 := by
    have := length_le_escaped s.toList
    rw [List.length_append]
    omega
  rw [hquoted, text?, chars?_flatMap _ _ _ hfuel, Option.map_some]
  simp only [String.ofList_toList]

/-! ## Items -/

/-- A text that can stand for an item: it begins with neither a blank nor a closing bracket. -/
def Opens (cs : List Char) : Prop :=
  ∃ c rest, cs = c :: rest ∧ c ∉ [' ', '\n', '\t', '\r', ']', '\x7d']

theorem Opens.append {cs : List Char} (h : Opens cs) (rest : List Char) : Opens (cs ++ rest) := by
  obtain ⟨c, tail, rfl, hc⟩ := h
  exact ⟨c, tail ++ rest, rfl, hc⟩

theorem skipSpace_cons {c : Char} (hc : c ∉ [' ', '\n', '\t', '\r']) (cs : List Char) :
    skipSpace (c :: cs) = c :: cs := by
  rw [skipSpace, List.dropWhile_cons_of_neg]
  simpa [not_or, and_assoc] using hc

theorem Opens.skipSpace {cs : List Char} (h : Opens cs) : skipSpace cs = cs := by
  obtain ⟨c, tail, rfl, hc⟩ := h
  exact skipSpace_cons (fun h => hc (by simp only [List.mem_cons] at h ⊢; tauto)) tail

/-- The items after the first and the closing bracket. -/
def separated {α : Type} (write : α → List Char) (closing : Char) : List α → List Char
  | [] => [closing]
  | a :: as => ',' :: write a ++ separated write closing as

/-- The items and the closing bracket. -/
def joined {α : Type} (write : α → List Char) (closing : Char) : List α → List Char
  | [] => [closing]
  | a :: as => write a ++ separated write closing as

section Items

variable {α β : Type} {item : Step β} {write : α → List Char} {read : α → β} {closing : Char}

theorem delimited_separated (hclosing : closing ∈ [']', '\x7d']) (as : List α)
    (rest : List Char) : Delimited (separated write closing as ++ rest) := by
  cases as with
  | nil =>
      rintro c ⟨⟩
      obtain rfl | rfl := List.mem_pair.1 hclosing <;> decide
  | cons a as =>
      rintro c ⟨⟩
      decide

theorem more?_closing (hclosing : closing ∈ [']', '\x7d']) (next : Step (List β))
    (rest : List Char) : more? closing next (closing :: rest) = some ([], rest) := by
  have hblank : closing ∉ [' ', '\n', '\t', '\r'] ∧ closing ≠ ',' := by
    obtain rfl | rfl := List.mem_pair.1 hclosing <;> decide
  rw [more?, skipSpace_cons hblank.1]
  simp only [if_neg hblank.2, if_true]

theorem more?_comma (next : Step (List β)) (rest : List Char) :
    more? closing next (',' :: rest) = next rest :=
  rfl

theorem items?_cons {a : α} {b : β} {mid rest : List Char} {others : List β} {fuel : ℕ}
    (hopens : Opens (write a)) (hread : item (write a ++ mid) = some (b, mid))
    (hmore : more? closing (items? item closing fuel) mid = some (others, rest)) :
    items? item closing (fuel + 1) (write a ++ mid) = some (b :: others, rest) := by
  rw [items?, (hopens.append mid).skipSpace, hread]
  simp only [Option.bind_eq_bind, Option.bind_some, hmore]
  rfl

/-- Items are read back one after the other, each from the text it was written as. -/
theorem items?_separated (hclosing : closing ∈ [']', '\x7d']) {a : α} {as : List α}
    (hopens : ∀ b ∈ a :: as, Opens (write b))
    (hread : ∀ b ∈ a :: as, ∀ rest, Delimited rest → item (write b ++ rest) = some (read b, rest))
    {fuel : ℕ} (hfuel : as.length < fuel) (rest : List Char) :
    items? item closing fuel (write a ++ (separated write closing as ++ rest)) =
      some ((a :: as).map read, rest) := by
  induction as generalizing a fuel with
  | nil =>
      obtain ⟨fuel, rfl⟩ := Nat.exists_eq_succ_of_ne_zero (Nat.ne_zero_of_lt hfuel)
      exact items?_cons (hopens a List.mem_cons_self)
        (hread a List.mem_cons_self _ (delimited_separated hclosing _ rest))
        (more?_closing hclosing _ rest)
  | cons b as ih =>
      obtain ⟨fuel, rfl⟩ := Nat.exists_eq_succ_of_ne_zero (Nat.ne_zero_of_lt hfuel)
      refine items?_cons (hopens a List.mem_cons_self)
        (hread a List.mem_cons_self _ (delimited_separated hclosing _ rest)) ?_
      rw [separated, List.cons_append, List.cons_append, List.append_assoc, more?_comma]
      exact ih (fun c hc => hopens c (List.mem_cons_of_mem _ hc))
        (fun c hc => hread c (List.mem_cons_of_mem _ hc)) (Nat.lt_of_succ_lt_succ hfuel)

theorem length_lt_separated (write : α → List Char) (closing : Char) (as : List α) :
    as.length < (separated write closing as).length := by
  induction as with
  | nil => exact Nat.one_pos
  | cons a as ih =>
      rw [separated, List.length_append, List.length_cons, List.length_cons]
      omega

theorem closed?_joined (hclosing : closing ∈ [']', '\x7d']) {as : List α}
    (hopens : ∀ a ∈ as, Opens (write a))
    (hread : ∀ a ∈ as, ∀ rest, Delimited rest → item (write a ++ rest) = some (read a, rest))
    (rest : List Char) :
    closed? item closing (joined write closing as ++ rest) = some (as.map read, rest) := by
  cases as with
  | nil =>
      have hblank : closing ∉ [' ', '\n', '\t', '\r'] := by
        obtain rfl | rfl := List.mem_pair.1 hclosing <;> decide
      rw [joined, closed?, List.singleton_append, skipSpace_cons hblank]
      simp only [if_true, List.map_nil]
  | cons a as =>
      have hfuel : as.length <
          (write a ++ (separated write closing as ++ rest)).length + 1 := by
        have := length_lt_separated write closing as
        rw [List.length_append, List.length_append]
        omega
      have hitems := items?_separated hclosing hopens hread hfuel rest
      have hskip := ((hopens a List.mem_cons_self).append
        (separated write closing as ++ rest)).skipSpace
      obtain ⟨c, tail, hwrite, hc⟩ := hopens a List.mem_cons_self
      have hne : c ≠ closing := by
        rintro rfl
        exact hc (by simp only [List.mem_cons] at hclosing ⊢; tauto)
      rw [joined, closed?, List.append_assoc, hskip]
      rw [hwrite] at hitems ⊢
      simpa only [List.cons_append, if_neg hne] using hitems

theorem closed?_one (hclosing : closing ∈ [']', '\x7d']) {cs : List Char} {b : β}
    (hopens : Opens cs)
    (hread : ∀ rest, Delimited rest → item (cs ++ rest) = some (b, rest)) (rest : List Char) :
    closed? item closing (cs ++ [closing] ++ rest) = some ([b], rest) := by
  have hjoined : closed? item closing (joined (fun _ : Unit => cs) closing [()] ++ rest) =
      some ([()].map fun _ => b, rest) :=
    closed?_joined hclosing (fun _ _ => hopens) (fun _ _ => hread) rest
  exact hjoined

theorem pair?_quoted {value : String → Step β} {key : String} {cs rest : List Char} {b : β}
    (hopens : Opens cs) (hread : value key cs = some (b, rest)) :
    pair? value (Value.quoted key ++ ':' :: cs) = some ((key, b), rest) := by
  have hcolon : literal? [':'] (skipSpace (':' :: cs)) = some cs := by
    rw [skipSpace_cons (by decide)]
    rfl
  rw [pair?, text?_quoted]
  simp only [Option.bind_eq_bind, Option.bind_some, hcolon, hopens.skipSpace, hread]
  rfl

end Items

end Stored

/-! ## Values -/

namespace Value

/-- Values that can be stored, lists and objects at most `depth` deep inside each other. -/
inductive Storable : ℕ → Value → Prop where
  | null {depth : ℕ} : Storable depth .null
  | bool {depth : ℕ} (flag : Bool) : Storable depth (.bool flag)
  | int {depth : ℕ} {n : ℤ} (h : Machine n) : Storable depth (.int n)
  | float {depth : ℕ} {x : Float} (h : x.isFinite = true) : Storable depth (.float x)
  | text {depth : ℕ} (s : String) : Storable depth (.text s)
  | list {depth : ℕ} {items : List Value} (h : ∀ item ∈ items, Storable depth item) :
      Storable (depth + 1) (.list items)
  | object {depth : ℕ} {entries : List (String × Value)} (hsorted : Entries.Sorted entries)
      (h : ∀ entry ∈ entries, Storable depth entry.2) : Storable (depth + 1) (.object entries)

theorem Storable.succ {depth : ℕ} {v : Value} (h : v.Storable depth) : v.Storable (depth + 1) := by
  induction h with
  | null => exact .null
  | bool flag => exact .bool flag
  | int h => exact .int h
  | float h => exact .float h
  | text s => exact .text s
  | list _ ih => exact .list ih
  | object hsorted _ ih => exact .object hsorted ih

theorem normalizeItems_eq_map (items : List Value) :
    normalizeItems items = items.map normalize := by
  induction items with
  | nil => rfl
  | cons item rest ih => rw [normalizeItems, ih, List.map_cons]

theorem normalizeEntries_eq_map (entries : List (String × Value)) :
    normalizeEntries entries = entries.map fun entry => (entry.1, entry.2.normalize) := by
  induction entries with
  | nil => rfl
  | cons entry rest ih => rw [normalizeEntries, ih, List.map_cons]

/-! ### Floats inside -/

mutual

/-- A value with the floats in it as they are read after they were written. -/
def reread : Value → Value
  | .float x => .float (Stored.reread x)
  | .list items => .list (rereadItems items)
  | .object entries => .object (rereadEntries entries)
  | other => other

def rereadItems : List Value → List Value
  | [] => []
  | item :: rest => item.reread :: rereadItems rest

def rereadEntries : List (String × Value) → List (String × Value)
  | [] => []
  | (key, value) :: rest => (key, value.reread) :: rereadEntries rest

end

mutual

/-- The floats in a value. -/
def floats : Value → List Float
  | .float x => [x]
  | .list items => floatsItems items
  | .object entries => floatsEntries entries
  | _ => []

def floatsItems : List Value → List Float
  | [] => []
  | item :: rest => item.floats ++ floatsItems rest

def floatsEntries : List (String × Value) → List Float
  | [] => []
  | (_, value) :: rest => value.floats ++ floatsEntries rest

end

theorem rereadItems_eq_map (items : List Value) : rereadItems items = items.map reread := by
  induction items with
  | nil => rfl
  | cons item rest ih => rw [rereadItems, ih, List.map_cons]

theorem rereadEntries_eq_map (entries : List (String × Value)) :
    rereadEntries entries = entries.map fun entry => (entry.1, entry.2.reread) := by
  induction entries with
  | nil => rfl
  | cons entry rest ih => rw [rereadEntries, ih, List.map_cons]

mutual

theorem reread_eq_self_iff (v : Value) :
    v.reread = v ↔ ∀ x ∈ v.floats, Stored.reread x = x := by
  cases v with
  | float x => simp [reread, floats]
  | list items => simpa [reread, floats] using rereadItems_eq_self_iff items
  | object entries => simpa [reread, floats] using rereadEntries_eq_self_iff entries
  | null | bool | int | text => simp [reread, floats]

theorem rereadItems_eq_self_iff (items : List Value) :
    rereadItems items = items ↔ ∀ x ∈ floatsItems items, Stored.reread x = x := by
  cases items with
  | nil => simp [rereadItems, floatsItems]
  | cons item rest =>
      rw [rereadItems, List.cons.injEq, reread_eq_self_iff item, rereadItems_eq_self_iff rest,
        floatsItems, List.forall_mem_append]

theorem rereadEntries_eq_self_iff (entries : List (String × Value)) :
    rereadEntries entries = entries ↔ ∀ x ∈ floatsEntries entries, Stored.reread x = x := by
  cases entries with
  | nil => simp [rereadEntries, floatsEntries]
  | cons entry rest =>
      obtain ⟨key, value⟩ := entry
      rw [rereadEntries, List.cons.injEq, Prod.mk.injEq, eq_self, true_and,
        reread_eq_self_iff value, rereadEntries_eq_self_iff rest, floatsEntries,
        List.forall_mem_append]

end

theorem Storable.reread {depth : ℕ} {v : Value} (h : v.Storable depth) :
    v.reread.Storable depth := by
  induction h with
  | null => exact .null
  | bool flag => exact .bool flag
  | int h => exact .int h
  | float h => exact .float (isFinite_reread h)
  | text s => exact .text s
  | list h ih =>
      rw [Value.reread, rereadItems_eq_map]
      exact .list (List.forall_mem_map.2 ih)
  | object hsorted h ih =>
      rw [Value.reread, rereadEntries_eq_map]
      exact .object (hsorted.map _ fun _ _ hlt => hlt) (List.forall_mem_map.2 ih)

/-! ### Texts -/

theorem Storable.normalize_eq {depth : ℕ} {v : Value} (h : v.Storable depth) :
    v.normalize = v := by
  induction h with
  | list h ih =>
      rw [normalize, normalizeItems_eq_map, List.map_congr_left ih, List.map_id']
  | @object depth entries hsorted h ih =>
      have hentries : (entries.map fun entry => (entry.1, entry.2.normalize)) = entries :=
        (List.map_congr_left fun entry hentry => by rw [ih entry hentry]).trans (List.map_id' _)
      rw [normalize, normalizeEntries_eq_map, hentries]
      exact congrArg (fun m : KeyMap Value => Value.object m.entries)
        (KeyMap.ofList_entries ⟨entries, hsorted⟩)
  | null | bool | int | float | text => rfl

theorem writtenItems_eq (items : List Value) :
    writtenItems items = separated written ']' items := by
  induction items with
  | nil => rfl
  | cons item rest ih => rw [writtenItems, ih, separated]

/-- The text of an entry. -/
def writtenEntry (entry : String × Value) : List Char :=
  quoted entry.1 ++ ':' :: entry.2.written

theorem writtenEntries_eq (entries : List (String × Value)) :
    writtenEntries entries = separated writtenEntry '\x7d' entries := by
  induction entries with
  | nil => rfl
  | cons entry rest ih =>
      rw [writtenEntries, ih, separated, writtenEntry]
      simp only [List.cons_append, List.append_assoc]

theorem written_list (items : List Value) : (Value.list items).written =
    '[' :: joined written ']' items := by
  cases items with
  | nil => rfl
  | cons item rest => rw [written, writtenItems_eq, joined, List.cons_append]

theorem written_object (entries : List (String × Value)) : (Value.object entries).written =
    '\x7b' :: joined writtenEntry '\x7d' entries := by
  cases entries with
  | nil => rfl
  | cons entry rest =>
      rw [written, writtenEntries_eq, joined, writtenEntry]
      simp only [List.cons_append, List.append_assoc]

theorem opens_quoted (s : String) : Opens (quoted s) :=
  ⟨'"', _, rfl, by decide⟩

theorem notMem_of_head {c : Char} (hc : c = '-' ∨ c.isDigit = true) {others : List Char}
    (hothers : others.any (fun d => d == '-' || d.isDigit) = false) : c ∉ others := by
  intro hmem
  have hhead : (c == '-' || c.isDigit) = true := by simpa using hc
  exact List.any_eq_false.1 hothers c hmem hhead

theorem opens_numberOf {cs : List Char} {v : Value} (h : NumberOf cs v) : Opens cs := by
  obtain ⟨c, rest, rfl, hc⟩ := h.head
  exact ⟨c, rest, rfl, notMem_of_head hc rfl⟩

theorem Storable.opens {depth : ℕ} {v : Value} (h : v.Storable depth) : Opens v.written := by
  cases h with
  | null => exact ⟨'n', _, rfl, by decide⟩
  | bool flag =>
      cases flag
      · exact ⟨'f', _, rfl, by decide⟩
      · exact ⟨'t', _, rfl, by decide⟩
  | int h => exact opens_numberOf (numberOf_toString h)
  | float h => exact opens_numberOf (numberOf_storedText h)
  | text s => exact opens_quoted s
  | list h => exact written_list _ ▸ ⟨'[', _, rfl, by decide⟩
  | object hsorted h => exact written_object _ ▸ ⟨'\x7b', _, rfl, by decide⟩

theorem value?_numberOf {cs : List Char} {v : Value} (h : NumberOf cs v) (depth : ℕ)
    {rest : List Char} (hrest : Delimited rest) : value? depth (cs ++ rest) = some (v, rest) := by
  have hread := h.read hrest
  obtain ⟨c, tail, rfl, hc⟩ := h.head
  have hne : c ∉ ['n', 't', 'f', '"', '[', '\x7b'] := notMem_of_head hc rfl
  rw [value?.eq_def]
  dsimp only
  split
  case h_7 => exact hread
  all_goals
    next heq => exact (hne (by rw [List.head_eq_of_cons_eq heq]; decide)).elim

/-- A value that can be stored is read back from its text, with the floats in it as they are read. -/
theorem Storable.value?_written {depth : ℕ} {v : Value} (h : v.Storable depth) {rest : List Char}
    (hrest : Delimited rest) : value? depth (v.written ++ rest) = some (v.reread, rest) := by
  induction h generalizing rest with
  | @null depth => cases depth <;> rfl
  | @bool depth flag => cases depth <;> cases flag <;> rfl
  | int h => exact value?_numberOf (numberOf_toString h) _ hrest
  | float h => exact value?_numberOf (numberOf_storedText h) _ hrest
  | @text depth s =>
      have hread := text?_quoted s rest
      rw [quoted, List.cons_append, List.cons_append] at hread
      rw [written, quoted, List.cons_append, List.cons_append, value?, hread, Option.map_some]
      rfl
  | @list depth items h ih =>
      have hitems : closed? (value? depth) ']' (joined written ']' items ++ rest) =
          some (items.map Value.reread, rest) :=
        closed?_joined (by decide) (fun item hitem => (h item hitem).opens)
          (fun item hitem _ => ih item hitem) rest
      rw [written_list, List.cons_append, value?, hitems, Option.map_some, Value.reread,
        rereadItems_eq_map]
  | @object depth entries hsorted h ih =>
      have hentries : closed? (pair? fun _ => value? depth) '\x7d'
          (joined writtenEntry '\x7d' entries ++ rest) =
            some (entries.map fun entry => (entry.1, entry.2.reread), rest) := by
        refine closed?_joined (by decide) (fun entry _ => (opens_quoted entry.1).append _) ?_ rest
        intro entry hentry rest hrest
        rw [writtenEntry, List.append_assoc, List.cons_append]
        exact pair?_quoted ((h entry hentry).opens.append rest) (ih entry hentry hrest)
      rw [written_object, List.cons_append, value?, hentries, Option.map_some, Value.reread,
        rereadEntries_eq_map]

end Value

end RecordApps
