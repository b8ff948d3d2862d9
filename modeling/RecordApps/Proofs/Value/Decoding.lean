import Mathlib
import RecordApps.AppId
import RecordApps.Field.Stored
import RecordApps.Proofs.KeyMap
import RecordApps.Proofs.Outcome

/-! # Reading what was written

A decoder is faithful to a stored form if whatever it reads is read again from its own stored
form. What a reader of several fields yields is read again from entries that hold the stored form
of every field.
-/

namespace RecordApps

variable {α β : Type}

namespace Decode

/-- Whatever is read from some value is read again from its stored form. -/
def Faithful (decoder : Decoder α) (encode : α → Value) : Prop :=
  ∀ v a, decoder v = some a → decoder (encode a) = some a

/-- Something is read from some source. -/
def Yields (reader : Reader α) (a : α) : Prop :=
  ∃ source source', reader source = some (a, source')

/-- Something is read from entries. -/
def Reads (entries : List (String × Value)) (reader : Reader α) (a : α) : Prop :=
  reader (.keyed entries) = some (a, .keyed entries)

/-! ## What readers yield -/

namespace Yields

theorem bind {reader : Reader α} {next : α → Reader β} {b : β} (h : Yields (reader >>= next) b) :
    ∃ a, Yields reader a ∧ Yields (next a) b := by
  obtain ⟨source, source', h⟩ := h
  obtain ⟨⟨a, mid⟩, hread, hnext⟩ := Option.bind_eq_some_iff.1 h
  exact ⟨a, ⟨source, mid, hread⟩, mid, source', hnext⟩

theorem pure {a b : α} (h : Yields (pure a) b) : a = b := by
  obtain ⟨source, source', h⟩ := h
  cases h
  rfl

theorem absentOr {key : String} {decoder : Decoder α} {absent : Option α} {a : α}
    (h : Yields (absentOr key decoder absent) a) : (∃ v, decoder v = some a) ∨ absent = some a := by
  obtain ⟨source, source', h⟩ := h
  have hmap : ∀ {x : Option α} {s : Source}, x.map (·, s) = some (a, source') → x = some a := by
    intro x s hx
    obtain ⟨_, rfl, heq⟩ := Option.map_eq_some_iff.1 hx
    exact congrArg some (Prod.mk.inj heq).1
  cases source with
  | keyed entries =>
      simp only [Decode.absentOr] at h
      split at h
      case h_1 v _ => exact .inl ⟨v, hmap h⟩
      case h_2 => exact .inr (hmap h)
  | listed items =>
      cases items with
      | nil => exact .inr (hmap h)
      | cons v rest => exact .inl ⟨v, hmap h⟩

theorem of_readAll {reader : Reader α} {source : Source} {a : α}
    (h : readAll reader source = some a) : Yields reader a := by
  rw [readAll] at h
  split at h
  case h_1 hread => cases h; exact ⟨source, _, hread⟩
  case h_2 hread => cases h; exact ⟨source, _, hread⟩
  case h_3 => cases h

theorem of_ofFields {reader : Reader α} {v : Value} {a : α} (h : ofFields reader v = some a) :
    Yields reader a := by
  simp only [ofFields] at h
  split at h
  case h_1 => exact of_readAll h
  case h_2 => exact of_readAll h
  case h_3 => cases h

theorem of_ofKeyedFields {reader : Reader α} {v : Value} {a : α}
    (h : ofKeyedFields reader v = some a) : Yields reader a := by
  simp only [ofKeyedFields] at h
  split at h
  case h_1 => exact of_readAll h
  case h_2 => cases h

end Yields

/-! ## Reading entries -/

namespace Reads

variable {entries : List (String × Value)}

theorem bind {reader : Reader α} {next : α → Reader β} {a : α} {b : β}
    (h : Reads entries reader a) (hnext : Reads entries (next a) b) :
    Reads entries (reader >>= next) b :=
  Option.bind_eq_some_iff.2 ⟨_, h, hnext⟩

theorem pure (a : α) : Reads entries (pure a) a := rfl

theorem readAll {reader : Reader α} {a : α} (h : Reads entries reader a) :
    readAll reader (.keyed entries) = some a := by
  rw [Decode.readAll, h]

theorem absentOr {key : String} {decoder : Decoder α} {absent : Option α} {v : Value} {a : α}
    (hlookup : entries.lookup key = some v) (h : decoder v = some a) :
    Reads entries (absentOr key decoder absent) a := by
  simp only [Reads, Decode.absentOr, hlookup, h, Option.map_some]

theorem absent {key : String} {decoder : Decoder α} {a : α}
    (hlookup : entries.lookup key = none) :
    Reads entries (Decode.absentOr key decoder (some a)) a := by
  simp only [Reads, Decode.absentOr, hlookup, Option.map_some]

variable {key : String} {decoder : Decoder α} {encode : α → Value}

theorem required {a : α} (h : Yields (required key decoder) a) (hfaithful : Faithful decoder encode)
    (hlookup : entries.lookup key = some (encode a)) : Reads entries (required key decoder) a := by
  obtain ⟨v, hv⟩ | habsent := h.absentOr
  · exact absentOr hlookup (hfaithful v a hv)
  · cases habsent

/-- A field with a fallback is read again, the fallback too, which is written out. -/
theorem orElse {a fallback : α} (h : Yields (orElse key decoder fallback) a)
    (hfaithful : Faithful decoder encode) (hfallback : decoder (encode fallback) = some fallback)
    (hlookup : entries.lookup key = some (encode a)) :
    Reads entries (orElse key decoder fallback) a := by
  obtain ⟨v, hv⟩ | habsent := h.absentOr
  · exact absentOr hlookup (hfaithful v a hv)
  · obtain rfl := Option.some.inj habsent
    exact absentOr hlookup hfallback

/-- A field that may be absent or null is read again, null standing for both. -/
theorem maybe {a : Option α} (h : Yields (maybe key decoder) a)
    (hfaithful : Faithful decoder encode) (hnull : ∀ a, encode a ≠ .null)
    (hlookup : entries.lookup key = some (Value.ofOption encode a)) :
    Reads entries (maybe key decoder) a := by
  cases a with
  | none => exact absentOr hlookup rfl
  | some a =>
      obtain ⟨v, hv⟩ | habsent := h.absentOr
      · have hread : decoder v = some a := by
          simp only [optional] at hv
          split at hv
          case h_1 => cases hv
          case h_2 => simpa using hv
        refine absentOr hlookup ?_
        rw [Value.ofOption, optional, hfaithful v a hread]
        · rfl
        · exact hnull a
      · cases habsent

theorem maybeAny {a : Option Value} (h : Yields (maybeAny key) a)
    (hlookup : entries.lookup key = some (a.getD .null)) : Reads entries (maybeAny key) a := by
  refine absentOr hlookup ?_
  cases a with
  | none => rfl
  | some v =>
      obtain ⟨v', hv⟩ | habsent := h.absentOr
      · simp only [notNull] at hv
        split at hv
        case h_1 => cases hv
        case h_2 hnull =>
          cases hv
          rw [Option.getD_some, notNull]
          exact hnull
      · cases habsent

end Reads

/-! ## Types -/

theorem mapM_map {γ : Type} {decode : γ → Option β} {encode : α → γ} {f : α → β} {as : List α}
    (h : ∀ a ∈ as, decode (encode a) = some (f a)) :
    (as.map encode).mapM decode = some (as.map f) := by
  induction as with
  | nil => rfl
  | cons a rest ih =>
      rw [List.map_cons, List.mapM_cons, h a List.mem_cons_self,
        ih fun b hb => h b (List.mem_cons_of_mem a hb)]
      rfl

theorem mapM_encode {γ : Type} {decode : γ → Option α} {encode : α → γ} {as : List α}
    (h : ∀ a ∈ as, decode (encode a) = some a) : (as.map encode).mapM decode = some as := by
  rw [mapM_map h, List.map_id']

theorem listOf_some (vs : List Value) : listOf some (.list vs) = some vs := by
  have hread : (vs.map id).mapM some = some vs := mapM_encode fun _ _ => rfl
  rwa [List.map_id] at hread

theorem exists_of_mapM {γ : Type} {decode : γ → Option α} {items : List γ} {as : List α}
    (h : items.mapM decode = some as) {a : α} (ha : a ∈ as) : ∃ v, decode v = some a := by
  have hmem : some a ∈ items.map decode := mapM_eq_some.1 h ▸ List.mem_map_of_mem ha
  obtain ⟨v, -, hv⟩ := List.mem_map.1 hmem
  exact ⟨v, hv⟩

theorem Yields.exists_of_listOf {key : String} {item : Decoder α} {as : List α}
    (h : Yields (orElse key (listOf item) []) as) {a : α} (ha : a ∈ as) : ∃ v, item v = some a := by
  obtain ⟨v, hv⟩ | habsent := h.absentOr
  · cases v with
    | list items => exact exists_of_mapM hv ha
    | null | bool | int | float | text | object => cases hv
  · cases habsent
    cases ha

/-! ## Forms -/

section Forms

variable {variants : Variants α} {tag : Value} {read : Source → Option α}

theorem mem_of_lookup {name : String} (h : List.lookup name variants = some read) :
    (name, read) ∈ variants := by
  obtain ⟨before, after, rfl, -⟩ := List.lookup_eq_some_iff.1 h
  exact List.mem_append_right _ List.mem_cons_self

theorem mem_of_byName (h : byName variants tag = some read) : ∃ name, (name, read) ∈ variants := by
  cases tag with
  | text name => exact ⟨name, mem_of_lookup h⟩
  | null | bool | int | float | list | object => cases h

theorem mem_of_byNameOrPlace (h : byNameOrPlace variants tag = some read) :
    ∃ name, (name, read) ∈ variants := by
  cases tag with
  | text name => exact ⟨name, mem_of_lookup h⟩
  | int place =>
      cases place with
      | ofNat place =>
          obtain ⟨variant, hvariant, rfl⟩ := Option.map_eq_some_iff.1 h
          exact ⟨variant.1, List.mem_of_getElem? hvariant⟩
      | negSucc => cases h
  | null | bool | float | list | object => cases h

theorem exists_of_tagged {key : String} {choose : Decoder (Source → Option α)} {v : Value} {a : α}
    (h : tagged key choose v = some a) :
    ∃ tag read source, choose tag = some read ∧ read source = some a := by
  cases v with
  | object entries =>
      obtain ⟨tag, -, h⟩ := Option.bind_eq_some_iff.1 h
      obtain ⟨read, hread, h⟩ := Option.bind_eq_some_iff.1 h
      exact ⟨tag, read, _, hread, h⟩
  | list items =>
      cases items with
      | nil => cases h
      | cons tag rest =>
          obtain ⟨read, hread, h⟩ := Option.bind_eq_some_iff.1 h
          exact ⟨tag, read, _, hread, h⟩
  | null | bool | int | float | text => cases h

end Forms

namespace Faithful

theorem text : Faithful Decode.text .text := fun _ _ _ => rfl

theorem flag : Faithful Decode.flag .bool := fun _ _ _ => rfl

theorem number : Faithful Decode.number .float := fun _ _ _ => rfl

theorem wholeWithin (low high : Int) : Faithful (Decode.wholeWithin low high) .int := by
  intro v n h
  cases v with
  | int m =>
      simp only [Decode.wholeWithin] at h ⊢
      split at h
      case isTrue hwithin =>
        cases h
        exact if_pos hwithin
      case isFalse => cases h
  | null | bool | float | text | list | object => cases h

theorem natBelow (limit : Nat) : Faithful (Decode.natBelow limit) .ofNat := by
  intro v n h
  simp only [Decode.natBelow] at h
  split at h
  case h_1 =>
    split at h
    case isTrue hbelow =>
      cases h
      exact if_pos hbelow
    case isFalse => cases h
  case h_2 => cases h

theorem fields : Faithful Decode.fields KeyMap.toValue :=
  fun _ data _ => congrArg some data.ofList_entries

theorem listOf {item : Decoder α} {encode : α → Value} (h : Faithful item encode) :
    Faithful (Decode.listOf item) fun as => .list (as.map encode) := by
  intro v as hread
  cases v with
  | list items =>
      refine mapM_encode fun a ha => ?_
      obtain ⟨v, hv⟩ := exists_of_mapM hread ha
      exact h v a hv
  | null | bool | int | float | text | object => cases hread

theorem items : Faithful (Decode.listOf some) .list := fun _ vs _ => listOf_some vs

theorem texts : Faithful Decode.texts Value.ofTexts := by
  intro v texts _
  have hentries : (texts.entries.map fun entry => (entry.1, Value.text entry.2)).mapM
      (fun entry => (Decode.text entry.2).map fun s => (entry.1, s)) = some texts.entries :=
    mapM_encode fun entry _ => rfl
  rw [Value.ofTexts, Decode.texts, hentries, Option.map_some, texts.ofList_entries]

theorem nameWith {payload : Value → Bool} {names : List (String × α)} {name : α → String}
    (hnames : ∀ a, names.lookup (name a) = some a) :
    Faithful (Decode.nameWith payload names) fun a => .text (name a) :=
  fun _ a _ => hnames a

theorem ofFields {reader : Reader α} {entries : α → List (String × Value)}
    (h : ∀ a, Yields reader a → Reads (entries a) reader a) :
    Faithful (Decode.ofFields reader) fun a => .object (entries a) :=
  fun _ a hread => (h a (.of_ofFields hread)).readAll

theorem ofKeyedFields {reader : Reader α} {entries : α → List (String × Value)}
    (h : ∀ a, Yields reader a → Reads (entries a) reader a) :
    Faithful (Decode.ofKeyedFields reader) fun a => .object (entries a) :=
  fun _ a hread => (h a (.of_ofKeyedFields hread)).readAll

end Faithful

end Decode

/-! ## Ids -/

theorem NonBlank.ofText?_text (s : NonBlank) : ofText? s.text = some s :=
  dif_pos s.notBlank

theorem NonBlank.text_of_ofText? {text : String} {s : NonBlank} (h : ofText? text = some s) :
    s.text = text := by
  rw [ofText?] at h
  split at h
  case isTrue => cases h; rfl
  case isFalse => cases h

theorem NonBlank.faithful : Decode.Faithful ofValue? toValue := fun _ s _ => s.ofText?_text

namespace AppId

theorem ungroup?_eq {a b c d e : List Char} (ha : a.length = 8) (hb : b.length = 4)
    (hc : c.length = 4) (hd : d.length = 4) :
    ungroup? (a ++ '-' :: b ++ '-' :: c ++ '-' :: d ++ '-' :: e) =
      some (a ++ b ++ c ++ d ++ e) := by
  generalize hcs : a ++ '-' :: b ++ '-' :: c ++ '-' :: d ++ '-' :: e = cs
  have h8 : cs.drop 8 = '-' :: (b ++ '-' :: c ++ '-' :: d ++ '-' :: e) := by
    rw [← hcs, ← ha]
    simp
  have h13 : cs.drop 13 = '-' :: (c ++ '-' :: d ++ '-' :: e) := by
    rw [← List.drop_drop (i := 5) (j := 8), h8]
    simp [hb]
  have h18 : cs.drop 18 = '-' :: (d ++ '-' :: e) := by
    rw [← List.drop_drop (i := 5) (j := 13), h13]
    simp [hc]
  have h23 : cs.drop 23 = '-' :: e := by
    rw [← List.drop_drop (i := 5) (j := 18), h18]
    simp [hd]
  have htake : cs.take 8 = a := by
    rw [← hcs, ← ha]
    simp
  rw [ungroup?, h8, h13, h18, h23, htake]
  simp [hb, hc, hd]

theorem ofDigits?_digits (id : AppId) : ofDigits? id.digits = some id := by
  have hlower : id.digits.map Char.toLower = id.digits := by
    refine (List.map_congr_left fun c hc => ?_).trans (List.map_id _)
    have hdigit := List.all_eq_true.1 id.valid.2 c hc
    refine Char.toLower_eq_of_not_isUpper fun hupper => ?_
    simp only [Char.isDigit, Char.isUpper, Bool.or_eq_true, Bool.and_eq_true,
      decide_eq_true_eq] at hdigit hupper
    rcases hdigit with ⟨-, hdigit⟩ | ⟨hletter, -⟩
    · exact absurd (Nat.le_trans hupper.1 hdigit) (by decide)
    · exact absurd (Nat.le_trans hletter hupper.2) (by decide)
  simp only [ofDigits?, hlower]
  rw [dif_pos id.valid]

theorem ofText?_text (id : AppId) : ofText? id.text = some id := by
  have hlength : id.digits.length = 32 := id.valid.1
  have htext : id.text.toList.length = 36 := by
    simp [text, hlength]
  have hgroups : ungroup? id.text.toList = some id.digits := by
    rw [text, String.toList_ofList, ungroup?_eq (by simp [hlength]) (by simp [hlength])
      (by simp [hlength]) (by simp [hlength])]
    simp only [List.drop_zero, ← List.take_add]
    rw [List.take_of_length_le (by simp [hlength])]
  simp [ofText?, htext, hgroups, ofDigits?_digits]

theorem faithful : Decode.Faithful ofValue? toValue := fun _ id _ => id.ofText?_text

end AppId

end RecordApps
