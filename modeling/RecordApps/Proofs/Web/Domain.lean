import RecordApps.Proofs.Outcome
import RecordApps.Proofs.Web.Punycode
import RecordApps.Web.Host

/-! # Domain names are stable

The characters that replace those of a host replace themselves. So the name that a host spells is a
host in its own right, which spells the same name and is an address of four bytes if the first one
is. Labels in Punycode that stand for the same characters are the same.
-/

namespace RecordApps.Web

namespace Domain

/-! ## Replacements -/

/-- The ASCII characters that stand for themselves. -/
def plain : List (Nat × Nat) :=
  [(0x21, 0x22), (0x24, 0x24), (0x26, 0x2E), (0x30, 0x39), (0x3B, 0x3B), (0x3D, 0x3D),
   (0x5F, 0x7B), (0x7D, 0x7E)]

theorem replacement?_plain {c : Char} (h : Text.inRanges plain c = true) :
    replacement? c = some [c] := by
  have hascii : c.toNat < 0x80 := by
    have hlow : ∀ range ∈ plain, range.2 < 0x80 := by decide
    obtain ⟨range, hrange, hinside⟩ := List.any_eq_true.1 h
    rw [Bool.and_eq_true, decide_eq_true_eq, decide_eq_true_eq] at hinside
    exact hinside.2.trans_lt (hlow range hrange)
  have hall : ∀ code < 0x80, Text.inRanges plain (Char.ofNat code) = true →
      isForbiddenAscii (Char.ofNat code) = false ∧
        (Char.ofNat code).toLower = Char.ofNat code := by decide +kernel
  have hc := hall c.toNat hascii
  rw [Char.ofNat_toNat] at hc
  obtain ⟨hallowed, hlower⟩ := hc h
  rw [replacement?, if_pos hascii, hallowed, hlower]
  rfl

theorem toLower_plain {c : Char} (hascii : c.toNat < 0x80) (hallowed : isForbiddenAscii c = false) :
    Text.inRanges plain c.toLower = true := by
  have hall : ∀ code < 0x80, isForbiddenAscii (Char.ofNat code) = false →
      Text.inRanges plain (Char.ofNat code).toLower = true := by decide +kernel
  have hc := hall c.toNat hascii
  rw [Char.ofNat_toNat] at hc
  exact hc hallowed

theorem asciiRuns_plain {run : Nat × Nat × Nat} (hrun : run ∈ asciiRuns) {place : Nat}
    (hplace : place < run.2.1) : Text.inRanges plain (Char.ofNat (run.2.2 + place)) = true := by
  have hall : ∀ run ∈ asciiRuns, ∃ range ∈ plain,
      range.1 ≤ run.2.2 ∧ run.2.2 + run.2.1 ≤ range.2 + 1 ∧ range.2 < 0x80 := by decide +kernel
  obtain ⟨range, hrange, hlow, hhigh, hascii⟩ := hall run hrun
  have hcode : (Char.ofNat (run.2.2 + place)).toNat = run.2.2 + place := by
    rw [Char.ofNat, dif_pos (.inl (by omega))]
    rfl
  refine List.any_eq_true.2 ⟨range, hrange, ?_⟩
  rw [hcode, Bool.and_eq_true, decide_eq_true_eq, decide_eq_true_eq]
  omega

theorem circledRuns_plain {run : Nat × Nat × Nat} (hrun : run ∈ circledRuns) {place : Nat}
    (hplace : place < run.2.1) {c : Char} (hc : c ∈ (toString (run.2.2 + place)).toList) :
    Text.inRanges plain c = true := by
  have hall : (circledRuns.all fun run => (List.range run.2.1).all fun place =>
      (toString (run.2.2 + place)).toList.all (Text.inRanges plain)) = true := by decide +kernel
  have hrow := List.all_eq_true.1 hall run hrun
  exact List.all_eq_true.1 (List.all_eq_true.1 hrow place (List.mem_range.2 hplace)) c hc

theorem asciiTexts_plain {entry : Nat × String} (hentry : entry ∈ asciiTexts) {c : Char}
    (hc : c ∈ entry.2.toList) : Text.inRanges plain c = true := by
  have hall : (asciiTexts.all fun entry => entry.2.toList.all (Text.inRanges plain)) = true := by
    decide +kernel
  exact List.all_eq_true.1 (List.all_eq_true.1 hall entry hentry) c hc

theorem runOf?_eq_some {runs : List (Nat × Nat × Nat)} {code place image : Nat}
    (h : runOf? runs code = some (place, image)) :
    ∃ run ∈ runs, place < run.2.1 ∧ run.2.2 = image := by
  rw [runOf?, Option.map_eq_some_iff] at h
  obtain ⟨⟨first, count, image'⟩, hfound, hrun⟩ := h
  obtain ⟨rfl, rfl⟩ := Prod.mk.inj hrun
  have hinside := List.find?_some hfound
  simp only [Bool.and_eq_true, decide_eq_true_eq] at hinside
  exact ⟨_, List.mem_of_find?_eq_some hfound, by dsimp only; omega, rfl⟩

/-- What replaces a character is replaced by itself. -/
theorem replacement?_idempotent {c d : Char} {cs : List Char} (h : replacement? c = some cs)
    (hd : d ∈ cs) : replacement? d = some [d] := by
  have hsame := h
  rw [replacement?] at h
  split_ifs at h with hascii hforbidden hforbidden' hdropped
  · obtain rfl := Option.some.inj h
    obtain rfl := List.mem_singleton.1 hd
    exact replacement?_plain (toLower_plain hascii (by simpa using hforbidden))
  · obtain rfl := Option.some.inj h
    cases hd
  · split at h
    case h_1 hfound =>
      obtain rfl := Option.some.inj h
      obtain rfl := List.mem_singleton.1 hd
      obtain ⟨run, hrun, hplace, rfl⟩ := runOf?_eq_some hfound
      exact replacement?_plain (asciiRuns_plain hrun hplace)
    case h_2 hfound =>
      obtain rfl := Option.some.inj h
      obtain ⟨run, hrun, hplace, rfl⟩ := runOf?_eq_some hfound
      exact replacement?_plain (circledRuns_plain hrun hplace hd)
    case h_3 text _ _ htext =>
      obtain rfl := Option.some.inj h
      obtain ⟨front, back, hentries, -⟩ := List.lookup_eq_some_iff.1 htext
      have hentry : (c.toNat, text) ∈ asciiTexts := by
        rw [hentries]
        exact List.mem_append_right _ List.mem_cons_self
      exact replacement?_plain (asciiTexts_plain hentry hd)
    case h_4 =>
      obtain rfl := Option.some.inj h
      obtain rfl := List.mem_singleton.1 hd
      exact hsame

/-! ## Escapes -/

/-- The byte of a percent sign stands for nothing else. -/
theorem eq_percent {c : Char} (h : 37 ∈ String.utf8EncodeChar c) : c = '%' := by
  have hcode : c.val.toNat = 37 := by
    simp only [String.utf8EncodeChar] at h
    split_ifs at h <;>
      simp only [List.mem_cons, List.not_mem_nil, or_false, ← UInt8.toNat_inj,
        UInt8.toNat_ofNat', UInt8.reduceToNat] at h <;>
      omega
  exact Char.toNat_inj.1 hcode

theorem resolveEscapes_eq_self {bytes : List UInt8} (h : 37 ∉ bytes) :
    resolveEscapes bytes = bytes := by
  induction bytes with
  | nil => rfl
  | cons byte rest ih =>
      rw [List.mem_cons, not_or] at h
      rw [resolveEscapes, ih h.2]
      rintro _ _ _ rfl
      exact absurd rfl h.1

theorem unescape?_eq_self {host : List Char} (h : '%' ∉ host) : unescape? host = some host := by
  have hbytes : 37 ∉ host.flatMap String.utf8EncodeChar := by
    intro hmem
    obtain ⟨c, hc, hbyte⟩ := List.mem_flatMap.1 hmem
    exact h (eq_percent hbyte ▸ hc)
  have hvalid : host.utf8Encode.IsValidUTF8 := (String.ofList host).isValidUTF8
  simp only [unescape?]
  rw [resolveEscapes_eq_self hbytes]
  change (String.fromUTF8? host.utf8Encode).map String.toList = some host
  rw [String.fromUTF8?, dif_pos hvalid]
  exact congrArg some String.toList_ofList

/-! ## Names -/

variable {host name : List Char}

theorem mem_mapped? (h : mapped? host = some name) {c : Char} (hc : c ∈ name) :
    replacement? c = some [c] := by
  simp only [mapped?, Option.bind_eq_bind, Option.bind_eq_some_iff, Option.pure_def] at h
  obtain ⟨characters, -, replacements, hreplaced, hname⟩ := h
  obtain rfl := Option.some.inj hname
  obtain ⟨replacement, hmem, hc⟩ := List.mem_flatten.1 hc
  have hsome : some replacement ∈ characters.map replacement? :=
    mapM_eq_some.1 hreplaced ▸ List.mem_map_of_mem hmem
  obtain ⟨_, -, hfrom⟩ := List.mem_map.1 hsome
  exact replacement?_idempotent hfrom hc

theorem mapped?_idempotent (h : mapped? host = some name) : mapped? name = some name := by
  have hpercent : '%' ∉ name := fun hmem => absurd (mem_mapped? h hmem) (by decide)
  have hmapped : name.mapM replacement? = some (name.map fun c => [c]) := by
    rw [mapM_eq_some, List.map_map]
    exact List.map_congr_left fun c hc => mem_mapped? h hc
  rw [mapped?, unescape?_eq_self hpercent, Option.bind_eq_bind, Option.bind_some, hmapped,
    Option.bind_eq_bind, Option.bind_some, ← List.flatMap_def, List.flatMap_singleton']
  rfl

theorem ofHost?_eq_some :
    ofHost? host = some name ↔ mapped? host = some name ∧ isName name = true := by
  rw [ofHost?, Option.bind_eq_bind, Option.bind_eq_some_iff]
  constructor
  · rintro ⟨mapped, hmapped, hname⟩
    split_ifs at hname with hlabels
    obtain rfl := Option.some.inj hname
    exact ⟨hmapped, hlabels⟩
  · rintro ⟨hmapped, hlabels⟩
    exact ⟨name, hmapped, if_pos hlabels⟩

/-- The name that a host spells, it spells itself. -/
theorem ofHost?_idempotent (h : ofHost? host = some name) : ofHost? name = some name := by
  rw [ofHost?_eq_some] at h ⊢
  exact ⟨mapped?_idempotent h.1, h.2⟩

/-- Two labels in Punycode that stand for the same characters are the same. -/
theorem spelled?_injective {spelling spelling' label : List Char}
    (h : spelled? ('x' :: 'n' :: '-' :: '-' :: spelling) = some label)
    (h' : spelled? ('x' :: 'n' :: '-' :: '-' :: spelling') = some label) :
    spelling = spelling' := by
  simp only [spelled?, Option.bind_eq_bind, Option.bind_eq_some_iff] at h h'
  obtain ⟨decoded, hdecoded, hlabel⟩ := h
  obtain ⟨decoded', hdecoded', hlabel'⟩ := h'
  split_ifs at hlabel hlabel'
  obtain rfl := (Option.some.inj hlabel).trans (Option.some.inj hlabel').symm
  exact Punycode.decode?_injective hdecoded hdecoded'

end Domain

/-! ## Hosts -/

variable {host name : List Char}

theorem isHost_eq (hbracket : host.head? ≠ some '[') :
    isHost host = match Domain.ofHost? host with
      | none => false
      | some name => !name.isEmpty && (!endsInNumber name || isFourByteAddress name) := by
  have hname (rest : List Char) : host ≠ '[' :: rest := by
    rintro rfl
    exact hbracket rfl
  exact isHost.eq_2 host hname

/-- The name that a host spells is a host exactly if that is one. -/
theorem isHost_name (hbracket : host.head? ≠ some '[') (h : Domain.ofHost? host = some name) :
    isHost name = isHost host := by
  have hname : name.head? ≠ some '[' := by
    intro hhead
    have hself := Domain.mem_mapped? (Domain.ofHost?_eq_some.1 h).1 (List.mem_of_head? hhead)
    exact absurd hself (by decide)
  rw [isHost_eq hname, isHost_eq hbracket, Domain.ofHost?_idempotent h, h]

end RecordApps.Web
