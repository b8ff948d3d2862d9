import RecordApps.Proofs.Notification.Template
import RecordApps.Proofs.Schema.Validity

/-! # What stands before a placeholder

A placeholder behind a text is filled in unless the text leaves an opening pending: one that is
not closed yet, or the first half of one. The closing of the placeholder then closes the pending
opening, and the key of what they make has a brace in it.
-/

namespace RecordApps.Template

open Split

/-! ## Field codes -/

theorem isWordChar_of_checkFieldCode {code : String} (h : checkFieldCode code = .ok ()) :
    ∀ c ∈ code.toList, Text.isWordChar c = true := by
  simp only [checkFieldCode, Outcome.check_bind_eq_ok, ensure_eq_ok] at h
  obtain ⟨hidentifier, -⟩ := h
  split at hidentifier
  case h_1 => cases hidentifier
  case h_2 head rest heq =>
    rw [heq]
    obtain ⟨hhead, hrest⟩ := Bool.and_eq_true_iff.1 hidentifier
    exact List.forall_mem_cons.2
      ⟨Text.isWordChar_iff.2 (.inl hhead), List.all_eq_true.1 hrest⟩

/-- A key that templates can name: the code of a field, or a key of the metadata. -/
def NamesKey (code : String) : Prop :=
  checkFieldCode code = .ok () ∨ code ∈ Key.reserved

/-- A key between double braces. -/
def placeholderFor (code : String) : String :=
  String.ofList (opening ++ (code.toList ++ closing))

section Codes

variable {code : String}

theorem NamesKey.isWordChar (h : NamesKey code) : ∀ c ∈ code.toList, Text.isWordChar c = true := by
  rcases h with hcode | hreserved
  · exact isWordChar_of_checkFieldCode hcode
  · have hall : (Key.reserved.all fun key => key.toList.all Text.isWordChar) = true := rfl
    exact List.all_eq_true.1 (List.all_eq_true.1 hall code hreserved)

theorem NamesKey.trimChars (h : NamesKey code) : Text.trimChars code.toList = code.toList := by
  refine Text.trimChars_eq_self fun c hc => ?_
  have := Text.toNat_of_isWordChar (h.isWordChar c hc)
  exact Text.not_isSpace (by omega) (by omega)

/-- No character beyond the small letters is part of such a key, so no brace is. -/
theorem NamesKey.notMem {c : Char} (h : NamesKey code) (hc : 122 < c.toNat) :
    c ∉ code.toList := by
  intro hmem
  have := Text.toNat_of_isWordChar (h.isWordChar c hmem)
  omega

end Codes

/-! ## Pending openings -/

/-- A text has an opening behind its last placeholder, or ends in the first half of one. -/
def Pending (cs : List Char) : Prop :=
  HasPair '\x7b' ((ofTemplate cs).tail ++ ['\x7b'])

instance (cs : List Char) : Decidable (Pending cs) :=
  inferInstanceAs (Decidable (HasPair '\x7b' ((ofTemplate cs).tail ++ ['\x7b'])))

variable {cs more text : List Char} {split split' : Split}

namespace Reads

/-- What follows a text is read together with what is behind the last placeholder of the text. -/
theorem append (h : Reads cs split) (hmore : Reads (split.tail ++ more) split') :
    Reads (cs ++ more) ⟨split.placeholders ++ split'.placeholders, split'.tail⟩ := by
  induction h with
  | tail => exact hmore
  | placeholder hbefore htoken _ ih =>
      have hread := placeholder hbefore htoken (ih hmore)
      simpa only [List.append_assoc, List.cons_append] using hread

theorem plain_tail (h : Reads cs split) : Plain split.tail := by
  induction h with
  | tail hplain => exact hplain
  | placeholder _ _ _ ih => exact ih

end Reads

theorem not_hasPair_behind {inner token : List Char} (hinner : ¬HasPair '\x7d' inner)
    (htoken : '\x7d' ∉ token) :
    ¬HasPair '\x7d' (inner ++ '\x7b' :: (token ++ ['\x7d'])) :=
  fun hpair => (hpair.split (by decide)).elim hinner (not_hasPair_concat htoken)

/-- Text that ends in half an opening, or has an opening that is not closed, has the braces of a
    further opening inside the pending one, which the next closing closes. -/
theorem Plain.pending (h : Plain text) (hpending : HasPair '\x7b' (text ++ ['\x7b'])) :
    ∃ before inner, text ++ opening = before ++ (opening ++ inner) ∧
      ¬HasPair '\x7b' (before ++ ['\x7b']) ∧ '\x7b' ∈ inner ∧
      ∀ token, '\x7d' ∉ token → ¬HasPair '\x7d' (inner ++ (token ++ ['\x7d'])) := by
  cases h with
  | unopened hnone =>
      rcases List.infix_concat_iff.1 hpending with ⟨before, hbefore⟩ | hinside
      case inr => exact absurd hinside hnone
      case inl =>
        have hhalf : before ++ ['\x7b'] = text := by
          rw [← List.append_left_inj ['\x7b'], ← hbefore, List.append_assoc, List.singleton_append]
        subst hhalf
        refine ⟨before, ['\x7b'], by simp [opening], hnone, List.mem_singleton_self _, ?_⟩
        intro token htoken
        have hnone : ¬HasPair '\x7d' [] := by decide
        have hclosed := not_hasPair_behind hnone htoken
        exact hclosed
  | @unclosed before inner hbefore hinner =>
      refine ⟨before, inner ++ opening, by simp, hbefore, by simp [opening], ?_⟩
      intro token htoken
      have hbraced : '\x7d' ∉ '\x7b' :: token := by simpa using htoken
      rw [List.append_assoc]
      exact not_hasPair_behind hinner hbraced

theorem raw_shift {before inner : List Char} (hshift : text ++ opening = before ++ (opening ++ inner))
    (token : List Char) :
    before ++ Placeholder.raw ⟨before, inner ++ token⟩ = text ++ Placeholder.raw ⟨text, token⟩ := by
  calc before ++ (opening ++ ((inner ++ token) ++ closing))
      = (before ++ (opening ++ inner)) ++ (token ++ closing) := by
        simp only [List.append_assoc]
    _ = text ++ (opening ++ (token ++ closing)) := by
        rw [← hshift, List.append_assoc]

namespace Reads

variable {before token : List Char}

theorem single (hbefore : ¬HasPair '\x7b' (before ++ ['\x7b']))
    (htoken : ¬HasPair '\x7d' (token ++ ['\x7d'])) :
    Reads (before ++ (opening ++ (token ++ closing))) ⟨[⟨before, token⟩], []⟩ := by
  have hend : Reads [] ⟨[], []⟩ := .tail (.unopened (by decide))
  have hread := placeholder hbefore htoken hend
  rwa [List.append_nil] at hread

theorem concat (h : Reads cs split) (hpending : ¬HasPair '\x7b' (split.tail ++ ['\x7b']))
    (htoken : '\x7d' ∉ token) :
    Reads (cs ++ (opening ++ (token ++ closing)))
      ⟨split.placeholders ++ [⟨split.tail, token⟩], []⟩ := by
  refine h.append (.single hpending (not_hasPair_concat htoken))

/-- A placeholder behind a pending opening only closes that, so an opening is inside what they
    make. -/
theorem concat_pending (h : Reads cs split) (hpending : HasPair '\x7b' (split.tail ++ ['\x7b']))
    (htoken : '\x7d' ∉ token) :
    ∃ before inner, split.tail ++ opening = before ++ (opening ++ inner) ∧ '\x7b' ∈ inner ∧
      Reads (cs ++ (opening ++ (token ++ closing)))
        ⟨split.placeholders ++ [⟨before, inner ++ token⟩], []⟩ := by
  obtain ⟨before, inner, hshift, hbefore, hinner, hclosed⟩ := h.plain_tail.pending hpending
  have hfirst : ¬HasPair '\x7d' ((inner ++ token) ++ ['\x7d']) := by
    rw [List.append_assoc]
    exact hclosed token htoken
  have hlast := single hbefore hfirst
  have hsame := raw_shift hshift token
  rw [Placeholder.raw, Placeholder.raw] at hsame
  rw [hsame] at hlast
  exact ⟨before, inner, hshift, hinner, h.append hlast⟩

end Reads

/-! ## Rendering -/

variable {schema : AppSchema} {record : Record} {lead code : String}

theorem filled_concat (ps : List Placeholder) (p : Placeholder) :
    (Split.mk (ps ++ [p]) []).filled record lead =
      (Split.mk ps p.before).filled record lead ++ p.filled record lead := by
  simp [filled]

theorem filled_shift (ps : List Placeholder) {before inner : List Char}
    (hshift : text ++ opening = before ++ (opening ++ inner)) (token : List Char) :
    (Split.mk ps before).filled record lead ++
        Placeholder.raw ⟨before, inner ++ token⟩ =
      (Split.mk ps text).filled record lead ++ Placeholder.raw ⟨text, token⟩ := by
  rw [filled, filled, List.append_assoc, raw_shift hshift, ← List.append_assoc]

theorem Placeholder.filled_of_held {before : List Char} (hcode : NamesKey code)
    (hheld : record.placeholder? lead code = some text) :
    Placeholder.filled record lead ⟨before, code.toList⟩ = text := by
  rw [← substitute_eq, Record.substitute, hcode.trimChars, String.ofList_toList, hheld]
  rfl

theorem Placeholder.filled_of_brace {p : Placeholder} (hbrace : '\x7b' ∈ p.token)
    (hkeys : ∀ key ∈ record.data.keys, '\x7b' ∉ key.toList) :
    p.filled record lead = p.raw := by
  have hkey : '\x7b' ∈ p.key.toList := by
    rw [key, String.toList_ofList]
    exact Text.mem_trimChars hbrace (by decide)
  refine filled_eq_raw (fun hnumber => ?_) (Option.eq_none_iff_forall_ne_some.2 fun v hv => ?_)
  · rw [hnumber] at hkey
    exact absurd hkey (by decide)
  · exact hkeys p.key (KeyMap.mem_keys_iff.2 ⟨v, hv⟩) hkey

/-- A placeholder is filled in behind every text that leaves no opening pending, and what the text
    itself is rendered as stays the same. Behind a pending opening it is left as it is written,
    unless there is a key with a brace in it. -/
theorem substituted_unless_pending (hcode : NamesKey code)
    (hheld : (schema.project record).placeholder? lead code = some text) (before : String) :
    (¬Pending before.toList →
      (schema.project record).render lead (before ++ placeholderFor code) =
        (schema.project record).render lead before ++ String.ofList text) ∧
      (Pending before.toList →
        (∀ key ∈ (schema.project record).data.keys, '\x7b' ∉ key.toList) →
        (schema.project record).render lead (before ++ placeholderFor code) =
          (schema.project record).render lead before ++ placeholderFor code) := by
  have hreads := reads_ofTemplate before.toList
  have htoken : '\x7d' ∉ code.toList := hcode.notMem (by decide)
  have hwhole : before ++ placeholderFor code =
      String.ofList (before.toList ++ (opening ++ (code.toList ++ closing))) := by
    calc before ++ placeholderFor code
        = String.ofList before.toList ++ placeholderFor code := by rw [String.ofList_toList]
      _ = _ := String.ofList_append.symm
  have hbefore := hreads.render_eq (schema.project record) lead
  rw [String.ofList_toList] at hbefore
  rw [hwhole, hbefore, placeholderFor, ← String.ofList_append, ← String.ofList_append]
  constructor
  · intro hpending
    rw [(hreads.concat hpending htoken).render_eq, filled_concat,
      Placeholder.filled_of_held hcode hheld]
  · intro hpending hkeys
    obtain ⟨rest, inner, hshift, hinner, hread⟩ := hreads.concat_pending hpending htoken
    rw [hread.render_eq, filled_concat,
      Placeholder.filled_of_brace (List.mem_append_left _ hinner) hkeys]
    exact congrArg String.ofList (filled_shift _ hshift code.toList)

/-- The item of the order is filled in behind a status, but not behind an opening. -/
theorem substituted_unless_pending_order :
    NamesKey "item" ∧
      (Orders.schema.project (Orders.order "")).placeholder? "#" "item" = some "tea".toList ∧
      (∀ key ∈ (Orders.schema.project (Orders.order "")).data.keys, '\x7b' ∉ key.toList) ∧
      ¬Pending "\x7b\x7bstatus\x7d\x7d: ".toList ∧
      (Orders.schema.project (Orders.order "")).render "#"
          ("\x7b\x7bstatus\x7d\x7d: " ++ placeholderFor "item") =
        (Orders.schema.project (Orders.order "")).render "#" "\x7b\x7bstatus\x7d\x7d: " ++
          String.ofList "tea".toList ∧
      Pending "\x7b\x7bopen ".toList ∧
      (Orders.schema.project (Orders.order "")).render "#"
          ("\x7b\x7bopen " ++ placeholderFor "item") =
        (Orders.schema.project (Orders.order "")).render "#" "\x7b\x7bopen " ++
          placeholderFor "item" := by
  have hcode : NamesKey "item" := .inl rfl
  have hheld : (Orders.schema.project (Orders.order "")).placeholder? "#" "item" =
      some "tea".toList := by decide
  have hkeys : ∀ key ∈ (Orders.schema.project (Orders.order "")).data.keys,
      '\x7b' ∉ key.toList := by decide
  have hclosed : ¬Pending "\x7b\x7bstatus\x7d\x7d: ".toList := by decide +kernel
  have hopen : Pending "\x7b\x7bopen ".toList := by decide +kernel
  refine ⟨hcode, hheld, hkeys, hclosed, ?_, hopen, ?_⟩
  · exact (substituted_unless_pending hcode hheld _).1 hclosed
  · exact (substituted_unless_pending hcode hheld _).2 hopen hkeys

/-- The item of the order is not filled in behind an opening that nothing else closes. -/
theorem pending_opening_swallows_item :
    NamesKey "item" ∧
      (Orders.schema.project (Orders.order "")).placeholder? "#" "item" = some "tea".toList ∧
      (Orders.schema.project (Orders.order "")).render "#"
          ("\x7b\x7bopen " ++ placeholderFor "item") =
        "\x7b\x7bopen \x7b\x7bitem\x7d\x7d" ∧
      (Orders.schema.project (Orders.order "")).render "#"
          ("\x7b\x7bopen " ++ placeholderFor "item") ≠
        (Orders.schema.project (Orders.order "")).render "#" "\x7b\x7bopen " ++
          String.ofList "tea".toList :=
  ⟨.inl rfl, by decide, by decide +kernel, by decide +kernel⟩

end RecordApps.Template
