import Mathlib.Data.List.Infix
import RecordApps.Proofs.KeyMap
import RecordApps.Proofs.Service
import RecordApps.Proofs.Text.Words
import RecordApps.Notification.Template
import RecordApps.Schema.Basic

/-! # Templates are filled in once

Where the placeholders of a template are depends on the template alone. Rendering finds them one
behind the other, and what it puts in their places is not read again.
-/

namespace RecordApps.Template

/-! ## Pairs -/

/-- A character stands twice in a row somewhere in a text. -/
def HasPair (mark : Char) (cs : List Char) : Prop :=
  [mark, mark] <:+: cs

instance (mark : Char) (cs : List Char) : Decidable (HasPair mark cs) :=
  inferInstanceAs (Decidable ([mark, mark] <:+: cs))

section Pairs

variable {mark other c : Char} {cs before after xs ys : List Char}

theorem hasPair_cons : HasPair mark (c :: cs) ↔ [mark, mark] <+: c :: cs ∨ HasPair mark cs :=
  List.infix_cons_iff

theorem splitAtPair_pair : splitAtPair mark (mark :: mark :: cs) = some ([], cs) := by
  rw [splitAtPair, if_pos ⟨rfl, rfl⟩]

theorem splitAtPair_cons (h : ¬[mark, mark] <+: c :: cs) :
    splitAtPair mark (c :: cs) =
      (splitAtPair mark cs).map fun (before, after) => (c :: before, after) := by
  cases cs with
  | nil => rfl
  | cons next rest =>
      rw [splitAtPair, if_neg]
      rintro ⟨rfl, rfl⟩
      exact h ⟨rest, rfl⟩

theorem splitAtPair_eq_none_iff : splitAtPair mark cs = none ↔ ¬HasPair mark cs := by
  induction cs with
  | nil => simp [splitAtPair, HasPair]
  | cons head rest ih =>
      rw [hasPair_cons, not_or]
      by_cases hpair : [mark, mark] <+: head :: rest
      · obtain ⟨after, hafter⟩ := id hpair
        rw [← hafter, List.cons_append, List.cons_append, List.nil_append, splitAtPair_pair]
        simp
      · rw [splitAtPair_cons hpair, Option.map_eq_none_iff, ih, and_iff_right hpair]

/-- A text is split at the first place where the character stands twice: none is earlier, not even
    one that reaches into it. -/
theorem splitAtPair_eq_some_iff :
    splitAtPair mark cs = some (before, after) ↔
      cs = before ++ mark :: mark :: after ∧ ¬HasPair mark (before ++ [mark]) := by
  induction cs generalizing before with
  | nil => simp [splitAtPair]
  | cons head rest ih =>
      by_cases hpair : [mark, mark] <+: head :: rest
      case pos =>
        obtain ⟨found, hfound⟩ := id hpair
        rw [← hfound, List.cons_append, List.cons_append, List.nil_append, splitAtPair_pair,
          Option.some.injEq, Prod.mk.injEq]
        constructor
        · rintro ⟨rfl, rfl⟩
          exact ⟨rfl, fun h => by simpa using h.length_le⟩
        · rintro ⟨hsplit, hfirst⟩
          cases before with
          | nil => exact ⟨rfl, (List.cons.inj (List.cons.inj hsplit).2).2⟩
          | cons x xs =>
              -- The pair in front would reach into the text before the one that is found.
              refine absurd (List.prefix_of_prefix_length_le ⟨found, hsplit⟩ ?_ ?_).isInfix hfirst
              · exact ⟨mark :: after, by simp⟩
              · simp
      case neg =>
        rw [splitAtPair_cons hpair, Option.map_eq_some_iff]
        constructor
        · rintro ⟨⟨xs, ys⟩, hsplit, heq⟩
          obtain ⟨rfl, rfl⟩ := Prod.mk.inj heq
          obtain ⟨rfl, hfirst⟩ := ih.1 hsplit
          refine ⟨rfl, fun h => (hasPair_cons.1 h).elim (fun hstart => hpair ?_) hfirst⟩
          exact hstart.trans ⟨mark :: ys, by simp⟩
        · rintro ⟨hsplit, hfirst⟩
          cases before with
          | nil => exact absurd ⟨after, hsplit.symm⟩ hpair
          | cons x xs =>
              obtain ⟨rfl, hrest⟩ := List.cons.inj hsplit
              refine ⟨(xs, after), ih.2 ⟨hrest, fun h => hfirst (hasPair_cons.2 (.inr h))⟩, rfl⟩

theorem HasPair.split (hother : other ≠ mark) (h : HasPair mark (xs ++ other :: ys)) :
    HasPair mark xs ∨ HasPair mark ys := by
  induction xs with
  | nil =>
      refine (hasPair_cons.1 h).imp (fun hstart => ?_) id
      exact absurd (List.cons_prefix_cons.1 hstart).1.symm hother
  | cons head rest ih =>
      rcases hasPair_cons.1 h with hstart | hrest
      · left
        obtain ⟨rfl, hnext⟩ := List.cons_prefix_cons.1 hstart
        cases rest with
        | nil => exact absurd (List.cons_prefix_cons.1 hnext).1.symm hother
        | cons next more =>
            obtain ⟨rfl, -⟩ := List.cons_prefix_cons.1 hnext
            exact ⟨[], more, rfl⟩
      · exact (ih hrest).imp_left fun hpair => hasPair_cons.2 (.inr hpair)

theorem not_hasPair_concat (h : mark ∉ cs) : ¬HasPair mark (cs ++ [mark]) := by
  intro hpair
  have hcount := hpair.sublist.count_le mark
  simp [List.count_eq_zero.2 h] at hcount

end Pairs

theorem splitAtPair_opening {before inner : List Char}
    (h : ¬HasPair '\x7b' (before ++ ['\x7b'])) :
    splitAtPair '\x7b' (before ++ (opening ++ inner)) = some (before, inner) :=
  splitAtPair_eq_some_iff.2 ⟨rfl, h⟩

theorem splitAtPair_closing {token rest : List Char}
    (h : ¬HasPair '\x7d' (token ++ ['\x7d'])) :
    splitAtPair '\x7d' (token ++ (closing ++ rest)) = some (token, rest) :=
  splitAtPair_eq_some_iff.2 ⟨rfl, h⟩

/-! ## Placeholders -/

/-- A placeholder, and the text between the one before it and its opening. -/
structure Placeholder where
  before : List Char
  token : List Char

namespace Placeholder

/-- The placeholder as it is written. -/
def raw (p : Placeholder) : List Char :=
  opening ++ (p.token ++ closing)

/-- The key of a placeholder, without the white space around it. -/
def key (p : Placeholder) : String :=
  String.ofList (Text.trimChars p.token)

/-- What a record and a lead for its number put in the place of a placeholder. -/
def filled (record : Record) (lead : String) (p : Placeholder) : List Char :=
  if p.key = Key.recordNumber then lead.toList ++ (toString record.number).toList
  else
    match record.data.get? p.key with
    | some value => value.shown
    | none => p.raw

end Placeholder

/-- A template, split at its placeholders. -/
structure Split where
  placeholders : List Placeholder
  /-- The text behind the last placeholder. -/
  tail : List Char

/-- Text that holds no placeholder: it has no opening, or no closing behind the first one. -/
inductive Plain : List Char → Prop where
  /-- Text without an opening. -/
  | unopened {text : List Char} : ¬HasPair '\x7b' text → Plain text
  /-- Text whose first opening is never closed. -/
  | unclosed {before inner : List Char} : ¬HasPair '\x7b' (before ++ ['\x7b']) →
      ¬HasPair '\x7d' inner → Plain (before ++ (opening ++ inner))

theorem Plain.not_closed {text before inner : List Char} (h : Plain text)
    (hopened : splitAtPair '\x7b' text = some (before, inner)) :
    splitAtPair '\x7d' inner = none := by
  cases h with
  | unopened hnone =>
      rw [splitAtPair_eq_none_iff.2 hnone] at hopened
      cases hopened
  | unclosed hbefore hinner =>
      rw [splitAtPair_opening hbefore] at hopened
      obtain ⟨-, rfl⟩ := Prod.mk.inj (Option.some.inj hopened)
      exact splitAtPair_eq_none_iff.2 hinner

/-- How templates are read: the first opening and the first closing behind it make a placeholder,
    and what follows is read in the same way, until there is no placeholder. -/
inductive Reads : List Char → Split → Prop where
  /-- The text behind the last placeholder. -/
  | tail {text : List Char} : Plain text → Reads text ⟨[], text⟩
  /-- The first placeholder. -/
  | placeholder {before token rest : List Char} {split : Split} :
      ¬HasPair '\x7b' (before ++ ['\x7b']) → ¬HasPair '\x7d' (token ++ ['\x7d']) →
      Reads rest split →
      Reads (before ++ (opening ++ (token ++ (closing ++ rest))))
        ⟨⟨before, token⟩ :: split.placeholders, split.tail⟩

namespace Split

/-- The placeholders of a template. -/
def ofTemplate (cs : List Char) : Split :=
  match _opened : splitAtPair '\x7b' cs with
  | none => ⟨[], cs⟩
  | some (before, inner) =>
      match _closed : splitAtPair '\x7d' inner with
      | none => ⟨[], cs⟩
      | some (token, rest) =>
          let split := ofTemplate rest
          ⟨⟨before, token⟩ :: split.placeholders, split.tail⟩
termination_by cs.length
decreasing_by
  have := length_of_splitAtPair _opened
  have := length_of_splitAtPair _closed
  omega

/-- The text that is split. -/
def raw (split : Split) : List Char :=
  split.placeholders.flatMap (fun p => p.before ++ p.raw) ++ split.tail

/-- The text with the placeholders filled in, and all else as it is. -/
def filled (record : Record) (lead : String) (split : Split) : List Char :=
  split.placeholders.flatMap (fun p => p.before ++ p.filled record lead) ++ split.tail

end Split

variable {cs more : List Char} {split split' : Split} {record : Record} {lead : String}

open Split

theorem substitute_eq (record : Record) (lead : String) (p : Placeholder) :
    record.substitute lead p.token = p.filled record lead := by
  rw [Record.substitute, Record.placeholder?, Placeholder.filled, Placeholder.key]
  split
  case isTrue => rfl
  case isFalse => cases record.data.get? (String.ofList (Text.trimChars p.token)) <;> rfl

theorem reads_ofTemplate (cs : List Char) : Reads cs (ofTemplate cs) := by
  fun_induction ofTemplate cs with
  | case1 cs hopened => exact .tail (.unopened (splitAtPair_eq_none_iff.1 hopened))
  | case2 cs before inner hopened hclosed =>
      obtain ⟨rfl, hbefore⟩ := splitAtPair_eq_some_iff.1 hopened
      exact .tail (.unclosed hbefore (splitAtPair_eq_none_iff.1 hclosed))
  | case3 cs before inner hopened token rest hclosed split ih =>
      obtain ⟨rfl, hbefore⟩ := splitAtPair_eq_some_iff.1 hopened
      obtain ⟨rfl, htoken⟩ := splitAtPair_eq_some_iff.1 hclosed
      exact .placeholder hbefore htoken ih

namespace Reads

theorem raw_eq (h : Reads cs split) : split.raw = cs := by
  induction h with
  | tail => rfl
  | placeholder _ _ _ ih =>
      simp only [raw, Placeholder.raw, List.flatMap_cons, List.append_assoc] at ih ⊢
      rw [ih]

theorem eq_ofTemplate (h : Reads cs split) : split = ofTemplate cs := by
  induction h with
  | tail hplain =>
      rw [ofTemplate]
      split
      case h_1 => rfl
      case h_2 before inner hopened =>
        split
        case h_1 => rfl
        case h_2 token rest hclosed =>
          rw [hplain.not_closed hopened] at hclosed
          cases hclosed
  | placeholder hbefore htoken _ ih =>
      rw [ofTemplate]
      split
      case h_1 hopened =>
        rw [splitAtPair_opening hbefore] at hopened
        cases hopened
      case h_2 hopened =>
        rw [splitAtPair_opening hbefore] at hopened
        obtain ⟨rfl, rfl⟩ := Prod.mk.inj (Option.some.inj hopened)
        split
        case h_1 hclosed =>
          rw [splitAtPair_closing htoken] at hclosed
          cases hclosed
        case h_2 hclosed =>
          rw [splitAtPair_closing htoken] at hclosed
          obtain ⟨rfl, rfl⟩ := Prod.mk.inj (Option.some.inj hclosed)
          rw [ih]

end Reads

theorem renderRest_eq (record : Record) (lead : String) (cs : List Char) :
    record.renderRest lead cs = (ofTemplate cs).filled record lead := by
  fun_induction Record.renderRest record lead cs with
  | case1 cs hopened =>
      have hreads : Reads cs ⟨[], cs⟩ := .tail (.unopened (splitAtPair_eq_none_iff.1 hopened))
      rw [← hreads.eq_ofTemplate]
      rfl
  | case2 cs before inner hopened hclosed =>
      obtain ⟨rfl, hbefore⟩ := splitAtPair_eq_some_iff.1 hopened
      have hreads := Reads.tail (.unclosed hbefore (splitAtPair_eq_none_iff.1 hclosed))
      exact congrArg (filled record lead) hreads.eq_ofTemplate
  | case3 cs before inner hopened token rest hclosed ih =>
      obtain ⟨rfl, hbefore⟩ := splitAtPair_eq_some_iff.1 hopened
      obtain ⟨rfl, htoken⟩ := splitAtPair_eq_some_iff.1 hclosed
      have hreads := Reads.placeholder hbefore htoken (reads_ofTemplate rest)
      refine Eq.trans ?_ (congrArg (filled record lead) hreads.eq_ofTemplate)
      rw [ih, substitute_eq record lead ⟨before, token⟩]
      simp only [filled, List.flatMap_cons, List.append_assoc]

theorem Reads.render_eq (h : Reads cs split) (record : Record) (lead : String) :
    record.render lead (String.ofList cs) = String.ofList (split.filled record lead) := by
  rw [Record.render, String.toList_ofList, renderRest_eq, ← h.eq_ofTemplate]

theorem Placeholder.filled_eq_raw {p : Placeholder} (hnumber : p.key ≠ Key.recordNumber)
    (hheld : record.data.get? p.key = none) : p.filled record lead = p.raw := by
  rw [filled, if_neg hnumber, hheld]

/-- Templates are filled in once: a template has one split into text and placeholders, which gives
    back the template, and whatever the record is, rendering puts values in the places of these
    placeholders. So a template is left as it is if none of its keys stands for anything. -/
theorem rendered_in_one_pass (template : String) :
    (∀ split, Reads template.toList split ↔ split = ofTemplate template.toList) ∧
      String.ofList (ofTemplate template.toList).raw = template ∧
      ∀ (schema : AppSchema) (record : Record) (lead : String),
        (schema.project record).render lead template =
            String.ofList ((ofTemplate template.toList).filled (schema.project record) lead) ∧
          ((∀ p ∈ (ofTemplate template.toList).placeholders, p.key ≠ Key.recordNumber ∧
              (schema.project record).data.get? p.key = none) →
            (schema.project record).render lead template = template) := by
  have hreads := reads_ofTemplate template.toList
  have hraw : String.ofList (ofTemplate template.toList).raw = template := by
    rw [hreads.raw_eq, String.ofList_toList]
  refine ⟨fun split => ⟨Reads.eq_ofTemplate, fun h => h ▸ hreads⟩, hraw, ?_⟩
  intro schema record lead
  have hrender := hreads.render_eq (schema.project record) lead
  rw [String.ofList_toList] at hrender
  refine ⟨hrender, fun hnone => hrender.trans ?_⟩
  refine Eq.trans (congrArg (fun cs => String.ofList (cs ++ _)) ?_) hraw
  refine List.flatMap_congr fun p hp => ?_
  rw [Placeholder.filled_eq_raw (hnone p hp).1 (hnone p hp).2]

/-- The order is filled in for its key only, and text that looks like a placeholder but has an
    unknown key or no end stays. -/
theorem rendered_in_one_pass_order :
    (Orders.schema.project (Orders.order "")).render "#" "\x7b\x7b item \x7d\x7d \x7b\x7bopen" =
        "tea \x7b\x7bopen" ∧
      (∀ p ∈ (ofTemplate "\x7b\x7bsize\x7d\x7d \x7b\x7bopen".toList).placeholders,
        p.key ≠ Key.recordNumber ∧
          (Orders.schema.project (Orders.order "")).data.get? p.key = none) ∧
      (Orders.schema.project (Orders.order "")).render "#" "\x7b\x7bsize\x7d\x7d \x7b\x7bopen" =
        "\x7b\x7bsize\x7d\x7d \x7b\x7bopen" := by
  have hunknown : ∀ p ∈ (ofTemplate "\x7b\x7bsize\x7d\x7d \x7b\x7bopen".toList).placeholders,
      p.key ≠ Key.recordNumber ∧
        (Orders.schema.project (Orders.order "")).data.get? p.key = none := by
    decide +kernel
  obtain ⟨-, -, hfilled⟩ := rendered_in_one_pass "\x7b\x7b item \x7d\x7d \x7b\x7bopen"
  obtain ⟨-, -, hkept⟩ := rendered_in_one_pass "\x7b\x7bsize\x7d\x7d \x7b\x7bopen"
  refine ⟨(hfilled Orders.schema (Orders.order "") "#").1.trans ?_, hunknown, ?_⟩
  · decide +kernel
  · exact (hkept Orders.schema (Orders.order "") "#").2 hunknown

end RecordApps.Template
