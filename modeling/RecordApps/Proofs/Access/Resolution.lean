import Mathlib.Data.List.Perm.Basic
import RecordApps.Proofs.Access.Deciding
import RecordApps.Proofs.KeyMap
import RecordApps.Proofs.Outcome

/-! # Resolution of access

Where the ids of a table are distinct, the rule that decides is known by its rank alone, so that
the order of the table does not matter. What the layers of the app and of a record decide is
resolved into access that each further layer only narrows.
-/

namespace RecordApps

namespace Ranked

variable {R : Type} [Ranked R] {applies : R → Bool} {rules rules' : List R} {a b rule : R}

/-- A rule that applies, where no rule that applies has a greater priority or, with the same
    priority, a smaller id. -/
structure Tops (applies : R → Bool) (rules : List R) (rule : R) : Prop where
  mem : rule ∈ rules
  fits : applies rule = true
  highest : ∀ other ∈ rules, applies other = true →
    ¬(priority rule < priority other ∨ priority other = priority rule ∧ id other < id rule)

/-- The one rule that tops the others, if any rule applies. -/
structure DecidedBy (applies : R → Bool) (rules : List R) (top : Option R) : Prop where
  some_iff : ∀ rule, top = some rule ↔ Tops applies rules rule
  none_iff : top = none ↔ ∀ rule ∈ rules, applies rule = false

theorem Decides.tops (h : Decides applies rules rule) : Tops applies rules rule where
  mem := h.mem.1
  fits := h.mem.2
  highest other hmem happlies houtranks := by
    have hnot := h.not_outranked hmem happlies
    rw [outranks_iff.2 houtranks] at hnot
    cases hnot

theorem eq_of_id (hids : (rules.map id).Nodup) (ha : a ∈ rules) (hb : b ∈ rules)
    (hid : id a = id b) : a = b :=
  List.inj_on_of_nodup_map hids ha hb hid

theorem Tops.congr (hsame : ∀ rule, rule ∈ rules ↔ rule ∈ rules') (h : Tops applies rules rule) :
    Tops applies rules' rule where
  mem := (hsame rule).1 h.mem
  fits := h.fits
  highest other hmem := h.highest other ((hsame other).2 hmem)

theorem Tops.unique (hids : (rules.map id).Nodup) (ha : Tops applies rules a)
    (hb : Tops applies rules b) : a = b := by
  have hab := ha.highest b hb.mem hb.fits
  have hba := hb.highest a ha.mem ha.fits
  rw [not_or, not_and, not_lt, not_lt] at hab hba
  have hpriority : priority a = priority b := le_antisymm hba.1 hab.1
  refine eq_of_id hids ha.mem hb.mem (le_antisymm ?_ ?_)
  · exact hab.2 hpriority.symm
  · exact hba.2 hpriority

theorem deciding_decidedBy (hids : (rules.map id).Nodup) :
    DecidedBy applies rules (deciding applies rules) where
  none_iff := deciding_eq_none_iff
  some_iff rule := by
    constructor
    · intro h
      exact (deciding_eq_some_iff.1 h).tops
    · intro h
      cases hdeciding : deciding applies rules with
      | none =>
          have happlies := deciding_eq_none_iff.1 hdeciding rule h.mem
          rw [h.fits] at happlies
          cases happlies
      | some best => rw [(deciding_eq_some_iff.1 hdeciding).tops.unique hids h]

theorem deciding_congr (hids : (rules.map id).Nodup) (hids' : (rules'.map id).Nodup)
    (hsame : ∀ rule, rule ∈ rules ↔ rule ∈ rules') :
    deciding applies rules = deciding applies rules' := by
  refine Option.ext fun rule => ?_
  rw [(deciding_decidedBy hids).some_iff, (deciding_decidedBy hids').some_iff]
  exact ⟨Tops.congr hsame, Tops.congr fun rule => (hsame rule).symm⟩

end Ranked

namespace AccessLevel

theorem rank_lower_le (a b : AccessLevel) : (a.lower b).rank ≤ b.rank := by
  rw [lower]
  split
  case isTrue hle => exact hle
  case isFalse => exact le_refl _

theorem rank_lower_le_left (a b : AccessLevel) : (a.lower b).rank ≤ a.rank := by
  rw [lower]
  split
  case isTrue => exact le_refl _
  case isFalse hlt => exact le_of_not_ge hlt

end AccessLevel

/-- No layer allows what an earlier one does not: nothing on a stored record that the app does
    not grant, and nothing on a field above what the record allows. -/
structure Access.Narrows (access : Access) (record : Option Record) : Prop where
  view : ∀ stored, record = some stored → access.record.mayView = true → access.app.mayView = true
  edit : ∀ stored, record = some stored → access.record.mayEdit = true → access.app.mayEdit = true
  delete : ∀ stored, record = some stored → access.record.mayDelete = true →
    access.app.mayDelete = true
  fields : ∀ code, (access.fields.level code).rank ≤ access.record.ceiling.rank

namespace RuleSet

variable {rules rules' : RuleSet} {actor : Actor} {schema : AppSchema} {record : Option Record}

theorem access_app : (rules.access actor schema record).app = rules.appCapabilities actor := rfl

theorem access_stored (stored : Record) :
    (rules.access actor schema (some stored)).record =
      rules.recordCapabilities actor schema stored (rules.appCapabilities actor) := rfl

theorem access_fields : (rules.access actor schema record).fields =
    rules.fieldAccess actor schema (rules.access actor schema record).record := rfl

/-- The ids of each table are distinct. -/
structure DistinctIds (rules : RuleSet) : Prop where
  app : (rules.app.map Ranked.id).Nodup
  field : (rules.field.map Ranked.id).Nodup
  record : (rules.record.map Ranked.id).Nodup

/-- The same rules in each table, in whatever order. -/
structure SameRules (rules rules' : RuleSet) : Prop where
  app : ∀ row, row ∈ rules.app ↔ row ∈ rules'.app
  field : ∀ row, row ∈ rules.field ↔ row ∈ rules'.field
  record : ∀ rule, rule ∈ rules.record ↔ rule ∈ rules'.record

theorem access_congr (hids : rules.DistinctIds) (hids' : rules'.DistinctIds)
    (hsame : rules.SameRules rules') :
    rules.access actor schema record = rules'.access actor schema record := by
  have happ : rules.appCapabilities actor = rules'.appCapabilities actor := by
    rw [appCapabilities, appCapabilities, Ranked.deciding_congr hids.app hids'.app hsame.app]
  have hlevel : ∀ code, rules.fieldLevel? actor code = rules'.fieldLevel? actor code := by
    intro code
    rw [fieldLevel?, fieldLevel?, Ranked.deciding_congr hids.field hids'.field hsame.field]
  have hrecord : ∀ stored app,
      rules.recordCapabilities actor schema stored app =
        rules'.recordCapabilities actor schema stored app := by
    intro stored app
    simp only [recordCapabilities,
      Ranked.deciding_congr hids.record hids'.record hsame.record]
  have hfields : ∀ capabilities, rules.fieldAccess actor schema capabilities =
      rules'.fieldAccess actor schema capabilities := by
    intro capabilities
    simp only [fieldAccess, hlevel]
  simp only [access, happ, hrecord, hfields]

/-- The explicit level of a field, lowered to the ceiling, and the ceiling where there is none. -/
theorem fieldAccess_get? (capabilities : RecordCapabilities) (code : String) :
    (rules.fieldAccess actor schema capabilities).get? code =
      if code ∈ (schema.activeFields.filter (!·.type.isDecorative)).map (·.code.text) then
        some (match rules.fieldLevel? actor code with
          | some level => level.lower capabilities.ceiling
          | none => capabilities.ceiling)
      else none := by
  rw [fieldAccess, KeyMap.get?_ofList, ← List.map_reverse]
  refine (Rows.lookup_map_key _ (fun code => match rules.fieldLevel? actor code with
    | some level => level.lower capabilities.ceiling
    | none => capabilities.ceiling) _ _).trans ?_
  simp only [List.map_reverse, List.mem_reverse]

/-! ## Layers -/

/-- How access comes about, layer by layer. -/
structure Resolved (rules : RuleSet) (actor : Actor) (schema : AppSchema) (record : Option Record)
    (access : Access) : Prop where
  /-- The app grants what the row that decides grants, and nothing where no row is for the
      actor. -/
  app : ∃ top, Ranked.DecidedBy (fun row : AppPermission => row.target.covers actor) rules.app top ∧
    access.app = (top.map AppPermission.capabilities).getD .none
  /-- A record about to be made may be viewed and edited by those who may add one. -/
  creation : record = none → access.record = access.app.onCreation
  /-- On a record, the rule that decides leaves what it shares with the grant. -/
  stored : ∀ stored, record = some stored →
    ∃ top, Ranked.DecidedBy (fun rule : RecordRule => rule.applies actor (schema.project stored))
        rules.record top ∧
      access.record = top.elim access.app.onRecords
        fun rule => rule.capabilities.intersect access.app.onRecords
  /-- A field has the level of the row that decides, but not above the ceiling, which is the
      level of a field without such a row. -/
  fields : ∀ f ∈ schema.activeFields, f.type.isDecorative = false →
    ∃ top, Ranked.DecidedBy (fun row : FieldPermission =>
        row.field.text == f.code.text && row.target.covers actor) rules.field top ∧
      access.fields.get? f.code.text = some (top.elim access.record.ceiling
        fun row => row.level.lower access.record.ceiling)
  /-- Nothing else has a level. -/
  others : ∀ code, (∀ f ∈ schema.activeFields, f.code.text = code → f.type.isDecorative = true) →
    access.fields.get? code = none

theorem access_resolved (hids : rules.DistinctIds) :
    rules.Resolved actor schema record (rules.access actor schema record) where
  app := by
    refine ⟨_, Ranked.deciding_decidedBy hids.app, ?_⟩
    rw [access_app, appCapabilities]
    split
    case h_1 row hrow => rw [hrow]; rfl
    case h_2 hnone => rw [hnone]; rfl
  creation := by
    rintro rfl
    rfl
  stored := by
    rintro stored rfl
    refine ⟨_, Ranked.deciding_decidedBy hids.record, ?_⟩
    rw [access_stored, access_app, recordCapabilities]
    split
    case h_1 rule hrule => rw [hrule]; rfl
    case h_2 hnone => rw [hnone]; rfl
  fields := by
    intro f hf hdecorative
    refine ⟨_, Ranked.deciding_decidedBy hids.field, ?_⟩
    have hmem : f.code.text ∈
        (schema.activeFields.filter (!·.type.isDecorative)).map (·.code.text) :=
      List.mem_map_of_mem (List.mem_filter.2 ⟨hf, by rw [hdecorative]; rfl⟩)
    rw [access_fields, fieldAccess_get?, if_pos hmem, fieldLevel?]
    cases Ranked.deciding (fun row : FieldPermission =>
      row.field.text == f.code.text && row.target.covers actor) rules.field <;> rfl
  others := by
    intro code hcode
    have hmem : code ∉ (schema.activeFields.filter (!·.type.isDecorative)).map (·.code.text) := by
      intro hmem
      obtain ⟨f, hf, hsame⟩ := List.mem_map.1 hmem
      obtain ⟨hactive, hdecorative⟩ := List.mem_filter.1 hf
      rw [hcode f hactive hsame] at hdecorative
      cases hdecorative
    rw [access_fields, fieldAccess_get?, if_neg hmem]

/-! ## Narrowing -/

theorem record_within_app (stored : Record) {need : RecordCapabilities → Bool}
    (hmeet : ∀ a b, need (a.intersect b) = (need a && need b))
    (h : need (rules.access actor schema (some stored)).record = true) :
    need (rules.access actor schema (some stored)).app.onRecords = true := by
  rw [access_stored, recordCapabilities] at h
  split at h
  case h_1 rule _ =>
    rw [hmeet, Bool.and_eq_true] at h
    exact h.2
  case h_2 => exact h

theorem fieldAccess_level_le (capabilities : RecordCapabilities) (code : String) :
    ((rules.fieldAccess actor schema capabilities).level code).rank ≤
      capabilities.ceiling.rank := by
  rw [KeyMap.level, fieldAccess_get?]
  split
  · split
    · exact AccessLevel.rank_lower_le _ _
    · exact le_refl _
  · exact Nat.zero_le _

theorem access_narrows : (rules.access actor schema record).Narrows record where
  view stored := by
    rintro rfl
    exact record_within_app stored fun _ _ => rfl
  edit stored := by
    rintro rfl
    exact record_within_app stored fun _ _ => rfl
  delete stored := by
    rintro rfl
    exact record_within_app stored fun _ _ => rfl
  fields code := fieldAccess_level_le _ code

end RuleSet

namespace KeyMap

/-- A key may be written if it is a field that may be edited, or the status where no process
    manages it. -/
theorem checkWritable_ok {access : FieldAccess} {schema : AppSchema} {key : String}
    (h : access.checkWritable schema key = .ok ()) :
    key = Key.status ∧ schema.processEnabled = false ∨
      Key.isReserved key = false ∧ access.level key = .edit := by
  rw [checkWritable] at h
  split at h
  case isTrue hstatus =>
    rw [Bool.and_eq_true, beq_iff_eq, Bool.not_eq_true'] at hstatus
    exact .inl hstatus
  case isFalse =>
    split at h
    · cases h
    case isFalse hreserved =>
      split at h
      case h_2 hlevel =>
        rw [Bool.not_eq_true] at hreserved
        exact .inr ⟨hreserved, by rw [level, hlevel]; rfl⟩
      case h_1 | h_3 | h_4 => cases h

end KeyMap

end RecordApps
