import RecordApps.Condition.Stored
import RecordApps.Proofs.Outcome
import RecordApps.Proofs.Value.Decoding
import RecordApps.Proofs.Value.Reading

/-! # Conditions in stored text

A group of conditions is kept as a text. It is read back with its connective and its conditions, but
not always with their operands as they were. A comparison with null is stored with its null, and null
is read as no operand at all: such a condition was accepted when it was built and is refused when it
is checked again, and it holds on nothing any more. Floats are read as reading rounds them.
-/

namespace RecordApps

open Decode Stored Value

/-! ## Objects with known keys -/

namespace Stored

theorem object?_joined {keys : List String} {value : String → Step Value}
    {entries : List (String × Value)} (hkeys : ∀ entry ∈ entries, keys.contains entry.1 = true)
    (honce : noneRepeated keys entries = true)
    (hopens : ∀ entry ∈ entries, Opens entry.2.written)
    (hread : ∀ entry ∈ entries, ∀ rest, Delimited rest →
      value entry.1 (entry.2.written ++ rest) = some (entry.2.reread, rest)) (rest : List Char) :
    object? keys value (joined writtenEntry '\x7d' entries ++ rest) =
      some ((Value.object entries).reread, rest) := by
  have honce' : noneRepeated keys (entries.map fun entry => (entry.1, entry.2.reread)) = true := by
    rw [← honce]
    simp only [noneRepeated, List.countP_map]
    rfl
  have hentries :
      closed? (keyedPair? keys value) '\x7d' (joined writtenEntry '\x7d' entries ++ rest) =
      some (entries.map fun entry => (entry.1, entry.2.reread), rest) := by
    refine closed?_joined (by decide) (fun entry _ => (opens_quoted entry.1).append _) ?_ rest
    intro entry hentry rest hrest
    rw [writtenEntry, List.append_assoc, List.cons_append]
    refine pair?_quoted ((hopens entry hentry).append rest) ?_
    rw [if_pos (hkeys entry hentry), hread entry hentry rest hrest]
  rw [object?, hentries]
  simp only [Option.bind_eq_bind, Option.bind_some, honce', if_true, Value.reread,
    rereadEntries_eq_map]
  rfl

end Stored

/-! ## Conditions -/

namespace Condition

/-- What a condition compares with. -/
def operands (c : Condition) : List Value :=
  c.value.toList ++ c.values.getD []

/-- Whether one of the constructors accepts a condition. -/
def Built (c : Condition) : Prop :=
  ∃ field operator, (∃ value, scalar field operator value = .ok c) ∨
    ∃ values, list field operator values = .ok c

/-- The condition with each operand as it is read. -/
def readOperands (c : Condition) : Condition :=
  { c with value := c.value.map Value.reread, values := c.values.map (·.map Value.reread) }

/-- The condition without a null operand. -/
def dropNull (c : Condition) : Condition :=
  { c with value := c.value.filter (!·.isNull) }

/-- What a condition is read as after it was stored. -/
def reread (c : Condition) : Condition :=
  c.readOperands.dropNull

/-- The entries of the stored form. -/
def entries (c : Condition) : List (String × Value) :=
  [("field", c.field.toValue), ("operator", .text c.operator.name)] ++
    (c.value.map fun v => ("value", v)).toList ++
    (c.values.map fun vs => ("values", .list vs)).toList

variable {c : Condition} {depth : ℕ}

theorem toValue_reread (c : Condition) : c.toValue.reread = c.readOperands.toValue := by
  obtain ⟨field, operator, value, values⟩ := c
  cases value <;> cases values <;>
    simp [toValue, readOperands, Value.reread, rereadEntries, rereadItems_eq_map, NonBlank.toValue]

theorem entries_storable (h : ∀ v ∈ c.operands, v.Storable depth) :
    ∀ entry ∈ c.entries, entry.2.Storable (depth + 1) := by
  intro entry hentry
  simp only [entries, List.mem_append, List.mem_cons, List.not_mem_nil, or_false,
    Option.mem_toList, Option.map_eq_some_iff] at hentry
  obtain ((rfl | rfl) | ⟨v, hv, rfl⟩) | ⟨vs, hvs, rfl⟩ := hentry
  · exact .text _
  · exact .text _
  · exact (h v (List.mem_append_left _ (Option.mem_toList.2 hv))).succ
  · exact .list fun v hv => h v (List.mem_append_right _ (by rwa [hvs, Option.getD_some]))

theorem entries_known : ∀ entry ∈ c.entries,
    ["field", "operator", "value", "values"].contains entry.1 = true := by
  obtain ⟨field, operator, value, values⟩ := c
  cases value <;> cases values <;> simp [entries]

theorem entries_once : noneRepeated ["field", "operator", "value", "values"] c.entries = true := by
  obtain ⟨field, operator, value, values⟩ := c
  cases value <;> cases values <;> rfl

theorem conditionStep_written (h : ∀ v ∈ c.operands, v.Storable depth) (rest : List Char) :
    ConditionGroup.conditionStep (depth + 2) (c.toValue.written ++ rest) =
      some (c.toValue.reread, rest) := by
  have hstorable := entries_storable h
  show ConditionGroup.conditionStep (depth + 2) ((Value.object c.entries).written ++ rest) =
    some ((Value.object c.entries).reread, rest)
  rw [written_object, List.cons_append, ConditionGroup.conditionStep,
    object?_joined entries_known entries_once fun entry hentry => (hstorable entry hentry).opens]
  intro entry hentry rest hrest
  rw [(hstorable entry hentry).value?_written hrest]
  simp only [Option.map_some, (hstorable entry hentry).reread.normalize_eq]

theorem ofValue?_toValue (hname : Comparison.ofName c.operator.name = c.operator) :
    ofValue? c.toValue = some c.dropNull := by
  obtain ⟨field, operator, value, values⟩ := c
  show readAll _ (.keyed (entries ⟨field, operator, value, values⟩)) = _
  have hoperator : Comparison.ofValue? (.text operator.name) = some operator :=
    congrArg some hname
  have hvalue : Reads (entries ⟨field, operator, value, values⟩) (maybeAny "value")
      (value.filter (!·.isNull)) := by
    cases value with
    | none => exact .absent (by cases values <;> rfl)
    | some v =>
        refine .absentOr (v := v) (by cases values <;> rfl) ?_
        cases v <;> rfl
  have hvalues : Reads (entries ⟨field, operator, value, values⟩)
      (maybe "values" (listOf some)) values := by
    cases values with
    | none => exact .absent (by cases value <;> rfl)
    | some vs =>
        exact .absentOr (v := .list vs) (by cases value <;> rfl)
          (congrArg (Option.map some) (listOf_some vs))
  exact Reads.readAll (.bind (.absentOr rfl field.ofText?_text) <|
    .bind (.absentOr rfl hoperator) <| .bind hvalue <| .bind hvalues (.pure _))

/-! ## What constructors accept -/

theorem ofName_name_of_validate (h : c.validate = .ok ()) :
    Comparison.ofName c.operator.name = c.operator := by
  rw [validate] at h
  cases hoperator : c.operator with
  | unknown name =>
      rw [hoperator] at h
      cases h
  | equal | notEqual | member | notMember | greater | less | atLeast | atMost | contains => rfl

/-- A condition that was accepted passes its check, and has one operand or a list of them. -/
theorem Built.accepted (h : c.Built) :
    c.validate = .ok () ∧ (c.value = none ∨ c.values = none) := by
  obtain ⟨field, operator, ⟨value, h⟩ | ⟨values, h⟩⟩ := h
  all_goals
    obtain ⟨name, -, h⟩ := Outcome.bind_eq_ok.1 h
    obtain ⟨hvalid, hbuilt⟩ := Outcome.check_bind_eq_ok.1 h
    obtain rfl := Outcome.pure_eq_ok.1 hbuilt
  · exact ⟨hvalid, .inr rfl⟩
  · exact ⟨hvalid, .inl rfl⟩

theorem Built.values_eq_none (h : c.Built) {v : Value} (hvalue : c.value = some v) :
    c.values = none :=
  h.accepted.2.resolve_left (by rw [hvalue]; exact Option.some_ne_none v)

/-! ## What is read -/

theorem readOperands_eq_iff : c.readOperands = c ↔ ∀ v ∈ c.operands, v.reread = v := by
  have hlist (vs : List Value) : vs.map Value.reread = vs ↔ ∀ v ∈ vs, v.reread = v := by
    simpa using List.map_inj_left (f := Value.reread) (g := id) (l := vs)
  obtain ⟨field, operator, value, values⟩ := c
  cases value <;> cases values <;> simp [readOperands, operands, hlist]

theorem dropNull_eq_iff : c.dropNull = c ↔ c.value ≠ some .null := by
  obtain ⟨field, operator, value, values⟩ := c
  cases value with
  | none => simp [dropNull]
  | some v => cases v <;> simp [dropNull, isNull]

theorem dropNull_value_ne (c : Condition) : c.dropNull.value ≠ some .null := by
  intro h
  obtain ⟨-, hnull⟩ := Option.filter_eq_some_iff.1 h
  cases hnull

theorem readOperands_value_iff : c.readOperands.value = some .null ↔ c.value = some .null := by
  obtain ⟨field, operator, value, values⟩ := c
  cases value with
  | none => simp [readOperands]
  | some v => cases v <;> simp [readOperands, Value.reread]

/-- A condition is read as the same if it has no null operand and all of its operands are. -/
theorem reread_eq_iff :
    c.reread = c ↔ c.value ≠ some .null ∧ ∀ v ∈ c.operands, v.reread = v := by
  rw [← readOperands_eq_iff]
  constructor
  · intro h
    have hvalue : c.value ≠ some .null := h ▸ c.readOperands.dropNull_value_ne
    exact ⟨hvalue, (dropNull_eq_iff.2 (mt readOperands_value_iff.1 hvalue)).symm.trans h⟩
  · rintro ⟨hvalue, hsame⟩
    rw [reread, hsame, dropNull_eq_iff.2 hvalue]

/-- Whether a condition is accepted depends on the kinds of its operands only. -/
theorem readOperands_validate (c : Condition) : c.readOperands.validate = c.validate := by
  obtain ⟨field, operator, value, values⟩ := c
  have hvalues : (values.map (·.map Value.reread)).isSome = values.isSome := Option.isSome_map
  cases operator with
  | unknown name => rfl
  | member | notMember => exact congrArg (ensure · _) hvalues
  | equal | notEqual | greater | less | atLeast | atMost | contains =>
      cases value with
      | none => rfl
      | some v => cases v <;> rfl

theorem reread_validate (hvalue : c.value ≠ some .null) : c.reread.validate = c.validate := by
  rw [reread, dropNull_eq_iff.2 (mt readOperands_value_iff.1 hvalue), readOperands_validate]

theorem reread_refused (h : c.Built) (hvalue : c.value = some .null) :
    c.reread.validate =
      .error (.invalid (.scalarOperandMissing c.field.text c.operator.name)) := by
  have hvalid := h.accepted.1
  have hvalues := h.values_eq_none hvalue
  obtain ⟨field, operator, value, values⟩ := c
  cases hvalue
  cases hvalues
  cases operator with
  | unknown | member | notMember => cases hvalid
  | equal | notEqual | greater | less | atLeast | atMost | contains => rfl

theorem reread_holds (h : c.Built) (hvalue : c.value = some .null) (data : Fields) :
    c.reread.holds data = false := by
  have hvalues := h.values_eq_none hvalue
  obtain ⟨field, operator, value, values⟩ := c
  cases hvalue
  cases hvalues
  cases operator <;> rfl

end Condition

/-! ## Groups -/

namespace ConditionGroup

/-- The group with each operand as it is read. -/
def readOperands (g : ConditionGroup) : ConditionGroup :=
  { g with conditions := g.conditions.map Condition.readOperands }

/-- What a group is read as after it was stored. -/
def reread (g : ConditionGroup) : ConditionGroup :=
  { g with conditions := g.conditions.map Condition.reread }

/-- Some condition of the group compares with null. -/
def ComparesWithNull (g : ConditionGroup) : Prop :=
  ∃ c ∈ g.conditions, c.value = some .null

/-- The floats that the group compares with, on their own or inside of other values. -/
def floats (g : ConditionGroup) : List Float :=
  g.conditions.flatMap fun c => c.operands.flatMap Value.floats

variable {g : ConditionGroup} {depth : ℕ}

theorem conditionsStep_written (h : ∀ c ∈ g.conditions, ∀ v ∈ c.operands, v.Storable depth)
    (rest : List Char) :
    conditionsStep (depth + 3) ((Value.list (g.conditions.map Condition.toValue)).written ++ rest) =
      some ((Value.list (g.conditions.map Condition.toValue)).reread, rest) := by
  have hitems : closed? (conditionStep (depth + 2)) ']'
      (joined written ']' (g.conditions.map Condition.toValue) ++ rest) =
        some ((g.conditions.map Condition.toValue).map Value.reread, rest) := by
    refine closed?_joined (by decide) ?_ ?_ rest
    · intro v hv
      obtain ⟨c, -, rfl⟩ := List.mem_map.1 hv
      exact written_object c.entries ▸ ⟨'\x7b', _, rfl, by decide⟩
    · intro v hv rest _
      obtain ⟨c, hc, rfl⟩ := List.mem_map.1 hv
      exact Condition.conditionStep_written (h c hc) rest
  rw [written_list, List.cons_append, conditionsStep, hitems, Value.reread, rereadItems_eq_map]
  rfl

/-- The entries of the stored text. -/
def entries (g : ConditionGroup) : List (String × Value) :=
  [("logic", .text g.logic.name), ("conditions", .list (g.conditions.map Condition.toValue))]

theorem entries_reread (g : ConditionGroup) :
    (Value.object g.entries).reread = .object g.readOperands.entries := by
  have hconditions : (g.conditions.map Condition.toValue).map Value.reread =
      g.readOperands.conditions.map Condition.toValue := by
    simp only [readOperands, List.map_map, List.map_inj_left, Function.comp_apply]
    exact fun c _ => c.toValue_reread
  simp only [entries, Value.reread, rereadEntries, rereadItems_eq_map, hconditions]
  rfl

theorem groupStep_written (h : ∀ c ∈ g.conditions, ∀ v ∈ c.operands, v.Storable depth)
    (rest : List Char) :
    groupStep (depth + 4) ((Value.object g.entries).written ++ rest) =
      some (.object g.readOperands.entries, rest) := by
  have hconditions : Opens (Value.list (g.conditions.map Condition.toValue)).written :=
    written_list _ ▸ ⟨'[', _, rfl, by decide⟩
  have hknown : ∀ entry ∈ g.entries, ["logic", "conditions"].contains entry.1 = true := by
    simp [entries]
  rw [written_object, List.cons_append, groupStep, object?_joined hknown rfl, entries_reread]
  · intro entry hentry
    obtain rfl | rfl := List.mem_pair.1 hentry
    · exact opens_quoted _
    · exact hconditions
  · intro entry hentry rest hrest
    obtain rfl | rfl := List.mem_pair.1 hentry
    · have hlogic : (Value.text g.logic.name).Storable (depth + 3) := .text _
      exact hlogic.value?_written hrest
    · exact conditionsStep_written h rest

theorem ofValue?_entries (h : ∀ c ∈ g.conditions, c.validate = .ok ()) :
    ofValue? (.object g.entries) =
      some { g with conditions := g.conditions.map Condition.dropNull } := by
  have hlogic : Connective.ofValue? (.text g.logic.name) = some g.logic := by
    cases g.logic <;> rfl
  have hconditions : listOf Condition.ofValue? (.list (g.conditions.map Condition.toValue)) =
      some (g.conditions.map Condition.dropNull) :=
    mapM_map fun c hc => Condition.ofValue?_toValue (Condition.ofName_name_of_validate (h c hc))
  exact Reads.readAll (.bind (.absentOr rfl hlogic) <| .bind (.absentOr rfl hconditions) (.pure _))

theorem ofText_toText (hbuilt : ∀ c ∈ g.conditions, c.Built)
    (hstorable : ∀ c ∈ g.conditions, ∀ v ∈ c.operands, v.Storable (maxNesting - 4)) :
    ofText g.toText = .ok g.reread := by
  have hread : groupStep maxNesting (Value.object g.entries).written =
      some (.object g.readOperands.entries, []) := by
    have h := groupStep_written hstorable []
    rw [List.append_nil] at h
    exact h
  have hopens : Opens (Value.object g.entries).written :=
    written_object _ ▸ ⟨'\x7b', _, rfl, by decide⟩
  have honly : only? (groupStep maxNesting) g.toText = some (.object g.readOperands.entries) := by
    have htext : g.toText.toList = (Value.object g.entries).written := String.toList_ofList
    rw [only?, htext, hopens.skipSpace]
    simp only [hread, Option.bind_eq_bind, Option.bind_some]
    rfl
  have hvalid : ∀ c ∈ g.readOperands.conditions, c.validate = .ok () := by
    intro read hread
    obtain ⟨c, hc, rfl⟩ := List.mem_map.1 hread
    exact c.readOperands_validate.trans (hbuilt c hc).accepted.1
  rw [ofText, honly, Option.bind_some, ofValue?_entries hvalid]
  simp only [readOperands, List.map_map]
  rfl

/-- A group is read as the same if no condition compares with null and every float is read as the
    same. -/
theorem reread_eq_iff :
    g.reread = g ↔ ¬g.ComparesWithNull ∧ ∀ x ∈ g.floats, Stored.reread x = x := by
  have hconditions : g.reread = g ↔ ∀ c ∈ g.conditions, c.reread = c := by
    obtain ⟨logic, conditions⟩ := g
    simpa [reread] using List.map_inj_left (f := Condition.reread) (g := id) (l := conditions)
  simp only [hconditions, Condition.reread_eq_iff, Value.reread_eq_self_iff, forall_and,
    ComparesWithNull, floats, List.mem_flatMap]
  refine and_congr ⟨?_, ?_⟩ ⟨?_, ?_⟩
  · rintro h ⟨c, hc, hvalue⟩
    exact h c hc hvalue
  · exact fun h c hc hvalue => h ⟨c, hc, hvalue⟩
  · rintro h x ⟨c, hc, v, hv, hx⟩
    exact h c hc v hv x hx
  · exact fun h c hc v hv x hx => h x ⟨c, hc, v, hv, hx⟩

theorem reread_validate_iff (hbuilt : ∀ c ∈ g.conditions, c.Built) :
    g.reread.validate = .ok () ↔ ¬g.ComparesWithNull := by
  constructor
  · rintro hvalid ⟨c, hc, hvalue⟩
    have h := Outcome.forM_eq_ok.1 hvalid _ (List.mem_map_of_mem hc)
    rw [Condition.reread_refused (hbuilt c hc) hvalue] at h
    cases h
  · intro hnull
    refine Outcome.forM_eq_ok.2 fun read hread => ?_
    obtain ⟨c, hc, rfl⟩ := List.mem_map.1 hread
    exact (Condition.reread_validate fun hvalue => hnull ⟨c, hc, hvalue⟩).trans
      (hbuilt c hc).accepted.1

end ConditionGroup

open ConditionGroup

/-- A group whose conditions were accepted when they were built is read back from its stored text. It
    passes its check again exactly when no condition compares with null. It is the same group exactly
    when, besides, every float in its operands is read as the float that was written; then it holds
    on the same records. A condition that compares with null is kept without its operand, is refused,
    and holds on no record. Floats with few digits are read as they were written. -/
theorem stored_conditions_reread {g : ConditionGroup} (hbuilt : ∀ c ∈ g.conditions, c.Built)
    (hstorable : ∀ c ∈ g.conditions, ∀ v ∈ c.operands, v.Storable (maxNesting - 4)) :
    ConditionGroup.ofText g.toText = .ok g.reread ∧
      (g.reread = g ↔ ¬g.ComparesWithNull ∧ ∀ x ∈ g.floats, Stored.reread x = x) ∧
      (g.reread.validate = .ok () ↔ ¬g.ComparesWithNull) ∧
      (¬g.ComparesWithNull → (∀ x ∈ g.floats, Stored.reread x = x) →
        ∀ data, g.reread.holds data = g.holds data) ∧
      (∀ c ∈ g.conditions, c.value = some .null →
        c.reread ∈ g.reread.conditions ∧
        c.reread.validate =
          .error (.invalid (.scalarOperandMissing c.field.text c.operator.name)) ∧
        ∀ data, c.reread.holds data = false) ∧
      ∀ x : Float, x.isFinite = true → FewDigits x → Stored.reread x = x :=
  ⟨ofText_toText hbuilt hstorable, reread_eq_iff, reread_validate_iff hbuilt,
    fun hnull hfloats data => by rw [reread_eq_iff.2 ⟨hnull, hfloats⟩], fun c hc hvalue =>
      ⟨List.mem_map_of_mem hc, Condition.reread_refused (hbuilt c hc) hvalue,
        Condition.reread_holds (hbuilt c hc) hvalue⟩, fun _ hx => reread_eq_self hx⟩

/-- Orders with a discount, or with one of some tags. -/
def discounted : ConditionGroup :=
  ⟨.any, [⟨⟨"discount", rfl⟩, .atLeast, some (.float 0.1), none⟩,
    ⟨⟨"tag", rfl⟩, .member, none,
      some [.int (-3), .text "on \"sale\"", .object [("until", .list [.bool true, .null])]]⟩]⟩

theorem stored_conditions_reread_discounted :
    (∀ c ∈ discounted.conditions, c.Built) ∧
      (∀ c ∈ discounted.conditions, ∀ v ∈ c.operands, v.Storable (maxNesting - 4)) ∧
      ConditionGroup.ofText discounted.toText = .ok discounted ∧ discounted.validate = .ok () := by
  have hbuilt : ∀ c ∈ discounted.conditions, c.Built := by
    intro c hc
    obtain rfl | rfl := List.mem_pair.1 hc
    · exact ⟨"discount", .atLeast, .inl ⟨.float 0.1, rfl⟩⟩
    · exact ⟨"tag", .member, .inr ⟨_, rfl⟩⟩
  have hstorable : ∀ c ∈ discounted.conditions, ∀ v ∈ c.operands,
      v.Storable (maxNesting - 4) := by
    intro c hc v hv
    obtain rfl | rfl := List.mem_pair.1 hc
    · obtain rfl := List.mem_singleton.1 hv
      exact .float (by decide +kernel)
    · have hitem : (Value.list [.bool true, .null]).Storable (maxNesting - 5) :=
        .list (List.forall_mem_cons.2 ⟨.bool true, List.forall_mem_singleton.2 .null⟩)
      have hobject : (Value.object [("until", .list [.bool true, .null])]).Storable
          (maxNesting - 4) :=
        .object (List.pairwise_singleton ..) (List.forall_mem_singleton.2 hitem)
      simp only [Condition.operands, Option.toList_none, List.nil_append, Option.getD_some,
        List.mem_cons, List.not_mem_nil, or_false] at hv
      obtain rfl | rfl | rfl := hv
      · exact .int ⟨by decide, by decide⟩
      · exact .text _
      · exact hobject
  obtain ⟨hread, hsame, hvalid, -, -, hfew⟩ := stored_conditions_reread hbuilt hstorable
  have hnull : ¬discounted.ComparesWithNull := by
    rintro ⟨c, hc, hvalue⟩
    obtain rfl | rfl := List.mem_pair.1 hc <;> cases hvalue
  have hfloats : ∀ x ∈ discounted.floats, Stored.reread x = x := by
    intro x hx
    obtain rfl := List.mem_singleton.1 hx
    have hshortest : Decimal.shortest 0.1 = ⟨1, -1⟩ := by decide +kernel
    refine hfew _ (by decide +kernel) ⟨?_, ?_⟩ <;> rw [hshortest] <;> decide
  rw [hsame.2 ⟨hnull, hfloats⟩] at hread hvalid
  exact ⟨hbuilt, hstorable, hread, hvalid.2 hnull⟩

/-- Orders without an item. -/
def withoutItem : ConditionGroup :=
  ⟨.all, [⟨⟨"item", rfl⟩, .equal, some .null, none⟩]⟩

/-- A comparison with null is accepted and holds where there is no value, until it is stored. -/
theorem null_operand_lost :
    (∀ c ∈ withoutItem.conditions, c.Built) ∧ withoutItem.validate = .ok () ∧
      withoutItem.holds .empty = true ∧
      ∃ g, ConditionGroup.ofText withoutItem.toText = .ok g ∧ g ≠ withoutItem ∧
        g.validate ≠ .ok () ∧ g.holds .empty = false := by
  have hbuilt : ∀ c ∈ withoutItem.conditions, c.Built :=
    List.forall_mem_singleton.2 ⟨"item", .equal, .inl ⟨.null, rfl⟩⟩
  have hstorable : ∀ c ∈ withoutItem.conditions, ∀ v ∈ c.operands,
      v.Storable (maxNesting - 4) :=
    List.forall_mem_singleton.2 (List.forall_mem_singleton.2 .null)
  have hnull : withoutItem.ComparesWithNull := ⟨_, List.mem_cons_self, rfl⟩
  exact ⟨hbuilt, rfl, by decide, _, ofText_toText hbuilt hstorable,
    fun h => (reread_eq_iff.1 h).1 hnull, fun h => (reread_validate_iff hbuilt).1 h hnull, rfl⟩

/-- Orders with one discount. -/
def discountedAt (x : Float) : ConditionGroup :=
  ⟨.all, [⟨⟨"discount", rfl⟩, .equal, some (.float x), none⟩]⟩

/-- A comparison with a float holds on other records after it was stored, if the float is read as the
    next one. -/
theorem float_operand_changed :
    (∀ c ∈ (discountedAt 0.9452706955539223).conditions, c.Built) ∧
      ConditionGroup.ofText (discountedAt 0.9452706955539223).toText =
        .ok (discountedAt 0.9452706955539224) ∧
      ∀ data : Fields, data.value "discount" = .float 0.9452706955539223 →
        (discountedAt 0.9452706955539223).holds data = true ∧
        (discountedAt 0.9452706955539224).holds data = false := by
  have hbuilt : ∀ c ∈ (discountedAt 0.9452706955539223).conditions, c.Built :=
    List.forall_mem_singleton.2 ⟨"discount", .equal, .inl ⟨.float _, rfl⟩⟩
  have hstorable : ∀ c ∈ (discountedAt 0.9452706955539223).conditions, ∀ v ∈ c.operands,
      v.Storable (maxNesting - 4) :=
    List.forall_mem_singleton.2 (List.forall_mem_singleton.2 (.float (by decide +kernel)))
  have hread : (discountedAt 0.9452706955539223).reread = discountedAt 0.9452706955539224 := by
    rw [← reread_next]
    rfl
  refine ⟨hbuilt, hread ▸ ofText_toText hbuilt hstorable, fun data hdata => ?_⟩
  have hequal : (0.9452706955539223 == (0.9452706955539223 : Float)) = true := by decide +kernel
  have hother : (0.9452706955539223 == (0.9452706955539224 : Float)) = false := by decide +kernel
  simp [holds, discountedAt, Condition.holds, hdata, matchesValue, isNumber, asNumber, hequal,
    hother]

end RecordApps
