import RecordApps.Proofs.Decimal.Comparison
import RecordApps.Proofs.RecordStore.Runs
import RecordApps.Proofs.Records.Constraints
import RecordApps.Proofs.Value.Reading

/-! # Equal numbers and the same number

Conditions compare numbers by size, while filters, lookups and the check of unique fields compare
what is shown. A number is shown as it is stored, and read back from there, so that two numbers are
shown alike only if they are one number, written in one way. Of whole numbers on the one hand and of
floats on the other, this is the order of conditions again; a whole number and a float are never the
same to a filter.
-/

namespace RecordApps

namespace Value

/-- The numbers that records can hold: whole numbers of 64 bits and finite floats. -/
inductive Number : Value → Prop where
  | int {n : ℤ} (h : Stored.Machine n) : Number (.int n)
  | float {x : Float} (h : x.isFinite = true) : Number (.float x)

/-- Two whole numbers of at most 53 bits, or two floats that are not both zero. -/
inductive OneKind : Value → Value → Prop where
  | int {a b : ℤ} (ha : a.natAbs < 2 ^ 53) (hb : b.natAbs < 2 ^ 53) : OneKind (.int a) (.int b)
  | float {x y : Float} (hx : (x == 0.0) = false) : OneKind (.float x) (.float y)

namespace Number

variable {m n : Value}

theorem storable (h : m.Number) : m.Storable 0 := by
  cases h with
  | int h => exact .int h
  | float h => exact .float h

theorem asText_eq (h : m.Number) : m.asText = String.ofList m.written := by
  cases h <;> rfl

/-- Numbers that are shown alike are the same: whole numbers as they are read back from their texts,
    floats as their texts spell them. -/
theorem eq_of_asText (hm : m.Number) (hn : n.Number) (h : m.asText = n.asText) : m = n := by
  rw [hm.asText_eq, hn.asText_eq] at h
  have hread := hm.storable.value?_written Stored.delimited_nil
  rw [String.ofList_injective h, hn.storable.value?_written Stored.delimited_nil] at hread
  have hsame := (Prod.mk.inj (Option.some.inj hread)).1
  cases hm with
  | int =>
      cases hn with
      | int => exact hsame.symm
      | float => cases hsame
  | float hx =>
      cases hn with
      | int => cases hsame
      | float hy =>
          have htext : Decimal.storedText _ = Decimal.storedText _ :=
            String.toList_injective (String.ofList_injective h)
          exact congrArg Value.float (Stored.storedText_injective hx hy htext)

theorem asText_ne (h : m.Number) : m.asText ≠ "" := by
  obtain ⟨c, rest, hwritten, -⟩ := h.storable.opens
  rw [h.asText_eq, hwritten]
  simp

theorem isNull_eq (h : m.Number) : m.isNull = false := by
  cases h <;> rfl

theorem isEmptyValue_eq (h : m.Number) : m.isEmptyValue = false := by
  cases h <;> rfl

theorem matchesValue_self (h : m.Number) : m.matchesValue m = true := by
  cases h with
  | int h => exact Binary.ofInt_beq_self _
  | float h => exact Binary.beq_self_of_isFinite h

end Number

theorem OneKind.eq_of_matchesValue {m n : Value} (h : m.OneKind n)
    (hequal : m.matchesValue n = true) : m = n := by
  cases h with
  | int ha hb => exact congrArg Value.int (Binary.eq_of_ofInt_beq ha hb hequal)
  | float hx => exact congrArg Value.float (Binary.eq_of_beq_of_ne_zero hx hequal)

end Value

/-! ## Filters and lookups -/

section Filters

variable {data : Fields} {code : String} {n : Value}

theorem RecordFilter.holdsValue_iff (hm : (data.value code).Number) (hn : n.Number) :
    holdsValue data code n = true ↔ data.value code = n := by
  simp only [holdsValue, hm.isNull_eq, Bool.not_false, Bool.true_and, beq_iff_eq]
  exact ⟨hm.eq_of_asText hn, congrArg Value.asText⟩

theorem Condition.holds_equal {c : Condition} (hoperator : c.operator = .equal)
    (hvalue : c.value = some n) : c.holds data = (data.value c.field.text).matchesValue n := by
  simp only [holds, hoperator, hvalue, Option.any_some]

end Filters

namespace LookupConfig

variable {config : LookupConfig} {store : RecordStore} {key : Value} {record found : Record}

theorem exists_source? (hkey : key.Number) (hrecord : record ∈ store.records config.app)
    (h : record.value config.keyField = key) :
    ∃ found ∈ store.records config.app, config.source? store key = some found := by
  have hnumber : (record.value config.keyField).Number := h ▸ hkey
  have hholds : RecordFilter.holdsValue record.data config.keyField key = true :=
    (RecordFilter.holdsValue_iff hnumber hkey).2 h
  have hsome : ((store.records config.app).find? fun record =>
      RecordFilter.holdsValue record.data config.keyField key).isSome = true :=
    List.find?_isSome.2 ⟨record, hrecord, hholds⟩
  obtain ⟨found, hfound⟩ := Option.isSome_iff_exists.1 hsome
  rw [config.source?_eq_find? store hkey.asText_ne]
  exact ⟨found, List.mem_of_find?_eq_some hfound, hfound⟩

/-- What is found holds the number that was looked for, if it holds a number. -/
theorem value_of_source? (hkey : key.Number) (h : config.source? store key = some found)
    (hnumber : (found.value config.keyField).Number) : found.value config.keyField = key := by
  rw [config.source?_eq_find? store hkey.asText_ne] at h
  have hholds : RecordFilter.holdsValue found.data config.keyField key = true := by
    simpa using List.find?_some h
  exact (RecordFilter.holdsValue_iff hnumber hkey).1 hholds

end LookupConfig

theorem Value.Number.ne_of_not_collide {code : String} {a b : Fields} {m n : Value}
    (h : ¬Collide code a b) (ha : a.get? code = some m) (hb : b.get? code = some n)
    (hm : m.Number) (hn : n.Number) : m ≠ n := by
  rintro rfl
  exact h ⟨m, m, ha, hb, hm.isEmptyValue_eq, hm.isEmptyValue_eq, rfl⟩

namespace Workspace

/-- Equal numbers are matched where they are the same number. A filter for a number wants just the
    records that hold the same one, which conditions then find equal too; and numbers of one kind
    that conditions find equal are the same, so that a filter wants them. Along any run of requests
    about records, from a workspace in which an app has none, no two records hold the same number in
    a unique field, nor two of one kind that conditions find equal. A lookup with a number for its
    key finds a record if one holds that number, and nothing that holds another number. -/
theorem numbers_matched_if_same {ids : Nat → String} {start ws : Workspace} {app : AppId}
    {schema : AppSchema} (hinjective : Function.Injective ids) (hdefines : start.Defines app schema)
    (hstart : start.store.records schema.code.text = []) (hruns : start.RecordRuns ids ws) :
    (∀ (c : Condition) (data : Fields) (n : Value), c.operator = .equal → c.value = some n →
      (data.value c.field.text).Number → n.Number →
        ((RecordFilter.having c.field.text n).accepts data = true ↔
          data.value c.field.text = n) ∧
        ((RecordFilter.having c.field.text n).accepts data = true → c.holds data = true) ∧
        (c.holds data = true → (data.value c.field.text).OneKind n →
          (RecordFilter.having c.field.text n).accepts data = true)) ∧
    (∀ f ∈ schema.activeFields, f.unique = true →
      (ws.store.records schema.code.text).Pairwise fun a b => ∀ m n,
        a.data.get? f.code.text = some m → b.data.get? f.code.text = some n →
        m.Number → n.Number → m ≠ n ∧ (m.OneKind n → m.matchesValue n = false)) ∧
    ∀ (store : RecordStore) (config : LookupConfig) (key : Value), key.Number →
      (∀ record ∈ store.records config.app, record.value config.keyField = key →
        ∃ found ∈ store.records config.app, config.source? store key = some found) ∧
      ∀ found, config.source? store key = some found →
        (found.value config.keyField).Number → found.value config.keyField = key := by
  refine ⟨?_, ?_, ?_⟩
  · intro c data n hoperator hvalue hm hn
    have haccepts : (RecordFilter.having c.field.text n).accepts data = true ↔
        data.value c.field.text = n := by
      rw [← RecordFilter.holdsValue_iff hm hn]
      simp [RecordFilter.accepts, RecordFilter.having]
    rw [Condition.holds_equal hoperator hvalue, haccepts]
    refine ⟨Iff.rfl, fun hsame => ?_, fun hequal hkind => hkind.eq_of_matchesValue hequal⟩
    rw [hsame]
    exact hn.matchesValue_self
  · intro f hf hunique
    have hinvariant := hruns.invariant (P := fun ws => ws.Distinct ids schema) hdefines
      (.of_nil hstart) fun hids hdefined hwrites h =>
        h.writes hinjective hids hdefined.schema_valid hwrites
    refine (hinvariant.2.apart f hf hunique).imp fun hapart m n ha hb hm hn => ?_
    have hne := Value.Number.ne_of_not_collide hapart ha hb hm hn
    exact ⟨hne, fun hkind => Bool.eq_false_iff.2 fun hequal => hne (hkind.eq_of_matchesValue hequal)⟩
  · intro store config key hkey
    exact ⟨fun record hrecord h => LookupConfig.exists_source? hkey hrecord h,
      fun found h hnumber => LookupConfig.value_of_source? hkey h hnumber⟩

end Workspace

/-- Numbers that conditions find equal and filters do not: a whole number and a float, whole numbers
    with the same float, and the two zeros. -/
theorem equal_numbers_not_matched :
    ([(Value.int 2, Value.float 2.0), (.int (2 ^ 53), .int (2 ^ 53 + 1)),
        (.float 0.0, .float (-0.0))].all fun (m, n) =>
      let data : Fields := .ofList [("count", m)]
      (Condition.mk ⟨"count", by decide⟩ .equal (some n) none).holds data &&
        !(RecordFilter.having "count" n).accepts data) = true := by
  decide +kernel

namespace Orders

/-- Orders whose count is unique. -/
def countedSchema : AppSchema :=
  { schema with
    processEnabled := false
    fields := [{ line ⟨"count", by decide⟩ with type := .number none none, unique := true }] }

/-- The app with these orders, where the clerk may add them. -/
def counted : Workspace :=
  (Workspace.empty.serve settings (.schemas (.save countedSchema))).serve settings
    (.permissions (.saveApp clerkRow))

/-- The clerk adds an order of two, and once more with the two as a float. -/
def twos : Workspace :=
  (counted.serve settings (.records clerk app (.create (.ofList [("count", .int 2)])))).serve
    settings (.records clerk app (.create (.ofList [("count", .float 2.0)])))

end Orders

namespace Workspace

/-- In the small app, both orders are there, as their counts are two numbers. -/
theorem numbers_matched_if_same_orders :
    Orders.counted.Defines Orders.app Orders.countedSchema ∧
    Orders.counted.store.records "orders" = [] ∧
    Orders.counted.RecordRuns Orders.settings.newRecordId Orders.twos ∧
    (Orders.twos.store.records "orders").length = 2 ∧
    (Orders.twos.store.records "orders").Pairwise fun a b => ∀ m n,
      a.data.get? "count" = some m → b.data.get? "count" = some n →
      m.Number → n.Number → m ≠ n ∧ (m.OneKind n → m.matchesValue n = false) := by
  have hreachable : Orders.counted.Reachable := Reachable.empty.served _ _ |>.served _ _
  have hdefines : Orders.counted.Defines Orders.app Orders.countedSchema :=
    ⟨hreachable.coherent, rfl, rfl⟩
  have hruns : Orders.counted.RecordRuns Orders.settings.newRecordId Orders.twos :=
    .step _ _ _ _ rfl (.step _ _ _ _ rfl .nil)
  obtain ⟨-, hunique, -⟩ :=
    numbers_matched_if_same Orders.newRecordId_injective hdefines rfl hruns
  exact ⟨hdefines, rfl, hruns, by decide +kernel, hunique _ List.mem_cons_self rfl⟩

end Workspace

end RecordApps
