import RecordApps.Proofs.RecordStore.Runs

/-! # Running out of numbers

A record may be loaded under any number that is not zero. The largest one leaves none for new
records: the sum that the next number would be overflows, and so it does for ever. Until then an app
goes on with the number after the largest one that it ever had.
-/

namespace RecordApps.RecordStore

variable {store : RecordStore} {code : String} {past : List RecordStore}
  {allowed : RecordStore → StoreWrite → Prop}

/-- Some record of the app had the largest number there is. -/
def Exhausted (stores : List RecordStore) (code : String) : Prop :=
  ∃ number, Held stores code number ∧ number + 1 = wordLimit

theorem Numbered.exhausted_iff (h : Numbered past store) :
    Exhausted (store :: past) code ↔ (store.app code).lastNumber + 1 = wordLimit := by
  have hword := (h.ordered code).word
  constructor
  · rintro ⟨number, hheld, hlimit⟩
    have hbound := h.bounded code number hheld
    omega
  · intro hlimit
    rcases h.attained code with hzero | hheld
    · rw [hzero] at hlimit
      exact absurd hlimit (by decide)
    · exact ⟨_, hheld, hlimit⟩

theorem insert_of_number (id : NonBlank) {number : ℕ} (data : Fields)
    (hnext : (store.app code).nextNumber = number) (hword : number < wordLimit) :
    store.insert code id.text data = .ok (⟨id, number, data⟩,
      store.withApp code ⟨number, (store.app code).records ++ [⟨id, number, data⟩]⟩) := by
  have hnumber : checkedWord (store.app code).nextNumber = .ok number :=
    checkedWord_eq_ok.2 ⟨hnext ▸ hword, hnext⟩
  have hmade : Record.make id.text number data = .ok ⟨id, number, data⟩ :=
    Record.make_eq_ok.2 ⟨hnext ▸ Nat.succ_ne_zero _, rfl, rfl, rfl⟩
  simp only [insert, hnumber, Outcome.ok_bind, hmade]
  rfl

theorem insert_overflows (id : String) (data : Fields)
    (hlimit : (store.app code).lastNumber + 1 = wordLimit) :
    store.insert code id data = .error .overflow := by
  have hnumber : checkedWord (store.app code).nextNumber = .error .overflow :=
    if_neg (not_lt.2 hlimit.ge)
  simp only [insert, hnumber, Outcome.error_bind]

/-- A new record gets the number after the largest one that a record of the app ever had, or one
    where there was none. Once that largest number is the last of 64 bits, its successor overflows,
    and nothing is added any more. -/
theorem insert_unless_exhausted (hrun : Run allowed past store) (id : NonBlank) (data : Fields) :
    (¬ Exhausted (store :: past) code → ∃ record after,
      store.insert code id.text data = .ok (record, after) ∧
      record.number < wordLimit ∧
      (∀ number, Held (store :: past) code number → number < record.number) ∧
      (record.number = 1 ∨
        ∃ number, Held (store :: past) code number ∧ record.number = number + 1)) ∧
    (Exhausted (store :: past) code → store.insert code id.text data = .error .overflow) := by
  have hnumbered := hrun.numbered
  have hword := (hnumbered.ordered code).word
  rw [hnumbered.exhausted_iff]
  refine ⟨fun hfree => ?_, insert_overflows id.text data⟩
  have hnext : (store.app code).lastNumber + 1 < wordLimit :=
    lt_of_le_of_ne hword hfree
  have hinsert := insert_of_number id data rfl hnext
  refine ⟨_, _, hinsert, hnext, hnumbered.insert_larger hinsert, ?_⟩
  rcases hnumbered.attained code with hzero | hheld
  · exact .inl (congrArg Nat.succ hzero)
  · exact .inr ⟨_, hheld, rfl⟩

/-- An order with the largest number. -/
def lastOrder : Record :=
  ⟨⟨"last", by decide⟩, wordLimit - 1, .empty⟩

def loadLast : StoreWrite :=
  .restore "orders" lastOrder (by decide)

theorem insert_unless_exhausted_orders :
    ∃ past store, Run StoreWrite.FreshId past store ∧ ¬ Exhausted (store :: past) "orders" ∧
      ∃ record after, store.insert "orders" "new" .empty = .ok (record, after) ∧
        oldOrder.number < record.number := by
  have hrun : Run StoreWrite.FreshId _ _ := .write loadOrder trivial .start
  have hfree : ¬ Exhausted [empty.serve loadOrder, empty] "orders" := by
    rw [hrun.numbered.exhausted_iff]
    decide
  obtain ⟨hinserted, -⟩ := insert_unless_exhausted hrun ⟨"new", by decide⟩ .empty
  obtain ⟨record, after, hinsert, -, hlarger, -⟩ := hinserted hfree
  exact ⟨_, _, hrun, hfree, record, after, hinsert,
    hlarger 7 (held_cons.2 (.inl ⟨oldOrder, List.mem_cons_self, rfl⟩))⟩

theorem last_order_blocks_insert :
    Record.make "last" (wordLimit - 1) .empty = .ok lastOrder ∧
    ∃ past store, Run StoreWrite.FreshId past store ∧ store.records "orders" = [lastOrder] ∧
      store.insert "orders" "new" .empty = .error .overflow := by
  have hrun : Run StoreWrite.FreshId _ _ := .write loadLast trivial .start
  exact ⟨Record.make_eq_ok.2 ⟨by decide, rfl, rfl, rfl⟩, _, _, hrun, rfl,
    insert_overflows "new" .empty (by decide)⟩

end RecordApps.RecordStore
