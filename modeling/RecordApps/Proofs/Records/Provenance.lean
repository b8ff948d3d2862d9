import RecordApps.Proofs.Records.Constraints
import RecordApps.Proofs.Records.Identity

/-! # Where records come from

A desk is a workspace together with the records its callers have read so far, and a log of the
writes that were answered. Records are moved as they were read, perhaps long ago. Still every
stored record bears the number it was made with, the name of its maker and that of its last
writer: a caller can only hand back what the engine has written there before.
-/

namespace RecordApps

/-- A note that a record was written: by whom and when, and under which code and number it was
    made, if this write has made it. -/
structure LogEntry where
  id : String
  actor : Actor
  now : String
  place : Option (String × Nat)

/-- Where the next record of an app is put. -/
def Workspace.nextPlace? (ws : Workspace) (app : AppId) : Option (String × Nat) :=
  (ws.schemas.get? app).map fun schema =>
    (schema.code.text, (ws.store.app schema.code.text).nextNumber)

/-- The write that a call has made, told from its answer: a creation, an update, or a move. -/
def ServiceCall.noted? (settings : Settings) (ws : Workspace) :
    {α : Type} → ServiceCall α → α → Option LogEntry
  | _, .records actor app (.create _), _ =>
      some ⟨settings.newRecordId (ws.created + 1), actor, settings.now, ws.nextPlace? app⟩
  | _, .records actor _ (.update id _), _ => some ⟨id, actor, settings.now, none⟩
  | _, .records actor _ (.act id _), .applied _ _ _ _ => some ⟨id, actor, settings.now, none⟩
  | _, .processes (.transition actor _ record _), .applied _ _ _ =>
      some ⟨record.id.text, actor, settings.now, none⟩
  | _, _, _ => none

/-- A workspace, the records that were read, and the writes that were made, newest first. -/
structure Desk where
  ws : Workspace
  held : List Record
  log : List LogEntry

namespace Desk

/-- Nothing was read or written yet. -/
def opened (ws : Workspace) : Desk :=
  ⟨ws, [], []⟩

/-- The writes of a record, newest first. -/
def history (d : Desk) (id : String) : List LogEntry :=
  d.log.filter (·.id == id)

/-- The calls of a run: requests about records, and moves of records that were read. -/
def Offers (d : Desk) : {α : Type} → ServiceCall α → Prop
  | _, .records _ _ _ => True
  | _, .processes (.transition _ _ record _) => record ∈ d.held
  | _, _ => False

inductive Step (ids : Nat → String) : Desk → Desk → Prop where
  | answered {α : Type} {d : Desk} (settings : Settings) (call : ServiceCall α) {answer : α}
      {ws' : Workspace} : settings.newRecordId = ids → d.Offers call →
      Engine.run settings d.ws call.perform = (.ok answer, ws') →
      Step ids d ⟨ws', d.held, (call.noted? settings d.ws answer).toList ++ d.log⟩
  | refused {α : Type} {d : Desk} (settings : Settings) (call : ServiceCall α) {fault : Fault}
      {ws' : Workspace} : Engine.run settings d.ws call.perform = (.error fault, ws') →
      Step ids d { d with ws := ws' }
  | read {d : Desk} (code : String) {record : Record} : record ∈ d.ws.store.records code →
      Step ids d { d with held := record :: d.held }

/-- Any number of steps, with record ids from one supply. -/
def Run (ids : Nat → String) : Desk → Desk → Prop :=
  Relation.ReflTransGen (Step ids)

theorem history_cons (d : Desk) (ws : Workspace) (held : List Record) (entry : LogEntry)
    (id : String) :
    (Desk.mk ws held (entry :: d.log)).history id =
      if entry.id = id then entry :: d.history id else d.history id := by
  simp only [history, List.filter_cons, beq_iff_eq]

end Desk

namespace Record

/-- The record was made by a write: it is where that has put it, and it names who and when. No
    value stands for its number. -/
structure MadeBy (record : Record) (code : String) (made : LogEntry) : Prop where
  place : made.place = some (code, record.number)
  createdBy : record.data.get? Key.createdBy = some (.text made.actor.id)
  createdAt : record.data.get? Key.createdAt = some (.text made.now)
  unnumbered : record.data.get? Key.recordNumber = none

/-- The record names who has written it and when. -/
structure WrittenBy (record : Record) (last : LogEntry) : Prop where
  updatedBy : record.data.get? Key.updatedBy = some (.text last.actor.id)
  updatedAt : record.data.get? Key.updatedAt = some (.text last.now)

variable {record stored : Record} {code : String}

section Drafts

variable {schema : AppSchema} {actor : Actor} {now : String} {input : Fields}
  {status : Option String} (h : ∀ key, Key.isReserved key = true → record.data.get? key =
    (withStatus (stampCreated actor now (schema.freeStatus input)) status).get? key)

include h

theorem drafted_writtenBy (id : String) (place : Option (String × Nat)) :
    record.WrittenBy ⟨id, actor, now, place⟩ := by
  constructor
  · rw [h _ (by decide)]
    cases status <;> simp [withStatus, stampCreated, stampModified, Key.updatedBy, Key.updatedAt,
      Key.status]
  · rw [h _ (by decide)]
    cases status <;> simp [withStatus, stampCreated, stampModified, Key.updatedAt, Key.status]

theorem drafted_madeBy (id : String) :
    record.MadeBy code ⟨id, actor, now, some (code, record.number)⟩ := by
  constructor
  · rfl
  · rw [h _ (by decide)]
    cases status <;> simp [withStatus, stampCreated, stampModified, Key.createdBy, Key.createdAt,
      Key.updatedBy, Key.updatedAt, Key.status]
  · rw [h _ (by decide)]
    cases status <;> simp [withStatus, stampCreated, stampModified, Key.createdAt, Key.updatedBy,
      Key.updatedAt, Key.status]
  · have hnone : (schema.freeStatus input).get? Key.recordNumber = none :=
      schema.freeStatus_get?_other (by decide) input
    rw [h _ (by decide)]
    cases status <;> simpa [withStatus, stampCreated, stampModified, Key.createdBy, Key.createdAt,
      Key.updatedBy, Key.updatedAt, Key.status, Key.recordNumber] using hnone

end Drafts

theorem MadeBy.of_metadata {made : LogEntry} (h : stored.MadeBy code made)
    (hnumber : record.number = stored.number)
    (hdata : ∀ key, Key.isReserved key = true → key ∉ Key.changing →
      record.data.get? key = stored.data.get? key) : record.MadeBy code made where
  place := hnumber ▸ h.place
  createdBy := (hdata _ (by decide) (by decide)).trans h.createdBy
  createdAt := (hdata _ (by decide) (by decide)).trans h.createdAt
  unnumbered := (hdata _ (by decide) (by decide)).trans h.unnumbered

theorem stamped_writtenBy {actor : Actor} {now : String} {data : Fields}
    (h : ∀ key, Key.isReserved key = true →
      record.data.get? key = (stampModified actor now data).get? key) (id : String) :
    record.WrittenBy ⟨id, actor, now, none⟩ := by
  constructor
  · rw [h _ (by decide)]
    simp [stampModified, Key.updatedBy, Key.updatedAt]
  · rw [h _ (by decide)]
    simp [stampModified]

end Record

/-- What the log knows of the records that are stored or held. -/
structure Ledger (ids : Nat → String) (d : Desk) : Prop where
  sound : d.ws.Sound
  identified : d.ws.Identified ids
  logged : ∀ {entry}, entry ∈ d.log → ∃ n ≤ d.ws.created, entry.id = ids n
  held : ∀ {record}, record ∈ d.held → ∃ code made,
    (d.history record.id.text).getLast? = some made ∧ record.MadeBy code made
  stored : ∀ {code record}, record ∈ d.ws.store.records code → ∃ made,
    (d.history record.id.text).getLast? = some made ∧ record.MadeBy code made
  latest : ∀ {code record}, record ∈ d.ws.store.records code → ∃ last,
    (d.history record.id.text).head? = some last ∧ record.WrittenBy last

namespace Ledger

variable {ids : Nat → String} {d d' : Desk} {settings : Settings} {ws' : Workspace} {actor : Actor}
  {app : AppId}

theorem opened {start : Workspace} (hsound : start.Sound)
    (hempty : ∀ code, start.store.records code = []) : Ledger ids (.opened start) where
  sound := hsound
  identified := .of_nil hempty
  logged hmem := by cases hmem
  held hmem := by cases hmem
  stored hmem := by simp [Desk.opened, hempty] at hmem
  latest hmem := by simp [Desk.opened, hempty] at hmem

/-! ## One step -/

theorem unwritten (h : Ledger ids d) (hsound : ws'.Sound) (hidentified : ws'.Identified ids)
    (hcreated : d.ws.created ≤ ws'.created)
    (hrecords : ∀ {code b}, b ∈ ws'.store.records code → b ∈ d.ws.store.records code) :
    Ledger ids ⟨ws', d.held, d.log⟩ where
  sound := hsound
  identified := hidentified
  logged hmem := by
    obtain ⟨n, hn, hgiven⟩ := h.logged hmem
    exact ⟨n, hn.trans hcreated, hgiven⟩
  held := h.held
  stored hmem := h.stored (hrecords hmem)
  latest hmem := h.latest (hrecords hmem)

theorem written (h : Ledger ids d) (hsound : ws'.Sound) (hidentified : ws'.Identified ids)
    (hcreated : d.ws.created ≤ ws'.created) {entry : LogEntry}
    (hgiven : ∃ n ≤ ws'.created, entry.id = ids n)
    (hrecords : ∀ {code b}, b ∈ ws'.store.records code →
      b ∈ d.ws.store.records code ∧ b.id.text ≠ entry.id ∨
        b.id.text = entry.id ∧ b.WrittenBy entry ∧ ∃ made,
          (entry :: d.history entry.id).getLast? = some made ∧ b.MadeBy code made) :
    Ledger ids ⟨ws', d.held, entry :: d.log⟩ where
  sound := hsound
  identified := hidentified
  logged hmem := by
    rcases List.mem_cons.1 hmem with rfl | hmem
    · exact hgiven
    · obtain ⟨n, hn, hlogged⟩ := h.logged hmem
      exact ⟨n, hn.trans hcreated, hlogged⟩
  held hmem := by
    obtain ⟨code, made, hmade, hby⟩ := h.held hmem
    refine ⟨code, made, ?_, hby⟩
    rw [Desk.history_cons]
    split
    · rw [List.getLast?_cons, hmade, Option.getD_some]
    · exact hmade
  stored hmem := by
    rw [Desk.history_cons]
    rcases hrecords hmem with ⟨hmem, hother⟩ | ⟨hid, -, hmade⟩
    · rw [if_neg hother.symm]
      exact h.stored hmem
    · rw [if_pos hid.symm, hid]
      exact hmade
  latest hmem := by
    rw [Desk.history_cons]
    rcases hrecords hmem with ⟨hmem, hother⟩ | ⟨hid, hby, -⟩
    · rw [if_neg hother.symm]
      exact h.latest hmem
    · rw [if_pos hid.symm]
      exact ⟨entry, rfl, hby⟩

theorem history_fresh (hinjective : Function.Injective ids) (h : Ledger ids d) :
    d.history (ids (d.ws.created + 1)) = [] := by
  rw [Desk.history, List.filter_eq_nil_iff]
  intro entry hmem hsame
  obtain ⟨n, hn, hgiven⟩ := h.logged hmem
  have heq := hinjective (hgiven.symm.trans (beq_iff_eq.1 hsame))
  omega

open Engine

theorem created (hinjective : Function.Injective ids) (hids : settings.newRecordId = ids)
    (h : Ledger ids d) {input : Fields} {outcome : MutationOutcome}
    (ran : run settings d.ws (createRecord actor app input) = (.ok outcome, ws')) :
    Ledger ids ⟨ws', d.held,
      ⟨settings.newRecordId (d.ws.created + 1), actor, settings.now, d.ws.nextPlace? app⟩ ::
        d.log⟩ := by
  have hsound := h.sound.answered (.records actor app (.create input)) ran
  have hidentified := h.identified.answered hinjective hids h.sound.ordered
    (.records actor app (.create input)) ran
  obtain ⟨schema, refresh, record, store, hschema, hdraft, hinsert, rfl, -⟩ := createRecord_ok ran
  obtain ⟨-, hid, hnumber, hdata, -⟩ := RecordStore.insert_ok hinsert
  obtain ⟨status, -, hmetadata⟩ := Workspace.draft_metadata (h.sound.schema_valid hschema) hdraft
  refine h.written hsound hidentified (Nat.le_succ _) ⟨_, le_refl _, congrFun hids _⟩ ?_
  intro code b hb
  rcases RecordStore.mem_of_insert hinsert hb with hb | ⟨rfl, rfl⟩
  · exact .inl ⟨hb, h.identified.fresh hinjective hb (congrFun hids _)⟩
  · rw [← hdata] at hmetadata
    have hplace : d.ws.nextPlace? app = some (schema.code.text, b.number) := by
      rw [Workspace.nextPlace?, hschema, hnumber]
      rfl
    refine .inr ⟨hid, Record.drafted_writtenBy hmetadata _ _, _, ?_,
      Record.drafted_madeBy hmetadata (settings.newRecordId (d.ws.created + 1))⟩
    rw [hids, h.history_fresh hinjective, hplace]
    rfl

theorem updated (hinjective : Function.Injective ids) (hids : settings.newRecordId = ids)
    (h : Ledger ids d) {id : String} {changes : Fields} {outcome : MutationOutcome}
    (ran : run settings d.ws (updateRecord actor app id changes) = (.ok outcome, ws')) :
    Ledger ids ⟨ws', d.held, ⟨id, actor, settings.now, none⟩ :: d.log⟩ := by
  have hsound := h.sound.answered (.records actor app (.update id changes)) ran
  have hidentified := h.identified.answered hinjective hids h.sound.ordered
    (.records actor app (.update id changes)) ran
  obtain ⟨schema, stored, refresh, store, hschema, hstored, hrevision, hupdate, rfl, -⟩ :=
    updateRecord_ok ran
  obtain ⟨hmem, rfl⟩ := h.identified.find?_iff.1 hstored
  have hvalid := h.sound.schema_valid hschema
  refine h.written hsound hidentified (le_refl _) (h.identified.given hmem) ?_
  intro code b hb
  rcases h.identified.mem_of_update h.sound.ordered hupdate hb with hb | ⟨rfl, rfl⟩
  · exact .inl hb
  · obtain ⟨made, hmade, hby⟩ := h.stored hmem
    refine .inr ⟨rfl, ?_, made, ?_, ?_⟩
    · exact Record.stamped_writtenBy (fun key => Workspace.revision_metadata hvalid hrevision) _
    · rw [List.getLast?_cons, hmade, Option.getD_some]
    · exact hby.of_metadata rfl fun key => Workspace.revision_get?_other hvalid hrevision

theorem moved (hinjective : Function.Injective ids) (hids : settings.newRecordId = ids)
    (h : Ledger ids d) {schema : AppSchema} {record next : Record} {action source target : String}
    (hknown : ∃ code made, (d.history record.id.text).getLast? = some made ∧
      record.MadeBy code made)
    (ran : run settings d.ws (transition actor schema record action) =
      (.ok (.applied next source target), ws')) :
    Ledger ids ⟨ws', d.held, ⟨record.id.text, actor, settings.now, none⟩ :: d.log⟩ := by
  have hsound := h.sound.answered (.processes (.transition actor schema record action)) ran
  have hidentified := h.identified.answered hinjective hids h.sound.ordered
    (.processes (.transition actor schema record action)) ran
  obtain ⟨_, -, hrejected, -⟩ | ⟨taken, store, -, hupdate, -, rfl⟩ := transition_ok ran
  · cases hrejected
  obtain ⟨stored, _, _, hstored, -, hnumber, hid, -⟩ := RecordStore.update_ok hupdate
  have hmem := RecordStore.mem_of_find? hstored
  obtain ⟨code, made, hmade, hby⟩ := hknown
  have hplace : made.place = some (schema.code.text, record.number) := by
    obtain ⟨made', hmade', hby'⟩ := h.stored hmem
    rw [show stored.id.text = record.id.text from hid, hmade] at hmade'
    obtain rfl := Option.some.inj hmade'
    rw [hby'.place, hnumber]
    rfl
  refine h.written hsound hidentified (le_refl _) ?_ ?_
  · obtain ⟨n, hn, hgiven⟩ := h.identified.given hmem
    exact ⟨n, hn, hid.symm.trans hgiven⟩
  · intro other b hb
    rcases h.identified.mem_of_update h.sound.ordered hupdate hb with hb | ⟨rfl, rfl⟩
    · exact .inl hb
    · refine .inr ⟨rfl, Record.stamped_writtenBy (fun _ _ => rfl) _, made, ?_, ?_⟩
      · rw [List.getLast?_cons]
        exact congrArg (fun last => some (Option.getD last _)) hmade
      · have hby : record.MadeBy schema.code.text made := { hby with place := hplace }
        exact hby.of_metadata rfl fun key _ => record.moved_get?_other actor settings.now taken

theorem acted (hinjective : Function.Injective ids) (hids : settings.newRecordId = ids)
    (h : Ledger ids d) {id action : String} {answer : ActionOutcome}
    (ran : run settings d.ws (executeAction actor app id action) = (.ok answer, ws')) :
    Ledger ids ⟨ws', d.held, ((ServiceCall.records actor app (.act id action)).noted? settings d.ws
      answer).toList ++ d.log⟩ := by
  obtain ⟨schema, record, outcome, -, hrecord, -, hmoved, htold⟩ := executeAction_ok ran
  obtain ⟨hmem, rfl⟩ := h.identified.find?_iff.1 hrecord
  cases answer with
  | rejected reason =>
      obtain rfl := executeAction_rejected_unchanged ran
      exact h
  | applied source target view notifications =>
      cases outcome with
      | rejected => exact htold.elim
      | applied next source' target' => exact h.moved hinjective hids ⟨_, h.stored hmem⟩ hmoved

theorem recordCall (hinjective : Function.Injective ids) (hids : settings.newRecordId = ids)
    (h : Ledger ids d) {α : Type} (call : RecordCall α) {answer : α}
    (ran : run settings d.ws (call.perform actor app) = (.ok answer, ws')) :
    Ledger ids ⟨ws', d.held,
      ((ServiceCall.records actor app call).noted? settings d.ws answer).toList ++ d.log⟩ := by
  have hsound := h.sound.answered (.records actor app call) ran
  have hidentified := h.identified.answered hinjective hids h.sound.ordered
    (.records actor app call) ran
  cases call with
  | create input => exact h.created hinjective hids ran
  | update id changes => exact h.updated hinjective hids ran
  | act id action => exact h.acted hinjective hids ran
  | delete id =>
      obtain ⟨_, _, store, -, -, -, hdelete, rfl, -⟩ := deleteRecord_ok ran
      exact h.unwritten hsound hidentified (le_refl _) (RecordStore.mem_of_delete hdelete)
  | assign id assignees =>
      obtain ⟨_, _, -, -, -, -, assigned⟩ := assignRecord_ok ran
      obtain ⟨_, -, rfl⟩ := assign_ok assigned
      exact h.unwritten hsound hidentified (le_refl _) fun hb => hb
  | read | list | related | actions | comment =>
      obtain rfl := (recordCall_onlyReads rfl).unchanged ran
      exact h

theorem step (hinjective : Function.Injective ids) (h : Ledger ids d) (hstep : Desk.Step ids d d') :
    Ledger ids d' := by
  cases hstep with
  | @answered α _ settings call answer ws' hids hoffered ran =>
      cases call with
      | records actor app call => exact h.recordCall hinjective hids call ran
      | processes call =>
          cases call with
          | transition actor schema record action =>
              cases answer with
              | rejected reason =>
                  obtain rfl := transition_rejected_unchanged ran
                  exact h
              | applied next source target => exact h.moved hinjective hids (h.held hoffered) ran
          | save | switch | initialStatus | assign | actions => exact hoffered.elim
      | schemas | permissions | notifications => exact hoffered.elim
  | @refused α _ settings call fault ws' ran =>
      obtain rfl := serviceCall_atomic call settings d.ws fault ws' ran
      exact h
  | read code hmem =>
      refine { h with held := fun hheld => ?_ }
      rcases List.mem_cons.1 hheld with rfl | hheld
      · exact ⟨_, h.stored hmem⟩
      · exact h.held hheld

/-! ## Runs -/

theorem along (hinjective : Function.Injective ids) (h : Ledger ids d) (hrun : d.Run ids d') :
    Ledger ids d' := by
  induction hrun with
  | refl => exact h
  | tail _ hstep ih => exact ih.step hinjective hstep

end Ledger

namespace Desk

variable {ids : Nat → String} {d d' : Desk}

theorem Run.log (hrun : d.Run ids d') : ∃ later, d'.log = later ++ d.log := by
  induction hrun with
  | refl => exact ⟨[], rfl⟩
  | tail _ hstep ih =>
      obtain ⟨later, hlog⟩ := ih
      cases hstep with
      | answered => exact ⟨_ ++ later, by rw [hlog, List.append_assoc]⟩
      | refused | read => exact ⟨later, hlog⟩

theorem Run.history_getLast? (hrun : d.Run ids d') {id : String} {made : LogEntry}
    (h : (d.history id).getLast? = some made) : (d'.history id).getLast? = some made := by
  obtain ⟨later, hlog⟩ := hrun.log
  rw [history, hlog, List.filter_append, List.getLast?_append]
  exact congrArg (Option.or · _) h

end Desk

/-- Two records that were made as one: what names the making is the same. -/
structure Record.SameOrigin (a b : Record) : Prop where
  number : b.number = a.number
  createdBy : b.data.get? Key.createdBy = a.data.get? Key.createdBy
  createdAt : b.data.get? Key.createdAt = a.data.get? Key.createdAt

theorem Record.MadeBy.sameOrigin {a b : Record} {code code' : String} {made : LogEntry}
    (ha : a.MadeBy code made) (hb : b.MadeBy code' made) : code = code' ∧ a.SameOrigin b := by
  obtain ⟨hcode, hnumber⟩ := Prod.mk.inj (Option.some.inj (ha.place.symm.trans hb.place))
  exact ⟨hcode, hnumber.symm, hb.createdBy.trans ha.createdBy.symm,
    hb.createdAt.trans ha.createdAt.symm⟩

namespace Engine

variable {ids : Nat → String} {start : Workspace} {d : Desk}

/-- The metadata belong to the engine. After any run, a stored record names its maker and its last
    writer, and stands where its making has put it; whatever happens later does not change who made
    it, when, and its number. Of a payload, creations and updates take nothing for the metadata but
    a free status. -/
theorem metadata_belongs_to_engine (hinjective : Function.Injective ids) (hsound : start.Sound)
    (hempty : ∀ code, start.store.records code = []) (hrun : (Desk.opened start).Run ids d) :
    (∀ code, ∀ record ∈ d.ws.store.records code,
      (∃ made, (d.history record.id.text).getLast? = some made ∧ record.MadeBy code made) ∧
      ∃ last, (d.history record.id.text).head? = some last ∧ record.WrittenBy last) ∧
    (∀ d', d.Run ids d' → ∀ code code', ∀ a ∈ d.ws.store.records code,
      ∀ b ∈ d'.ws.store.records code', a.id = b.id → code = code' ∧ a.SameOrigin b) ∧
    (∀ settings actor app input outcome ws',
      run settings d.ws (createRecord actor app input) = (.ok outcome, ws') →
      ∃ schema status record, d.ws.schemas.get? app = some schema ∧
        d.ws.initialStatus schema = .ok status ∧
        ws'.store.records schema.code.text = d.ws.store.records schema.code.text ++ [record] ∧
        ∀ key, Key.isReserved key = true → record.data.get? key =
          (withStatus (stampCreated actor settings.now (schema.freeStatus input)) status).get? key) ∧
    ∀ settings actor app id changes outcome ws',
      run settings d.ws (updateRecord actor app id changes) = (.ok outcome, ws') →
      ∃ schema stored next, d.ws.schemas.get? app = some schema ∧
        d.ws.store.find? schema.code.text id = some stored ∧
        ws'.store.find? schema.code.text id = some next ∧
        ∀ key, Key.isReserved key = true → next.data.get? key =
          (stampModified actor settings.now
            (stored.data.insertAll (schema.freeStatus changes).entries)).get? key := by
  have hledger : Ledger ids d := (Ledger.opened hsound hempty).along hinjective hrun
  refine ⟨?_, ?_, ?_, ?_⟩
  · intro code record hmem
    exact ⟨hledger.stored hmem, hledger.latest hmem⟩
  · intro d' hlater code code' a ha b hb hid
    obtain ⟨made, hmade, hby⟩ := hledger.stored ha
    obtain ⟨made', hmade', hby'⟩ := (hledger.along hinjective hlater).stored hb
    rw [← hid, hlater.history_getLast? hmade] at hmade'
    obtain rfl := Option.some.inj hmade'
    exact hby.sameOrigin hby'
  · intro settings actor app input outcome ws' ran
    obtain ⟨schema, refresh, record, store, hschema, hdraft, hinsert, rfl, -⟩ := createRecord_ok ran
    obtain ⟨status, hstatus, hmetadata⟩ :=
      Workspace.draft_metadata (hledger.sound.schema_valid hschema) hdraft
    obtain ⟨-, -, -, hdata, rfl⟩ := RecordStore.insert_ok hinsert
    refine ⟨schema, status, record, hschema, hstatus, ?_, hdata ▸ hmetadata⟩
    exact (RecordStore.records_withApp _ _ _ _).trans (if_pos rfl)
  · intro settings actor app id changes outcome ws' ran
    obtain ⟨schema, stored, refresh, store, hschema, hstored, hrevision, hupdate, rfl, -⟩ :=
      updateRecord_ok ran
    obtain rfl := RecordStore.find?_id hstored
    refine ⟨schema, stored, { stored with data := refresh.data }, hschema, hstored,
      RecordStore.find?_update hupdate, fun key => ?_⟩
    exact Workspace.revision_metadata (hledger.sound.schema_valid hschema) hrevision

end Engine

namespace Orders

/-- A user for whom there is no row. -/
def porter : Actor :=
  { clerk with id := "porter" }

/-- The clerk has created the first order. -/
def entered : Desk where
  ws := workspace
  held := []
  log := [⟨"r", clerk, settings.now, some ("orders", 1)⟩]

/-- It has been read. -/
def seen : Desk :=
  { entered with held := [order ""] }

theorem seen_run : (Desk.opened defined).Run settings.newRecordId seen := by
  obtain ⟨outcome, ran⟩ : ∃ outcome, Engine.run settings defined
      (ServiceCall.records clerk app (.create (.ofList [("item", .text "tea")]))).perform =
        (.ok outcome, workspace) := ⟨_, rfl⟩
  have hentered : (Desk.opened defined).Step settings.newRecordId entered := by
    refine @Desk.Step.answered _ _ (.opened defined) settings _ _ _ rfl ?_ ran
    trivial
  have hstored : workspace.store.records "orders" = [order ""] := rfl
  have hmem : order "" ∈ workspace.store.records "orders" := by
    rw [hstored]
    exact List.mem_singleton_self _
  exact .tail (.single hentered) (@Desk.Step.read _ entered "orders" _ hmem)

/-- The porter has finished it, as it was read. -/
def carried : Desk where
  ws := workspace.serve settings (.processes (.transition porter schema (order "") "finish"))
  held := seen.held
  log := ⟨"r", porter, settings.now, none⟩ :: seen.log

theorem seen_carried : seen.Step settings.newRecordId carried := by
  obtain ⟨next, ran⟩ : ∃ next, Engine.run settings workspace
      (ServiceCall.processes (.transition porter schema (order "") "finish")).perform =
        (.ok (.applied next "open" "done"), carried.ws) := ⟨_, rfl⟩
  exact @Desk.Step.answered _ _ seen settings _ _ _ rfl List.mem_cons_self ran

end Orders

namespace Engine

/-- In the small app, the finished order still names the clerk who has created it, and names the
    porter as its last writer. -/
theorem metadata_belongs_to_engine_orders :
    (Desk.opened Orders.defined).Run Orders.settings.newRecordId Orders.carried ∧
    ∃ order ∈ Orders.carried.ws.store.records "orders", order.number = 1 ∧
      order.data.get? Key.createdBy = some (.text "clerk") ∧
      order.data.get? Key.updatedBy = some (.text "porter") := by
  have hrun : (Desk.opened Orders.defined).Run Orders.settings.newRecordId Orders.carried :=
    .tail Orders.seen_run Orders.seen_carried
  obtain ⟨order, hmem, hid⟩ : ∃ order ∈ Orders.carried.ws.store.records "orders",
      order.id.text = "r" := ⟨_, List.mem_cons_self, rfl⟩
  have hmetadata := metadata_belongs_to_engine Orders.newRecordId_injective
    Workspace.defined_reachable.sound (fun _ => rfl) hrun
  obtain ⟨⟨made, hmade, hby⟩, last, hlast, hwritten⟩ := hmetadata.1 "orders" order hmem
  rw [hid] at hmade hlast
  obtain rfl := Option.some.inj hmade
  obtain rfl := Option.some.inj hlast
  exact ⟨hrun, order, hmem, (Prod.mk.inj (Option.some.inj hby.place)).2.symm, hby.createdBy,
    hwritten.updatedBy⟩

end Engine

end RecordApps
