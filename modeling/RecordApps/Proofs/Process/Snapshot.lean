import RecordApps.Proofs.Process.Status
import RecordApps.Proofs.Records.Provenance

/-! # Moves of records as they were read

The process service moves a record as its caller has read it. It compares the status and the
number with what is stored, and then stores the snapshot as a whole. What was written to the
record since then is lost, unless the snapshot has it anyway. A request to act on a record reads
it anew, so it loses nothing.
-/

namespace RecordApps

/-- Two states of a record that differ in the status and the last writer at most. -/
structure Record.SameButMoved (a b : Record) : Prop where
  id : b.id = a.id
  number : b.number = a.number
  data : ∀ key, key ∉ Key.changing → b.data.get? key = a.data.get? key


namespace Record.SameButMoved

variable {a b c : Record}

theorem symm (h : a.SameButMoved b) : b.SameButMoved a where
  id := h.id.symm
  number := h.number.symm
  data key hkey := (h.data key hkey).symm

theorem trans (h : a.SameButMoved b) (h' : b.SameButMoved c) : a.SameButMoved c where
  id := h'.id.trans h.id
  number := h'.number.trans h.number
  data key hkey := (h'.data key hkey).trans (h.data key hkey)

theorem moved (record : Record) (actor : Actor) (now : String) (action : ProcessAction) :
    record.SameButMoved (record.moved actor now action) where
  id := rfl
  number := rfl
  data _ hkey := record.moved_get?_other actor now action hkey

end Record.SameButMoved

namespace Engine

variable {settings : Settings} {ws ws' : Workspace} {actor : Actor} {app : AppId}

/-- A move by a snapshot: the stored record has the status and the number of the snapshot, and
    gives way to the snapshot, moved. No other record is touched. -/
structure MovesSnapshot (ws ws' : Workspace) (code : String) (snapshot before next : Record)
    (source target : String) : Prop where
  found : ws.store.find? code snapshot.id.text = some before
  stored : ws'.store.find? code snapshot.id.text = some next
  number : before.number = snapshot.number
  source : before.status = some source ∧ snapshot.status = some source
  target : next.status = some target
  written : snapshot.SameButMoved next
  others : ∀ other id, other ≠ code ∨ snapshot.id.text ≠ id →
    ws'.store.find? other id = ws.store.find? other id
  definitions : ws.SameDefinitions ws'

theorem transition_movesSnapshot {schema : AppSchema} {snapshot next : Record}
    {action source target : String}
    (ran : run settings ws (transition actor schema snapshot action) =
      (.ok (.applied next source target), ws')) :
    ∃ before, MovesSnapshot ws ws' schema.code.text snapshot before next source target := by
  have hdefinitions := (transition_step ran).definitions
  obtain ⟨_, -, hrejected, -⟩ | ⟨taken, store, hauthorized, hupdate, happlied, rfl⟩ :=
    transition_ok ran
  · cases hrejected
  obtain ⟨rfl, rfl, rfl⟩ := TransitionOutcome.applied.inj happlied
  obtain ⟨graph, -, hauthorized⟩ := Workspace.authorize_ok hauthorized
  obtain ⟨-, -, hcurrent, -⟩ := ProcessGraph.authorize_ok hauthorized
  obtain ⟨before, _, _, hfind, hstatus, hnumber, -⟩ := RecordStore.update_ok hupdate
  refine ⟨before, ?_⟩
  constructor
  case found => exact hfind
  case stored => exact RecordStore.find?_update hupdate
  case number => exact hnumber
  case source => exact ⟨hstatus.trans hcurrent, hcurrent⟩
  case target => exact Record.moved_status _ _ _ _
  case written => exact .moved _ _ _ _
  case others => exact fun other id hother => RecordStore.find?_update_other hupdate hother
  case definitions => exact hdefinitions

/-- What was written since the snapshot is kept exactly if the snapshot has it. -/
theorem MovesSnapshot.keeps_iff {code : String} {snapshot before next : Record}
    {source target : String} (h : MovesSnapshot ws ws' code snapshot before next source target) :
    before.SameButMoved next ↔ snapshot.SameButMoved before := by
  constructor
  · intro hkept
    exact h.written.trans hkept.symm
  · intro hsame
    exact hsame.symm.trans h.written

/-- A move by a snapshot stores the snapshot, with the status of its target and a new stamp. It
    keeps what the record held before exactly if the snapshot held the same. A request to act on a
    record keeps everything but the status and the stamp. -/
theorem move_stores_snapshot (settings : Settings) (ws ws' : Workspace) (actor : Actor) :
    (∀ schema snapshot action next source target,
      run settings ws (transition actor schema snapshot action) =
        (.ok (.applied next source target), ws') →
      ∃ before, MovesSnapshot ws ws' schema.code.text snapshot before next source target ∧
        (before.SameButMoved next ↔ snapshot.SameButMoved before)) ∧
    ∀ app id action source target view notifications,
      run settings ws (executeAction actor app id action) =
        (.ok (.applied source target view notifications), ws') →
      ∃ schema before next, ws.schemas.get? app = some schema ∧
        ws.store.find? schema.code.text id = some before ∧
        ws'.store.find? schema.code.text id = some next ∧
        before.SameButMoved next ∧ next.status = some target := by
  constructor
  · intro schema snapshot action next source target ran
    obtain ⟨before, hmoves⟩ := transition_movesSnapshot ran
    exact ⟨before, hmoves, hmoves.keeps_iff⟩
  · intro app id action source target view notifications ran
    obtain ⟨schema, before, outcome, hschema, hbefore, -, hmoved, htold⟩ := executeAction_ok ran
    cases outcome with
    | rejected => exact htold.elim
    | applied next source' target' =>
        obtain ⟨rfl, rfl, -⟩ := htold
        obtain rfl := RecordStore.find?_id hbefore
        obtain ⟨_, hmoves⟩ := transition_movesSnapshot hmoved
        exact ⟨schema, before, next, hschema, hbefore, hmoves.stored, hmoves.written, hmoves.target⟩

end Engine

namespace Orders

/-- After the order was read, the clerk has made it coffee. -/
def revised : Desk where
  ws := workspace.serve settings
    (.records clerk app (.update "r" (.ofList [("item", .text "coffee")])))
  held := seen.held
  log := ⟨"r", clerk, settings.now, none⟩ :: seen.log

theorem revised_run : (Desk.opened defined).Run settings.newRecordId revised := by
  obtain ⟨outcome, ran⟩ : ∃ outcome, Engine.run settings workspace
      (ServiceCall.records clerk app (.update "r" (.ofList [("item", .text "coffee")]))).perform =
        (.ok outcome, revised.ws) := ⟨_, rfl⟩
  refine .tail seen_run (@Desk.Step.answered _ _ seen settings _ _ _ rfl ?_ ran)
  trivial

end Orders

namespace Engine

/-- The order that was read before is finished, and is tea again. -/
theorem stale_move_restores_values :
    ∃ snapshot before next ws',
      (Desk.opened Orders.defined).Run Orders.settings.newRecordId Orders.revised ∧
      snapshot ∈ Orders.revised.held ∧
      run Orders.settings Orders.revised.ws
        (transition Orders.clerk Orders.schema snapshot "finish") =
          (.ok (.applied next "open" "done"), ws') ∧
      Orders.revised.ws.store.find? "orders" "r" = some before ∧
      ws'.store.find? "orders" "r" = some next ∧
      before.data.get? "item" = some (.text "coffee") ∧
      next.data.get? "item" = some (.text "tea") :=
  ⟨Orders.order "", _, _, _, Orders.revised_run, List.mem_singleton_self _, rfl, rfl, rfl, rfl, rfl⟩

/-- Right after it was read, the order is finished as it is; and so it is by request. -/
theorem move_stores_snapshot_orders :
    (∃ before next ws', run Orders.settings Orders.workspace
        (transition Orders.clerk Orders.schema (Orders.order "") "finish") =
          (.ok (.applied next "open" "done"), ws') ∧
      MovesSnapshot Orders.workspace ws' "orders" (Orders.order "") before next "open" "done") ∧
    ∃ before next view notifications ws', run Orders.settings Orders.revised.ws
        (executeAction Orders.clerk Orders.app "r" "finish") =
          (.ok (.applied "open" "done" view notifications), ws') ∧
      Orders.revised.ws.store.find? "orders" "r" = some before ∧
      ws'.store.find? "orders" "r" = some next ∧ before.SameButMoved next := by
  constructor
  · obtain ⟨next, ws', ran⟩ : ∃ next ws', run Orders.settings Orders.workspace
        (transition Orders.clerk Orders.schema (Orders.order "") "finish") =
          (.ok (.applied next "open" "done"), ws') := ⟨_, _, rfl⟩
    obtain ⟨before, hmoves, -⟩ :=
      (move_stores_snapshot Orders.settings _ _ Orders.clerk).1 _ _ _ _ _ _ ran
    exact ⟨before, next, ws', ran, hmoves⟩
  · obtain ⟨view, notifications, ws', ran⟩ : ∃ view notifications ws',
        run Orders.settings Orders.revised.ws (executeAction Orders.clerk Orders.app "r" "finish") =
          (.ok (.applied "open" "done" view notifications), ws') := ⟨_, _, _, rfl⟩
    obtain ⟨schema, before, next, hschema, hbefore, hnext, hsame, -⟩ :=
      (move_stores_snapshot Orders.settings _ _ Orders.clerk).2 _ _ _ _ _ _ _ ran
    obtain rfl : Orders.schema = schema := Option.some.inj hschema
    exact ⟨before, next, view, notifications, ws', ran, hbefore, hnext, hsame⟩

end Engine

end RecordApps
