import Intake.Proofs.Service.Converging
import Mathlib.Data.List.Forall2

/-!
# What a notification counts

A notification is gone through in one loop that counts, publishes and marks as it goes, and it asks again
for every change whether the record is known. But no change makes a record known or unknown. So what is
counted and published can be told from the responses as they stood before the first change, and each
response is marked by the changes of its own record alone.

        changed      known    ──▶ updated          the responses are synced anew
        created      unknown  ──▶ created unknown
        destroyed    known    ──▶ deleted, event   the responses are synced anew and flagged
-/

namespace Intake

namespace Notification

/-- The records of the changes of a kind, in order. -/
def recordsOf (kind : ChangeKind) (cs : List Change) : List Text :=
  cs.filterMap fun c => if c.kind = kind then some c.record else none

theorem recordsOf_cons (kind : ChangeKind) (c : Change) (cs : List Change) :
    recordsOf kind (c :: cs) =
      if c.kind = kind then c.record :: recordsOf kind cs else recordsOf kind cs := by
  rw [recordsOf, List.filterMap_cons]
  by_cases hkind : c.kind = kind
  · simp only [hkind, if_true]
    rfl
  · simp only [hkind, if_false]
    rfl

/-- The changes of one kind have only records of this kind. -/
theorem recordsOf_map_mk (kind other : ChangeKind) (ids : List Text) :
    recordsOf kind (ids.map (Change.mk other)) = if other = kind then ids else [] := by
  induction ids with
  | nil => simp [recordsOf]
  | cons id ids ih =>
    rw [List.map_cons, recordsOf_cons, ih]
    split <;> rfl

theorem recordsOf_append (kind : ChangeKind) (cs ds : List Change) :
    recordsOf kind (cs ++ ds) = recordsOf kind cs ++ recordsOf kind ds :=
  List.filterMap_append

/-- The records of a table's changes are those in the container of their kind. -/
theorem recordsOf_tableChanges (kind : ChangeKind) (table : Value) :
    recordsOf kind (tableChanges table) = recordsIn (table.member kind.container) := by
  rw [tableChanges, ChangeKind.all]
  simp only [List.flatMap_cons, List.flatMap_nil, recordsOf_append, recordsOf_map_mk]
  cases kind <;> simp [recordsOf]

/-- The records of a notification's changes are those that it reports. -/
theorem recordsOf_changes (kind : ChangeKind) (body : Value) :
    recordsOf kind (changes body) = reported kind body := by
  rw [changes, reported, recordsOf, List.filterMap_flatMap]
  exact List.flatMap_congr fun table _ => recordsOf_tableChanges kind table

/-- What changes add to a summary is counted kind by kind. -/
theorem Summary.tally_eq (known : Text → Bool) (cs : List Change) (sum : Summary) :
    sum.tally known cs =
      ⟨sum.updated + (recordsOf .changed cs).countP known,
        sum.createdUnknown + (recordsOf .created cs).countP fun id => !known id,
        sum.deleted + (recordsOf .destroyed cs).countP known, sum.failed⟩ := by
  induction cs generalizing sum with
  | nil => rfl
  | cons c cs ih =>
    obtain ⟨kind, record⟩ := c
    rw [tally, List.foldl_cons, ← tally, ih]
    simp only [recordsOf_cons]
    cases kind <;> cases hknown : known record <;> simp [counting, hknown] <;> omega

end Notification

/-! ### Responses -/

/-- A response after the changes between two times, when its record changed or is gone.
Either makes it synced anew, only the latter flags it as deleted, and without either it is as it was. -/
structure Store.ResponseRow.Renewed (changed gone : Prop) (start stop : Nat) (r after : ResponseRow) :
    Prop where
  /-- It is synced at a moment in between, and whatever else it holds is as it was. -/
  synced : changed ∨ gone → ∃ now, start < now ∧ now ≤ stop ∧
    after = { r with status := SyncStatus.synced.name, updatedAt := now, isDeleted := after.isDeleted }
  /-- It is flagged exactly when its record is gone now or was gone before. -/
  deleted : after.isDeleted = true ↔ r.isDeleted = true ∨ gone
  /-- Nothing happens to it that does not concern its record. -/
  other : ¬ changed → ¬ gone → after = r

namespace Store.ResponseRow.Renewed

variable {changed gone : Prop} {start stop : Nat} {r after : ResponseRow}

/-- At most the status, the flag and the time of the last change are other than before. -/
theorem kept (h : Renewed changed gone start stop r after) :
    after = { r with status := after.status, updatedAt := after.updatedAt, isDeleted := after.isDeleted } := by
  by_cases hnamed : changed ∨ gone
  · obtain ⟨now, -, -, hafter⟩ := h.synced hnamed
    rw [hafter]
  · rw [not_or] at hnamed
    rw [h.other hnamed.1 hnamed.2]

theorem recordId_eq (h : Renewed changed gone start stop r after) : after.recordId = r.recordId := by
  rw [h.kept]

/-- Later the response is still the same. -/
theorem mono {later : Nat} (h : Renewed changed gone start stop r after) (hlater : stop ≤ later) :
    Renewed changed gone start later r after := by
  refine ⟨fun hnamed => ?_, h.deleted, h.other⟩
  obtain ⟨now, hstart, hstop, hafter⟩ := h.synced hnamed
  exact ⟨now, hstart, hstop.trans hlater, hafter⟩

/-- A change of another record, or a record that was created, leaves the response as it is. -/
theorem told_of_ne {c : Change} (h : Renewed changed gone start stop r after)
    (hchanged : c ≠ ⟨.changed, r.recordId⟩) (hgone : c ≠ ⟨.destroyed, r.recordId⟩) (now : Nat) :
    told c now after = after := by
  unfold told
  rw [h.recordId_eq]
  split
  · rename_i hrecord
    obtain ⟨kind, record⟩ := c
    cases kind with
    | changed => exact absurd (congrArg (Change.mk .changed) hrecord.symm) hchanged
    | created => rfl
    | destroyed => exact absurd (congrArg (Change.mk .destroyed) hrecord.symm) hgone
  · rfl

theorem told_changed (h : Renewed changed gone start stop r after) {now : Nat} (hnow : start < now) :
    Renewed True gone start now r (told ⟨.changed, r.recordId⟩ now after) := by
  have htold : told ⟨.changed, r.recordId⟩ now after = after.synced now := if_pos h.recordId_eq
  rw [htold]
  refine ⟨fun _ => ⟨now, hnow, le_rfl, ?_⟩, h.deleted, fun hnot => absurd trivial hnot⟩
  rw [h.kept]
  rfl

theorem told_destroyed (h : Renewed changed gone start stop r after) {now : Nat} (hnow : start < now) :
    Renewed changed True start now r (told ⟨.destroyed, r.recordId⟩ now after) := by
  have htold : told ⟨.destroyed, r.recordId⟩ now after = after.deleted now := if_pos h.recordId_eq
  rw [htold]
  refine ⟨fun _ => ⟨now, hnow, le_rfl, ?_⟩, by simp [ResponseRow.deleted],
    fun _ hnot => absurd trivial hnot⟩
  rw [h.kept]
  rfl

end Store.ResponseRow.Renewed

namespace Service

open Store Notification

/-! ### The run -/

/-- The events of records that are gone are those of the known ones, in order. -/
theorem goneEvents_eq (known : Text → Bool) (cs : List Change) :
    goneEvents known cs = ((recordsOf .destroyed cs).filter known).map goneEvent := by
  induction cs with
  | nil => rfl
  | cons c cs ih =>
    obtain ⟨kind, record⟩ := c
    rw [goneEvents, List.flatMap_cons, ← goneEvents, ih, recordsOf_cons]
    cases kind <;> cases hknown : known record <;> simp [goneEventOf, hknown]

/-- The clock is read once for every mark. -/
theorem State.time_reconciled (s : State) (c : Change) :
    (s.reconciled c).time = if c.kind = .created then s.time else s.nextTime := by
  obtain ⟨kind, record⟩ := c
  cases kind <;> rfl

theorem State.time_le_reconciled (s : State) (c : Change) : s.time ≤ (s.reconciled c).time := by
  rw [State.time_reconciled]
  split
  · exact le_rfl
  · exact s.time_lt_nextTime.le

theorem time_le_foldl_reconciled (cs : List Change) (s : State) :
    s.time ≤ (cs.foldl State.reconciled s).time := by
  induction cs generalizing s with
  | nil => exact le_rfl
  | cons c cs ih => exact (s.time_le_reconciled c).trans (ih (s.reconciled c))

/-- Changes touch the clock, the store and the events, and nothing else. -/
theorem eq_foldl_reconciled (cs : List Change) (s : State) :
    cs.foldl State.reconciled s = { s with
      clock := (cs.foldl State.reconciled s).clock
      store := (cs.foldl State.reconciled s).store
      events := (cs.foldl State.reconciled s).events } := by
  induction cs using List.reverseRecOn with
  | nil => rfl
  | append_singleton cs c ih =>
    rw [List.foldl_concat]
    generalize cs.foldl State.reconciled s = t at ih
    obtain ⟨kind, record⟩ := c
    rw [ih]
    cases kind <;> rfl

/-- One more change renews the responses of its record, and no others. -/
theorem renewed_reconciled {cs : List Change} {start : Nat} {t : State} {r after : ResponseRow}
    (hstart : start ≤ t.time) (c : Change)
    (h : r.Renewed (⟨.changed, r.recordId⟩ ∈ cs) (⟨.destroyed, r.recordId⟩ ∈ cs) start t.time after) :
    r.Renewed (⟨.changed, r.recordId⟩ ∈ cs ++ [c]) (⟨.destroyed, r.recordId⟩ ∈ cs ++ [c]) start
      (t.reconciled c).time (ResponseRow.told c t.nextTime after) := by
  have hnow : start < t.nextTime := hstart.trans_lt t.time_lt_nextTime
  simp only [List.mem_append, List.mem_singleton]
  by_cases hchanged : c = ⟨.changed, r.recordId⟩
  · subst hchanged
    simpa [State.time_reconciled] using h.told_changed hnow
  by_cases hgone : c = ⟨.destroyed, r.recordId⟩
  · subst hgone
    simpa [State.time_reconciled] using h.told_destroyed hnow
  · rw [h.told_of_ne hchanged hgone]
    simpa [Ne.symm hchanged, Ne.symm hgone] using h.mono (t.time_le_reconciled c)

/-- After all changes each response is renewed by those of its record. By induction from the end, because
each change is told at the time after the changes before it. -/
theorem renewed_foldl_reconciled (cs : List Change) (s : State) :
    List.Forall₂ (fun r after => r.Renewed (⟨.changed, r.recordId⟩ ∈ cs)
      (⟨.destroyed, r.recordId⟩ ∈ cs) s.time (cs.foldl State.reconciled s).time after)
      s.store.responses (cs.foldl State.reconciled s).store.responses := by
  induction cs using List.reverseRecOn with
  | nil =>
    rw [List.foldl_nil, List.forall₂_same]
    intro r _
    exact ⟨by simp, by simp, fun _ _ => rfl⟩
  | append_singleton cs c ih =>
    rw [List.foldl_concat, State.responses_reconciled, List.forall₂_map_right_iff]
    exact ih.imp fun r after h => renewed_reconciled (time_le_foldl_reconciled cs s) c h

/-! ### The summary -/

/-- What comes of a notification: what it counts, what it publishes and what it leaves. -/
structure Accounts (body : Value) (s t : State) (total : Summary) : Prop where
  /-- The changed records that a response has are counted, however often each stands in the body. -/
  updated : total.updated = (reported .changed body).countP s.store.knows
  /-- Of the created records those are counted that no response has. -/
  createdUnknown : total.createdUnknown = (reported .created body).countP fun id => !s.store.knows id
  /-- The records that are gone are counted like those that changed. -/
  deleted : total.deleted = (reported .destroyed body).countP s.store.knows
  failed : total.failed = 0
  /-- One event for each deletion that is counted, in the order of the body, and no other. -/
  events : t.events = s.events ++ ((reported .destroyed body).filter s.store.knows).map goneEvent
  /-- Every response is renewed by what the body reports of its record. -/
  responses : List.Forall₂ (fun r after => r.Renewed (r.recordId ∈ reported .changed body)
    (r.recordId ∈ reported .destroyed body) s.time t.time after) s.store.responses t.store.responses
  forms : t.store.forms = s.store.forms
  /-- Nothing else is touched; in particular nothing is asked of the remote service. -/
  rest : t = { s with clock := t.clock, store := t.store, events := t.events }

/-- While the store is up, a notification of the right shape is gone through to its end. Its summary, its
events and what it leaves of the responses are told by the records that it reports and by the responses as
they stood before it. -/
theorem summary_is_exact {s : State} (hup : s.isDown = false) {body : Value}
    (hbody : wellShaped body = true) : ∃ total t,
    Action.exec (Action.reconcile body) s = (.ok total, t) ∧ Accounts body s t total := by
  refine ⟨_, _, Action.exec_reconcile hup hbody, ?_⟩
  have hrenewed := renewed_foldl_reconciled (changes body) s
  simp only [mem_changes] at hrenewed
  rw [Summary.tally_eq]
  simp only [recordsOf_changes]
  refine ⟨Nat.zero_add _, Nat.zero_add _, Nat.zero_add _, rfl, ?_, hrenewed,
    forms_foldl_reconciled _ s, eq_foldl_reconciled _ s⟩
  rw [events_foldl_reconciled, goneEvents_eq, recordsOf_changes]

/-- A notification with a payload and a table that are passed over. It reports a known and an unknown record
of each kind, and that one record is gone twice. -/
def mixedNotice : Value :=
  .obj [("base", .obj [("id", .ofString "app1")]), ("webhook", .obj [("id", .ofString "ach1")]),
    ("timestamp", .ofString "2026-01-01T00:00:00Z"), ("payloads", .arr [.int 5, .obj [("changedTablesById",
      .obj [("tbl1", .obj [("changedRecordsById", .obj [("rec1", .obj []), ("rec8", .obj [])]),
          ("destroyedRecordIds", .arr [.ofString "rec2"])]),
        ("tbl2", .null),
        ("tbl3", .obj [("createdRecordsById", .obj [("rec1", .null), ("rec9", .null)]),
          ("destroyedRecordIds", .arr [.ofString "rec9", .ofString "rec2"])])])]])]

theorem summary_is_exact_mixed :
    State.answered.isDown = false ∧ wellShaped mixedNotice = true ∧
    ∃ total t, Action.exec (Action.reconcile mixedNotice) State.answered = (.ok total, t) ∧
      Accounts mixedNotice State.answered t total ∧ total = ⟨1, 1, 2, 0⟩ := by
  have hshaped : wellShaped mixedNotice = true := by decide
  obtain ⟨total, t, hexec, haccounts⟩ := summary_is_exact (s := State.answered) rfl hshaped
  refine ⟨rfl, hshaped, total, t, hexec, haccounts, ?_⟩
  obtain ⟨updated, createdUnknown, deleted, failed⟩ := total
  obtain ⟨hupdated, hcreated, hdeleted, hfailed, -, -, -, -⟩ := haccounts
  obtain rfl : updated = 1 := hupdated.trans (by decide)
  obtain rfl : createdUnknown = 1 := hcreated.trans (by decide)
  obtain rfl : deleted = 2 := hdeleted.trans (by decide)
  obtain rfl : failed = 0 := hfailed
  rfl

end Service
end Intake
