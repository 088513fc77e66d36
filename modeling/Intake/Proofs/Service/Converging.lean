import Intake.Proofs.Notification.Shape
import Intake.Proofs.Service.Writing

/-!
# Notifications converge

Notifications are delivered in any order, split in any way and more than once. Each change that they
report touches the responses of one record: a record that changed makes them synced, and a record that
is gone makes them synced and deleted as well. Neither undoes the other, so what is left of a response,
but for the time of its last change, depends only on whether its record was ever reported as changed and
whether it was ever reported as gone.

        stored ──changed──▶ synced ──gone──▶ synced, deleted
          └────────────gone────────────────────▲   │ changed↺, gone↺
-/

namespace Intake

namespace Store.ResponseRow

/-- A response without the time of its last change. -/
def untimed (r : ResponseRow) : ResponseRow := { r with updatedAt := 0 }

/-- What a change leaves of a response. -/
def told (c : Change) (now : Nat) (r : ResponseRow) : ResponseRow :=
  if r.recordId = c.record then
    match c.kind with
    | .changed => r.synced now
    | .created => r
    | .destroyed => r.deleted now
  else r

/-- What is left of a response whose record changed or is gone. -/
def settledBy (changed gone : Bool) (r : ResponseRow) : ResponseRow :=
  { r with
    status := if changed || gone then SyncStatus.synced.name else r.status
    isDeleted := r.isDeleted || gone }

/-- The changes name the record of the response with a kind. -/
def isTold (cs : List Change) (kind : ChangeKind) (r : ResponseRow) : Bool :=
  decide (⟨kind, r.recordId⟩ ∈ cs)

/-- What is left of a response by several changes in any order. -/
def settledAfter (cs : List Change) (r : ResponseRow) : ResponseRow :=
  settledBy (r.isTold cs .changed) (r.isTold cs .destroyed) r

@[simp] theorem recordId_told (c : Change) (now : Nat) (r : ResponseRow) :
    (told c now r).recordId = r.recordId := by
  unfold told
  split
  · split <;> rfl
  · rfl

/-- One change before others counts as one of them. -/
theorem settledAfter_told (c : Change) (cs : List Change) (now : Nat) (r : ResponseRow) :
    ((told c now r).settledAfter cs).untimed = (r.settledAfter (c :: cs)).untimed := by
  have hcons (kind : ChangeKind) :
      r.isTold (c :: cs) kind = (decide (c = ⟨kind, r.recordId⟩) || r.isTold cs kind) := by
    simp [isTold, eq_comm]
  have hsame (kind : ChangeKind) : (told c now r).isTold cs kind = r.isTold cs kind := by
    rw [isTold, recordId_told, isTold]
  rw [settledAfter, settledAfter, hcons, hcons, hsame, hsame]
  obtain ⟨kind, record⟩ := c
  by_cases hrecord : r.recordId = record
  · subst hrecord
    cases kind <;> simp [told, settledBy, untimed, synced, deleted]
  · simp [told, settledBy, untimed, hrecord, Ne.symm hrecord]

/-- What is left depends on the records that are named, and on nothing else about the changes. -/
theorem settledAfter_congr {cs ds : List Change}
    (h : ∀ kind id, kind ≠ .created → (⟨kind, id⟩ ∈ cs ↔ ⟨kind, id⟩ ∈ ds)) (r : ResponseRow) :
    r.settledAfter cs = r.settledAfter ds := by
  have htold {kind : ChangeKind} (hkind : kind ≠ .created) : r.isTold cs kind = r.isTold ds kind :=
    decide_eq_decide.2 (h kind r.recordId hkind)
  rw [settledAfter, settledAfter, htold (by decide), htold (by decide)]

end Store.ResponseRow

namespace Service

open Store Notification

/-- The event that a record is gone. -/
def goneEvent (record : Text) : Event :=
  ⟨Event.responseDeleted, .obj [("airtableRecordId", .str record)]⟩

/-- The events of one change, when some records are known. -/
def goneEventOf (known : Text → Bool) (c : Change) : List Event :=
  if c.kind = .destroyed ∧ known c.record = true then [goneEvent c.record] else []

/-- The events of several changes, in their order. -/
def goneEvents (known : Text → Bool) (cs : List Change) : List Event :=
  cs.flatMap (goneEventOf known)

/-- The state after a change that a notification reports. -/
def State.reconciled (s : State) (c : Change) : State :=
  match c.kind with
  | .changed => { s with clock := s.clock + 1, store := s.store.markSynced c.record s.nextTime }
  | .created => s
  | .destroyed =>
    { s with
      clock := s.clock + 1
      store := s.store.markDeleted c.record s.nextTime
      events := if s.store.knows c.record then s.events ++ [goneEvent c.record] else s.events }

namespace State

variable (s : State) (c : Change)

@[simp] theorem isDown_reconciled : (s.reconciled c).isDown = s.isDown := by
  unfold reconciled; split <;> rfl

theorem responses_reconciled :
    (s.reconciled c).store.responses = s.store.responses.map (ResponseRow.told c s.nextTime) := by
  obtain ⟨kind, record⟩ := c
  cases kind with
  | created =>
    have htold : ResponseRow.told ⟨.created, record⟩ s.nextTime = id := by
      funext r
      simp [ResponseRow.told]
    rw [htold, List.map_id]
    rfl
  | _ => rfl

theorem forms_reconciled : (s.reconciled c).store.forms = s.store.forms := by
  unfold reconciled
  split <;> rfl

theorem events_reconciled :
    (s.reconciled c).events = s.events ++ goneEventOf s.store.knows c := by
  obtain ⟨kind, record⟩ := c
  cases kind with
  | destroyed => cases hknows : s.store.knows record <;> simp [reconciled, goneEventOf, hknows]
  | _ => simp [reconciled, goneEventOf]

end State

namespace State

/-- No change makes a record known or unknown. -/
@[simp] theorem knows_reconciled (s : State) (c : Change) (id : Text) :
    (s.reconciled c).store.knows id = s.store.knows id := by
  rw [Store.knows, responses_reconciled, List.any_map, Store.knows]
  simp [Function.comp_def]

end State

namespace Action

/-- Marking a record that can be looked up tells whether it is known. -/
theorem exec_markWith {f : Text → Nat → Store → Store} {id : Text} {s : State}
    (hs : s.isDown = false) (hid : id.encodable = true) :
    exec (markWith f id) s = (.ok (s.store.knows id),
      { s with clock := s.clock + 1, store := f id s.nextTime s.store }) := by
  obtain ⟨store, isDown, clock, formsNamed, responsesNamed, nextRequest, events, peer, millis, env⟩ := s
  obtain rfl : isDown = false := hs
  rw [markWith, exec_bind, exec_now]
  simp only [exec_bind, exec_key, exec_reach, exec_change, hid, exec_pure, Bool.false_eq_true,
    if_false, if_true]
  rfl

/-- Looking for a record that can be looked up. -/
theorem exec_response? {id : Text} {s : State} (hs : s.isDown = false) (hid : id.encodable = true) :
    exec (response? id) s = (.ok (s.store.response? id), s) := by
  rw [response?, exec_bind, exec_key_of_up hs hid]
  simp only [exec_bind, exec_reach, hs, exec_pure, Bool.false_eq_true, if_false]

end Action

end Service

/-- A summary that counts one more change, of a record that is known or not. -/
def Notification.Summary.counting (c : Change) (known : Bool) (sum : Summary) : Summary :=
  match c.kind, known with
  | .changed, true => { sum with updated := sum.updated + 1 }
  | .created, false => { sum with createdUnknown := sum.createdUnknown + 1 }
  | .destroyed, true => { sum with deleted := sum.deleted + 1 }
  | _, _ => sum

/-- A summary that counts several changes more. -/
def Notification.Summary.tally (known : Text → Bool) (cs : List Change) (sum : Summary) : Summary :=
  cs.foldl (fun sum c => sum.counting c (known c.record)) sum

namespace Service

open Store Notification

namespace Action

/-- Applying a change to a record that can be looked up. -/
theorem exec_applyChange {c : Change} {s : State} (hs : s.isDown = false)
    (hc : c.record.encodable = true) (sum : Summary) :
    exec (applyChange c sum) s = (.ok (sum.counting c (s.store.knows c.record)), s.reconciled c) := by
  obtain ⟨kind, record⟩ := c
  cases kind with
  | changed =>
    simp only [applyChange, markSynced, exec_bind, exec_markWith hs hc]
    cases s.store.knows record <;> rfl
  | created =>
    have hknows : (s.store.response? record).isSome = s.store.knows record :=
      isSome_response?_iff record s.store
    simp only [applyChange, exec_bind, exec_response? hs hc]
    rw [← hknows]
    cases s.store.response? record <;> rfl
  | destroyed =>
    simp only [applyChange, markDeleted, exec_bind, exec_markWith hs hc]
    cases hknows : s.store.knows record
    · simp only [State.reconciled, hknows, Bool.false_eq_true, if_false]
      rfl
    · simp only [State.reconciled, hknows, if_true]
      rfl

theorem exec_attempt {c : Change} {s : State} (hs : s.isDown = false)
    (hc : c.record.encodable = true) (sum : Summary) :
    exec (attempt c sum) s = (.ok (sum.counting c (s.store.knows c.record)), s.reconciled c) := by
  rw [attempt, exec_tryCatch, exec_applyChange hs hc]

/-- Going through changes applies one after the other and counts them, whatever comes then. -/
theorem exec_follow_append {cs : List Change} {s : State} (hs : s.isDown = false)
    (hcs : ∀ c ∈ cs, c.record.encodable = true) (rest : List Item) (sum : Summary) :
    exec (follow (cs.map .change ++ rest) sum) s =
      exec (follow rest (sum.tally s.store.knows cs)) (cs.foldl State.reconciled s) := by
  induction cs generalizing s sum with
  | nil => rfl
  | cons c cs ih =>
    rw [List.forall_mem_cons] at hcs
    rw [List.map_cons, List.cons_append, follow, exec_bind, exec_attempt hs hcs.1]
    simp only [ih (s := s.reconciled c) (by simpa using hs) hcs.2, State.knows_reconciled]
    rfl

/-- A notification of the right shape is gone through to its end. -/
theorem exec_reconcile {body : Value} {s : State} (hs : s.isDown = false)
    (hbody : wellShaped body = true) :
    exec (reconcile body) s = (.ok (Summary.none.tally s.store.knows (changes body)),
      (changes body).foldl State.reconciled s) := by
  have hfollow := exec_follow_append hs (fun c hc => encodable_of_mem_changes hbody hc) []
    Summary.none
  rw [List.append_nil] at hfollow
  rw [reconcile, if_pos (accepted_of_wellShaped hbody), items_of_wellShaped hbody, hfollow]
  rfl

/-- Goes through several notifications, one after the other. -/
def reconcileAll : List Value → Action Unit
  | [] => pure ()
  | body :: rest => do
    let _ ← reconcile body
    reconcileAll rest

end Action

theorem isDown_foldl_reconciled (cs : List Change) (s : State) :
    (cs.foldl State.reconciled s).isDown = s.isDown := by
  induction cs generalizing s with
  | nil => rfl
  | cons c cs ih => rw [List.foldl_cons, ih, State.isDown_reconciled]

/-- No change touches a form. -/
theorem forms_foldl_reconciled (cs : List Change) (s : State) :
    (cs.foldl State.reconciled s).store.forms = s.store.forms := by
  induction cs generalizing s with
  | nil => rfl
  | cons c cs ih =>
    rw [List.foldl_cons, ih, State.forms_reconciled]

/-- The events of the records that are gone, in the order of the changes. -/
theorem events_foldl_reconciled (cs : List Change) (s : State) :
    (cs.foldl State.reconciled s).events = s.events ++ goneEvents s.store.knows cs := by
  induction cs generalizing s with
  | nil => exact (List.append_nil _).symm
  | cons c cs ih =>
    have hknows : (s.reconciled c).store.knows = s.store.knows := by
      funext id
      exact State.knows_reconciled s c id
    rw [List.foldl_cons, ih, hknows, State.events_reconciled, List.append_assoc]
    rfl

/-- What changes leave of the responses, but for times, does not depend on their order. -/
theorem responses_foldl_reconciled (cs : List Change) (s : State) :
    (cs.foldl State.reconciled s).store.responses.map ResponseRow.untimed =
      s.store.responses.map fun r => (r.settledAfter cs).untimed := by
  induction cs generalizing s with
  | nil => simp [ResponseRow.settledAfter, ResponseRow.settledBy, ResponseRow.isTold]
  | cons c cs ih =>
    rw [List.foldl_cons, ih, State.responses_reconciled, List.map_map]
    exact List.map_congr_left fun r _ => ResponseRow.settledAfter_told c cs s.nextTime r

namespace Action

/-- Notifications of the right shape apply all their changes. -/
theorem exec_reconcileAll {bodies : List Value} {s : State} (hs : s.isDown = false)
    (hbodies : ∀ body ∈ bodies, wellShaped body = true) :
    exec (reconcileAll bodies) s = (.ok (), (bodies.flatMap changes).foldl State.reconciled s) := by
  induction bodies generalizing s with
  | nil => rfl
  | cons body rest ih =>
    rw [List.forall_mem_cons] at hbodies
    rw [reconcileAll, exec_bind, exec_reconcile hs hbodies.1, List.flatMap_cons, List.foldl_append]
    exact ih (by rwa [isDown_foldl_reconciled]) hbodies.2

end Action

theorem mem_flatMap_changes {bodies : List Value} {kind : ChangeKind} {id : Text} :
    ⟨kind, id⟩ ∈ bodies.flatMap changes ↔ id ∈ bodies.flatMap (reported kind) := by
  simp only [List.mem_flatMap, mem_changes]

/-- Both sequences of notifications are gone through to their ends, and they leave the same responses but
for the times of their last changes. -/
def Agree (s : State) (xs ys : List Value) : Prop :=
  ∃ t u, Action.exec (Action.reconcileAll xs) s = (.ok (), t) ∧
    Action.exec (Action.reconcileAll ys) s = (.ok (), u) ∧
    t.store.responses.map ResponseRow.untimed = u.store.responses.map ResponseRow.untimed

theorem agree_of_reported {s : State} (hup : s.isDown = false) {xs ys : List Value}
    (hxs : ∀ body ∈ xs, wellShaped body = true) (hys : ∀ body ∈ ys, wellShaped body = true)
    (h : ∀ kind id, kind ≠ .created →
      (id ∈ xs.flatMap (reported kind) ↔ id ∈ ys.flatMap (reported kind))) : Agree s xs ys := by
  refine ⟨_, _, Action.exec_reconcileAll hup hxs, Action.exec_reconcileAll hup hys, ?_⟩
  rw [responses_foldl_reconciled, responses_foldl_reconciled]
  refine List.map_congr_left fun r _ => ?_
  rw [ResponseRow.settledAfter_congr]
  intro kind id hkind
  rw [mem_flatMap_changes, mem_flatMap_changes, h kind id hkind]

/-- Notifications that report the same changed and the same destroyed records leave the same responses,
whatever their order and number. So a notification that is delivered again changes nothing. -/
theorem notifications_converge {s : State} (hup : s.isDown = false) {xs ys : List Value}
    (hxs : ∀ body ∈ xs, wellShaped body = true) (hys : ∀ body ∈ ys, wellShaped body = true)
    (hchanged : ∀ id, id ∈ xs.flatMap (reported .changed) ↔ id ∈ ys.flatMap (reported .changed))
    (hdestroyed : ∀ id, id ∈ xs.flatMap (reported .destroyed) ↔ id ∈ ys.flatMap (reported .destroyed)) :
    Agree s xs ys ∧ ∀ body ∈ xs, Agree s [body, body] [body] := by
  constructor
  · refine agree_of_reported hup hxs hys ?_
    intro kind id hkind
    cases kind with
    | changed => exact hchanged id
    | created => exact absurd rfl hkind
    | destroyed => exact hdestroyed id
  · intro body hbody
    have hshape := hxs body hbody
    refine agree_of_reported hup ?_ ?_ ?_
    · simp [hshape]
    · simp [hshape]
    · simp

/-! ### Two ways to report the same -/

/-- A response to try, of a record. -/
def refusedResponse (id record : Text) : ResponseRow :=
  ⟨id, "form-1", record, "\x7b\x7d", SyncStatus.error.name, false, 1, 1⟩

/-- A state with three responses, two of which have the same record. -/
def State.answered : State :=
  { State.initial with
    store := ⟨[], [refusedResponse "resp-1" "rec1", refusedResponse "resp-2" "rec1",
      refusedResponse "resp-3" "rec2"]⟩ }

/-- A notification of records that changed and records that are gone. -/
def notice (changed gone : List Text) : Value :=
  .obj [("base", .obj [("id", .ofString "app1")]), ("webhook", .obj [("id", .ofString "ach1")]),
    ("timestamp", .ofString "2026-01-01T00:00:00Z"), ("payloads", .arr [.obj [("changedTablesById",
      .obj [("tbl1", .obj [("changedRecordsById", .obj (changed.map fun id => (id, .obj []))),
        ("destroyedRecordIds", .arr (gone.map .str))])])]])]

/-- A response is gone before it changed, and it is reported twice. -/
theorem notifications_converge_split :
    State.answered.isDown = false ∧
    Agree State.answered [notice ["rec1", "rec2"] ["rec2"]]
      [notice [] ["rec2"], notice ["rec2"] [], notice ["rec1"] ["rec2"]] ∧
    ∀ body ∈ [notice ["rec1", "rec2"] ["rec2"]],
      Agree State.answered [body, body] [body] := by
  refine ⟨rfl, notifications_converge rfl (by decide) (by decide) ?_ ?_⟩
  · have hxs : [notice ["rec1", "rec2"] ["rec2"]].flatMap (reported .changed) =
      ["rec1", "rec2"] := by decide
    have hys : [notice [] ["rec2"], notice ["rec2"] [],
      notice ["rec1"] ["rec2"]].flatMap (reported .changed) = ["rec2", "rec1"] := by decide
    intro id
    rw [hxs, hys]
    simp [or_comm]
  · have hxs : [notice ["rec1", "rec2"] ["rec2"]].flatMap (reported .destroyed) =
      ["rec2"] := by decide
    have hys : [notice [] ["rec2"], notice ["rec2"] [],
      notice ["rec1"] ["rec2"]].flatMap (reported .destroyed) = ["rec2", "rec2"] := by decide
    intro id
    rw [hxs, hys]
    simp

end Service
end Intake
