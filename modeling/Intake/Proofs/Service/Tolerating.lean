import Intake.Proofs.Service.Converging
import Mathlib.Data.List.TakeWhile

/-!
# What stops a notification

Notifications come from outside, so anything can stand in them. Payloads and tables of the wrong form are
passed over. A container of records is gone through as it comes, and each record in it is looked up as
it comes: a container that cannot be gone through, or a record id that no encoding can carry, stops the
work where it stands. What was reported before it is applied and stays applied, and what was reported
after it is never looked at.

        items    change ──▶ change ──▶ obstacle     change     change
                 applied    applied    breaks off   not reached
-/

namespace Intake

namespace Notification

/-- The work goes on after the item. -/
def Item.passes : Item → Bool
  | .change c => c.record.encodable
  | .broken => false

/-- The change that the item is. -/
def Item.change? : Item → Option Change
  | .change c => some c
  | .broken => none

/-- How the work breaks off at an item. -/
def Item.fault : Item → Service.Failure
  | .change _ => .store .notEncodable
  | .broken => .misuse .wrongKind

/-- The first item that stops the work. -/
def obstacle? (body : Value) : Option Item := (items body).find? fun item => !item.passes

/-- The changes that are reported before the work stops. -/
def reached (body : Value) : List Change :=
  ((items body).takeWhile Item.passes).filterMap Item.change?

/-- The container can be gone through, and each of its records can be looked up. -/
def Passable (container : Value) : Prop :=
  ∃ ids, container.listedOrNone = .ok ids ∧ ∀ id ∈ ids, id.display.encodable = true

/-- Every container in the notification can be gone through to its end. -/
def AllPassable (body : Value) : Prop :=
  ∀ table ∈ tables body, ∀ kind : ChangeKind, Passable (table.member kind.container)

/-- The changes cover every record in the containers that are objects or lists. -/
def Covered (body : Value) (cs : List Change) : Prop :=
  ∀ table ∈ tables body, ∀ kind : ChangeKind, ∀ id ∈ recordsIn (table.member kind.container),
    ⟨kind, id⟩ ∈ cs

/-! ### The items of a notification -/

/-- Items that pass are changes. -/
theorem map_filterMap_change? {is : List Item} (h : ∀ item ∈ is, item.passes = true) :
    (is.filterMap Item.change?).map .change = is := by
  induction is with
  | nil => rfl
  | cons item is ih =>
    rw [List.forall_mem_cons] at h
    cases item with
    | change c =>
      rw [List.filterMap_cons_some (by rfl), List.map_cons, ih h.2]
    | broken => cases h.1

/-- The changes that are reached come first, and then come the items from the obstacle on. -/
theorem items_eq_reached (body : Value) :
    items body = (reached body).map .change ++ (items body).dropWhile Item.passes := by
  have hpasses : ∀ item ∈ (items body).takeWhile Item.passes, item.passes = true := by
    intro item hitem
    exact List.mem_takeWhile_imp hitem
  rw [reached, map_filterMap_change? hpasses, List.takeWhile_append_dropWhile]

theorem obstacle?_eq_head? (body : Value) :
    obstacle? body = ((items body).dropWhile Item.passes).head? :=
  List.find?_not_eq_head?_dropWhile _ _

/-- Every change that is reached is of a record that can be looked up. -/
theorem encodable_of_mem_reached {body : Value} {c : Change} (h : c ∈ reached body) :
    c.record.encodable = true := by
  obtain ⟨item, hitem, hc⟩ := List.mem_filterMap.1 h
  have hpasses := List.mem_takeWhile_imp hitem
  cases item with
  | change d =>
    cases hc
    exact hpasses
  | broken => cases hc

/-- All items of a container pass exactly when the container can be gone through to its end. -/
theorem forall_ofRecords_iff (kind : ChangeKind) {container : Value} :
    (∀ item ∈ ofRecords kind container, item.passes = true) ↔ Passable container := by
  unfold ofRecords Passable
  cases container.listedOrNone with
  | error m =>
    constructor
    · intro h
      cases h .broken (List.mem_singleton.2 rfl)
    · rintro ⟨ids, hids, -⟩
      cases hids
  | ok ids =>
    simp only [List.forall_mem_map]
    constructor
    · intro h
      exact ⟨ids, rfl, h⟩
    · rintro ⟨_, ⟨⟩, h⟩
      exact h

/-- The items of a table come from its containers; what is no object has none. -/
theorem mem_ofTable {table : Value} {item : Item} :
    item ∈ ofTable table ↔ ∃ kind : ChangeKind, item ∈ ofRecords kind (table.member kind.container) := by
  have hnone (kind : ChangeKind) : ofRecords kind .null = [] := rfl
  constructor
  · intro hitem
    unfold ofTable at hitem
    split at hitem
    · rcases List.mem_append.1 hitem with hitem | hitem
      · rcases List.mem_append.1 hitem with hitem | hitem
        · exact ⟨.changed, hitem⟩
        · exact ⟨.created, hitem⟩
      · exact ⟨.destroyed, hitem⟩
    · cases hitem
  · rintro ⟨kind, hitem⟩
    cases table with
    | obj ms =>
      rw [ofTable]
      cases kind with
      | changed => exact List.mem_append_left _ (List.mem_append_left _ hitem)
      | created => exact List.mem_append_left _ (List.mem_append_right _ hitem)
      | destroyed => exact List.mem_append_right _ hitem
    | _ =>
      change item ∈ ofRecords kind .null at hitem
      rw [hnone] at hitem
      cases hitem

/-- Nothing stops the work exactly when every container can be gone through to its end. -/
theorem obstacle?_eq_none_iff {body : Value} : obstacle? body = none ↔ AllPassable body := by
  simp only [obstacle?, List.find?_eq_none, Bool.not_eq_true', Bool.not_eq_false, items_eq_tables,
    List.mem_flatMap]
  constructor
  · intro h table htable kind
    refine (forall_ofRecords_iff kind).1 ?_
    intro item hitem
    exact h item ⟨table, htable, mem_ofTable.2 ⟨kind, hitem⟩⟩
  · rintro h item ⟨table, htable, hitem⟩
    obtain ⟨kind, hitem⟩ := mem_ofTable.1 hitem
    exact (forall_ofRecords_iff kind).2 (h table htable kind) item hitem

/-- What stands in a container that is an object or a list is met. -/
theorem mem_ofRecords_of_mem {kind : ChangeKind} {container : Value} {id : Text}
    (h : id ∈ recordsIn container) : .change ⟨kind, id⟩ ∈ ofRecords kind container := by
  cases container with
  | obj ms =>
    obtain ⟨e, he, rfl⟩ := List.mem_map.1 h
    exact List.mem_map.2 ⟨.str e.1, List.mem_map.2 ⟨e, he, rfl⟩, rfl⟩
  | arr ids =>
    obtain ⟨v, hv, htext⟩ := List.mem_filterMap.1 h
    cases v with
    | str t =>
      cases htext
      exact List.mem_map.2 ⟨.str id, hv, rfl⟩
    | _ => cases htext
  | _ => cases h

/-- Where nothing stops the work, every record in every container is reached. -/
theorem covered_reached {body : Value} (h : obstacle? body = none) : Covered body (reached body) := by
  intro table htable kind id hid
  have hitem : .change ⟨kind, id⟩ ∈ items body := by
    rw [items_eq_tables, List.mem_flatMap]
    exact ⟨table, htable, mem_ofTable.2 ⟨kind, mem_ofRecords_of_mem hid⟩⟩
  rw [obstacle?_eq_head?, List.head?_eq_none_iff] at h
  rw [items_eq_reached, h, List.append_nil, List.mem_map] at hitem
  obtain ⟨c, hc, heq⟩ := hitem
  cases heq
  exact hc

end Notification

namespace Service

open Store Notification

namespace Action

/-- A record that cannot be looked up cannot be marked; the clock is read before that. -/
theorem exec_markWith_of_unencodable {f : Text → Nat → Store → Store} {id : Text} {s : State}
    (hs : s.isDown = false) (hid : id.encodable = false) :
    exec (markWith f id) s = (.error (.store .notEncodable), { s with clock := s.clock + 1 }) := by
  rw [markWith, exec_bind, exec_now]
  simp [exec_bind, exec_key, hs, hid]

/-- Nor can it be looked for. -/
theorem exec_response?_of_unencodable {id : Text} {s : State} (hs : s.isDown = false)
    (hid : id.encodable = false) : exec (response? id) s = (.error (.store .notEncodable), s) := by
  rw [response?, exec_bind, exec_key, hs, hid]
  rfl

/-- The work stops at an obstacle and leaves the store and the events as they are. -/
theorem exec_follow_obstacle {item : Item} {s : State} (hs : s.isDown = false)
    (hitem : item.passes = false) (rest : List Item) (sum : Summary) :
    ∃ clock, exec (follow (item :: rest) sum) s = (.error item.fault, { s with clock := clock }) := by
  cases item with
  | broken => exact ⟨s.clock, rfl⟩
  | change c =>
    obtain ⟨kind, record⟩ := c
    change record.encodable = false at hitem
    have hattempt : ∃ clock, exec (attempt ⟨kind, record⟩ sum) s =
        (.error (.store .notEncodable), { s with clock := clock }) := by
      rw [attempt, exec_tryCatch]
      cases kind with
      | created =>
        refine ⟨s.clock, ?_⟩
        simp [applyChange, exec_bind, exec_response?_of_unencodable hs hitem, isStoreFailure]
      | _ =>
        refine ⟨s.clock + 1, ?_⟩
        simp [applyChange, markSynced, markDeleted, exec_bind, exec_markWith_of_unencodable hs hitem,
          isStoreFailure]
    obtain ⟨clock, hattempt⟩ := hattempt
    refine ⟨clock, ?_⟩
    rw [follow, exec_bind, hattempt]
    rfl

end Action

/-- What comes of a notification that says what it must. -/
structure Follows (body : Value) (s t : State) (outcome : Except Failure Summary) : Prop where
  /-- The changes that are reached are counted, or the work breaks off at the obstacle. -/
  outcome : outcome = match obstacle? body with
    | none => .ok (Summary.none.tally s.store.knows (reached body))
    | some item => .error item.fault
  /-- Either way just the changes that are reached are applied. -/
  applied : ∃ clock, t = { (reached body).foldl State.reconciled s with clock := clock }

/-- The notification is refused and changes nothing, or it is gone through to its end and every record in
every container that is an object or a list is applied. -/
def Tolerates (body : Value) (s : State) : Prop :=
  Action.exec (Action.reconcile body) s = (.error .notification, s) ∨
    ∃ total cs, Action.exec (Action.reconcile body) s = (.ok total, cs.foldl State.reconciled s) ∧
      Covered body cs

section Tolerates

variable {body : Value} {s : State}

theorem exec_reconcile_of_refused (s : State) (h : accepted body = false) :
    Action.exec (Action.reconcile body) s = (.error .notification, s) := by
  rw [Action.reconcile, h]
  rfl

theorem isDown_reached (hup : s.isDown = false) :
    ((reached body).foldl State.reconciled s).isDown = false := by
  rwa [isDown_foldl_reconciled]

/-- A notification that says what it must applies the changes before the first obstacle. -/
theorem exec_reconcile_of_accepted (hup : s.isDown = false) (h : accepted body = true) :
    Action.exec (Action.reconcile body) s =
      Action.exec (Action.follow ((items body).dropWhile Item.passes)
        (Summary.none.tally s.store.knows (reached body))) ((reached body).foldl State.reconciled s) := by
  rw [Action.reconcile, if_pos h, items_eq_reached,
    Action.exec_follow_append hup fun c hc => encodable_of_mem_reached hc]
  rw [← items_eq_reached]

theorem exec_reconcile_of_passable (hup : s.isDown = false) (h : accepted body = true)
    (hnone : obstacle? body = none) : Action.exec (Action.reconcile body) s =
      (.ok (Summary.none.tally s.store.knows (reached body)),
        (reached body).foldl State.reconciled s) := by
  rw [obstacle?_eq_head?, List.head?_eq_none_iff] at hnone
  rw [exec_reconcile_of_accepted hup h, hnone]
  rfl

theorem exec_reconcile_of_obstacle (hup : s.isDown = false) (h : accepted body = true) {item : Item}
    (hsome : obstacle? body = some item) : ∃ clock, Action.exec (Action.reconcile body) s =
      (.error item.fault, { (reached body).foldl State.reconciled s with clock := clock }) := by
  have hitem : item.passes = false := by simpa using List.find?_some hsome
  rw [obstacle?_eq_head?, List.head?_eq_some_iff] at hsome
  obtain ⟨rest, hrest⟩ := hsome
  rw [exec_reconcile_of_accepted hup h, hrest]
  exact Action.exec_follow_obstacle (isDown_reached hup) hitem rest _

theorem follows_of_accepted (hup : s.isDown = false) (h : accepted body = true) :
    Follows body s (Action.exec (Action.reconcile body) s).2
      (Action.exec (Action.reconcile body) s).1 := by
  cases hobstacle : obstacle? body with
  | none =>
    rw [exec_reconcile_of_passable hup h hobstacle]
    exact ⟨by rw [hobstacle], _, rfl⟩
  | some item =>
    obtain ⟨clock, hexec⟩ := exec_reconcile_of_obstacle hup h hobstacle
    rw [hexec]
    exact ⟨by rw [hobstacle], clock, rfl⟩

/-- No obstacle breaks the work off as a refusal does. -/
theorem fault_ne_notification (item : Item) : item.fault ≠ .notification := by
  cases item <;> exact fun h => nomatch h

/-- A notification is tolerated unless it says what it must and has an obstacle. -/
theorem tolerates_iff (hup : s.isDown = false) :
    Tolerates body s ↔ (accepted body = true → AllPassable body) := by
  cases haccepted : accepted body with
  | false =>
    constructor
    · rintro - ⟨⟩
    · intro _
      exact .inl (exec_reconcile_of_refused s haccepted)
  | true =>
    rw [← obstacle?_eq_none_iff]
    constructor
    · intro htolerates _
      by_contra hobstacle
      obtain ⟨item, hsome⟩ := Option.ne_none_iff_exists'.1 hobstacle
      obtain ⟨clock, hexec⟩ := exec_reconcile_of_obstacle hup haccepted hsome
      rcases htolerates with h | ⟨total, cs, h, -⟩
      · rw [hexec] at h
        exact fault_ne_notification item (Except.error.inj (congrArg Prod.fst h))
      · rw [hexec] at h
        cases congrArg Prod.fst h
    · intro hnone
      exact .inr ⟨_, _, exec_reconcile_of_passable hup haccepted (hnone rfl),
        covered_reached (hnone rfl)⟩

/-- While the store is up, a notification that lacks what it must say is refused and changes nothing.
Any other is gone through up to the first container that cannot be gone through or record that cannot
be looked up, and just the changes before that are applied. So notifications are tolerated exactly when
there is no such container and no such record. -/
theorem notification_tolerated_iff (body : Value) {s : State} (hup : s.isDown = false) :
    (accepted body = false → Action.exec (Action.reconcile body) s = (.error .notification, s)) ∧
    (accepted body = true → Follows body s (Action.exec (Action.reconcile body) s).2
      (Action.exec (Action.reconcile body) s).1) ∧
    (obstacle? body = none ↔ AllPassable body) ∧
    (obstacle? body = none → Covered body (reached body)) ∧
    (Tolerates body s ↔ (accepted body = true → AllPassable body)) :=
  ⟨exec_reconcile_of_refused s, follows_of_accepted hup, obstacle?_eq_none_iff, covered_reached,
    tolerates_iff hup⟩

end Tolerates

/-! ### A number among the containers -/

/-- A notification of a record that changed and a record that is gone. Between them stands a number where
records that were created should be. -/
def strayNotice : Value :=
  .obj [("base", .obj [("id", .ofString "app1")]), ("webhook", .obj [("id", .ofString "ach1")]),
    ("timestamp", .ofString "2026-01-01T00:00:00Z"), ("payloads", .arr [.obj [("changedTablesById",
      .obj [("tbl1", .obj [("changedRecordsById", .obj [("rec1", .obj [])]),
        ("createdRecordsById", .int 5), ("destroyedRecordIds", .arr [.ofString "rec2"])])])]])]

/-- The change before the number is applied, and the one after it is not. -/
theorem notification_tolerated_iff_stray :
    State.answered.isDown = false ∧
    (accepted strayNotice = false → Action.exec (Action.reconcile strayNotice) State.answered =
      (.error .notification, State.answered)) ∧
    (accepted strayNotice = true → Follows strayNotice State.answered
      (Action.exec (Action.reconcile strayNotice) State.answered).2
      (Action.exec (Action.reconcile strayNotice) State.answered).1) ∧
    (obstacle? strayNotice = none ↔ AllPassable strayNotice) ∧
    (obstacle? strayNotice = none → Covered strayNotice (reached strayNotice)) ∧
    (Tolerates strayNotice State.answered ↔ (accepted strayNotice = true → AllPassable strayNotice)) ∧
    obstacle? strayNotice = some .broken ∧ reached strayNotice = [⟨.changed, "rec1"⟩] := by
  obtain ⟨hrefused, hfollows, hobstacle, hcovered, htolerates⟩ :=
    notification_tolerated_iff strayNotice (s := State.answered) rfl
  exact ⟨rfl, hrefused, hfollows, hobstacle, hcovered, htolerates, by decide, by decide⟩

/-- Not every notification is tolerated. -/
theorem notification_not_tolerated :
    ¬ ∀ (body : Value) (s : State), s.isDown = false → Tolerates body s := by
  intro hclaim
  have htolerates := (tolerates_iff rfl).1 (hclaim strayNotice State.answered rfl)
  have hnone := obstacle?_eq_none_iff.2 (htolerates (by decide))
  have hsome : obstacle? strayNotice = some .broken := by decide
  rw [hsome] at hnone
  cases hnone

end Service
end Intake
