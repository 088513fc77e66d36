import Intake.Notification.Basic
import Mathlib.Data.List.Basic

/-!
# The shape of a notification

A notification says what changed in three containers for each table of each payload. Two of them are
objects whose keys are record ids, the third is a list of record ids; each may be missing. Whatever else
stands in a notification is passed over. So a notification of this shape reports a list of changes, and
nothing in it breaks off the work.

        body ─▶ payloads ─▶ tables ─▶ containers ─▶ record ids
-/

namespace Intake

namespace ChangeKind

/-- All kinds of changes, in the order in which a table lists them. -/
def all : List ChangeKind := [changed, created, destroyed]

/-- The name of the container that lists the records of a kind. -/
def container : ChangeKind → Text
  | changed => "changedRecordsById"
  | created => "createdRecordsById"
  | destroyed => "destroyedRecordIds"

end ChangeKind

namespace Notification

/-- The tables that a notification speaks of, in order. -/
def tables (body : Value) : List Value :=
  match body.member "payloads" with
  | .arr payloads => payloads.flatMap fun payload =>
      ((payload.member "changedTablesById").members?.getD []).map (·.2)
  | _ => []

/-- The record ids in a container: the keys of an object, or the texts of a list. -/
def recordsIn : Value → List Text
  | .obj ms => Members.keys ms
  | .arr ids => ids.filterMap Value.text?
  | _ => []

/-- The container is missing or has the form that its kind has, with record ids that every encoding can
carry. -/
def fits (kind : ChangeKind) : Value → Bool
  | .null => true
  | .obj ms => kind != .destroyed && (Members.keys ms).all Text.encodable
  | .arr ids => kind == .destroyed && ids.all fun id => id.text?.any Text.encodable
  | _ => false

/-- The notification says what it must, and every container in it has its form. -/
def wellShaped (body : Value) : Bool :=
  accepted body && (tables body).all fun table =>
    ChangeKind.all.all fun kind => fits kind (table.member kind.container)

/-- The records that a notification reports with a kind of change, in order. -/
def reported (kind : ChangeKind) (body : Value) : List Text :=
  (tables body).flatMap fun table => recordsIn (table.member kind.container)

/-- The changes of one table, in order. -/
def tableChanges (table : Value) : List Change :=
  ChangeKind.all.flatMap fun kind => (recordsIn (table.member kind.container)).map (Change.mk kind)

/-- The changes that a notification reports, in order. -/
def changes (body : Value) : List Change := (tables body).flatMap tableChanges

/-- A container of its form lists changes of its kind. -/
theorem ofRecords_of_fits {kind : ChangeKind} {container : Value} (h : fits kind container = true) :
    ofRecords kind container = (recordsIn container).map fun id => .change ⟨kind, id⟩ := by
  cases container with
  | null => rfl
  | obj ms => simp [ofRecords, Value.listedOrNone, Value.listed?, recordsIn, Members.keys]
  | arr ids =>
    simp only [fits, Bool.and_eq_true] at h
    have htexts := h.2
    simp only [ofRecords, Value.listedOrNone, Value.listed?, recordsIn]
    clear h
    induction ids with
    | nil => rfl
    | cons id ids ih =>
      rw [List.all_cons, Bool.and_eq_true] at htexts
      cases id with
      | str t => simpa [Value.text?] using ih htexts.2
      | _ => cases htexts.1
  | _ => cases h

theorem fits_of_wellShaped {body table : Value} (h : wellShaped body = true)
    (htable : table ∈ tables body) (kind : ChangeKind) :
    fits kind (table.member kind.container) = true := by
  simp only [wellShaped, Bool.and_eq_true, List.all_eq_true] at h
  exact h.2 table htable kind (by cases kind <;> decide)

/-- A table whose containers have their forms reports its changes. -/
theorem ofTable_of_fits {table : Value}
    (h : ∀ kind : ChangeKind, fits kind (table.member kind.container) = true) :
    ofTable table = (tableChanges table).map .change := by
  have hchanged := ofRecords_of_fits (h .changed)
  have hcreated := ofRecords_of_fits (h .created)
  have hdestroyed := ofRecords_of_fits (h .destroyed)
  cases table with
  | obj ms =>
    simp only [ChangeKind.container] at hchanged hcreated hdestroyed
    rw [ofTable, hchanged, hcreated, hdestroyed]
    simp [tableChanges, ChangeKind.all, ChangeKind.container, List.map_map, Function.comp_def]
  | _ => rfl

/-- What a notification meets is what its tables report. -/
theorem items_eq_tables (body : Value) : items body = (tables body).flatMap ofTable := by
  unfold items tables
  cases body.member "payloads" with
  | arr payloads =>
    simp only [List.flatMap_assoc, List.flatMap_map]
    rfl
  | _ => rfl

/-- A notification of the right shape reports changes and nothing else. -/
theorem items_of_wellShaped {body : Value} (h : wellShaped body = true) :
    items body = (changes body).map .change := by
  rw [items_eq_tables, changes, List.map_flatMap]
  exact List.flatMap_congr fun table htable => ofTable_of_fits (fits_of_wellShaped h htable)

theorem accepted_of_wellShaped {body : Value} (h : wellShaped body = true) : accepted body = true := by
  rw [wellShaped, Bool.and_eq_true] at h
  exact h.1

/-- The changes are those of the records reported. -/
theorem mem_changes {body : Value} {c : Change} : c ∈ changes body ↔ c.record ∈ reported c.kind body := by
  obtain ⟨kind, id⟩ := c
  simp only [changes, tableChanges, reported, List.mem_flatMap, List.mem_map]
  constructor
  · rintro ⟨table, htable, kind, -, record, hrecord, heq⟩
    cases heq
    exact ⟨table, htable, hrecord⟩
  · rintro ⟨table, htable, hrecord⟩
    exact ⟨table, htable, kind, by cases kind <;> decide, id, hrecord, rfl⟩

/-- Every record reported can be looked up. -/
theorem encodable_of_mem_changes {body : Value} (h : wellShaped body = true) {c : Change}
    (hc : c ∈ changes body) : c.record.encodable = true := by
  obtain ⟨table, htable, hrecord⟩ := List.mem_flatMap.1 (mem_changes.1 hc)
  have hfits := fits_of_wellShaped h htable c.kind
  revert hfits hrecord
  cases table.member c.kind.container with
  | obj ms =>
    intro hrecord hfits
    rw [fits, Bool.and_eq_true] at hfits
    exact List.all_eq_true.1 hfits.2 _ hrecord
  | arr ids =>
    intro hrecord hfits
    rw [fits, Bool.and_eq_true] at hfits
    obtain ⟨id, hid, htext⟩ := List.mem_filterMap.1 hrecord
    have hany := List.all_eq_true.1 hfits.2 id hid
    rwa [htext, Option.any_some] at hany
  | _ => exact fun hrecord => nomatch hrecord

end Notification
end Intake
