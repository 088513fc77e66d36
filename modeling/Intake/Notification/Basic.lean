import Intake.Json.Display
import Intake.Json.Misuse

/-!
# Notifications

The remote service reports changes of records in notifications. A notification lists payloads, each
payload tables, and each table three kinds of changes: records that changed, that were created and that
are gone. It must name its base, its webhook and its time; whatever else has the wrong shape is passed
over, except for a list of records that cannot be gone through at all, which breaks off the work where
it stands.
-/

namespace Intake

/-- What happened to a record. -/
inductive ChangeKind where
  | changed
  | created
  | destroyed
  deriving DecidableEq

/-- A change of a record. -/
structure Change where
  kind : ChangeKind
  record : Text
  deriving DecidableEq

namespace Notification

/-- What going through a notification meets: a change, or a list that cannot be gone through. -/
inductive Item where
  | change (c : Change)
  | broken
  deriving DecidableEq

/-- The members that every notification has. -/
def requiredKeys : List Text := ["base", "webhook", "timestamp"]

/-- The body is an object whose required members all say something. -/
def accepted (body : Value) : Bool :=
  body.members?.isSome && requiredKeys.all fun k => !(body.member k).isFalsy

/-- The changes of one kind that a list of records reports. -/
def ofRecords (kind : ChangeKind) (records : Value) : List Item :=
  match records.listedOrNone with
  | .ok ids => ids.map fun id => .change ⟨kind, id.display⟩
  | .error _ => [.broken]

/-- The changes of one table. -/
def ofTable (changes : Value) : List Item :=
  match changes with
  | .obj _ => ofRecords .changed (changes.member "changedRecordsById") ++
      ofRecords .created (changes.member "createdRecordsById") ++
      ofRecords .destroyed (changes.member "destroyedRecordIds")
  | _ => []

/-- The changes of one payload. -/
def ofPayload (payload : Value) : List Item :=
  ((payload.member "changedTablesById").members?.getD []).flatMap fun e => ofTable e.2

/-- Everything that a notification reports, in order. -/
def items (body : Value) : List Item :=
  match body.member "payloads" with
  | .arr payloads => payloads.flatMap ofPayload
  | _ => []

/-- What came of a notification. -/
structure Summary where
  updated : Nat
  createdUnknown : Nat
  deleted : Nat
  failed : Nat
  deriving DecidableEq

/-- Nothing yet. -/
def Summary.none : Summary := ⟨0, 0, 0, 0⟩

/-- A summary as an object. -/
def Summary.value (s : Summary) : Value :=
  .obj [("updated", .int s.updated), ("createdUnknown", .int s.createdUnknown),
    ("deleted", .int s.deleted), ("failed", .int s.failed)]

end Notification
end Intake
