import Intake.Form.Record

/-!
# Response records

A response on the wire: the answers that a respondent sends, and the stored response with its record in
the remote table and what became of it.
-/

namespace Intake

/-- What became of a response in the remote table. -/
inductive SyncStatus where
  | submitted
  | synced
  | error
  deriving DecidableEq

namespace SyncStatus

/-- The name of a status on the wire. -/
def name : SyncStatus → Text
  | submitted => "submitted"
  | synced => "synced"
  | error => "error"

/-- All statuses. -/
def all : List SyncStatus := [submitted, synced, error]

/-- The status of a name. -/
def ofName? (t : Text) : Option SyncStatus :=
  if t = submitted.name then some submitted
  else if t = synced.name then some synced
  else if t = error.name then some error
  else none

theorem ofName?_name (s : SyncStatus) : ofName? s.name = some s := by cases s <;> decide

end SyncStatus

/-- The body of a request that carries answers. -/
structure AnswersPayload where
  answers : Members

/-- A response in full. -/
structure ResponseView where
  id : Text
  formId : Text
  recordId : Text
  answers : Members
  status : SyncStatus
  deletedRemotely : Bool
  createdAt : Option Moment
  updatedAt : Option Moment

namespace AnswersPayload

/-- Checks a body that carries answers. -/
def check : Value → Checked AnswersPayload :=
  Checked.record "AnswersPayload" fun ms =>
    (Checked.ok AnswersPayload.mk).also
      ((FieldName.same "answers").required Checked.object ms)

/-- A body that carries answers, as an object. -/
def dump (p : AnswersPayload) : Value := .obj [("answers", .obj p.answers)]

end AnswersPayload

namespace ResponseView

/-- The name of the form's id. -/
def formIdName : FieldName := ⟨"formId", "form_id"⟩

/-- The name of the remote record's id. -/
def recordIdName : FieldName := ⟨"airtableRecordId", "airtable_record_id"⟩

/-- The name of the mark that the remote record is gone. -/
def deletedName : FieldName := ⟨"deletedInAirtable", "deleted_in_airtable"⟩

/-- Checks a response in full. -/
def check : Value → Checked ResponseView :=
  Checked.record "ResponseView" fun ms =>
    ((((((((Checked.ok ResponseView.mk).also
      ((FieldName.same "id").required Schema.text ms)).also
      (formIdName.required Schema.text ms)).also
      (recordIdName.required Schema.text ms)).also
      ((FieldName.same "answers").required Checked.object ms)).also
      ((FieldName.same "status").required
        (Schema.choice (SyncStatus.all.map SyncStatus.name) SyncStatus.ofName?) ms)).also
      (deletedName.withDefault false Schema.flag ms)).also
      (FormStatus.createdAtName.withDefault none (Checked.optional Schema.moment) ms)).also
      (FormStatus.updatedAtName.withDefault none (Checked.optional Schema.moment) ms)

/-- A response in full as an object. -/
def dump (naming : Naming) (r : ResponseView) : Value :=
  .obj [("id", .str r.id), (formIdName.under naming, .str r.formId),
    (recordIdName.under naming, .str r.recordId), ("answers", .obj r.answers),
    ("status", .str r.status.name), (deletedName.under naming, .bool r.deletedRemotely),
    (FormStatus.createdAtName.under naming, Value.ofMoment? r.createdAt),
    (FormStatus.updatedAtName.under naming, Value.ofMoment? r.updatedAt)]

end ResponseView
end Intake
