import Intake.Json.Misuse
import Intake.Json.Printer
import Intake.Json.Reader
import Intake.Response.Record

/-!
# Rows

A stored form and a stored response. The questions of a form are one JSON text, and so are the answers
of a response, so that whatever was accepted comes back in the order in which it was given. Times are
counted in microseconds from the start of 2026, and read back without a zone.
-/

namespace Intake.Store

/-- A stored form. -/
structure FormRow where
  id : Text
  title : Text
  description : Text
  baseId : Text
  tableId : Text
  tableName : Text
  questions : Text
  isPublished : Bool
  responseCount : Nat
  createdAt : Nat
  updatedAt : Nat
  deriving DecidableEq

/-- A stored response. -/
structure ResponseRow where
  id : Text
  formId : Text
  recordId : Text
  answers : Text
  status : Text
  isDeleted : Bool
  createdAt : Nat
  updatedAt : Nat
  deriving DecidableEq

/-- The JSON text of a column. -/
def document (v : Value) : Text := Json.write .spaced v

/-- The value in a JSON column. -/
def content (t : Text) : Value := (Json.read? t).getD .null

/-- The start of 2026, in seconds after the start of 1970. -/
def epoch : Int := 1767225600

/-- The moment after a number of microseconds. -/
def momentAt (zone : Option Int) (n : Nat) : Moment := ⟨epoch + (n / 1000000 : Nat), n % 1000000, zone⟩

/-- A stored time as a value. -/
def timeValue (n : Nat) : Value := .str (momentAt none n).render

namespace FormRow

/-- A stored form without its questions. -/
def outline (r : FormRow) : Members :=
  [("id", .str r.id), ("title", .str r.title), ("description", .str r.description),
    ("airtableBaseId", .str r.baseId), ("airtableTableId", .str r.tableId),
    ("airtableTableName", .str r.tableName), ("isPublished", .bool r.isPublished),
    ("responseCount", .int r.responseCount), ("createdAt", timeValue r.createdAt),
    ("updatedAt", timeValue r.updatedAt)]

/-- A stored form as an object. -/
def value (r : FormRow) : Value := .obj (r.outline ++ [(("questions" : Text), content r.questions)])

/-- Publication state and counters of a stored form. -/
def status (r : FormRow) : FormStatus :=
  ⟨r.isPublished, r.responseCount, some (momentAt none r.createdAt),
    some (momentAt none r.updatedAt)⟩

/-- One line of the list of forms. -/
def summary (r : FormRow) : FormSummary := ⟨r.id, r.title, r.description, r.status⟩

/-- The form in full, if its questions pass their checks. -/
def view? (r : FormRow) : Option FormView :=
  (Checked.list Question.check (content r.questions)).toOption.map fun qs =>
    ⟨⟨r.title, r.description, r.baseId, r.tableId, r.tableName, qs⟩, r.id, r.status⟩

/-- The questions of a form, if they pass their checks; none are stored as an empty value. -/
def questions? (r : FormRow) : Option (List Question) :=
  match (content r.questions).listedOrNone with
  | .ok items => (Checked.list Question.check (.arr items)).toOption
  | .error _ => none

end FormRow

namespace ResponseRow

/-- A stored response as an object. -/
def value (r : ResponseRow) : Value :=
  .obj [("id", .str r.id), ("formId", .str r.formId), ("airtableRecordId", .str r.recordId),
    ("answers", content r.answers), ("status", .str r.status),
    ("deletedInAirtable", .bool r.isDeleted), ("createdAt", timeValue r.createdAt),
    ("updatedAt", timeValue r.updatedAt)]

/-- The response in full, if its answers are an object and its status is known. -/
def view? (r : ResponseRow) : Option ResponseView :=
  match content r.answers, SyncStatus.ofName? r.status with
  | .obj answers, some status =>
    some ⟨r.id, r.formId, r.recordId, answers, status, r.isDeleted,
      some (momentAt none r.createdAt), some (momentAt none r.updatedAt)⟩
  | _, _ => none

end ResponseRow
end Intake.Store
