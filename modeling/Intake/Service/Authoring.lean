import Intake.Form.Normal
import Intake.Form.Record
import Intake.Problem.Basic
import Intake.Service.Records
import Intake.Table.Draft

/-!
# Authoring

How authors work with forms: listing them, creating one, looking at one, and drafting questions from the
columns of a remote table. A new form passes three gates. The payload as a whole must be sound; the
rules of its questions are reduced to their declared fields; and then every field must have its type. A
fault in the questions is reported as one of their format, any other by the names of the fields.
-/

namespace Intake.Service

open Http

namespace Action

/-- A reply with a JSON body. -/
def ok (status : Int) (body : Value) : Action Reply :=
  ofExcept .reply (Reply.json status jsonType body.published [])

/-- A reply that states a problem. -/
def refuse (problem : Members) : Action Reply := ofExcept .reply (Problem.reply problem [])

/-- The form of an id, or the problem that there is none. -/
def withForm (id : Text) (k : Store.FormRow → Action Reply) : Action Reply := do
  match ← form? id with
  | some row => k row
  | none => refuse (Problem.formNotFound (.str id))

/-- Lists the forms. -/
def listForms : Action Reply := do
  let rows ← forms
  ok 200 (.obj [("success", .bool true), ("forms", .arr (rows.map fun r => r.summary.dump .wire))])

/-- Shows a form. -/
def getForm (id : Text) : Action Reply := withForm id fun row => do
  let view ← ofReadable row.view?
  ok 200 (.obj [("success", .bool true), ("form", view.dump .wire)])

/-! ### Creating a form -/

/-- The payload with its questions replaced and its optional texts filled in. -/
def draftOf (payload : Value) (questions : List Value) : Value :=
  .obj ((((payload.members?.getD []).set "questions" (.arr questions)).set "airtableTableName"
    (orText "Table" (payload.member "airtableTableName"))).set "description"
    (orText [] (payload.member "description")))

/-- The name of the field that an issue is about, as far as it has one. -/
def fieldOf (i : Issue) : Option Text :=
  match i.path with
  | .key k :: _ => some k
  | .index n :: _ => some (Text.ofNat n)
  | [] => none

/-- Puts a text into an ascending list, unless it is there. -/
def insertName (t : Text) : List Text → List Text
  | [] => [t]
  | u :: us => if t = u then u :: us else if t.precedes u then t :: u :: us else u :: insertName t us

/-- The names of the faulty fields in ascending order, each once. -/
def faultyFields (issues : List Issue) : List Text := (issues.filterMap fieldOf).foldr insertName []

/-- The problem that a new form does not pass the checks of its fields. -/
def fieldProblem (issues : List Issue) : Members :=
  let names := faultyFields issues
  if names.contains "questions" then Problem.ofFormError .questionFormat
  else Problem.formInvalid "invalid_form_fields"
    (.str (("Invalid form fields: " : Text) ++ Text.join ", " names)) .null

/-- A new form, or the problem with its payload. -/
def newForm (payload : Value) : Action (Except Members NewForm) :=
  match Payload.check payload with
  | .error e => pure (.error (Problem.ofFormError e))
  | .ok () =>
    match Normal.ofValue (payload.member "questions") with
    | .error (.rules _) => pure (.error (Problem.ofFormError .questionFormat))
    | .error (.misuse m) => throw (.misuse m)
    | .ok questions =>
      match NewForm.check (draftOf payload questions) with
      | .failed issues => pure (.error (fieldProblem issues))
      | .ok form => pure (.ok form)

/-- Stores a new form and publishes that it is there. -/
def storeForm (form : NewForm) : Action Store.FormRow := do
  let row ← createForm (.str form.title) (.str form.description) (.str form.baseId)
    (.str form.tableId) (.str form.tableName) (.arr (form.questions.map (·.dump .wire)))
  publish ⟨Event.formCreated,
    .obj [("formId", .str row.id), ("questions", .int form.questions.length)]⟩
  pure row

/-- Creates a form. -/
def postForm (payload : Value) : Action Reply := do
  match ← newForm payload with
  | .error problem => refuse problem
  | .ok form =>
    let row ← storeForm form
    let view ← ofReadable row.view?
    ok 201 (.obj [("success", .bool true), ("message", .ofString "Form created successfully"),
      ("form", view.dump .wire)])

/-! ### Drafting questions -/

/-- What the details of a problem say about a refusal: what came back, or else the message. -/
def detailsOf (r : Remote.Refusal) : Value := if r.details.isFalsy then .str r.message else r.details

/-- The message when the columns of a table cannot be fetched. -/
def fetchFailed : Text := "Failed to fetch table fields"

/-- The columns of a table with draft questions for them. -/
def describeTable (table : Value) : Action Reply := do
  let columns ← ofExcept .misuse (Column.ofTable table)
  let drafts ← ofExcept .misuse (Draft.ofTable table)
  ok 200 (.obj [("success", .bool true),
    ("table", .obj [("id", table.member "id"), ("name", table.member "name")]),
    ("availableFields", .arr (columns.map (·.dump))), ("totalFields", .int columns.length),
    ("draftQuestions", .arr (drafts.map (·.dump)))])

/-- Describes a table of the remote service. -/
def getTableFields (access : Access) (base table : Text) : Action Reply := do
  let client ← ofExcept .call (Remote.Client.ofAccess access)
  if !client.hasToken then refuse Problem.remoteNotConfigured
  else match ← call (client.listTables base) with
    | .error (.refused r) => refuse (Problem.remoteUnavailable (detailsOf r) .null (.str fetchFailed))
    | .error e => throw (.call e)
    | .ok tables =>
      match ← ofExcept .misuse (findTable (some table) tables) with
      | none => refuse (Problem.tableNotFound (.str table))
      | some found => describeTable found

end Action
end Intake.Service
