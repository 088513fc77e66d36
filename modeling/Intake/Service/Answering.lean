import Intake.Form.Submission
import Intake.Service.Authoring

/-!
# Answering

How respondents work with a form: seeing which questions are shown, and submitting. A submission that is
accepted is sent on as a record of the remote table. Whether or not the remote service takes it, the
response is stored, so that nothing that was accepted is lost.
-/

namespace Intake.Service.Action

open Http

/-- The answers in the body of a request. -/
def answersOf (body : Value) : Option Members := (AnswersPayload.check body).toOption.map (·.answers)

/-- The questions of a stored form. -/
def questionsOf (row : Store.FormRow) : Action (List Question) := ofReadable row.questions?

/-- Tells which questions of a form are shown. -/
def postVisible (id : Text) (body : Value) : Action Reply := withForm id fun row => do
  match answersOf body with
  | none => refuse Problem.answersRequired
  | some answers =>
    let questions ← questionsOf row
    let shown := Question.visible questions answers
    ok 200 (.obj [("formId", .str id), ("questions", .arr (shown.map (·.dump .wire))),
      ("questionKeys", .arr (shown.map fun q => .str q.key))])

/-! ### Submitting -/

/-- The mark that stands for the record id of a response that the remote service did not take: the time in
milliseconds. -/
def placeholderAt (time : Nat) : Text := ("ERROR_" : Text) ++ Text.ofNat time

/-- The payload of an event about a response. -/
def responsePayload (formId responseId : Text) (more : Members) : Value :=
  .obj ([(("formId" : Text), Value.str formId), ("responseId", .str responseId)] ++ more)

/-- Stores a response that the remote service did not take. -/
def keepFailed (formId : Text) (accepted : Members) (r : Remote.Refusal) : Action Reply := do
  let time ← timeOfDay
  let row ← createResponse (.str formId) (.str (placeholderAt time)) (.obj accepted)
    (.str SyncStatus.error.name)
  publish ⟨Event.syncFailed, responsePayload formId row.id []⟩
  refuse (Problem.remoteUnavailable (detailsOf r) (.str row.id) (.str Problem.submissionFailed))

/-- Stores a response that became a record. -/
def keepSynced (formId recordId : Text) (accepted : Members) : Action Reply := do
  let row ← createResponse (.str formId) (.str recordId) (.obj accepted)
    (.str SyncStatus.synced.name)
  countResponse formId
  publish ⟨Event.responseSubmitted,
    responsePayload formId row.id [("airtableRecordId", .str recordId)]⟩
  ok 200 (.obj [("success", .bool true), ("message", .ofString "Form submitted successfully"),
    ("responseId", .str row.id), ("airtableRecordId", .str recordId)])

/-- Sends accepted answers on and stores them. -/
def deliver (client : Remote.Client) (row : Store.FormRow) (questions : List Question)
    (accepted : Members) : Action Reply := do
  match ← call (client.createRecord row.baseId row.tableName
      (.obj (Submission.columns questions accepted))) with
  | .ok recordId => keepSynced row.id recordId accepted
  | .error (.refused r) => keepFailed row.id accepted r
  | .error e => throw (.call e)

/-- Takes a submission. -/
def postSubmission (access : Access) (id : Text) (body : Value) : Action Reply := do
  let client ← ofExcept .call (Remote.Client.ofAccess access)
  match answersOf body with
  | none => refuse Problem.answersRequired
  | some answers => withForm id fun row => do
    let questions ← questionsOf row
    match Submission.accept questions answers with
    | .error e => refuse (Problem.ofFormError e)
    | .ok accepted => deliver client row questions accepted

/-- Lists the responses to a form. -/
def listResponses (id : Text) : Action Reply := withForm id fun row => do
  let rows ← responsesTo id
  let views ← ofReadable (rows.mapM (·.view?))
  ok 200 (.obj [("success", .bool true),
    ("form", .obj [("title", .str row.title), ("responseCount", .int row.responseCount)]),
    ("responses", .arr (views.map fun v => v.dump .wire))])

end Intake.Service.Action
