import Intake.Http.Reply
import Intake.Form.Payload

/-!
# Problems

Every failure that a client can cause is answered by a problem: an object with a title, the status, the
detail (also under `error`, for older clients), a stable code, and whatever else the client needs to
act on it. The status inside a problem is the status of the reply.
-/

namespace Intake

namespace Problem

/-- A problem; further members that are null are left out. -/
def make (title : Text) (status : Int) (detail : Value) (code : Text)
    (extra : List (Text × Value)) : Members :=
  [(("title" : Text), Value.str title), ("status", .int status), ("detail", detail), ("error", detail),
    ("code", .str code)] ++ extra.filter fun e => !e.2.isNull

/-- A form definition or a submission was rejected. -/
def formInvalid (code : Text) (message question : Value) : Members :=
  make "Invalid Form" 400 message code.upper [("questionKey", question)]

/-- A form definition or a submission was rejected for a reason. -/
def ofFormError (e : FormError) : Members :=
  formInvalid e.code (.str e.message) (Value.ofText? e.question?)

/-- There is no form of that id. -/
def formNotFound (id : Value) : Members :=
  make "Not Found" 404 (.ofString "Form not found") "FORM_NOT_FOUND" [("formId", id)]

/-- The answers object is missing. -/
def answersRequired : Members :=
  make "Invalid Request" 400 (.ofString "Answers object is required") "ANSWERS_REQUIRED" []

/-- A notification is malformed. -/
def notificationInvalid : Members :=
  make "Invalid Request" 400 (.ofString "Invalid webhook payload") "WEBHOOK_PAYLOAD_INVALID" []

/-- The message when a submission could not be sent on. -/
def submissionFailed : Text := "Form submission failed"

/-- The remote service rejected a call or could not be reached. -/
def remoteUnavailable (details response message : Value) : Members :=
  make "Bad Gateway" 502 message "AIRTABLE_SYNC_FAILED"
    [("details", details), ("responseId", response)]

/-- There is no token for the remote service. -/
def remoteNotConfigured : Members :=
  make "Airtable Not Configured" 400 (.ofString "Airtable personal access token is not configured")
    "AIRTABLE_NOT_CONFIGURED" []

/-- There is no table of that id or name. -/
def tableNotFound (table : Value) : Members :=
  make "Not Found" 404 (.str (("Table not found: " : Text) ++ table.display))
    "AIRTABLE_TABLE_NOT_FOUND" []

/-- The status that a problem names; 500 when it names none. -/
def statusOf (problem : Members) : Except Http.ReplyError Int :=
  let s := (Members.get? problem "status").getD (.int 500)
  if s.isFalsy then .ok 500 else s.asStatus

end Problem

/-- The reply that a problem makes, with further headers. -/
def Problem.reply (problem : Members) (extra : List Http.Header) : Except Http.ReplyError Http.Reply :=
  match Problem.statusOf problem with
  | .error e => .error e
  | .ok status => Http.Reply.json status Http.problemType (Value.obj problem).published extra

end Intake
