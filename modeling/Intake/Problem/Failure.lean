import Intake.Problem.Basic
import Intake.Http.Phrase

/-!
# Failures outside the handlers

A request may fail before a handler runs (no such path, a wrong method) or because a handler broke off.
These failures are answered by problems too.
-/

namespace Intake.Problem

/-- Sets a member unless it is there already. -/
def orElse (ms : Members) (key : Text) (v : Value) : Members :=
  if Members.has ms key then ms else Members.set ms key v

/-- The problem for a failure with a status and a detail of any shape; no detail means the phrase of
the status, and an object is the problem itself. -/
def ofFailure (status : Int) (detail : Value) : Members :=
  let status := if status = 0 then 500 else status
  match detail with
  | .obj ms => orElse ms "status" (.int status)
  | _ =>
    let text := if detail.isFalsy then [] else detail.display
    [("title", .ofString "Error"), ("status", .int status), ("detail", .str text)]

/-- The reply to a failure; a missing detail is the phrase of the status. -/
def failureReply (status : Int) (detail : Value) (extra : List Http.Header) :
    Except Http.ReplyError Http.Reply :=
  let detail := match detail with
    | .null => .str (Http.phrase status)
    | d => d
  reply (ofFailure status detail) extra

/-- The problem for a request whose parts do not pass their checks. -/
def ofIssues (errors : Value) : Members :=
  [("title", .ofString "Invalid Request"), ("status", .int 422),
    ("detail", .ofString "Request validation failed"), ("errors", errors.published)]

/-- The problem for a handler that broke off. -/
def unexpected : Members := [("title", .ofString "Internal Server Error"), ("status", .int 500)]

/-- The reply for a handler that broke off. -/
def unexpectedReply : Http.Reply :=
  ⟨500, [⟨"content-type", Http.problemType⟩], .json (.obj unexpected)⟩

end Intake.Problem
