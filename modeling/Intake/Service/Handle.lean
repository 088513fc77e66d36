import Intake.Http.Origin
import Intake.Http.RequestId
import Intake.Http.Route
import Intake.Json.Body
import Intake.Problem.Failure
import Intake.Service.Answering
import Intake.Service.Reconciliation

/-!
# Handling requests

        request ──▶ preflight? ──▶ request id ──▶ route ──▶ endpoint ──▶ reply

A preflight is answered at once. Every other request gets an id, is led to its endpoint, and its reply
carries the id and says which origin may see it. An endpoint that breaks off gives a reply that tells
nothing about the cause and carries neither of the two.
-/

namespace Intake.Service

open Http

/-- What does not change while the service runs: how the remote service is reached, and the origins
that are admitted. -/
structure Config where
  access : Access
  origins : List Text

namespace Action

/-- The reply to a notification. -/
def postNotification (body : Value) : Action Reply :=
  if Notification.accepted body then do
    let summary ← reconcile body
    ok 200 (.obj [("success", .bool true),
      ("message", .ofString "Webhook processed successfully"), ("summary", summary.value)])
  else refuse Problem.notificationInvalid

/-- The reply that notifications are listened for. -/
def getLiveness : Action Reply := do
  let time ← now
  ok 200 (.obj [("status", .ofString "healthy"),
    ("message", .ofString "Webhook endpoint is active"),
    ("timestamp", .str (Store.momentAt (some 0) time).render)])

/-- The reply that tells whether the store can be reached. -/
def getHealth : Action Reply := do
  let s ← get
  if s.isDown then ok 200 (.obj [("status", .ofString "degraded"), ("db", .bool false)])
  else ok 200 (.obj [("status", .ofString "ok"), ("db", .bool true)])

/-- What a document says. -/
def contentOf (d : Document) : Action Body := (fun s : State => s.env.documents d) <$> get

/-- The reply with a document: a description, or a page. -/
def getDocument (d : Document) : Action Reply := do
  match ← contentOf d with
  | .json description => ofExcept .reply (Reply.json 200 jsonType description [])
  | .text page => pure ⟨200, [⟨"content-type", "text/html; charset=utf-8"⟩], .text page⟩

/-- The value in the body of a request; null when it holds none. -/
def bodyOf (r : Request) : Value := (Json.readBody? r.body).getD .null

/-- Serves an endpoint. -/
def serve (c : Config) (r : Request) (e : Endpoint) (args : List Text) : Action Reply :=
  match e, args with
  | .document d, _ => getDocument d
  | .listForms, _ => listForms
  | .createForm, _ => postForm (bodyOf r)
  | .getForm, id :: _ => getForm id
  | .visibleQuestions, id :: _ => postVisible id (bodyOf r)
  | .submit, id :: _ => postSubmission c.access id (bodyOf r)
  | .listResponses, id :: _ => listResponses id
  | .notify, _ => postNotification (bodyOf r)
  | .liveness, _ => getLiveness
  | .tableFields, base :: table :: _ => getTableFields c.access base table
  | .health, _ => getHealth
  | _, _ => pure Route.notFound

/-- Leads a request to its endpoint. -/
def dispatch (c : Config) (r : Request) : Action Reply :=
  match Route.find r.method r.path with
  | .endpoint e args => serve c r e args
  | .wrongMethod allowed => pure (Route.notAllowed allowed)
  | .elsewhere path => pure (Route.redirect (Route.location r path))
  | .nowhere => pure Route.notFound

end Action

/-- The header that carries the id of a request. -/
def requestIdName : Text := "X-Request-Id"

/-- Chooses the id of a request. -/
def nameRequest (r : Request) : StateM State Text := modifyGet fun s =>
  let c := RequestId.choose ⟨requestIdName, s.nextRequest⟩ r.headers s.env.requests
  (c.1, { s with nextRequest := c.2 })

/-- The reply that leaves the service when an action has ended. -/
def finish (c : Config) (r : Request) (id : Text) : Except Failure Reply → Reply
  | .ok reply => { reply with
      headers := Origin.stamp c.origins r (RequestId.stampHeaders requestIdName id reply.headers) }
  | .error _ => Problem.unexpectedReply

/-- Answers a request. -/
def handle (c : Config) (r : Request) : StateM State Reply :=
  match Origin.preflight? c.origins r with
  | some reply => pure reply
  | none => do
    let id ← nameRequest r
    let outcome ← (Action.dispatch c r).run
    pure (finish c r id outcome)

/-- Answers several requests, one after the other. -/
def handleAll (c : Config) : List Request → StateM State (List Reply)
  | [] => pure []
  | r :: rs => do
    let reply ← handle c r
    let replies ← handleAll c rs
    pure (reply :: replies)

end Intake.Service
