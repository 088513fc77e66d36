import Intake.Http.Url
import Intake.Http.Reply
import Intake.Remote.Peer
import Intake.Settings.Access

/-!
# Talking to the remote service

Two calls are made: one creates a record in a table of a base, the other lists the tables of a base.
The names of base and table are percent-coded segments of the path. Any reply can come back. It is
refused when its status says so, when its body is no JSON, and, for a record, when it names no id;
the error then says what came instead.

A name and a password are sent in base 64: three octets are four digits of six bits each. A last group of
one or two octets is filled up with zeros, and the digits that hold nothing but filling are written as
equals signs.
-/

namespace Intake.Base64

/-- The digit for six bits. -/
def digit (n : Nat) : CodePoint :=
  if n < 26 then CodePoint.ofNat (65 + n)
  else if n < 52 then CodePoint.ofNat (71 + n)
  else if n < 62 then CodePoint.ofNat (n - 4)
  else if n = 62 then 43
  else 47

/-- The digits for octets. -/
def encode : Octets → Text
  | [] => []
  | [a] => [digit (a.val / 4), digit (a.val % 4 * 16), 61, 61]
  | [a, b] =>
    [digit (a.val / 4), digit (a.val % 4 * 16 + b.val / 16), digit (b.val % 16 * 4), 61]
  | a :: b :: c :: rest =>
    digit (a.val / 4) :: digit (a.val % 4 * 16 + b.val / 16) ::
      digit (b.val % 16 * 4 + c.val / 64) :: digit (c.val % 64) :: encode rest

end Intake.Base64

namespace Intake.Remote

/-- The remote service refused a call or could not be reached. -/
structure Refusal where
  message : Text
  status : Option Nat
  details : Value

/-- Why a call gives no result. -/
inductive CallError where
  | refused (r : Refusal)
  | broken
  | wrongKind
  | notFinite
  | notEncodable
  | malformedUrl
  | unreadableHost (f : Http.LabelFault)

/-- A client: the URL under which all paths lie, and the credentials. -/
structure Client where
  base : Http.Url
  authorization : Option Text
  hasToken : Bool

namespace Client

/-- The error behind a URL that cannot be used. -/
def ofUrlError : Http.UrlError → CallError
  | .malformed => .malformedUrl
  | .notEncodable => .notEncodable

/-- The header for a token, which must be ASCII. -/
def bearer : Option Text → Except CallError (Option Text)
  | some (c :: cs) =>
    if (c :: cs).all fun d => decide (d.val < 128) then .ok (some (("Bearer " : Text) ++ c :: cs))
    else .error .notEncodable
  | _ => .ok none

/-- The header for a name and a password. -/
def basic (c : Text × Text) : Text :=
  ("Basic " : Text) ++ Base64.encode (Utf8.encode (c.1 ++ 58 :: c.2))

/-- The client for an access. A name and a password in the URL come before the token. -/
def ofAccess (a : Access) : Except CallError Client :=
  match Http.Url.read a.url with
  | .error e => .error (ofUrlError e)
  | .ok url =>
    match url.asBase with
    | .error e => .error (ofUrlError e)
    | .ok base =>
      match bearer a.token with
      | .error e => .error e
      | .ok token => .ok ⟨base, (base.credentials?.map basic).or token, a.hasToken⟩

/-! ### Paths -/

/-- The path of the records of a table. -/
def recordsPath? (base table : Text) : Option Text :=
  match Percent.encode? base, Percent.encode? table with
  | some b, some t => some (("/v0/" : Text) ++ b ++ 47 :: t)
  | _, _ => none

/-- The path of the tables of a base. -/
def tablesPath? (base : Text) : Option Text :=
  (Percent.encode? base).map fun b => ("/v0/meta/bases/" : Text) ++ b ++ ("/tables" : Text)

/-! ### Replies -/

/-- What an answer means for any call: the value in its body, or why there is none. -/
def understand : Answer → Except CallError Value
  | .unreachable reason =>
    .error (.refused ⟨("Airtable request failed: " : Text) ++ reason, none, .null⟩)
  | .broken => .error .broken
  | .reply status body =>
    if 400 ≤ status then
      .error (.refused ⟨"Airtable rejected the request", some status,
        (Json.readBody? body).getD (.str (Utf8.decodeLenient body))⟩)
    else match Json.readBody? body with
      | some v => .ok v
      | none => .error (.refused ⟨"Airtable returned a non-JSON body", some status, .null⟩)

/-- The id of the first record in a reply. -/
def recordId? (reply : Value) : Option Value :=
  match reply with
  | .obj ms =>
    match Members.get? ms "records" with
    | some (.arr (.obj record :: _)) => Members.get? record "id"
    | _ => none
  | _ => none

/-- The text of the id of the first record in a reply. -/
def recordIdOf (reply : Value) : Except CallError Text :=
  match recordId? reply with
  | some id => .ok id.display
  | none => .error (.refused ⟨"Airtable response did not include a record id", none, reply⟩)

/-- The tables in a reply. -/
def tablesOf (reply : Value) : Except CallError (List Value) :=
  match (reply.member "tables").listedOrNone with
  | .ok tables => .ok tables
  | .error _ => .error .wrongKind

/-! ### Calls -/

/-- A body that can be sent: no other can be read by every service. -/
def sendable : Option Value → Except CallError (Option Value)
  | none => .ok none
  | some body =>
    match body.renderable with
    | .ok body => .ok (some body)
    | .error .notFinite => .error .notFinite
    | .error _ => .error .notEncodable

/-- Sends a request to a path and understands the answer. Nothing is sent to a host whose name cannot be
read. -/
def call (c : Client) (method : Method) (path : Text) (body : Option Value) (p : Peer) :
    Except CallError Value × Peer :=
  match c.base.below path with
  | .error e => (.error (ofUrlError e), p)
  | .ok url =>
    match sendable body with
    | .error e => (.error e, p)
    | .ok body =>
      match Http.Host.fault? url.host with
      | some f => (.error (.unreadableHost f), p)
      | none =>
      let r := p.exchange ⟨method, url.render, c.authorization, body⟩
      (understand r.1, r.2)

/-- The body that creates one record. -/
def recordBody (fields : Value) : Value :=
  .obj [("records", .arr [.obj [("fields", fields)]])]

/-- Creates a record with fields in a table and gives its id. -/
def createRecord (c : Client) (base table : Text) (fields : Value) (p : Peer) :
    Except CallError Text × Peer :=
  match recordsPath? base table with
  | none => (.error .notEncodable, p)
  | some path =>
    let r := c.call .post path (some (recordBody fields)) p
    (r.1.bind recordIdOf, r.2)

/-- Lists the tables of a base. -/
def listTables (c : Client) (base : Text) (p : Peer) : Except CallError (List Value) × Peer :=
  match tablesPath? base with
  | none => (.error .notEncodable, p)
  | some path =>
    let r := c.call .get path none p
    (r.1.bind tablesOf, r.2)

end Client
end Intake.Remote
