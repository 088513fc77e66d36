import Intake.Http.Reply
import Intake.Text.Names

/-!
# Request ids

Every request has an id: the one its client sent in a header, if that is not empty, or a fresh one. The
id is added as a last header to the start of each reply, unless the reply names one itself. Messages
that do not start a reply, and everything outside HTTP, pass unchanged.
-/

namespace Intake.RequestId

/-- A message from the application to its client: the start of a reply, or anything else. -/
inductive Message where
  | start (headers : List Http.Header) (rest : Members)
  | other (fields : Members)

/-- What a request id is made of: the header's name, how names are compared with it, and the number of
the next fresh id. -/
structure Source where
  name : Text
  next : Nat

/-- Fresh ids that are told apart by a number. -/
def numbered : Names := .numbered "req-" (by decide)

/-- The header is the one that carries the id. Its own name is in lower case throughout, the other
name only in its ASCII letters. -/
def carries (name : Text) (h : Http.Header) : Bool := Http.lowerName h.name == name.lower

/-- The id that the client sent; an empty one counts as none. -/
def sent? (name : Text) (headers : List Http.Header) : Option Text :=
  match headers.find? (carries name) with
  | some h => if h.value.isEmpty then none else some h.value
  | none => none

/-- Adds the id to headers that lack one. -/
def stampHeaders (name id : Text) (headers : List Http.Header) : List Http.Header :=
  if headers.any (carries name) then headers else headers ++ [⟨name, id⟩]

/-- Adds the id to a message that starts a reply. -/
def stamp (name id : Text) : Message → Message
  | .start headers rest => .start (stampHeaders name id headers) rest
  | .other fields => .other fields

/-- The id of a request, and the number of the next fresh one. -/
def choose (s : Source) (headers : List Http.Header) (fresh : Names := numbered) : Text × Nat :=
  match sent? s.name headers with
  | some id => (id, s.next)
  | none => (fresh.name s.next, s.next + 1)

/-- The messages of one request and the number of the next fresh id. A name that is not Latin-1
cannot be a header. -/
def pass (s : Source) (http : Bool) (headers : List Http.Header) (messages : List Message)
    (fresh : Names := numbered) : Except Http.ReplyError (List Message × Nat) :=
  if !http then .ok (messages, s.next)
  else if (Text.toLatin1? s.name.lower).isNone then .error .notEncodable
  else
    let c := choose s headers fresh
    .ok (messages.map (stamp s.name c.1), c.2)

/-- The messages of several requests with the same headers, one after the other. -/
def passMany (s : Source) (http : Bool) (headers : List Http.Header) (messages : List Message)
    (times : Nat) (fresh : Names := numbered) : Except Http.ReplyError (List Message) :=
  match times with
  | 0 => .ok []
  | n + 1 =>
    match pass s http headers messages fresh with
    | .error e => .error e
    | .ok (out, next) =>
      match passMany { s with next := next } http headers messages n fresh with
      | .error e => .error e
      | .ok more => .ok (out ++ more)

end Intake.RequestId
