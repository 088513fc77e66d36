import Intake.Json.Body
import Intake.Json.Printer

/-!
# The remote service

The service keeps no records of its own: every accepted submission becomes a record of a remote table
service. Seen from here that service is a queue of answers that are still to come. When the queue is
empty it accepts every record under a fresh id and lists a fixed set of tables. What was sent to it is
kept in order.
-/

namespace Intake.Remote

/-- The requests that are made. -/
inductive Method where
  | get
  | post
  deriving DecidableEq

/-- The word for a method. -/
def Method.word : Method → Text
  | get => "GET"
  | post => "POST"

/-- A request: where it goes, with which credentials, and its body if it has one. -/
structure Request where
  method : Method
  url : Text
  authorization : Option Text
  body : Option Value

/-- An answer: a reply of any status with any octets, no connection or none in time, or a breakdown on
this side of the connection. -/
inductive Answer where
  | reply (status : Nat) (body : Octets)
  | unreachable (reason : Text)
  | broken

/-- The remote service: the answers to come, the tables that it lists, how many records it accepted
without being told what to answer, and what it was sent. -/
structure Peer where
  script : List Answer
  tables : Value
  accepted : Nat
  sent : List Request

namespace Peer

/-- A remote service that has not been asked anything. -/
def fresh : Peer := ⟨[], .arr [], 0, []⟩

/-- The octets of a JSON value. -/
def octetsOf (v : Value) : Octets := Utf8.encode (Json.write .compact v)

/-- A number with four digits at least. -/
def fourDigits (n : Nat) : Text :=
  let t := Text.ofNat n
  List.replicate (4 - t.length) 48 ++ t

/-- The answer to a request when none is prepared, and how many records are accepted then. -/
def usual (p : Peer) : Method → Answer × Nat
  | .post =>
    (.reply 200 (octetsOf (.obj [("records", .arr [.obj [("id",
      .str (("rec" : Text) ++ fourDigits (p.accepted + 1))), ("fields", .obj [])]])])), p.accepted + 1)
  | .get => (.reply 200 (octetsOf (.obj [("tables", p.tables)])), p.accepted)

/-- Sends a request. -/
def exchange (r : Request) (p : Peer) : Answer × Peer :=
  match p.script with
  | a :: rest => (a, { p with script := rest, sent := p.sent ++ [r] })
  | [] => ((p.usual r.method).1, { p with accepted := (p.usual r.method).2, sent := p.sent ++ [r] })

/-- Every request is kept. -/
@[simp] theorem sent_exchange (r : Request) (p : Peer) : (p.exchange r).2.sent = p.sent ++ [r] := by
  unfold exchange; split <;> rfl

end Peer
end Intake.Remote
