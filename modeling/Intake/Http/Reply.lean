import Intake.Json.Misuse
import Intake.Json.Display
import Intake.Number.Typed
import Intake.Text.Case
import Intake.Text.Utf8

/-!
# Requests and replies

A request as it reaches the service: a method, the host that was addressed, a decoded path, a query,
headers in order, and the octets of a body. A reply of the service: a status, headers in order, and a body
that is a JSON value or a plain text. A JSON body must be printable for every client, so it may hold neither
a number that is not finite nor a lone surrogate; and keys that begin with `_sa` are private to the storage
layer and left out. Header names are compared without regard to the case of ASCII letters, and a header's
value is that of its first occurrence.
-/

namespace Intake

namespace Http

/-- A header. -/
structure Header where
  name : Text
  value : Text
  deriving DecidableEq

/-- The name of a header in ASCII lower case. -/
def lowerName (name : Text) : Text := name.map CodePoint.asciiLower

/-- Two names of the same header. -/
def sameName (a b : Text) : Bool := lowerName a == lowerName b

/-- The value of the first header of a name. -/
def header? (name : Text) (headers : List Header) : Option Text :=
  (headers.find? fun h => sameName h.name name).map (·.value)

/-- A request. -/
structure Request where
  method : Text
  host : Text
  path : Text
  query : Text
  headers : List Header
  body : Octets

/-- The value of a header of a request. -/
def Request.header? (r : Request) (name : Text) : Option Text := Http.header? name r.headers

/-- The body of a reply. -/
inductive Body where
  | json (v : Value)
  | text (t : Text)

/-- A reply. -/
structure Reply where
  status : Int
  headers : List Header
  body : Body

/-- Why a reply cannot be made. -/
inductive ReplyError where
  | misuse (m : Misuse)
  | overflow
  | notFinite
  | notEncodable
  deriving DecidableEq

end Http

/-- The prefix of private keys. -/
def privatePrefix : Text := "_sa"

namespace Value

mutual
/-- The value without private keys. -/
def published : Value → Value
  | arr items => arr (publishedItems items)
  | obj ms => obj (publishedMembers ms)
  | v => v
/-- The items without private keys. -/
def publishedItems : List Value → List Value
  | [] => []
  | v :: vs => published v :: publishedItems vs
/-- The members that are not private. -/
def publishedMembers : List (Text × Value) → List (Text × Value)
  | [] => []
  | (k, v) :: rest =>
    if privatePrefix.isPrefixOf k then publishedMembers rest
    else (k, published v) :: publishedMembers rest
end

/-- A value that every client can read. -/
def renderable (v : Value) : Except Http.ReplyError Value :=
  if !v.allReal Binary64.isFinite then .error .notFinite
  else if !v.allText Text.encodable then .error .notEncodable
  else .ok v

/-- A value used as a status: numbers lose their fraction, texts are read as whole numbers. -/
def asStatus : Value → Except Http.ReplyError Int
  | int n => .ok n
  | bool b => .ok (if b then 1 else 0)
  | real x =>
    match x, x.truncate? with
    | .nan, _ => .error (.misuse .badContent)
    | _, some n => .ok n
    | _, none => .error .overflow
  | str s =>
    match Typed.whole? s with
    | some n => .ok n
    | none => .error (.misuse .badContent)
  | _ => .error (.misuse .wrongKind)

end Value

namespace Http

/-- The media type of a JSON body. -/
def jsonType : Text := "application/json"

/-- The media type of a problem. -/
def problemType : Text := "application/problem+json"

/-- A header as it is sent: the name in lower case, both parts Latin-1. -/
def sentHeader (h : Header) : Except ReplyError Header :=
  if (Text.toLatin1? h.name.lower).isSome && (Text.toLatin1? h.value).isSome then
    .ok ⟨h.name.lower, h.value⟩
  else .error .notEncodable

/-- All headers as they are sent. -/
def sentHeaders : List Header → Except ReplyError (List Header)
  | [] => .ok []
  | h :: hs =>
    match sentHeader h with
    | .error e => .error e
    | .ok s =>
      match sentHeaders hs with
      | .error e => .error e
      | .ok ss => .ok (s :: ss)

/-- The headers with a content type, unless they name one already. -/
def withContentType (type : Text) (headers : List Header) : List Header :=
  if headers.any fun h => h.name == ("content-type" : Text) then headers
  else headers ++ [⟨"content-type", type⟩]

/-- A reply with a JSON body of a media type. -/
def Reply.json (status : Int) (type : Text) (v : Value) (extra : List Header) :
    Except ReplyError Reply :=
  match v.renderable with
  | .error e => .error e
  | .ok v =>
    match sentHeaders extra with
    | .error e => .error e
    | .ok hs => .ok ⟨status, withContentType type hs, .json v⟩

/-- A reply with a plain text. -/
def Reply.plain (status : Int) (t : Text) (extra : List Header) : Reply :=
  ⟨status, extra ++ [⟨"content-type", "text/plain; charset=utf-8"⟩], .text t⟩

end Http
end Intake
