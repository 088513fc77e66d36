import Intake.Http.Reply

/-!
# Requests from other origins

A browser names the origin of a page in a header, and lets the page see a reply only if the reply
admits that origin. An origin is admitted when it is in the configured list, when the list holds the
wildcard, and when it is a preview deployment of the front end. Before an unusual request a browser
asks with a preflight, which is answered here and never reaches the service.
-/

namespace Intake.Http.Origin

/-- The origin that stands for all. -/
def wildcard : Text := "*"

/-- The end of the origins of preview deployments. -/
def previewEnd : Text := ".vercel.app"

/-- The beginning of the origins of preview deployments. -/
def previewStart : Text := "https://"

/-- The origin is a preview deployment: anything on one line between the fixed beginning and end. -/
def isPreview (origin : Text) : Bool :=
  previewStart.isPrefixOf origin && previewEnd.isSuffixOf origin &&
    decide (previewStart.length + previewEnd.length ≤ origin.length) && !origin.contains 10

/-- The list in force: an empty one admits all. -/
def inForce (configured : List Text) : List Text :=
  if configured.isEmpty then [wildcard] else configured

/-- The origin is admitted. -/
def admits (configured : List Text) (origin : Text) : Bool :=
  (inForce configured).contains wildcard || isPreview origin || (inForce configured).contains origin

/-- The methods that a page may use. -/
def methods : List Text := ["DELETE", "GET", "HEAD", "OPTIONS", "PATCH", "POST", "PUT", "QUERY"]

/-- The header that admits an origin, if it is admitted. -/
def admission (configured : List Text) (origin : Text) : List Header :=
  if admits configured origin then [⟨"access-control-allow-origin", origin⟩] else []

/-- What is wrong with a preflight, in order. -/
def faults (configured : List Text) (origin method : Text) (privateNetwork : Bool) : List Text :=
  (if admits configured origin then [] else [("origin" : Text)]) ++
    (if methods.contains method then [] else [("method" : Text)]) ++
    (if privateNetwork then [("private-network" : Text)] else [])

/-- The headers of every preflight reply. -/
def preflightHeaders : List Header :=
  [⟨"vary", Text.join ", " ["Origin", "Access-Control-Request-Method",
      "Access-Control-Request-Headers", "Access-Control-Request-Private-Network"]⟩,
    ⟨"access-control-allow-methods", Text.join ", " methods⟩, ⟨"access-control-max-age", "600"⟩,
    ⟨"access-control-allow-credentials", "true"⟩]

/-- The reply to a preflight, if the request is one. -/
def preflight? (configured : List Text) (r : Request) : Option Reply :=
  match r.header? "origin", r.header? "access-control-request-method" with
  | some origin, some method =>
    if r.method = "OPTIONS" then
      let asked := match r.header? "access-control-request-headers" with
        | some names => [⟨"access-control-allow-headers", names⟩]
        | none => []
      let headers := preflightHeaders ++ admission configured origin ++ asked
      some (match faults configured origin method
          (r.header? "access-control-request-private-network").isSome with
        | [] => Reply.plain 200 "OK" headers
        | f :: fs => Reply.plain 400 (("Disallowed CORS " : Text) ++ Text.join ", " (f :: fs)) headers)
    else none
  | _, _ => none

/-- What is added to the headers of every other reply. -/
def stamp (configured : List Text) (r : Request) (headers : List Header) : List Header :=
  headers ++ (match r.header? "origin" with
    | some origin => [⟨"access-control-allow-credentials", "true"⟩,
        ⟨"access-control-expose-headers", "X-Request-Id"⟩] ++ admission configured origin
    | none => []) ++ [⟨"vary", "Origin"⟩]

end Intake.Http.Origin
