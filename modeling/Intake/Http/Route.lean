import Intake.Http.Reply
import Intake.Text.Percent

/-!
# Routes

Every endpoint has its methods and a pattern of path segments. A named segment of a pattern takes any
segment but an empty one. The documents about the interface come first. The endpoints of the interface are
mounted twice, at the root and below `/api/v1`. The first endpoint whose methods and pattern fit a request
serves it. If only patterns fit, the method is wrong; if none fits, a slash at the end of the path may be
one too many or one missing.
-/

namespace Intake.Http

/-- A document about the interface: its description for programs, or one of the pages for people, which
let them try it out, bring them back from signing in, and let them read about it. -/
inductive Document where
  | description
  | explorer
  | signIn
  | reference
  deriving DecidableEq

/-- All documents, in the order in which they are tried. -/
def Document.all : List Document := [description, explorer, signIn, reference]

/-- What the service offers. -/
inductive Endpoint where
  | document (d : Document)
  | listForms
  | createForm
  | getForm
  | visibleQuestions
  | submit
  | listResponses
  | notify
  | liveness
  | tableFields
  | health
  deriving DecidableEq

/-- A segment of a pattern: a fixed one, or a named one that takes what stands in its place. -/
inductive Segment where
  | fixed (t : Text)
  | named (name : Text)
  deriving DecidableEq

namespace Endpoint

/-- The endpoints of the interface, in the order in which they are tried. -/
def interface : List Endpoint :=
  [listForms, createForm, getForm, visibleQuestions, submit, listResponses, notify, liveness,
    tableFields]

/-- The method that an endpoint is made for. -/
def method : Endpoint → Text
  | createForm => "POST"
  | visibleQuestions => "POST"
  | submit => "POST"
  | notify => "POST"
  | _ => "GET"

/-- The methods of an endpoint. The head of a document can be asked for alone. -/
def methods : Endpoint → List Text
  | document _ => ["GET", "HEAD"]
  | e => [e.method]

/-- The pattern of an endpoint. -/
def pattern : Endpoint → List Segment
  | document .description => [.fixed "openapi.json"]
  | document .explorer => [.fixed "docs"]
  | document .signIn => [.fixed "docs", .fixed "oauth2-redirect"]
  | document .reference => [.fixed "redoc"]
  | listForms => [.fixed "forms"]
  | createForm => [.fixed "forms"]
  | getForm => [.fixed "forms", .named "form_id"]
  | visibleQuestions => [.fixed "forms", .named "form_id", .fixed "visible-questions"]
  | submit => [.fixed "forms", .named "form_id", .fixed "submit"]
  | listResponses => [.fixed "forms", .named "form_id", .fixed "responses"]
  | notify => [.fixed "webhooks", .fixed "airtable"]
  | liveness => [.fixed "webhooks", .fixed "health"]
  | tableFields => [.fixed "airtable", .fixed "bases", .named "base_id", .fixed "tables",
      .named "table", .fixed "fields"]
  | health => [.fixed "health"]

end Endpoint

namespace Segment

/-- A segment as it is written in a pattern. -/
def text : Segment → Text
  | fixed t => t
  | named name => 123 :: (name ++ [125])

/-- What a pattern's named segments take, if the pattern fits. One line feed after a fixed segment at the
end is passed over. -/
def fit? : List Segment → List Text → Option (List Text)
  | [], [] => some []
  | [fixed t], [s] => if s = t ∨ s = t ++ [10] then some [] else none
  | fixed t :: ps, s :: ss => if t = s then fit? ps ss else none
  | named _ :: ps, s :: ss => if s.isEmpty then none else (fit? ps ss).map (s :: ·)
  | _, _ => none

/-- A pattern as it is written. -/
def path (ps : List Segment) : Text := ps.flatMap fun p => 47 :: p.text

end Segment

/-- An endpoint at a place. -/
structure Route where
  endpoint : Endpoint
  pattern : List Segment

namespace Route

/-- The second place of the interface. -/
def mount : List Segment := [.fixed "api", .fixed "v1"]

/-- All routes in the order in which they are tried. -/
def all : List Route :=
  (Document.all.map fun d => ⟨.document d, (Endpoint.document d).pattern⟩) ++
    (Endpoint.interface.map fun e => ⟨e, e.pattern⟩) ++
    (Endpoint.interface.map fun e => ⟨e, mount ++ e.pattern⟩) ++ [⟨.health, Endpoint.health.pattern⟩]

/-- The segments of a path, which begins with a slash. -/
def segments? (path : Text) : Option (List Text) :=
  match path with
  | 47 :: rest => some (Text.pieces 47 rest)
  | _ => none

/-- What a route's named segments take from a path. -/
def fit? (path : Text) (r : Route) : Option (List Text) :=
  (segments? path).bind (Segment.fit? r.pattern)

/-- The routes whose pattern fits a path, with what their named segments take. -/
def fitting (path : Text) : List (Endpoint × List Text) :=
  all.filterMap fun r => (r.fit? path).map fun args => (r.endpoint, args)

/-- The path with a slash less at its end, or with one more. -/
def otherPath (path : Text) : Text :=
  if path.getLast? = some 47 then Text.dropEndWhile (· == 47) path else path ++ [47]

/-- Where a request leads. -/
inductive Target where
  | endpoint (e : Endpoint) (args : List Text)
  | wrongMethod (allowed : Text)
  | elsewhere (path : Text)
  | nowhere
  deriving DecidableEq

/-- Where a method and a path lead. -/
def find (method path : Text) : Target :=
  match fitting path with
  | [] =>
    if path ≠ [47] ∧ (fitting (otherPath path)).isEmpty = false then .elsewhere (otherPath path)
    else .nowhere
  | (e, args) :: rest =>
    match ((e, args) :: rest).find? fun c => c.1.methods.contains method with
    | some c => .endpoint c.1 c.2
    | none => .wrongMethod (Text.join ", " e.methods)

/-- What stands for itself in a location. -/
def isLocation (c : CodePoint) : Bool :=
  c.isDigit || decide (65 ≤ c.val) && decide (c.val ≤ 90) ||
    decide (97 ≤ c.val) && decide (c.val ≤ 122) ||
    ("_.-~:/%#?=@[]!$&'()*+,;" : Text).contains c

/-- The address of another path on the same host, with the same query. -/
def location (r : Request) (path : Text) : Text :=
  Percent.escape isLocation (("http://" : Text) ++ r.host ++ path ++
    (if r.query.isEmpty then [] else 63 :: r.query))

/-- The body that explains a failure to find an endpoint. -/
def explain (reason : Text) : Body := .json (.obj [("detail", .str reason)])

/-- The reply to a request that leads nowhere. -/
def notFound : Reply := ⟨404, [⟨"content-type", jsonType⟩], explain "Not Found"⟩

/-- The reply to a request with a wrong method. -/
def notAllowed (allowed : Text) : Reply :=
  ⟨405, [⟨"allow", allowed⟩, ⟨"content-type", jsonType⟩], explain "Method Not Allowed"⟩

/-- The reply to a request that belongs elsewhere. -/
def redirect (location : Text) : Reply := ⟨307, [⟨"location", location⟩], .text []⟩

end Route
end Intake.Http
