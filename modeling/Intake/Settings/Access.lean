import Intake.Schema.Scalar

/-!
# Access to the remote service

Three fields say how the remote service is reached: the start of its URLs, the token that opens it, and
how long to wait. The start of the URLs must name one of the two web schemes. It is checked as it is given
and loses the slashes at its end afterwards, so that a scheme with nothing but slashes behind it passes and
is kept as the bare `https:`.
-/

namespace Intake

namespace Schema

/-- A typed number, with one underscore allowed between two of its digits. -/
def typedReal (s : Text) : Checked Binary64 :=
  match Typed.decimal? (Text.stripWhile CodePoint.isSpace s) with
  | some x => .ok x
  | none =>
    match (Typed.ungroup? s).bind Typed.decimal? with
    | some x => .ok x
    | none => Checked.fault .unclearNumber

/-- A floating-point number. Whole numbers are rounded; one that is too large for that is none. -/
def real : Value → Checked Binary64
  | .real x => .ok x
  | .int n => if (Binary64.ofInt n).isFinite then .ok (Binary64.ofInt n) else Checked.fault .notNumber
  | .bool b => .ok (Binary64.ofInt (if b then 1 else 0))
  | .str s => if s.encodable then typedReal s else Checked.fault .notUnicode
  | _ => Checked.fault .notNumber

/-- A floating-point number above zero. -/
def positiveReal (v : Value) : Checked Binary64 :=
  match real v with
  | .ok x => if x.isPositive then .ok x else Checked.fault .notPositive
  | .failed e => .failed e

end Schema

/-- How the remote service is reached. -/
structure Access where
  url : Text
  token : Option Text
  timeout : Binary64

namespace Access

/-- The URLs begin with one of the web schemes. -/
def isWeb (url : Text) : Bool :=
  ("http://" : Text).isPrefixOf url || ("https://" : Text).isPrefixOf url

/-- A URL without slashes at its end. -/
def dropSlashes (url : Text) : Text := Text.dropEndWhile (· == 47) url

/-- The start of the URLs. -/
def checkUrl (v : Value) : Checked Text :=
  match Schema.text v with
  | .ok url =>
    if isWeb url then .ok (dropSlashes url)
    else Checked.fault (.rejected "airtable.api_url must be an http(s) URL")
  | .failed e => .failed e

/-- The public service. -/
def publicUrl : Text := "https://api.airtable.com"

/-- Checks the fields of an access. -/
def check : Value → Checked Access :=
  Checked.record "AirtableConfig" fun ms =>
    (((Checked.ok Access.mk).also
      ((FieldName.same "api_url").withDefault publicUrl checkUrl ms)).also
      ((FieldName.same "token").withDefault none (Checked.optional Schema.text) ms)).also
      ((FieldName.same "timeout_seconds").withDefault (Binary64.ofInt 10) Schema.positiveReal ms)

/-- A token is there and not empty. -/
def hasToken (a : Access) : Bool :=
  match a.token with
  | some (_ :: _) => true
  | _ => false

end Access
end Intake
