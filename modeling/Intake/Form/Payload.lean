import Intake.Rule.Visibility
import Intake.Rule.Record
import Intake.Text.Blank
import Intake.Json.Misuse

/-!
# Form payloads

The gate that a form passes before it is stored. First the envelope: a title, a base, a table and a
list of questions. Then, question by question, the shape of each and that no key repeats. Only when all
shapes are sound are the rules judged, again question by question: each must be well-formed and may
refer only to other questions of the form. The first fault in this order is the one reported.
-/

namespace Intake

/-- Why a form or a submission is rejected. -/
inductive FormError where
  | bodyNotObject
  | fieldsMissing
  | questionFormat
  | duplicateKey (key : Text)
  | badRules (key : Text)
  | unknownReference (key reference : Text)
  | answerMissing (key : Text)
  deriving DecidableEq

namespace FormError

/-- The stable code of a rejection. -/
def code : FormError → Text
  | bodyNotObject => "missing_required_fields"
  | fieldsMissing => "missing_required_fields"
  | questionFormat => "invalid_question_format"
  | duplicateKey _ => "duplicate_question_key"
  | badRules _ => "invalid_conditional_rules"
  | unknownReference _ _ => "unknown_condition_reference"
  | answerMissing _ => "required_answer_missing"

/-- The sentence that explains a rejection. -/
def message : FormError → Text
  | bodyNotObject => "Request body must be a JSON object"
  | fieldsMissing => "Missing required fields: title, airtableBaseId, airtableTableId, questions"
  | questionFormat =>
    "Invalid question format. Each question must have: questionKey, airtableFieldId, label, type"
  | duplicateKey key => ("Duplicate question key: " : Text) ++ key
  | badRules key => ("Invalid conditional rules for question: " : Text) ++ key
  | unknownReference key ref => ("Conditional rules for question " : Text) ++ key ++
    (" reference unknown question: " : Text) ++ ref
  | answerMissing key => ("Answer required for question: " : Text) ++ key

/-- The question that a rejection is about. -/
def question? : FormError → Option Text
  | duplicateKey key => some key
  | badRules key => some key
  | unknownReference key _ => some key
  | answerMissing key => some key
  | _ => none

end FormError

namespace Payload

/-- Null, or a text of nothing but white space. -/
def blank : Value → Bool
  | .null => true
  | .str s => s.isBlank
  | _ => false

/-- The fields that make up the envelope, apart from the questions. -/
def envelopeFields : List Text := ["title", "airtableBaseId", "airtableTableId"]

/-- The fields that every question has. -/
def questionFields : List Text := ["questionKey", "airtableFieldId", "label", "type"]

/-- An object whose named fields are all there. -/
def filled (fields : List Text) (v : Value) : Bool :=
  v.members?.isSome && fields.all fun f => !blank (v.member f)

/-- The key of a question, as a text. -/
def keyOf (question : Value) : Text := Visibility.rawKey question

/-- Checks shapes and repeated keys in order; `seen` are the keys so far. -/
def checkShapes (seen : List Text) : List Value → Except FormError (List Text)
  | [] => .ok seen
  | q :: qs =>
    if filled questionFields q then
      if keyOf q ∈ seen then .error (.duplicateKey (keyOf q))
      else checkShapes (seen ++ [keyOf q]) qs
    else .error .questionFormat

/-- The first reference of a rule that is not another question of the form. -/
def strayReference? (keys : List Text) (question : Value) : Option Text :=
  (Rules.references (Visibility.rawRules question)).find? fun ref =>
    decide (ref = keyOf question) || !keys.contains ref

/-- Checks rules and references in order. -/
def checkRules (keys : List Text) : List Value → Except FormError Unit
  | [] => .ok ()
  | q :: qs =>
    if Rules.wellFormed (Visibility.rawRules q) then
      match strayReference? keys q with
      | some ref => .error (.unknownReference (keyOf q) ref)
      | none => checkRules keys qs
    else .error (.badRules (keyOf q))

/-- Checks the body of a new form. -/
def check (payload : Value) : Except FormError Unit :=
  match payload with
  | .obj _ =>
    match filled envelopeFields payload, payload.member "questions" with
    | true, .arr questions =>
      match checkShapes [] questions with
      | .ok keys => checkRules keys questions
      | .error e => .error e
    | _, _ => .error .fieldsMissing
  | _ => .error .bodyNotObject

end Payload
end Intake
