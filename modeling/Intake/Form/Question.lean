import Intake.Rule.Record

/-!
# Questions

A question of a form: its key, the column of the remote table that it fills, what it asks for, and the
rule that decides whether it is shown. The rule stays as it was typed, so that the rule engine judges
the very shape that the author gave it.
-/

namespace Intake

/-- A question of a form. -/
structure Question where
  key : Text
  fieldId : Text
  label : Text
  type : Text
  required : Bool
  options : List Text
  rules : Option Members

namespace Question

/-- The name of the question's key. -/
def keyName : FieldName := ⟨"questionKey", "question_key"⟩

/-- The name of the column that the question fills. -/
def fieldIdName : FieldName := ⟨"airtableFieldId", "airtable_field_id"⟩

/-- The name of the question's rule. -/
def rulesName : FieldName := ⟨"conditionalRules", "conditional_rules"⟩

/-- Checks the fields of a question. -/
def check : Value → Checked Question :=
  Checked.record "Question" fun ms =>
    (((((((Checked.ok Question.mk).also
      (keyName.required Schema.text ms)).also
      (fieldIdName.required Schema.text ms)).also
      ((FieldName.same "label").required Schema.text ms)).also
      ((FieldName.same "type").required Schema.text ms)).also
      ((FieldName.same "required").withDefault false Schema.flag ms)).also
      ((FieldName.same "options").withDefault [] (Checked.list Schema.text) ms)).also
      (rulesName.withDefault none (Checked.optional Checked.object) ms)

/-- The rule as a value; null when there is none. -/
def rulesValue (q : Question) : Value :=
  match q.rules with
  | some ms => .obj ms
  | none => .null

/-- A question as an object. -/
def dump (naming : Naming) (q : Question) : Value :=
  .obj [(keyName.under naming, .str q.key), (fieldIdName.under naming, .str q.fieldId),
    ("label", .str q.label), ("type", .str q.type), ("required", .bool q.required),
    ("options", .arr (q.options.map .str)), (rulesName.under naming, q.rulesValue)]

/-- The questions shown under the answers. -/
def visible (questions : List Question) (answers : Members) : List Question :=
  Visibility.visible rulesValue questions answers

end Question

/-! ### Kinds of questions -/

/-- The kinds of questions that the service knows by name. -/
inductive QuestionKind where
  | singleLineText
  | multilineText
  | singleSelect
  | multipleSelect
  | multipleAttachments
  | email
  | url
  | number
  | checkbox
  deriving DecidableEq

namespace QuestionKind

/-- The name of a kind on the wire. -/
def name : QuestionKind → Text
  | singleLineText => "singleLineText"
  | multilineText => "multilineText"
  | singleSelect => "singleSelect"
  | multipleSelect => "multipleSelect"
  | multipleAttachments => "multipleAttachments"
  | email => "email"
  | url => "url"
  | number => "number"
  | checkbox => "checkbox"

/-- All kinds. -/
def all : List QuestionKind :=
  [singleLineText, multilineText, singleSelect, multipleSelect, multipleAttachments, email, url,
    number, checkbox]

/-- The constant that stands for a kind. -/
def constant : QuestionKind → Text
  | singleLineText => "SINGLE_LINE_TEXT"
  | multilineText => "MULTILINE_TEXT"
  | singleSelect => "SINGLE_SELECT"
  | multipleSelect => "MULTIPLE_SELECT"
  | multipleAttachments => "MULTIPLE_ATTACHMENTS"
  | email => "EMAIL"
  | url => "URL"
  | number => "NUMBER"
  | checkbox => "CHECKBOX"

/-- Kinds whose answers are sent on to the remote table. -/
def isSubmittable : QuestionKind → Bool
  | multipleAttachments => false
  | _ => true

end QuestionKind

/-- The types whose answers are sent on. -/
def submittableTypes : List Text := (QuestionKind.all.filter QuestionKind.isSubmittable).map (·.name)

/-- Column types of the remote table that no form can ask for. -/
def unsupportedTypes : List Text :=
  ["singleCollaborator", "multipleCollaborators", QuestionKind.multipleAttachments.name, "aiText"]

end Intake
