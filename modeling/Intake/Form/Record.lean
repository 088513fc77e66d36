import Intake.Form.Question
import Intake.Schema.Moment

/-!
# Form records

What a form looks like on the wire: as its author sends it, as it is shown in full, and as one line of
a list. The full record begins with the fields of the new form, so its issues come in that order too.
-/

namespace Intake

/-- A form as its author sends it. -/
structure NewForm where
  title : Text
  description : Text
  baseId : Text
  tableId : Text
  tableName : Text
  questions : List Question

/-- Publication state and counters, which every stored form has. -/
structure FormStatus where
  isPublished : Bool
  responseCount : Int
  createdAt : Option Moment
  updatedAt : Option Moment

/-- A form in full. -/
structure FormView where
  form : NewForm
  id : Text
  status : FormStatus

/-- One line of the list of forms. -/
structure FormSummary where
  id : Text
  title : Text
  description : Text
  status : FormStatus

/-- A moment as a value; null when there is none. -/
def Value.ofMoment? : Option Moment → Value
  | some m => .str m.render
  | none => .null

namespace NewForm

/-- The name of the base in the remote service. -/
def baseIdName : FieldName := ⟨"airtableBaseId", "airtable_base_id"⟩

/-- The name of the table's id. -/
def tableIdName : FieldName := ⟨"airtableTableId", "airtable_table_id"⟩

/-- The name of the table's name. -/
def tableNameName : FieldName := ⟨"airtableTableName", "airtable_table_name"⟩

/-- Checks the fields of a new form. -/
def checkFields (ms : Members) : Checked NewForm :=
  ((((((Checked.ok NewForm.mk).also
    ((FieldName.same "title").required Schema.text ms)).also
    ((FieldName.same "description").withDefault [] Schema.text ms)).also
    (baseIdName.required Schema.text ms)).also
    (tableIdName.required Schema.text ms)).also
    (tableNameName.withDefault "Table" Schema.text ms)).also
    ((FieldName.same "questions").required (Checked.list Question.check) ms)

/-- Checks a new form. -/
def check : Value → Checked NewForm := Checked.record "FormCreate" checkFields

/-- The members of a new form. -/
def members (naming : Naming) (f : NewForm) : Members :=
  [("title", .str f.title), ("description", .str f.description),
    (baseIdName.under naming, .str f.baseId), (tableIdName.under naming, .str f.tableId),
    (tableNameName.under naming, .str f.tableName),
    ("questions", .arr (f.questions.map (·.dump naming)))]

/-- A new form as an object. -/
def dump (naming : Naming) (f : NewForm) : Value := .obj (f.members naming)

end NewForm

namespace FormStatus

/-- The name of the publication state. -/
def isPublishedName : FieldName := ⟨"isPublished", "is_published"⟩

/-- The name of the number of responses. -/
def responseCountName : FieldName := ⟨"responseCount", "response_count"⟩

/-- The name of the moment of creation. -/
def createdAtName : FieldName := ⟨"createdAt", "created_at"⟩

/-- The name of the moment of the last change. -/
def updatedAtName : FieldName := ⟨"updatedAt", "updated_at"⟩

/-- Checks publication state and counters. -/
def checkFields (ms : Members) : Checked FormStatus :=
  ((((Checked.ok FormStatus.mk).also
    (isPublishedName.withDefault true Schema.flag ms)).also
    (responseCountName.withDefault 0 Schema.whole ms)).also
    (createdAtName.withDefault none (Checked.optional Schema.moment) ms)).also
    (updatedAtName.withDefault none (Checked.optional Schema.moment) ms)

/-- Publication state and counters as members. -/
def members (naming : Naming) (s : FormStatus) : Members :=
  [(isPublishedName.under naming, .bool s.isPublished),
    (responseCountName.under naming, .int s.responseCount),
    (createdAtName.under naming, Value.ofMoment? s.createdAt),
    (updatedAtName.under naming, Value.ofMoment? s.updatedAt)]

end FormStatus

namespace FormView

/-- Checks a form in full. -/
def check : Value → Checked FormView :=
  Checked.record "FormView" fun ms =>
    (((Checked.ok FormView.mk).also (NewForm.checkFields ms)).also
      ((FieldName.same "id").required Schema.text ms)).also (FormStatus.checkFields ms)

/-- A form in full as an object. -/
def dump (naming : Naming) (f : FormView) : Value :=
  .obj (f.form.members naming ++ ((("id" : Text), Value.str f.id) :: f.status.members naming))

end FormView

namespace FormSummary

/-- Checks a line of the list of forms. -/
def check : Value → Checked FormSummary :=
  Checked.record "FormSummary" fun ms =>
    ((((Checked.ok FormSummary.mk).also
      ((FieldName.same "id").required Schema.text ms)).also
      ((FieldName.same "title").required Schema.text ms)).also
      ((FieldName.same "description").withDefault [] Schema.text ms)).also
      (FormStatus.checkFields ms)

/-- A line of the list of forms as an object. -/
def dump (naming : Naming) (f : FormSummary) : Value :=
  .obj ([(("id" : Text), Value.str f.id), ("title", .str f.title),
    ("description", .str f.description)] ++ f.status.members naming)

end FormSummary
end Intake
