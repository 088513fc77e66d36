import Intake.Rule.Visibility
import Intake.Schema.Scalar

/-!
# Rules as records

A rule that has passed the checks of its fields: a logic and a list of conditions, each with the key of
a question, an operator and a value. Whatever else the author wrote into the rule is left out.
-/

namespace Intake

/-- A condition with checked fields. -/
structure ConditionRecord where
  subject : Text
  operator : Operator
  value : Value

/-- A rule with checked fields. -/
structure RuleRecord where
  logic : Logic
  conditions : List ConditionRecord

namespace ConditionRecord

/-- The name of the question's key. -/
def subjectName : FieldName := ⟨"questionKey", "question_key"⟩

/-- Checks the fields of a condition. -/
def check : Value → Checked ConditionRecord :=
  Checked.record "Condition" fun ms =>
    (((Checked.ok ConditionRecord.mk).also
      (subjectName.required Schema.nonEmptyText ms)).also
      ((FieldName.same "operator").required
        (Schema.choice (Operator.all.map Operator.name) Operator.ofName?) ms)).also
      ((FieldName.same "value").required .ok ms)

/-- A condition as an object. -/
def dump (naming : Naming) (c : ConditionRecord) : Value :=
  .obj [(subjectName.under naming, .str c.subject), ("operator", .str c.operator.name),
    ("value", c.value)]

end ConditionRecord

namespace RuleRecord

/-- Checks the fields of a rule. -/
def check : Value → Checked RuleRecord :=
  Checked.record "ConditionalRules" fun ms =>
    ((Checked.ok RuleRecord.mk).also
      ((FieldName.same "logic").required
        (Schema.choice (Logic.all.map Logic.name) Logic.ofName?) ms)).also
      ((FieldName.same "conditions").required (Checked.list ConditionRecord.check) ms)

/-- A rule as an object. -/
def dump (naming : Naming) (r : RuleRecord) : Value :=
  .obj [("logic", .str r.logic.name), ("conditions", .arr (r.conditions.map (·.dump naming)))]

end RuleRecord
end Intake
