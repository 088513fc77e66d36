import Intake.Rule.Equality
import Intake.Rule.Shown
import Intake.Text.Case

/-!
# Conditions

A condition names a question, an operator and a value. Conditions arrive as they were typed by the
author of a form, so evaluating one takes any JSON value: what is malformed never holds. An unanswered
question satisfies no condition at all, not even an inequality, which is why more answers can only
reveal questions.
-/

namespace Intake

/-- The ways in which a condition compares an answer with its value. -/
inductive Operator where
  | equals
  | notEquals
  | contains
  deriving DecidableEq

namespace Operator

/-- The name of an operator in a rule. -/
def name : Operator → Text
  | equals => "equals"
  | notEquals => "notEquals"
  | contains => "contains"

/-- All operators. -/
def all : List Operator := [equals, notEquals, contains]

/-- The operator of a name. -/
def ofName? (t : Text) : Option Operator :=
  if t = equals.name then some equals
  else if t = notEquals.name then some notEquals
  else if t = contains.name then some contains
  else none

theorem ofName?_name (o : Operator) : ofName? o.name = some o := by cases o <;> decide

end Operator

namespace Condition

/-- No answer: the key is missing, or its value is null or the empty text. -/
def unanswered : Option Value → Bool
  | none => true
  | some .null => true
  | some (.str []) => true
  | _ => false

/-- The containment test: among the items of a list, or inside a text whatever the case. -/
def includes (answer value : Value) : Bool :=
  match answer with
  | .arr items => items.any fun item => item.same value
  | .str s => value.shown.lower.occursIn s.lower
  | _ => false

/-- The operator applied to an answer that was given. -/
def compare (op : Operator) (answer value : Value) : Bool :=
  match op with
  | .equals => answer.same value
  | .notEquals => !answer.same value
  | .contains => includes answer value

/-- The question that a condition looks up: a text under `questionKey`. -/
def subject? (condition : Value) : Option Text := (condition.member "questionKey").text?

/-- The operator of a condition, if it is one. -/
def operator? (condition : Value) : Option Operator :=
  (condition.member "operator").text?.bind Operator.ofName?

/-- The value of a condition; null when there is none. -/
def value (condition : Value) : Value := condition.member "value"

/-- The condition holds for an answer. -/
def holdsFor (condition : Value) (answer : Option Value) : Bool :=
  match answer, operator? condition with
  | some a, some op => !unanswered (some a) && compare op a (value condition)
  | _, _ => false

/-- The condition holds under the answers. -/
def holds (condition : Value) (answers : Members) : Bool :=
  match subject? condition with
  | some key => holdsFor condition (answers.get? key)
  | none => false

/-- Answers that are looked up but are not an object. -/
structure AnswersNotObject where
  deriving DecidableEq

/-- The condition holds under answers of any shape; a shape without members matters only if the
condition looks something up. -/
def evaluate (condition answers : Value) : Except AnswersNotObject Bool :=
  match subject? condition, answers with
  | none, _ => .ok false
  | some _, .obj ms => .ok (holds condition ms)
  | some _, _ => .error ⟨⟩

/-- A condition as it may be stored: it names a question, has an operator and a value that is not
null. -/
def wellFormed (condition : Value) : Bool :=
  match subject? condition, operator? condition with
  | some key, some _ => !key.isEmpty && !(value condition).isNull
  | _, _ => false

/-- An unanswered question satisfies nothing. -/
theorem holdsFor_of_unanswered {condition : Value} {answer : Option Value}
    (h : unanswered answer = true) : holdsFor condition answer = false := by
  unfold holdsFor
  cases answer with
  | none => rfl
  | some a => cases operator? condition <;> simp [h]

end Condition
end Intake
