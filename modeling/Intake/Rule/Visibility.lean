import Intake.Rule.Condition
import Intake.Json.Display

/-!
# Visibility

A rule joins conditions by AND or OR and decides whether its question is shown. No rule, and a rule
without conditions, show the question; anything malformed hides it. The questions shown are a sublist
of the form's questions in their order, decided for each question by its own rule alone.
-/

namespace Intake

/-- How the conditions of a rule are joined. -/
inductive Logic where
  | and
  | or
  deriving DecidableEq

namespace Logic

/-- The name of a logic in a rule. -/
def name : Logic → Text
  | and => "AND"
  | or => "OR"

/-- All logics. -/
def all : List Logic := [and, or]

/-- The logic of a name. -/
def ofName? (t : Text) : Option Logic :=
  if t = and.name then some and else if t = or.name then some or else none

/-- Joins verdicts. -/
def join : Logic → List Bool → Bool
  | and, verdicts => verdicts.all id
  | or, verdicts => verdicts.any id

theorem ofName?_name (l : Logic) : ofName? l.name = some l := by cases l <;> decide

end Logic

namespace Rules

/-- The logic of a rule, if it is one. -/
def logic? (rules : Value) : Option Logic := (rules.member "logic").text?.bind Logic.ofName?

/-- The rule shows its question under the answers. -/
def shows (rules : Value) (answers : Members) : Bool :=
  match rules with
  | .null => true
  | .obj _ =>
    match rules.member "conditions" with
    | .null => true
    | .arr [] => true
    | .arr (c :: cs) =>
      match logic? rules with
      | some l => l.join ((c :: cs).map (Condition.holds · answers))
      | none => false
    | _ => false
  | _ => false

/-- A rule as it may be stored: none at all, or a logic with at least one condition, all of them
well-formed. -/
def wellFormed (rules : Value) : Bool :=
  rules.isNull ||
    match logic? rules, rules.member "conditions" with
    | some _, .arr (c :: cs) => (c :: cs).all Condition.wellFormed
    | _, _ => false

/-- The conditions of a rule, when they are a list. -/
def conditions (rules : Value) : List Value :=
  match rules.member "conditions" with
  | .arr cs => cs
  | _ => []

/-- Keeps the first of equal texts. -/
def distinct : List Text → List Text
  | [] => []
  | t :: ts => t :: (distinct ts).filter fun u => !decide (u = t)

/-- The question that a condition refers to, unless the key is empty. -/
def reference? (condition : Value) : Option Text :=
  match Condition.subject? condition with
  | some key => if key.isEmpty then none else some key
  | none => none

/-- The distinct questions that a rule depends on, in the order in which they are first named. -/
def references (rules : Value) : List Text := distinct ((conditions rules).filterMap reference?)

end Rules

/-- Answers of any shape as a finite map: only an object has entries. -/
def Value.entries : Value → Members
  | .obj ms => ms
  | _ => []

namespace Visibility

variable {α : Type}

/-- The questions shown under the answers, in their order. -/
def visible (rulesOf : α → Value) (questions : List α) (answers : Members) : List α :=
  questions.filter fun q => Rules.shows (rulesOf q) answers

/-- The questions hidden under the answers, in their order. -/
def hidden (rulesOf : α → Value) (questions : List α) (answers : Members) : List α :=
  questions.filter fun q => !Rules.shows (rulesOf q) answers

/-- The rule of a question that is still a JSON value. -/
def rawRules (question : Value) : Value := question.member "conditionalRules"

/-- The key of a question that is still a JSON value, as a text. -/
def rawKey (question : Value) : Text := (question.member "questionKey").display

end Visibility
end Intake
