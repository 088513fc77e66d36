import Intake.Form.Question
import Intake.Form.Payload

/-!
# Submissions

Of the answers that a respondent sends, those count that belong to a question that is shown and that
say something. A question that is shown and required must have such an answer; the first one without
rejects the submission. What counts is then arranged by the labels of the questions, which are the
columns of the remote table, leaving out the types that cannot be sent on.
-/

namespace Intake.Submission

/-- No answer: null, the empty text or the empty list. -/
def isEmpty : Value → Bool
  | .null => true
  | .str [] => true
  | .arr [] => true
  | _ => false

/-- Collects the answers of the questions shown, in their order. -/
def collect (answers : Members) (acc : Members) : List Question → Except FormError Members
  | [] => .ok acc
  | q :: qs =>
    if isEmpty (answers.getD q.key) then
      if q.required then .error (.answerMissing q.key) else collect answers acc qs
    else collect answers (acc.set q.key (answers.getD q.key)) qs

/-- The answers that count. -/
def accept (questions : List Question) (answers : Members) : Except FormError Members :=
  collect answers [] (Question.visible questions answers)

/-- Nothing to send: null or the empty text. -/
def isBlank : Value → Bool
  | .null => true
  | .str [] => true
  | _ => false

/-- The column and value that a question sends. -/
def column? (answers : Members) (q : Question) : Option (Text × Value) :=
  if submittableTypes.contains q.type && !isBlank (answers.getD q.key) then
    some (q.label, answers.getD q.key)
  else none

/-- The columns of the record that a submission creates; a later question of the same label wins. -/
def columns (questions : List Question) (answers : Members) : Members :=
  Members.ofPairs (questions.filterMap (column? answers))

/-- Why answers of any shape are rejected. -/
inductive AnyError where
  | form (e : FormError)
  | misuse (m : Misuse)

/-- The answers that count, of answers of any shape. Answers that are no object show the same
questions as no answers, but cannot be asked for any. -/
def acceptAny (questions : List Question) (answers : Value) : Except AnyError Members :=
  match answers with
  | .obj ms =>
    match accept questions ms with
    | .ok accepted => .ok accepted
    | .error e => .error (.form e)
  | _ =>
    if !(Question.visible questions []).isEmpty then .error (.misuse .noMembers)
    else if !questions.isEmpty && answers.listed?.isNone then .error (.misuse .wrongKind)
    else .ok []

/-- The columns for answers of any shape. -/
def columnsAny (questions : List Question) (answers : Value) : Except Misuse Members :=
  match answers with
  | .obj ms => .ok (columns questions ms)
  | _ =>
    if questions.any fun q => submittableTypes.contains q.type then .error .noMembers else .ok []

end Intake.Submission
