import Intake.Store.Row

/-!
# The store

Forms and responses in the order in which they were stored. Rows are added at the end and never
removed; a form's counter only grows, and a response only ever becomes synced or is marked as deleted.
-/

namespace Intake

/-- The stored forms and responses, the oldest first. -/
structure Store where
  forms : List Store.FormRow
  responses : List Store.ResponseRow

namespace Store

/-- Nothing stored. -/
def empty : Store := ⟨[], []⟩

/-- The names of the tables of the store. -/
def tableNames : List Text := ["form", "form_response"]

/-- Adds a form. -/
def addForm (r : FormRow) (s : Store) : Store := { s with forms := s.forms ++ [r] }

/-- Adds a response. -/
def addResponse (r : ResponseRow) (s : Store) : Store := { s with responses := s.responses ++ [r] }

/-- The form of an id. -/
def form? (id : Text) (s : Store) : Option FormRow := s.forms.find? fun r => r.id == id

/-- Puts a row in front of the first one that is not newer. -/
def insertByTime {Row : Type} (createdAt : Row → Nat) (row : Row) : List Row → List Row
  | [] => [row]
  | r :: rs => if createdAt r ≤ createdAt row then row :: r :: rs else r :: insertByTime createdAt row rs

/-- Rows by the times of their creation, the newest first. -/
def newestFirst {Row : Type} (createdAt : Row → Nat) : List Row → List Row
  | [] => []
  | row :: rows => insertByTime createdAt row (newestFirst createdAt rows)

/-- All forms, the newest first. -/
def newestForms (s : Store) : List FormRow := newestFirst FormRow.createdAt s.forms

/-- The responses to a form, the newest first. -/
def responsesTo (formId : Text) (s : Store) : List ResponseRow :=
  newestFirst ResponseRow.createdAt (s.responses.filter fun r => r.formId == formId)

/-- The first response of a record. -/
def response? (recordId : Text) (s : Store) : Option ResponseRow :=
  s.responses.find? fun r => r.recordId == recordId

/-- Some response has the record. -/
def knows (recordId : Text) (s : Store) : Bool := s.responses.any fun r => r.recordId == recordId

/-- Counts one more response to a form. -/
def countResponse (id : Text) (now : Nat) (s : Store) : Store :=
  { s with forms := s.forms.map fun r =>
      if r.id = id then { r with responseCount := r.responseCount + 1, updatedAt := now } else r }

/-- A response whose record changed. -/
def ResponseRow.synced (now : Nat) (r : ResponseRow) : ResponseRow :=
  { r with status := SyncStatus.synced.name, updatedAt := now }

/-- A response whose record is gone. -/
def ResponseRow.deleted (now : Nat) (r : ResponseRow) : ResponseRow :=
  { r.synced now with isDeleted := true }

/-- Changes the responses of a record. -/
def mark (change : ResponseRow → ResponseRow) (recordId : Text) (s : Store) : Store :=
  { s with responses := s.responses.map fun r => if r.recordId = recordId then change r else r }

/-- Marks the responses of a record as synced. -/
def markSynced (recordId : Text) (now : Nat) : Store → Store := mark (ResponseRow.synced now) recordId

/-- Marks the responses of a record as deleted. -/
def markDeleted (recordId : Text) (now : Nat) : Store → Store :=
  mark (ResponseRow.deleted now) recordId

/-! ### First laws -/

@[simp] theorem forms_mark (f : ResponseRow → ResponseRow) (id : Text) (s : Store) :
    (mark f id s).forms = s.forms := rfl

@[simp] theorem length_responses_mark (f : ResponseRow → ResponseRow) (id : Text) (s : Store) :
    (mark f id s).responses.length = s.responses.length := by simp [mark]

/-- A record is known exactly when a response of it is found. -/
theorem isSome_response?_iff (id : Text) (s : Store) : (s.response? id).isSome = s.knows id := by
  rw [Bool.eq_iff_iff]; simp [response?, knows]

end Store
end Intake
