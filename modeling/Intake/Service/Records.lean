import Intake.Service.State

/-!
# Reading and writing records

Forms and responses are written under fresh ids at the present time. An id and a reading of the clock
are used up even when the store then refuses the row. What is looked up must be a text that some
encoding can carry.
-/

namespace Intake.Service.Action

open Store

/-- A text that stands in for an empty value. -/
def orText (fallback : Text) (v : Value) : Value := if v.isFalsy then .str fallback else v

/-- The texts of cells, all of which must be filled. -/
def cells (vs : List Value) : Action (List Text) := do
  let _ ← reach
  let found ← ofExcept .store (cellsOf vs)
  ofExcept .store (filled found)

/-- A text that can be looked up. -/
def key (t : Text) : Action Text := do
  let _ ← reach
  ofExcept .store (cell t)

/-- The text of a value; nothing else can be trimmed. -/
def trimmed : Value → Action Text
  | .str t => pure t.trim
  | _ => throw (.misuse .noMembers)

/-- Stores a form. -/
def createForm (title description baseId tableId tableName questions : Value) : Action FormRow := do
  let id ← nameForm
  let time ← now
  let title ← trimmed title
  match ← cells [.str title, orText [] description, baseId, tableId, orText "Table" tableName] with
  | [title, description, baseId, tableId, tableName] =>
    let row : FormRow := ⟨id, title, description, baseId, tableId, tableName, document questions,
      true, 0, time, time⟩
    change (Store.addForm row)
    pure row
  | _ => throw (.store .empty)

/-- The form of an id. -/
def form? (id : Text) : Action (Option FormRow) := do
  let id ← key id
  pure ((← reach).form? id)

/-- All forms, the newest first. -/
def forms : Action (List FormRow) := do pure (← reach).newestForms

/-- Counts one more response to a form. -/
def countResponse (id : Text) : Action Unit := do
  let time ← now
  let id ← key id
  change (Store.countResponse id time)

/-- Stores a response. -/
def createResponse (formId recordId answers status : Value) : Action ResponseRow := do
  let id ← nameResponse
  let time ← now
  match ← cells [formId, recordId, status] with
  | [formId, recordId, status] =>
    let row : ResponseRow := ⟨id, formId, recordId, document answers, status, false, time, time⟩
    change (Store.addResponse row)
    pure row
  | _ => throw (.store .empty)

/-- The responses to a form, the newest first. -/
def responsesTo (formId : Text) : Action (List ResponseRow) := do
  let formId ← key formId
  pure ((← reach).responsesTo formId)

/-- The first response of a record. -/
def response? (recordId : Text) : Action (Option ResponseRow) := do
  let recordId ← key recordId
  pure ((← reach).response? recordId)

/-- Marks the responses of a record, and tells whether there are any. -/
def markWith (f : Text → Nat → Store → Store) (recordId : Text) : Action Bool := do
  let time ← now
  let recordId ← key recordId
  let known := (← reach).knows recordId
  change (f recordId time)
  pure known

/-- Marks the responses of a record as synced. -/
def markSynced : Text → Action Bool := markWith Store.markSynced

/-- Marks the responses of a record as deleted. -/
def markDeleted : Text → Action Bool := markWith Store.markDeleted

end Intake.Service.Action
