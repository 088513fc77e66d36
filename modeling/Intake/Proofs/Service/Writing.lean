import Intake.Proofs.Service.Exec
import Intake.Proofs.Store.Cell

/-!
# Storing forms and responses

What storing a form and storing a response do to the state, in every case: the store may be out of
reach, a text may be one that no encoding carries, or the row is added and the event is published. An
id and a reading of the clock are used up in all three cases.
-/

namespace Intake

namespace Service

open Store

/-- The state after the id of a form has been used up. -/
def State.formNamed (s : State) : State :=
  { s with formsNamed := s.formsNamed + 1, clock := s.clock + 1 }

/-- The state after the id of a response has been used up. -/
def State.responseNamed (s : State) : State :=
  { s with responsesNamed := s.responsesNamed + 1, clock := s.clock + 1 }

/-- The id of the next form. -/
def State.nextForm (s : State) : Text := s.env.forms.name (s.formsNamed + 1)

/-- The id of the next response. -/
def State.nextResponse (s : State) : Text := s.env.responses.name (s.responsesNamed + 1)

theorem State.encodable_nextForm (s : State) : s.nextForm.encodable = true := s.env.forms.encodable _

theorem State.encodable_nextResponse (s : State) : s.nextResponse.encodable = true :=
  s.env.responses.encodable _

/-- The time that the clock showed last. -/
def State.time (s : State) : Nat := s.env.time s.clock

/-- The next reading of the clock. -/
def State.nextTime (s : State) : Nat := s.env.time (s.clock + 1)

theorem State.time_lt_nextTime (s : State) : s.time < s.nextTime := s.env.time_lt_succ s.clock

/-- The name of the table that a form is stored with. -/
def tableNameOf (form : NewForm) : Text := if form.tableName.isEmpty then "Table" else form.tableName

/-- The row of a new form. -/
def State.rowOf (s : State) (form : NewForm) : FormRow :=
  { id := s.nextForm
    title := form.title.trim
    description := form.description
    baseId := form.baseId
    tableId := form.tableId
    tableName := tableNameOf form
    questions := document (.arr (form.questions.map (·.dump .wire)))
    isPublished := true
    responseCount := 0
    createdAt := s.nextTime
    updatedAt := s.nextTime }

/-- Every encoding can carry the texts that a form is stored with, its questions apart. -/
def storable (form : NewForm) : Bool :=
  [form.title.trim, form.description, form.baseId, form.tableId, tableNameOf form].all Text.encodable

/-- The event that a form was created. -/
def createdEvent (row : FormRow) (form : NewForm) : Event :=
  ⟨Event.formCreated, .obj [("formId", .str row.id), ("questions", .int form.questions.length)]⟩

/-- The row of a new response. -/
def State.responseRow (s : State) (formId recordId : Text) (accepted : Members)
    (status : SyncStatus) : ResponseRow :=
  { id := s.nextResponse
    formId := formId
    recordId := recordId
    answers := document (.obj accepted)
    status := status.name
    isDeleted := false
    createdAt := s.nextTime
    updatedAt := s.nextTime }

namespace Action

/-- A mark can be stored. -/
theorem encodable_placeholderAt (time : Nat) : (placeholderAt time).encodable = true := by
  rw [placeholderAt, Text.encodable_append, Text.encodable_ofNat]
  decide

/-- A mark tells its time. -/
theorem placeholderAt_inj {m n : Nat} : placeholderAt m = placeholderAt n ↔ m = n := by
  rw [placeholderAt, placeholderAt, List.append_cancel_left_eq, Text.ofNat_inj]

theorem orText_nil_str (t : Text) : orText [] (.str t) = .str t := by
  cases t <;> rfl

theorem orText_table_str (form : NewForm) :
    orText "Table" (.str form.tableName) = .str (tableNameOf form) := by
  rw [orText, tableNameOf]
  cases h : form.tableName <;> simp [Value.isFalsy]

theorem exec_ofExcept {ε α : Type} (f : ε → Failure) (x : Except ε α) (s : State) :
    exec (ofExcept f x) s = (x.mapError f, s) := by cases x <;> rfl

theorem exec_key (t : Text) (s : State) :
    exec (key t) s = (if s.isDown then .error (.store .unavailable)
      else if t.encodable then .ok t else .error (.store .notEncodable), s) := by
  rw [key, exec_bind, exec_reach]
  cases hd : s.isDown
  · by_cases h : t.encodable = true <;> simp [cell, h]
  · rfl

theorem exec_key_of_up {t : Text} {s : State} (hs : s.isDown = false) (ht : t.encodable = true) :
    exec (key t) s = (.ok t, s) := by
  rw [exec_key, hs, ht]; rfl

/-- Cells of texts are filled with these texts. -/
theorem exec_cells_texts (ts : List Text) (s : State) :
    exec (cells (ts.map .str)) s = (if s.isDown then .error (.store .unavailable)
      else if ts.all Text.encodable then .ok ts else .error (.store .notEncodable), s) := by
  rw [cells, exec_bind, exec_reach]
  cases hd : s.isDown
  · rw [cellsOf_texts]
    by_cases h : ts.all Text.encodable = true
    · simp [h, exec_bind, filled_texts]
    · simp [h, exec_bind]
  · rfl

/-- Storing a form: the store is out of reach, a text cannot be stored, or the form is there. -/
theorem exec_storeForm (form : NewForm) (s : State) :
    exec (storeForm form) s =
      if s.isDown then (.error (.store .unavailable), s.formNamed)
      else if storable form then (.ok (s.rowOf form),
        { s.formNamed with
          store := s.store.addForm (s.rowOf form)
          events := s.events ++ [createdEvent (s.rowOf form) form] })
      else (.error (.store .notEncodable), s.formNamed) := by
  have hcells : [Value.str form.title.trim, orText [] (.str form.description), .str form.baseId,
      .str form.tableId, orText "Table" (.str form.tableName)] = [form.title.trim, form.description,
      form.baseId, form.tableId, tableNameOf form].map .str := by
    rw [orText_nil_str, orText_table_str]; rfl
  rw [storeForm, createForm, exec_bind, exec_bind, nameForm, exec_modifyGet]
  simp only [exec_bind, exec_now, trimmed, exec_pure, hcells, exec_cells_texts, storable]
  obtain ⟨store, isDown, clock, formsNamed, responsesNamed, nextRequest, events, peer, millis, env⟩ := s
  cases isDown
  · by_cases h : [form.title.trim, form.description, form.baseId, form.tableId,
        tableNameOf form].all Text.encodable = true
    · simp only [h, if_true, Bool.false_eq_true, if_false, exec_bind, exec_change, exec_pure,
        exec_publish]
      rfl
    · simp only [h, Bool.false_eq_true, if_false]
      rfl
  · rfl

/-- Storing a response: the same three cases. -/
theorem exec_createResponse (formId recordId : Text) (accepted : Members) (status : SyncStatus)
    (s : State) :
    exec (createResponse (.str formId) (.str recordId) (.obj accepted) (.str status.name)) s =
      if s.isDown then (.error (.store .unavailable), s.responseNamed)
      else if formId.encodable && recordId.encodable then
        (.ok (s.responseRow formId recordId accepted status),
          { s.responseNamed with
            store := s.store.addResponse (s.responseRow formId recordId accepted status) })
      else (.error (.store .notEncodable), s.responseNamed) := by
  have hstatus : status.name.encodable = true := by cases status <;> decide
  have hcells : [Value.str formId, .str recordId, .str status.name] =
      [formId, recordId, status.name].map .str := rfl
  rw [createResponse, exec_bind, nameResponse, exec_modifyGet]
  simp only [exec_bind, exec_now, hcells, exec_cells_texts, List.all_cons, List.all_nil, hstatus,
    Bool.and_true]
  obtain ⟨store, isDown, clock, formsNamed, responsesNamed, nextRequest, events, peer, millis, env⟩ := s
  cases isDown
  · by_cases h : (formId.encodable && recordId.encodable) = true
    · simp only [h, if_true, Bool.false_eq_true, if_false, exec_bind, exec_change, exec_pure]
      rfl
    · simp only [h, Bool.false_eq_true, if_false]
      rfl
  · rfl

/-- Counting a response to a form of a sound id. -/
theorem exec_countResponse {id : Text} {s : State} (hs : s.isDown = false)
    (hid : id.encodable = true) :
    exec (countResponse id) s = (.ok (), { s with
      clock := s.clock + 1, store := s.store.countResponse id s.nextTime }) := by
  rw [countResponse, exec_bind, exec_now]
  simp only [exec_bind]
  rw [exec_key_of_up (s := { s with clock := s.clock + 1 }) hs hid]
  exact exec_change_of_up _ hs

end Action
end Service
end Intake
