import Intake.Proofs.Service.Steady
import Intake.Proofs.Service.Tolerating

/-!
# Calling the records

The records can be called one by one, past all requests and with any values. A call that creates uses up an
id and a reading of the clock, and then either breaks off or adds one row; a call that marks or counts changes
rows that are there; the other calls only look.

        createForm ─────▶ one form more       markSynced, markDeleted ─▶ the responses of a record
        createResponse ─▶ one response more   countResponse ───────────▶ the form of an id
-/

namespace Intake.Service

open Store

/-- A call of the records. -/
inductive Call where
  | createForm (title description baseId tableId tableName questions : Value)
  | countResponse (id : Text)
  | createResponse (formId recordId answers status : Value)
  | markSynced (recordId : Text)
  | markDeleted (recordId : Text)
  | findForm (id : Text)
  | listForms
  | listResponses (formId : Text)
  | findResponse (recordId : Text)

namespace Call

/-- What a call does to the state. -/
def act : Call → State → State
  | createForm title description baseId tableId tableName questions, s =>
    (Action.exec (Action.createForm title description baseId tableId tableName questions) s).2
  | countResponse id, s => (Action.exec (Action.countResponse id) s).2
  | createResponse formId recordId answers status, s =>
    (Action.exec (Action.createResponse formId recordId answers status) s).2
  | markSynced recordId, s => (Action.exec (Action.markSynced recordId) s).2
  | markDeleted recordId, s => (Action.exec (Action.markDeleted recordId) s).2
  | findForm id, s => (Action.exec (Action.form? id) s).2
  | listForms, s => (Action.exec Action.forms s).2
  | listResponses formId, s => (Action.exec (Action.responsesTo formId) s).2
  | findResponse recordId, s => (Action.exec (Action.response? recordId) s).2

/-- The row that a call gives when it creates a form or a response. -/
def created : Call → State → Option FormRow × Option ResponseRow
  | createForm title description baseId tableId tableName questions, s =>
    ((Action.exec (Action.createForm title description baseId tableId tableName questions) s).1.toOption,
      none)
  | createResponse formId recordId answers status, s =>
    (none, (Action.exec (Action.createResponse formId recordId answers status) s).1.toOption)
  | _, _ => (none, none)

/-- The call counts one more response to the form of the id. -/
def counts (id : Text) : Call → Bool
  | countResponse other => other == id
  | _ => false

end Call

/-- The row of a form that is created in the state. -/
structure State.FreshForm (s : State) (row : FormRow) : Prop where
  id : row.id = s.nextForm
  responseCount : row.responseCount = 0
  createdAt : row.createdAt = s.nextTime

/-- The row of a response that is created in the state. -/
structure State.FreshResponse (s : State) (row : ResponseRow) : Prop where
  id : row.id = s.nextResponse
  encodable : row.recordId.encodable = true
  isDeleted : row.isDeleted = false
  createdAt : row.createdAt = s.nextTime

namespace Action

/-! ### Calls that create -/

/-- Cells that can all be filled are filled. -/
theorem exec_cells_of_fills {vs : List Value} {ts : List Text} {s : State} (hs : s.isDown = false)
    (h : List.Forall₂ Fills vs ts) : exec (cells vs) s = (.ok ts, s) := by
  rw [cells, exec_bind, exec_reach, hs]
  simp [exec_bind, cellsOf_of_fills h, filled_texts]

/-- Filling cells breaks off or gives the texts of the values, and changes nothing. -/
theorem exec_cells_cases (vs : List Value) (s : State) :
    (∃ e, exec (cells vs) s = (.error e, s)) ∨ ∃ ts, s.isDown = false ∧ List.Forall₂ Fills vs ts := by
  rw [cells, exec_bind, exec_reach]
  cases hs : s.isDown with
  | true => exact .inl ⟨_, rfl⟩
  | false =>
    simp only [Bool.false_eq_true, if_false, exec_bind, exec_ofExcept]
    cases hfound : cellsOf vs with
    | error e => exact .inl ⟨_, rfl⟩
    | ok found =>
      cases hfilled : filled found with
      | error e => exact .inl ⟨.store e, by simp [Except.mapError, hfilled]⟩
      | ok ts =>
        refine .inr ⟨ts, trivial, fills_of_filled ?_⟩
        rw [hfound]
        exact hfilled

/-- A form whose cells can all be filled is created. -/
theorem exec_createForm_of_fills {title : Text} {description baseId tableId tableName : Value}
    (questions : Value) {ts : List Text} {s : State} (hs : s.isDown = false)
    (h : List.Forall₂ Fills [.str title.trim, orText [] description, baseId, tableId,
      orText "Table" tableName] ts) :
    ∃ row, exec (createForm (.str title) description baseId tableId tableName questions) s =
      (.ok row, { s.formNamed with store := s.store.addForm row }) ∧ s.FreshForm row ∧
      row.questions = document questions := by
  have hup : s.formNamed.isDown = false := hs
  have hcells := exec_cells_of_fills hup h
  rw [State.formNamed] at hup hcells
  obtain _ | ⟨-, _ | ⟨-, _ | ⟨-, _ | ⟨-, _ | ⟨-, _ | -⟩⟩⟩⟩⟩ := h
  rw [createForm, exec_bind, nameForm, exec_modifyGet]
  simp only [exec_bind, exec_now, trimmed, exec_pure, hcells, exec_change_of_up _ hup]
  exact ⟨_, rfl, ⟨rfl, rfl, rfl⟩, rfl⟩

/-- Creating a form breaks off, or adds its row. -/
theorem exec_createForm_cases (title description baseId tableId tableName questions : Value)
    (s : State) :
    (∃ e, exec (createForm title description baseId tableId tableName questions) s =
      (.error e, s.formNamed)) ∨
    ∃ row, exec (createForm title description baseId tableId tableName questions) s =
      (.ok row, { s.formNamed with store := s.store.addForm row }) ∧ s.FreshForm row ∧
      row.questions = document questions := by
  cases title with
  | str t =>
    rcases exec_cells_cases [.str t.trim, orText [] description, baseId, tableId,
      orText "Table" tableName] s.formNamed with ⟨e, hcells⟩ | ⟨ts, hs, hfills⟩
    · rw [createForm, exec_bind, nameForm, exec_modifyGet]
      simp only [exec_bind, exec_now, trimmed, exec_pure]
      rw [State.formNamed] at hcells
      rw [hcells]
      exact .inl ⟨e, rfl⟩
    · exact .inr (exec_createForm_of_fills questions hs hfills)
  | _ => exact .inl ⟨_, rfl⟩

/-- A response whose cells can all be filled is created. -/
theorem exec_createResponse_of_fills {formId recordId status : Value} (answers : Value)
    {ts : List Text} {s : State} (hs : s.isDown = false)
    (h : List.Forall₂ Fills [formId, recordId, status] ts) :
    ∃ row, exec (createResponse formId recordId answers status) s =
      (.ok row, { s.responseNamed with store := s.store.addResponse row }) ∧ s.FreshResponse row ∧
      Fills formId row.formId ∧ Fills recordId row.recordId ∧ row.answers = document answers := by
  have hup : s.responseNamed.isDown = false := hs
  have hcells := exec_cells_of_fills hup h
  rw [State.responseNamed] at hup hcells
  obtain _ | ⟨hform, _ | ⟨hrecord, _ | ⟨-, _ | -⟩⟩⟩ := h
  rw [createResponse, exec_bind, nameResponse, exec_modifyGet]
  simp only [exec_bind, exec_now, hcells, exec_change_of_up _ hup, exec_pure]
  exact ⟨_, rfl, ⟨rfl, hrecord.encodable, rfl, rfl⟩, hform, hrecord, rfl⟩

/-- Creating a response breaks off, or adds its row. -/
theorem exec_createResponse_cases (formId recordId answers status : Value) (s : State) :
    (∃ e, exec (createResponse formId recordId answers status) s = (.error e, s.responseNamed)) ∨
    ∃ row, exec (createResponse formId recordId answers status) s =
      (.ok row, { s.responseNamed with store := s.store.addResponse row }) ∧ s.FreshResponse row ∧
      Fills formId row.formId ∧ Fills recordId row.recordId ∧ row.answers = document answers := by
  rcases exec_cells_cases [formId, recordId, status] s.responseNamed with
    ⟨e, hcells⟩ | ⟨ts, hs, hfills⟩
  · rw [createResponse, exec_bind, nameResponse, exec_modifyGet]
    simp only [exec_bind, exec_now]
    rw [State.responseNamed] at hcells
    rw [hcells]
    exact .inl ⟨e, rfl⟩
  · exact .inr (exec_createResponse_of_fills answers hs hfills)

/-! ### Calls that look -/

/-- Looking for a text while the store is up. -/
theorem exec_looking {α : Type} {s : State} (hs : s.isDown = false) (t : Text) (f : Text → Store → α) :
    exec (do let t ← key t; pure (f t (← reach))) s =
      (if t.encodable then .ok (f t s.store) else .error (.store .notEncodable), s) := by
  rw [exec_bind, exec_key, hs]
  cases t.encodable with
  | true =>
    simp only [if_true, Bool.false_eq_true, if_false, exec_bind, exec_reach, hs]
    rfl
  | false => rfl

theorem exec_forms {s : State} (hs : s.isDown = false) :
    exec forms s = (.ok s.store.newestForms, s) := by
  rw [forms, exec_bind, exec_reach, hs]
  rfl

theorem exec_form? {s : State} (hs : s.isDown = false) (id : Text) :
    exec (form? id) s =
      (if id.encodable then .ok (s.store.form? id) else .error (.store .notEncodable), s) :=
  exec_looking hs id Store.form?

theorem exec_responsesTo {s : State} (hs : s.isDown = false) (formId : Text) :
    exec (responsesTo formId) s =
      (if formId.encodable then .ok (s.store.responsesTo formId) else .error (.store .notEncodable), s) :=
  exec_looking hs formId Store.responsesTo

theorem exec_findResponse {s : State} (hs : s.isDown = false) (recordId : Text) :
    exec (response? recordId) s =
      (if recordId.encodable then .ok (s.store.response? recordId) else .error (.store .notEncodable), s) :=
  exec_looking hs recordId Store.response?

/-! ### Calls that count -/

/-- An id that cannot be looked up is not counted; the clock is read before that. -/
theorem exec_countResponse_of_unencodable {id : Text} {s : State} (hs : s.isDown = false)
    (hid : id.encodable = false) :
    exec (countResponse id) s = (.error (.store .notEncodable), { s with clock := s.clock + 1 }) := by
  rw [countResponse, exec_bind, exec_now]
  simp [exec_bind, exec_key, hs, hid]

end Action

/-! ### All calls -/

/-- Clock and numbers only go on, the store stays up or down, and so does all that is outside. -/
structure State.Precedes (s t : State) : Prop where
  env : t.env = s.env
  isDown : t.isDown = s.isDown
  clock : s.clock ≤ t.clock
  formsNamed : s.formsNamed ≤ t.formsNamed
  responsesNamed : s.responsesNamed ≤ t.responsesNamed

namespace State.Precedes

theorem of_same {s t : State} (env : t.env = s.env) (isDown : t.isDown = s.isDown) (clock : s.clock ≤ t.clock)
    (formsNamed : t.formsNamed = s.formsNamed) (responsesNamed : t.responsesNamed = s.responsesNamed) :
    s.Precedes t := ⟨env, isDown, clock, formsNamed.ge, responsesNamed.ge⟩

theorem refl (s : State) : s.Precedes s := of_same rfl rfl (Nat.le_refl _) rfl rfl

theorem trans {s t u : State} (h : s.Precedes t) (g : t.Precedes u) : s.Precedes u :=
  ⟨g.env.trans h.env, g.isDown.trans h.isDown, h.clock.trans g.clock, h.formsNamed.trans g.formsNamed,
    h.responsesNamed.trans g.responsesNamed⟩

theorem time_le {s t : State} (h : s.Precedes t) : s.time ≤ t.time := by
  rw [State.time, State.time, h.env]
  exact s.env.time_le h.clock

/-- After one reading of the clock. -/
theorem time_of_clock {s t : State} (h : s.Precedes t) (hclock : t.clock = s.clock + 1) :
    t.time = s.nextTime := by
  rw [State.time, State.nextTime, h.env, hclock]

end State.Precedes

namespace Action

theorem leads_change (f : Store → Store) : Leads State.Precedes (change f) := by
  intro s
  rw [exec_change]
  split
  · exact .refl s
  · exact .of_same rfl rfl (Nat.le_refl _) rfl rfl

theorem compositional_precedes : Compositional (@Leads State.Precedes) :=
  compositional_leads State.Precedes.refl State.Precedes.trans
    (fun _ => .of_same rfl rfl (Nat.le_succ _) rfl rfl) (fun _ _ => .of_same rfl rfl (Nat.le_refl _) rfl rfl)
    (fun _ _ => leads_change _) (fun _ _ => leads_change _)
    (fun _ _ => .of_same rfl rfl (Nat.le_refl _) rfl rfl)

end Action

/-- What a call can do while the store is up: nothing to the store; one new form or one new response, which
it gives; or changes to the rows of one record or of one id. -/
inductive Call.Ends (k : Call) (s t : State) : Prop where
  | unchanged (created : k.created s = (none, none)) (store : t.store = s.store)
      (uncounted : ∀ id, id.encodable = true → k.counts id = false)
  | formCreated (row : FormRow) (created : k.created s = (some row, none)) (fresh : s.FreshForm row)
      (store : t.store = s.store.addForm row) (uncounted : ∀ id, k.counts id = false)
      (named : t.formsNamed = s.formsNamed + 1) (clock : t.clock = s.clock + 1)
  | responseCreated (row : ResponseRow) (created : k.created s = (none, some row))
      (fresh : s.FreshResponse row) (store : t.store = s.store.addResponse row)
      (uncounted : ∀ id, k.counts id = false) (named : t.responsesNamed = s.responsesNamed + 1)
      (clock : t.clock = s.clock + 1)
  | marked (mark : ResponseRow → ResponseRow) (recordId : Text) (created : k.created s = (none, none))
      (origin : ∀ row, (mark row).origin = row.origin) (store : t.store = s.store.mark mark recordId)
      (uncounted : ∀ id, k.counts id = false)
  | counted (id : Text) (now : Nat) (created : k.created s = (none, none))
      (store : t.store = s.store.countResponse id now) (counted : ∀ other, k.counts other = (id == other))

namespace Call

variable {s : State}

/-- A mark ends in marked responses, or breaks off. -/
theorem ends_markWith {k : Call} {f : Text → Nat → Store → Store}
    {change : Nat → ResponseRow → ResponseRow} {recordId : Text} (hs : s.isDown = false)
    (hcreated : k.created s = (none, none)) (hcounts : ∀ id, k.counts id = false) (hf : ∀ id now, f id now = Store.mark (change now) id)
    (horigin : ∀ now row, (change now row).origin = row.origin) :
    k.Ends s (Action.exec (Action.markWith f recordId) s).2 := by
  by_cases hid : recordId.encodable = true
  · rw [Action.exec_markWith hs hid]
    exact .marked (change s.nextTime) recordId hcreated (horigin _) (by rw [hf]) hcounts
  · rw [Action.exec_markWith_of_unencodable hs (by simpa using hid)]
    exact .unchanged hcreated rfl fun id _ => hcounts id

theorem ends (k : Call) (hs : s.isDown = false) : k.Ends s (k.act s) := by
  cases k with
  | createForm title description baseId tableId tableName questions =>
    rcases Action.exec_createForm_cases title description baseId tableId tableName questions s with
      ⟨e, hexec⟩ | ⟨row, hexec, hfresh, -⟩
    · exact .unchanged (by rw [created, hexec]; rfl) (by rw [act, hexec]; rfl) fun _ _ => rfl
    · exact .formCreated row (by rw [created, hexec]; rfl) hfresh (by rw [act, hexec]) (fun _ => rfl)
        (by rw [act, hexec]; rfl) (by rw [act, hexec]; rfl)
  | createResponse formId recordId answers status =>
    rcases Action.exec_createResponse_cases formId recordId answers status s with
      ⟨e, hexec⟩ | ⟨row, hexec, hfresh, -⟩
    · exact .unchanged (by rw [created, hexec]; rfl) (by rw [act, hexec]; rfl) fun _ _ => rfl
    · exact .responseCreated row (by rw [created, hexec]; rfl) hfresh (by rw [act, hexec])
        (fun _ => rfl) (by rw [act, hexec]; rfl) (by rw [act, hexec]; rfl)
  | countResponse id =>
    rw [act]
    by_cases hid : id.encodable = true
    · rw [Action.exec_countResponse hs hid]
      exact .counted id s.nextTime rfl rfl fun _ => rfl
    · rw [Action.exec_countResponse_of_unencodable hs (by simpa using hid)]
      refine .unchanged rfl rfl ?_
      intro other hother
      have hne : id ≠ other := by
        rintro rfl
        exact hid hother
      simpa [counts] using hne
  | markSynced recordId =>
    exact ends_markWith hs rfl (fun _ => rfl) (fun _ _ => rfl) ResponseRow.origin_synced
  | markDeleted recordId =>
    exact ends_markWith hs rfl (fun _ => rfl) (fun _ _ => rfl) ResponseRow.origin_deleted
  | listForms => exact .unchanged rfl (by rw [act, Action.exec_forms hs]) fun _ _ => rfl
  | findForm id => exact .unchanged rfl (by rw [act, Action.exec_form? hs]) fun _ _ => rfl
  | listResponses formId => exact .unchanged rfl (by rw [act, Action.exec_responsesTo hs]) fun _ _ => rfl
  | findResponse recordId => exact .unchanged rfl (by rw [act, Action.exec_findResponse hs]) fun _ _ => rfl

theorem precedes (k : Call) (s : State) : s.Precedes (k.act s) := by
  have hreads := Action.compositional_precedes
  cases k with
  | createForm title description baseId tableId tableName questions =>
    rw [act]
    rcases Action.exec_createForm_cases title description baseId tableId tableName questions s with
      ⟨e, hexec⟩ | ⟨row, hexec, -⟩ <;>
    · rw [hexec]
      exact ⟨rfl, rfl, Nat.le_succ _, Nat.le_succ _, Nat.le_refl _⟩
  | createResponse formId recordId answers status =>
    rw [act]
    rcases Action.exec_createResponse_cases formId recordId answers status s with
      ⟨e, hexec⟩ | ⟨row, hexec, -⟩ <;>
    · rw [hexec]
      exact ⟨rfl, rfl, Nat.le_succ _, Nat.le_refl _, Nat.le_succ _⟩
  | countResponse id =>
    exact hreads.bind hreads.now (fun now => hreads.bind (hreads.key id) fun id =>
      Action.leads_change _) s
  | markSynced recordId => exact hreads.markWith hreads.synced recordId s
  | markDeleted recordId => exact hreads.markWith hreads.deleted recordId s
  | listForms => exact hreads.bind hreads.reach (fun _ => hreads.pure _) s
  | findForm id => exact hreads.looking id _ s
  | listResponses formId => exact hreads.looking formId _ s
  | findResponse recordId => exact hreads.looking recordId _ s

end Call
end Intake.Service
