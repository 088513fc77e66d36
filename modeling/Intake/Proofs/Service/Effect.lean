import Intake.Proofs.Service.Steady

/-!
# What a request leaves behind

Whatever a request asks for, it leaves one of four things behind: a new form with its event; a new
response that was sent on, with its count and its event; a new response that was not sent on, with its
event; or neither a new form nor a new response. Nothing is ever removed. What holds of all runs is
derived from this distinction.
-/

namespace Intake.Service

open Store Http

/-- The event that a response became a record. -/
def syncedEvent (row : ResponseRow) : Event :=
  ⟨Event.responseSubmitted,
    Action.responsePayload row.formId row.id [("airtableRecordId", .str row.recordId)]⟩

/-- The event that a response did not become a record. -/
def failedEvent (row : ResponseRow) : Event :=
  ⟨Event.syncFailed, Action.responsePayload row.formId row.id []⟩

/-- What judging the payload of a new form gives; no state takes part in it. -/
def verdict (payload : Value) : Except Failure (Except Members NewForm) :=
  match Payload.check payload with
  | .error e => .ok (.error (Problem.ofFormError e))
  | .ok () =>
    match Normal.ofValue (payload.member "questions") with
    | .error (.rules _) => .ok (.error (Problem.ofFormError .questionFormat))
    | .error (.misuse m) => .error (.misuse m)
    | .ok questions =>
      match NewForm.check (Action.draftOf payload questions) with
      | .failed issues => .ok (.error (Action.fieldProblem issues))
      | .ok form => .ok (.ok form)

/-- A form passes exactly when it passes all three gates. -/
theorem verdict_eq_ok_iff {payload : Value} {form : NewForm} :
    verdict payload = .ok (.ok form) ↔ Payload.check payload = .ok () ∧
      ∃ questions, Normal.ofValue (payload.member "questions") = .ok questions ∧
        NewForm.check (Action.draftOf payload questions) = .ok form := by
  unfold verdict
  cases Payload.check payload with
  | error e => simp
  | ok u =>
    rcases Normal.ofValue (payload.member "questions") with (m | issues) | questions
    · simp
    · simp
    · cases hc : NewForm.check (Action.draftOf payload questions) <;> simp [hc]

/-- What a request can leave behind. -/
inductive Effect (r : Request) (s : State) : State → Prop where
  | steady {t : State} (h : Steady s t) : Effect r s t
  | created {t : State} (form : NewForm) (passed : verdict (Action.bodyOf r) = .ok (.ok form))
      (store : t.store = s.store.addForm (s.rowOf form))
      (events : t.events = s.events ++ [createdEvent (s.rowOf form) form])
      (formsNamed : t.formsNamed = s.formsNamed + 1)
      (responsesNamed : t.responsesNamed = s.responsesNamed) (env : t.env = s.env) : Effect r s t
  | synced {t : State} (form : FormRow) (found : form ∈ s.store.forms) (row : ResponseRow)
      (id : row.id = s.nextResponse) (formId : row.formId = form.id) (now : Nat)
      (store : t.store = (s.store.addResponse row).countResponse form.id now)
      (events : t.events = s.events ++ [syncedEvent row])
      (formsNamed : t.formsNamed = s.formsNamed)
      (responsesNamed : t.responsesNamed = s.responsesNamed + 1) (env : t.env = s.env) : Effect r s t
  | failed {t : State} (form : FormRow) (found : form ∈ s.store.forms) (row : ResponseRow)
      (id : row.id = s.nextResponse) (formId : row.formId = form.id)
      (store : t.store = s.store.addResponse row)
      (events : t.events = s.events ++ [failedEvent row])
      (formsNamed : t.formsNamed = s.formsNamed)
      (responsesNamed : t.responsesNamed = s.responsesNamed + 1) (env : t.env = s.env) : Effect r s t

/-- What a request leaves behind does not depend on the remote service or on the number of the next
request. -/
theorem Effect.of_agree {r : Request} {s t u : State} (hstore : u.store = s.store)
    (hevents : u.events = s.events) (hclock : u.clock = s.clock)
    (hforms : u.formsNamed = s.formsNamed) (hresponses : u.responsesNamed = s.responsesNamed)
    (henv : u.env = s.env) (h : Effect r u t) : Effect r s t := by
  have hrow : ∀ form, u.rowOf form = s.rowOf form := by
    intro form
    rw [State.rowOf, State.rowOf, State.nextForm, State.nextForm, State.nextTime, State.nextTime, hforms,
      hclock, henv]
  have hnext : u.nextResponse = s.nextResponse := by
    rw [State.nextResponse, State.nextResponse, hresponses, henv]
  cases h with
  | steady h =>
    refine .steady ⟨h.env.trans henv, ?_, ?_, ?_, ?_, ?_⟩
    · rw [h.forms, hstore]
    · rw [h.responses, hstore]
    · rw [← hforms]; exact h.formsNamed
    · rw [← hresponses]; exact h.responsesNamed
    · rw [← hevents]; exact h.events
  | created form passed h₁ h₂ h₃ h₄ h₅ =>
    exact .created form passed (by rw [h₁, hstore, hrow]) (by rw [h₂, hevents, hrow])
      (by rw [h₃, hforms]) (by rw [h₄, hresponses]) (h₅.trans henv)
  | synced form found row h₁ h₂ now h₃ h₄ h₅ h₆ h₇ =>
    exact .synced form (hstore ▸ found) row (by rw [h₁, hnext]) h₂ now (by rw [h₃, hstore])
      (by rw [h₄, hevents]) (by rw [h₅, hforms]) (by rw [h₆, hresponses]) (h₇.trans henv)
  | failed form found row h₁ h₂ h₃ h₄ h₅ h₆ h₇ =>
    exact .failed form (hstore ▸ found) row (by rw [h₁, hnext]) h₂ (by rw [h₃, hstore])
      (by rw [h₄, hevents]) (by rw [h₅, hforms]) (by rw [h₆, hresponses]) (h₇.trans henv)

namespace Action

@[simp] theorem exec_ok (status : Int) (body : Value) (s : State) :
    exec (ok status body) s = ((Reply.json status jsonType body.published []).mapError .reply, s) :=
  exec_ofExcept _ _ _

@[simp] theorem exec_refuse (problem : Members) (s : State) :
    exec (refuse problem) s = ((Problem.reply problem []).mapError .reply, s) :=
  exec_ofExcept _ _ _

theorem exec_newForm (payload : Value) (s : State) :
    exec (newForm payload) s = (verdict payload, s) := by
  unfold newForm verdict
  cases Payload.check payload with
  | error e => rfl
  | ok u =>
    rcases Normal.ofValue (payload.member "questions") with (m | issues) | questions
    · rfl
    · rfl
    · simp only
      cases NewForm.check (draftOf payload questions) <;> rfl

/-- Looking up a form: the store is out of reach, the id cannot be looked up, or the form is looked
for. -/
theorem exec_withForm (id : Text) (k : FormRow → Action Reply) (s : State) :
    exec (withForm id k) s =
      if s.isDown then (.error (.store .unavailable), s)
      else if id.encodable then
        match s.store.form? id with
        | some row => exec (k row) s
        | none => exec (refuse (Problem.formNotFound (.str id))) s
      else (.error (.store .notEncodable), s) := by
  rw [withForm, exec_bind, form?, exec_bind, exec_key]
  simp only [exec_bind, exec_reach]
  by_cases hd : s.isDown = true
  · simp [hd]
  · by_cases hid : id.encodable = true
    · simp only [hd, hid, if_true, if_false, exec_pure, Bool.false_eq_true]
      cases s.store.form? id <;> rfl
    · simp [hd, hid]

/-- Creating a form: what is refused leaves the state as it was. -/
theorem exec_postForm_of_refused {payload : Value} {s : State}
    (h : ∀ form, verdict payload ≠ .ok (.ok form)) : (exec (postForm payload) s).2 = s := by
  rw [postForm, exec_bind, exec_newForm]
  rcases hv : verdict payload with e | (problem | form)
  · rfl
  · simp
  · exact absurd hv (h form)

theorem exec_postForm_of_passed {payload : Value} {form : NewForm} {s : State}
    (h : verdict payload = .ok (.ok form)) :
    (exec (postForm payload) s).2 = (exec (storeForm form) s).2 := by
  rw [postForm, exec_bind, exec_newForm, h]
  simp only [exec_bind]
  rcases exec (storeForm form) s with ⟨e | row, t⟩
  · rfl
  · simp only
    cases row.view? <;> simp

/-- The state after the response to a submission that became a record has been kept. -/
def syncedState (s : State) (row : ResponseRow) : State :=
  { s.responseNamed with
    clock := s.clock + 2
    store := (s.store.addResponse row).countResponse row.formId (s.env.time (s.clock + 2))
    events := s.events ++ [syncedEvent row] }

/-- The state after the response to a submission that was not sent on has been kept. -/
def failedState (s : State) (row : ResponseRow) : State :=
  { s.responseNamed with
    store := s.store.addResponse row
    events := s.events ++ [failedEvent row] }

/-- Keeping a response that became a record. -/
theorem exec_keepSynced {formId recordId : Text} {accepted : Members} {s : State}
    (hs : s.isDown = false) (hid : formId.encodable = true) :
    exec (keepSynced formId recordId accepted) s =
      if recordId.encodable then
        let row := s.responseRow formId recordId accepted .synced
        exec (ok 200 (.obj [("success", .bool true),
          ("message", .ofString "Form submitted successfully"), ("responseId", .str row.id),
          ("airtableRecordId", .str recordId)])) (syncedState s row)
      else (.error (.store .notEncodable), s.responseNamed) := by
  rw [keepSynced, exec_bind, exec_createResponse, hs, hid, Bool.true_and]
  by_cases hr : recordId.encodable = true
  · simp only [hr, if_true, Bool.false_eq_true, if_false, exec_bind]
    rw [exec_countResponse (by exact hs) hid]
    rfl
  · simp [hr]

/-- Keeping a response that was not sent on. -/
theorem exec_keepFailed {formId : Text} {accepted : Members} {refusal : Remote.Refusal} {s : State}
    (hs : s.isDown = false) (hid : formId.encodable = true) :
    exec (keepFailed formId accepted refusal) s =
      let row := s.responseRow formId (placeholderAt s.millis) accepted .error
      exec (refuse (Problem.remoteUnavailable (detailsOf refusal) (.str row.id)
        (.str Problem.submissionFailed))) (failedState s row) := by
  rw [keepFailed, exec_bind, exec_timeOfDay]
  simp only [exec_bind, exec_createResponse, hs, hid, encodable_placeholderAt]
  rfl

/-- Sending accepted answers on: the remote service may take them, refuse them, or not be called. -/
theorem exec_deliver (client : Remote.Client) (form : FormRow) (questions : List Question)
    (accepted : Members) (s : State) :
    exec (deliver client form questions accepted) s =
      let out := client.createRecord form.baseId form.tableName
        (.obj (Submission.columns questions accepted)) s.peer
      match out.1 with
      | .ok recordId => exec (keepSynced form.id recordId accepted) { s with peer := out.2 }
      | .error (.refused refusal) =>
        exec (keepFailed form.id accepted refusal) { s with peer := out.2 }
      | .error e => (.error (.call e), { s with peer := out.2 }) := by
  rw [deliver, exec_bind, exec_call]
  rcases client.createRecord form.baseId form.tableName
    (.obj (Submission.columns questions accepted)) s.peer with ⟨e | recordId, p⟩
  · cases e <;> rfl
  · rfl

/-- What a form does with a submission. -/
def receive (client : Remote.Client) (answers : Members) (form : FormRow) : Action Reply := do
  let questions ← questionsOf form
  match Submission.accept questions answers with
  | .error e => refuse (Problem.ofFormError e)
  | .ok accepted => deliver client form questions accepted

/-- A submission needs a client and answers before its form is looked up. -/
theorem exec_postSubmission (access : Access) (id : Text) (body : Value) (s : State) :
    exec (postSubmission access id body) s =
      match Remote.Client.ofAccess access with
      | .error e => (.error (.call e), s)
      | .ok client =>
        match answersOf body with
        | none => exec (refuse Problem.answersRequired) s
        | some answers => exec (withForm id (receive client answers)) s := by
  rw [postSubmission, exec_bind]
  cases Remote.Client.ofAccess access with
  | error e => rfl
  | ok client =>
    simp only [exec_ofExcept_ok]
    cases answersOf body <;> rfl

theorem exec_receive (client : Remote.Client) (answers : Members) (form : FormRow) (s : State) :
    exec (receive client answers form) s =
      match form.questions? with
      | none => (.error .unreadable, s)
      | some questions =>
        match Submission.accept questions answers with
        | .error e => exec (refuse (Problem.ofFormError e)) s
        | .ok accepted => exec (deliver client form questions accepted) s := by
  rw [receive, exec_bind, questionsOf]
  cases form.questions? with
  | none => rfl
  | some questions =>
    simp only [exec_ofReadable_some]
    cases Submission.accept questions answers <;> rfl

/-! ### One effect for each request -/

theorem effect_storeForm {r : Request} {form : NewForm}
    (passed : verdict (bodyOf r) = .ok (.ok form)) (s : State) :
    Effect r s (exec (storeForm form) s).2 := by
  have hnamed : Steady s s.formNamed :=
    Steady.of_same rfl rfl rfl (Nat.le_succ _) (Nat.le_refl _)
  rw [exec_storeForm]
  split
  · exact .steady hnamed
  · split
    · exact .created form passed rfl rfl rfl rfl rfl
    · exact .steady hnamed

theorem effect_postForm (r : Request) (s : State) :
    Effect r s (exec (postForm (bodyOf r)) s).2 := by
  by_cases h : ∃ form, verdict (bodyOf r) = .ok (.ok form)
  · obtain ⟨form, passed⟩ := h
    rw [exec_postForm_of_passed passed]
    exact effect_storeForm passed s
  · rw [exec_postForm_of_refused (not_exists.1 h)]
    exact .steady (Steady.refl s)

theorem effect_keepSynced {r : Request} {form : FormRow} {recordId : Text} {accepted : Members}
    {s : State} (found : form ∈ s.store.forms) (hs : s.isDown = false)
    (hid : form.id.encodable = true) :
    Effect r s (exec (keepSynced form.id recordId accepted) s).2 := by
  rw [exec_keepSynced hs hid]
  split
  · simp only [exec_ok]
    exact .synced form found (s.responseRow form.id recordId accepted .synced) rfl rfl _ rfl rfl rfl
      rfl rfl
  · exact .steady (Steady.of_same rfl rfl rfl (Nat.le_refl _) (Nat.le_succ _))

theorem effect_keepFailed {r : Request} {form : FormRow} {accepted : Members}
    {refusal : Remote.Refusal} {s : State} (found : form ∈ s.store.forms) (hs : s.isDown = false)
    (hid : form.id.encodable = true) :
    Effect r s (exec (keepFailed form.id accepted refusal) s).2 := by
  rw [exec_keepFailed hs hid]
  simp only [exec_refuse]
  exact .failed form found (s.responseRow form.id (placeholderAt s.millis) accepted .error) rfl rfl rfl rfl
    rfl rfl rfl

theorem effect_deliver {r : Request} {client : Remote.Client} {form : FormRow}
    {questions : List Question} {accepted : Members} {s : State} (found : form ∈ s.store.forms)
    (hs : s.isDown = false) (hid : form.id.encodable = true) :
    Effect r s (exec (deliver client form questions accepted) s).2 := by
  rw [exec_deliver]
  rcases client.createRecord form.baseId form.tableName
    (.obj (Submission.columns questions accepted)) s.peer with ⟨e | recordId, p⟩
  · cases e with
    | refused refusal =>
      refine .of_agree (u := { s with peer := p }) rfl rfl rfl rfl rfl rfl ?_
      exact effect_keepFailed found hs hid
    | _ => exact .steady (Steady.of_same rfl rfl rfl (Nat.le_refl _) (Nat.le_refl _))
  · refine .of_agree (u := { s with peer := p }) rfl rfl rfl rfl rfl rfl ?_
    exact effect_keepSynced found hs hid

theorem effect_receive {r : Request} {client : Remote.Client} {answers : Members} {form : FormRow}
    {s : State} (found : form ∈ s.store.forms) (hs : s.isDown = false)
    (hid : form.id.encodable = true) : Effect r s (exec (receive client answers form) s).2 := by
  rw [exec_receive]
  cases form.questions? with
  | none => exact .steady (Steady.refl s)
  | some questions =>
    simp only
    cases Submission.accept questions answers with
    | error e => exact .steady (compositional_keeps.refuse _ s)
    | ok accepted => exact effect_deliver found hs hid

theorem effect_postSubmission (r : Request) (access : Access) (id : Text) (body : Value)
    (s : State) : Effect r s (exec (postSubmission access id body) s).2 := by
  rw [exec_postSubmission]
  cases Remote.Client.ofAccess access with
  | error e => exact .steady (Steady.refl s)
  | ok client =>
    cases answersOf body with
    | none => exact .steady (compositional_keeps.refuse _ s)
    | some answers =>
      simp only [exec_withForm]
      cases hs : s.isDown with
      | true => exact .steady (Steady.refl s)
      | false =>
        by_cases hid : id.encodable = true
        · simp only [hid, Bool.false_eq_true, if_false, if_true]
          cases hform : s.store.form? id with
          | none => exact .steady (compositional_keeps.refuse _ s)
          | some form =>
            have hfound : form ∈ s.store.forms := List.mem_of_find?_eq_some hform
            have hname : form.id = id := by simpa using List.find?_some hform
            exact effect_receive hfound hs (hname ▸ hid)
        · simp only [hid, Bool.false_eq_true, if_false]
          exact .steady (Steady.refl s)

theorem effect_dispatch (c : Config) (r : Request) (s : State) :
    Effect r s (exec (dispatch c r) s).2 := by
  rcases dispatch_cases c r with h | ⟨id, h⟩ | h
  · rw [h]; exact effect_postForm r s
  · rw [h]; exact effect_postSubmission r c.access id _ s
  · exact .steady (h compositional_keeps s)

end Action

/-! ### Requests -/

/-- The state in which a request is led to its endpoint. -/
def State.requestNamed (s : State) (r : Request) : State := ((nameRequest r).run s).2

theorem handle_of_preflight {c : Config} {r : Request} {reply : Reply}
    (h : Origin.preflight? c.origins r = some reply) (s : State) :
    (handle c r).run s = (reply, s) := by
  rw [handle, h]; rfl

theorem handle_of_no_preflight {c : Config} {r : Request}
    (h : Origin.preflight? c.origins r = none) (s : State) :
    (handle c r).run s =
      (finish c r ((nameRequest r).run s).1
        (Action.exec (Action.dispatch c r) (s.requestNamed r)).1,
        (Action.exec (Action.dispatch c r) (s.requestNamed r)).2) := by
  rw [handle, h]; rfl

/-- Every request leaves one of the four behind. -/
theorem effect_handle (c : Config) (r : Request) (s : State) :
    Effect r s ((handle c r).run s).2 := by
  cases h : Origin.preflight? c.origins r with
  | some reply => rw [handle_of_preflight h]; exact .steady (Steady.refl s)
  | none =>
    rw [handle_of_no_preflight h]
    refine .of_agree (u := s.requestNamed r) rfl rfl rfl rfl rfl rfl ?_
    exact Action.effect_dispatch c r (s.requestNamed r)

end Intake.Service
