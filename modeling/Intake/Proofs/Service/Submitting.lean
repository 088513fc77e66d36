import Intake.Proofs.Form.Accepting
import Intake.Proofs.Form.ReadBack
import Intake.Proofs.Service.Delivering

/-!
# Submitting what is shown

Two endpoints decide which questions of a form are shown: one tells the respondent, the other takes the
answers. Both ask the same engine about the same stored questions. So a submission is refused exactly
for a question that the respondent was shown, and nothing that was hidden is stored or sent on.

        answers ──▶ shown ──▶ missing? ──▶ refused, nothing kept
                                  │
                                  └──▶ accepted ──▶ columns sent ──▶ one response kept
-/

namespace Intake

namespace Service

open Store Http Submission

/-- The answers of a request are those that its body names. -/
theorem Action.of_answersOf {body : Value} {answers : Members} (h : answersOf body = some answers) :
    ∃ ms : Members, body = .obj ms ∧ ms.get? "answers" = some (.obj answers) := by
  obtain ⟨p, hp, rfl⟩ := Option.map_eq_some_iff.1 h
  cases hcheck : AnswersPayload.check body with
  | failed issues => rw [hcheck] at hp; cases hp
  | ok payload =>
    rw [hcheck] at hp
    cases hp
    obtain ⟨ms, rfl, hfields⟩ := Checked.record_eq_ok.1 hcheck
    obtain ⟨_, answers, hmk, hanswers, rfl⟩ := Checked.also_eq_ok.1 hfields
    obtain rfl := Checked.ok.inj hmk
    obtain ⟨v, hv, hobject⟩ := FieldName.required_eq_ok.1 hanswers
    rw [FieldName.value?_same, Checked.object_eq_ok.1 hobject] at hv
    exact ⟨ms, rfl, hv⟩

/-! ### Refusing -/

/-- The reply refuses a submission that has no answer to a question. -/
def Misses (reply : Reply) (key : Text) : Prop :=
  reply.status = 400 ∧ ∃ v, reply.body = .json v ∧
    v.member "code" = .ofString "REQUIRED_ANSWER_MISSING" ∧ v.member "questionKey" = .str key

/-- The problem with a missing answer can be told when its key can be. -/
theorem renderable_answerMissing (key : Text) :
    (Value.obj (Problem.ofFormError (.answerMissing key))).renderable =
      if key.encodable then .ok (.obj (Problem.ofFormError (.answerMissing key)))
      else .error .notEncodable := by
  have hreal : (Value.obj (Problem.ofFormError (.answerMissing key))).allReal Binary64.isFinite = true :=
    rfl
  have htext : (Value.obj (Problem.ofFormError (.answerMissing key))).allText Text.encodable =
      key.encodable := by
    have hmessage : (FormError.answerMissing key).message.encodable = key.encodable := by
      rw [FormError.message, Text.encodable_append]; rfl
    have hcode : (FormError.answerMissing key).code.upper = "REQUIRED_ANSWER_MISSING" := by
      rw [FormError.code]; decide
    have hmembers : (Value.obj (Problem.ofFormError (.answerMissing key))).allText Text.encodable =
        ((FormError.answerMissing key).message.encodable &&
          ((FormError.answerMissing key).message.encodable &&
            ((FormError.answerMissing key).code.upper.encodable && (key.encodable && true)))) := rfl
    rw [hmembers, hmessage, hcode]
    cases key.encodable <;> rfl
  rw [Value.renderable, hreal, htext]
  cases key.encodable <;> rfl

namespace Action

/-- A submission without an answer that it needs is refused for its question, unless the key of the
question cannot be told. -/
theorem exec_refuse_answerMissing (key : Text) (s : State) :
    ∃ outcome, exec (refuse (Problem.ofFormError (.answerMissing key))) s = (outcome, s) ∧
      if key.encodable then ∃ reply, outcome = .ok reply ∧ Misses reply key
      else ∃ e, outcome = .error e := by
  have hpublished : (Value.obj (Problem.ofFormError (.answerMissing key))).published =
      .obj (Problem.ofFormError (.answerMissing key)) := rfl
  have hcode : (FormError.answerMissing key).code.upper = "REQUIRED_ANSWER_MISSING" := by
    rw [FormError.code]; decide
  have hrenderable := renderable_answerMissing key
  rw [exec_refuse, Problem.reply, Problem.statusOf_ofFormError, hpublished]
  refine ⟨_, rfl, ?_⟩
  by_cases hkey : key.encodable = true
  · rw [if_pos hkey] at hrenderable ⊢
    obtain ⟨reply, hreply, hstatus, hbody⟩ :=
      Reply.json_of_renderable 400 problemType hrenderable
    refine ⟨reply, by simp only [hreply]; rfl, hstatus, _, hbody, ?_, rfl⟩
    exact congrArg Value.str hcode
  · rw [if_neg hkey] at hrenderable ⊢
    refine ⟨.reply .notEncodable, ?_⟩
    simp only [Reply.json, hrenderable]
    rfl

/-! ### Keeping -/

/-- What becomes of accepted answers: whatever is sent has the columns, and whatever is kept has the
answers; a reply means that one response was kept. -/
structure Kept (formId : Text) (columns accepted : Members) (s t : State)
    (outcome : Except Failure Reply) : Prop where
  sent : ∃ requests, t.peer.sent = s.peer.sent ++ requests ∧ ∀ request ∈ requests,
    request.method = .post ∧ request.body = some (Remote.Client.recordBody (.obj columns))
  stored : ∃ stored : Option ResponseRow, t.store.responses = s.store.responses ++ stored.toList ∧
    (∀ row ∈ stored, row.formId = formId ∧ row.answers = document (.obj accepted)) ∧
    ∀ reply, outcome = .ok reply → (reply.status = 200 ∨ reply.status = 502) ∧ stored.isSome = true

/-- Answers that are delivered are kept. -/
theorem kept_deliver {client : Remote.Client} {form : FormRow} {questions : List Question}
    {accepted : Members} {s t : State} {outcome : Except Failure Reply} (hs : s.isDown = false)
    (hid : form.id.encodable = true)
    (h : exec (deliver client form questions accepted) s = (outcome, t)) :
    Kept form.id (Submission.columns questions accepted) accepted s t outcome := by
  have hends := deliver_ends client questions accepted hs hid
  rw [h] at hends
  cases hends with
  | unsent e t unheard store peer =>
    exact ⟨⟨[], by simp [peer], by simp⟩, none, by simp [store], by simp, by rintro _ ⟨⟩⟩
  | unkept e t answer asked unkept store =>
    exact ⟨asked.sent_all, none, by simp [store], by simp, by rintro _ ⟨⟩⟩
  | synced answer after recordId asked kept outcome status =>
    refine ⟨asked.sent_all, some (s.responseRow form.id recordId accepted .synced), rfl, ?_, ?_⟩
    · rintro row ⟨⟩
      exact ⟨rfl, rfl⟩
    · intro reply hreply
      exact ⟨.inl (status reply hreply), rfl⟩
  | failed answer after asked kept outcome status =>
    refine ⟨asked.sent_all, some (s.responseRow form.id (placeholderAt s.millis) accepted .error), rfl, ?_,
      ?_⟩
    · rintro row ⟨⟩
      exact ⟨rfl, rfl⟩
    · intro reply hreply
      exact ⟨.inr (status reply hreply), rfl⟩

/-- A submission to a stored form is judged by the form's questions. -/
theorem exec_postSubmission_of_form {access : Access} {client : Remote.Client} {id : Text} {body : Value}
    {answers : Members} {row : FormRow} {questions : List Question} {s : State}
    (hclient : Remote.Client.ofAccess access = .ok client) (hanswers : answersOf body = some answers)
    (hs : s.isDown = false) (hid : id.encodable = true) (hrow : s.store.form? id = some row)
    (hquestions : row.questions? = some questions) :
    exec (postSubmission access id body) s = match Submission.accept questions answers with
      | .error e => exec (refuse (Problem.ofFormError e)) s
      | .ok accepted => exec (deliver client row questions accepted) s := by
  rw [exec_postSubmission, hclient]
  simp only [hanswers, exec_withForm, hs, hid, hrow, Bool.false_eq_true, if_false, if_true]
  have hreceive := exec_receive client answers row s
  rw [hquestions] at hreceive
  exact hreceive

/-- Showing the questions of a stored form. -/
theorem exec_postVisible_of_form {id : Text} {body : Value} {answers : Members} {row : FormRow}
    {questions : List Question} {s : State} (hanswers : answersOf body = some answers)
    (hs : s.isDown = false) (hid : id.encodable = true) (hrow : s.store.form? id = some row)
    (hquestions : row.questions? = some questions) :
    exec (postVisible id body) s = exec (ok 200 (.obj [("formId", .str id),
      ("questions", .arr ((Question.visible questions answers).map (·.dump .wire))),
      ("questionKeys", .arr ((Question.visible questions answers).map fun q => .str q.key))])) s := by
  rw [postVisible, exec_withForm]
  simp only [hanswers, hs, hid, hrow, Bool.false_eq_true, if_false, if_true, exec_bind, questionsOf,
    hquestions, exec_ofReadable_some]

end Action

/-! ### Both endpoints -/

/-- What is said about the questions shown. -/
def shownBody (id : Text) (shown : List Question) : Value :=
  .obj [("formId", .str id), ("questions", .arr (shown.map (·.dump .wire))),
    ("questionKeys", .arr (shown.map fun q => .str q.key))]

/-- The reply lists the keys of the questions shown, whenever these can be told. -/
structure Lists (id : Text) (shown : List Question) (reply : Reply) : Prop where
  status : reply.status = if (shownBody id shown).published.renderable.isOk then 200 else 500
  keys : reply.status = 200 → ∃ v, reply.body = .json v ∧
    v.member "questionKeys" = .arr (shown.map fun q => .str q.key)

/-- What a submission does. -/
structure Submits (id : Text) (questions : List Question) (answers : Members) (s t : State)
    (reply : Reply) : Prop where
  /-- It is refused exactly when a question shown demands an answer and has none, for the first of
  these questions. -/
  missing : ∀ key, Misses reply key ↔ key.encodable = true ∧
    ((Question.visible questions answers).find? (isMissing answers)).map (·.key) = some key
  /-- Then nothing is stored and nothing is sent. -/
  untouched : (∃ q ∈ Question.visible questions answers, isMissing answers q = true) →
    t.store = s.store ∧ t.peer = s.peer ∧ t.events = s.events
  /-- At most one response is stored, and one is stored if the reply says so; its answers are the entries
  of the answers that belong to questions shown and say something. -/
  stored : ∃ stored : Option ResponseRow, t.store.responses = s.store.responses ++ stored.toList ∧
    (∀ row ∈ stored, row.formId = id ∧ ∃ accepted, content row.answers = .obj accepted ∧
      Counted questions answers accepted) ∧
    (reply.status = 200 ∨ reply.status = 502 → stored.isSome = true)
  /-- Every column of a record that is sent comes from a question shown, of a type that can be sent, and
  has the answer to it. -/
  sent : ∃ requests, t.peer.sent = s.peer.sent ++ requests ∧ ∀ request ∈ requests,
    request.method = .post ∧ ∃ columns,
      request.body = some (Remote.Client.recordBody (.obj columns)) ∧ ∀ e ∈ columns,
        ∃ q ∈ questions, q.key ∈ (Question.visible questions answers).map (·.key) ∧
          submittableTypes.contains q.type = true ∧ q.label = e.1 ∧ answers.get? q.key = some e.2

section Submits

variable {c : Config} {r : Request} {requestId : Text} {questions : List Question} {answers : Members}

/-- The number of the next request plays no part in a submission. -/
theorem Submits.of_requestNamed {id : Text} {s t : State} {reply : Reply}
    (h : Submits id questions answers (s.requestNamed r) t reply) :
    Submits id questions answers s t reply :=
  ⟨h.missing, h.untouched, h.stored, h.sent⟩

/-- A submission without an answer that it needs is refused, and nothing else happens. -/
theorem submits_of_missing {id : Text} {s t : State} {outcome : Except Failure Reply} {q : Question}
    (hfind : (Question.visible questions answers).find? (isMissing answers) = some q)
    (h : Action.exec (Action.refuse (Problem.ofFormError (.answerMissing q.key))) s = (outcome, t)) :
    Submits id questions answers s t (finish c r requestId outcome) := by
  obtain ⟨outcome', hexec, hreply⟩ := Action.exec_refuse_answerMissing q.key s
  rw [hexec] at h
  cases h
  have hstatus : (finish c r requestId outcome).status = if q.key.encodable then 400 else 500 := by
    split at hreply
    · rename_i hkey
      obtain ⟨reply, rfl, hmisses⟩ := hreply
      rw [if_pos hkey]
      exact hmisses.1
    · rename_i hkey
      obtain ⟨e, rfl⟩ := hreply
      rw [if_neg hkey, finish_status]
  refine ⟨fun key => ?_, fun _ => ⟨rfl, rfl, rfl⟩, ⟨none, by simp, by simp, fun hkept => ?_⟩,
    ⟨[], by simp, by simp⟩⟩
  · rw [hfind, Option.map_some, Option.some_inj]
    split at hreply
    · rename_i hkey
      obtain ⟨reply, rfl, hmisses⟩ := hreply
      obtain ⟨-, v, hbody, hcode, hquestion⟩ := hmisses
      constructor
      · rintro ⟨-, w, hbody', -, hquestion'⟩
        rw [finish_body, hbody] at hbody'
        cases hbody'
        rw [hquestion] at hquestion'
        cases hquestion'
        exact ⟨hkey, rfl⟩
      · rintro ⟨-, rfl⟩
        exact ⟨by rw [hstatus, if_pos hkey], v, hbody, hcode, hquestion⟩
    · rename_i hkey
      constructor
      · rintro ⟨hrefused, -⟩
        rw [hstatus, if_neg hkey] at hrefused
        cases hrefused
      · rintro ⟨hencodable, rfl⟩
        exact absurd hencodable hkey
  · rw [hstatus] at hkept
    split at hkept <;> rcases hkept with hkept | hkept <;> cases hkept

/-- Answers that were kept are those to the questions shown. -/
theorem submits_of_kept {id : Text} {s t : State} {outcome : Except Failure Reply} {accepted : Members}
    (hfind : (Question.visible questions answers).find? (isMissing answers) = none)
    (hcounted : Counted questions answers accepted) (hregular : (Value.obj answers).Regular)
    (hencodable : (Value.obj answers).Encodable)
    (h : Action.Kept id (Submission.columns questions accepted) accepted s t outcome) :
    Submits id questions answers s t (finish c r requestId outcome) := by
  obtain ⟨⟨requests, hsent, hrequests⟩, stored, hstored, hrows, hreply⟩ := h
  have hstatus : (finish c r requestId outcome).status = 500 ∨
      ((finish c r requestId outcome).status = 200 ∨ (finish c r requestId outcome).status = 502) ∧
        stored.isSome = true := by
    rw [finish_status]
    cases outcome with
    | error e => exact .inl rfl
    | ok reply => exact .inr (hreply reply rfl)
  refine ⟨fun key => ?_, ?_, ⟨stored, hstored, ?_, ?_⟩, ⟨requests, hsent, ?_⟩⟩
  · rw [hfind, Option.map_none]
    constructor
    · rintro ⟨hrefused, -⟩
      rw [hrefused] at hstatus
      rcases hstatus with hstatus | ⟨hstatus | hstatus, -⟩ <;> cases hstatus
    · rintro ⟨-, hkey⟩
      cases hkey
  · rintro ⟨q, hq, hmissing⟩
    exact absurd hmissing (List.find?_eq_none.1 hfind q hq)
  · intro row hrow
    obtain ⟨hform, hanswers⟩ := hrows row hrow
    exact ⟨hform, accepted, hanswers ▸ hcounted.content_document hregular hencodable, hcounted⟩
  · rintro (hkept | hkept)
    · rw [hkept] at hstatus
      rcases hstatus with hstatus | hstatus
      · cases hstatus
      · exact hstatus.2
    · rw [hkept] at hstatus
      rcases hstatus with hstatus | hstatus
      · cases hstatus
      · exact hstatus.2
  · intro request hrequest
    obtain ⟨hmethod, hbody⟩ := hrequests request hrequest
    exact ⟨hmethod, _, hbody, fun e he => hcounted.mem_columns he⟩

/-- A submission to a stored form follows what the form shows. -/
theorem submits_of_form {access : Access} {client : Remote.Client} {body : Value} {row : FormRow}
    {s t : State} {outcome : Except Failure Reply}
    (hclient : Remote.Client.ofAccess access = .ok client)
    (hanswers : Action.answersOf body = some answers) (hregular : body.Regular)
    (hencodable : (Value.obj answers).Encodable) (hs : s.isDown = false)
    (hid : row.id.encodable = true) (hrow : s.store.form? row.id = some row)
    (hquestions : row.questions? = some questions)
    (h : Action.exec (Action.postSubmission access row.id body) s = (outcome, t)) :
    Submits row.id questions answers s t (finish c r requestId outcome) := by
  obtain ⟨ms, rfl, hget⟩ := Action.of_answersOf hanswers
  rw [Action.exec_postSubmission_of_form hclient hanswers hs hid hrow hquestions] at h
  cases hfind : (Question.visible questions answers).find? (isMissing answers) with
  | some q =>
    rw [accept_of_missing hfind] at h
    exact submits_of_missing hfind h
  | none =>
    obtain ⟨accepted, haccept, hcounted⟩ := accept_of_complete hfind
    rw [haccept] at h
    exact submits_of_kept hfind hcounted (hereditary_regular.member hregular hget) hencodable
      (Action.kept_deliver hs hid h)

end Submits

theorem published_texts (ts : List Text) :
    Value.publishedItems (ts.map .str) = ts.map .str := by
  induction ts with
  | nil => rfl
  | cons t ts ih =>
    rw [List.map_cons, Value.publishedItems, ih]
    rfl

/-- The reply that shows questions lists them. -/
theorem lists_of_exec (c : Config) (r : Request) (requestId id : Text) (shown : List Question)
    (s : State) :
    Lists id shown (finish c r requestId (Action.exec (Action.ok 200 (shownBody id shown)) s).1) := by
  have hkeys : (shownBody id shown).published.member "questionKeys" =
      .arr (shown.map fun q => .str q.key) := by
    have hitems := published_texts (shown.map (·.key))
    rw [List.map_map] at hitems
    exact congrArg Value.arr hitems
  rw [Action.exec_ok]
  cases hrenderable : (shownBody id shown).published.renderable with
  | error e =>
    have hreply : Reply.json 200 jsonType (shownBody id shown).published [] = .error e := by
      rw [Reply.json, hrenderable]
    rw [hreply]
    refine ⟨?_, fun hstatus => by cases hstatus⟩
    rw [hrenderable]
    rfl
  | ok v =>
    obtain rfl := Value.eq_of_renderable hrenderable
    obtain ⟨reply, hreply, hstatus, hbody⟩ :=
      Reply.json_of_renderable 200 jsonType hrenderable
    rw [hreply]
    refine ⟨?_, fun _ => ⟨_, hbody, hkeys⟩⟩
    rw [hrenderable]
    exact hstatus

/-- A stored form is found with questions that can be loaded, and its id can be looked up. -/
theorem loaded_form {env : Environment} {c : Config} {turns : List Turn} {id : Text}
    (h : ((course env c turns).state.store.form? id).isSome = true) :
    ∃ row questions, (course env c turns).state.store.form? row.id = some row ∧ row.id = id ∧
      row.id.encodable = true ∧ row.questions? = some questions := by
  obtain ⟨row, hrow⟩ := Option.isSome_iff_exists.1 h
  have hmem := List.mem_of_find?_eq_some hrow
  have hname : row.id = id := by simpa using List.find?_some hrow
  obtain ⟨r, form, -, passed, hkeeps⟩ := stored_form env c turns hmem
  obtain ⟨items, hmade⟩ := NewForm.madeOf_of_verdict passed
  obtain ⟨n, -, hid⟩ := (Accounted.course env c turns).formIds row hmem
  exact ⟨row, _, hname ▸ hrow, hname, hid ▸ Names.encodable _ n,
    hkeeps.questions?_eq (regular_bodyOf r) hmade⟩

/-- In every run in which the store is up and the remote service can be addressed, a submission to a
stored form follows what the form shows under the same answers. -/
theorem submission_follows_visibility (env : Environment) (c : Config) (turns : List Turn) {id : Text}
    {r : Request} {answers : Members} (hclient : (Remote.Client.ofAccess c.access).isOk = true)
    (hup : (course env c turns).state.isDown = false)
    (hform : ((course env c turns).state.store.form? id).isSome = true)
    (hroute : Route.find r.method r.path = .endpoint .submit [id])
    (hanswers : Action.answersOf (Action.bodyOf r) = some answers)
    (hencodable : (Value.obj answers).Encodable) :
    ∃ row questions, (course env c turns).state.store.form? id = some row ∧
      row.questions? = some questions ∧
      (∀ v : Request, Route.find v.method v.path = .endpoint .visibleQuestions [id] →
        Action.answersOf (Action.bodyOf v) = some answers →
        Lists id (Question.visible questions answers) ((handle c v).run (course env c turns).state).1) ∧
      Submits id questions answers (course env c turns).state
        ((handle c r).run (course env c turns).state).2 ((handle c r).run (course env c turns).state).1 := by
  obtain ⟨row, questions, hrow, rfl, hid, hquestions⟩ := loaded_form hform
  refine ⟨row, questions, hrow, hquestions, fun v hv hbody => ?_, ?_⟩
  · obtain ⟨requestId, hhandle⟩ := handle_of_route (c := c) hv (course env c turns).state
    have hexec := Action.exec_postVisible_of_form (s := (course env c turns).state.requestNamed v) hbody hup
      hid hrow hquestions
    rw [hhandle, Action.serve, hexec]
    exact lists_of_exec c v requestId row.id _ _
  · obtain ⟨requestId, hhandle⟩ := handle_of_route (c := c) hroute (course env c turns).state
    obtain ⟨client, hofAccess⟩ : ∃ client, Remote.Client.ofAccess c.access = .ok client := by
      cases h : Remote.Client.ofAccess c.access with
      | error e => rw [h] at hclient; cases hclient
      | ok client => exact ⟨client, rfl⟩
    rw [hhandle, Action.serve]
    exact (submits_of_form (s := (course env c turns).state.requestNamed r) hofAccess hanswers
      (regular_bodyOf r) hencodable hup hid hrow hquestions rfl).of_requestNamed

/-- An answer to a question that is hidden, beside one that hides it. -/
def hiddenAnswer : Request := posting "/forms/form-1/submit"
  (.obj [("answers", .obj [("a", .int 2), ("b", .ofString "x")])])

theorem submission_follows_visibility_hidden :
    ∃ answers, Action.answersOf (Action.bodyOf hiddenAnswer) = some answers ∧ ∃ row questions,
      (course .standard .plain [.request wiredRequest]).state.store.form? "form-1" = some row ∧
      row.questions? = some questions ∧
      (∀ v : Request, Route.find v.method v.path = .endpoint .visibleQuestions ["form-1"] →
        Action.answersOf (Action.bodyOf v) = some answers →
        Lists "form-1" (Question.visible questions answers)
          ((handle .plain v).run (course .standard .plain [.request wiredRequest]).state).1) ∧
      Submits "form-1" questions answers (course .standard .plain [.request wiredRequest]).state
        ((handle .plain hiddenAnswer).run (course .standard .plain [.request wiredRequest]).state).2
        ((handle .plain hiddenAnswer).run (course .standard .plain [.request wiredRequest]).state).1 := by
  have hencodable : (Action.answersOf (Action.bodyOf hiddenAnswer)).any
      (fun answers => (Value.obj answers).allText Text.encodable) = true := by decide +kernel
  obtain ⟨answers, hanswers, htext⟩ := (Option.any_eq_true _ _).1 hencodable
  exact ⟨answers, hanswers, submission_follows_visibility .standard .plain [.request wiredRequest]
    (by decide +kernel) (by decide +kernel) (by decide +kernel) (by decide +kernel) hanswers htext⟩

/-! ### Where this does not hold -/

/-- After a run the store is up, and a request with answers fails although the stored form shows a question
under these answers that demands one and has none. The key of the question has a property. -/
def failsDemanding (c : Config) (turns : List Turn) (r : Request) (p : Text → Bool) : Bool :=
  let s := (course .standard c turns).state
  !s.isDown && decide (((handle c r).run s).1.status = 500) &&
    (Action.answersOf (Action.bodyOf r)).any fun answers => (Value.obj answers).allText Text.encodable &&
      (s.store.form? "form-1").any fun row => row.questions?.any fun questions =>
        (Question.visible questions answers).any fun q => p q.key && isMissing answers q

theorem of_failsDemanding {c : Config} {turns : List Turn} {r : Request} {p : Text → Bool}
    (h : failsDemanding c turns r p = true) :
    (course .standard c turns).state.isDown = false ∧
      ((handle c r).run (course .standard c turns).state).1.status = 500 ∧
      ∃ answers row questions, Action.answersOf (Action.bodyOf r) = some answers ∧
        (Value.obj answers).Encodable ∧ (course .standard c turns).state.store.form? "form-1" = some row ∧
        row.questions? = some questions ∧
        ∃ q ∈ Question.visible questions answers, p q.key = true ∧ isMissing answers q = true := by
  obtain ⟨h, hdemands⟩ := Bool.and_eq_true_iff.1 h
  obtain ⟨hup, hfailed⟩ := Bool.and_eq_true_iff.1 h
  obtain ⟨answers, hanswers, h⟩ := (Option.any_eq_true _ _).1 hdemands
  obtain ⟨htext, h⟩ := Bool.and_eq_true_iff.1 h
  obtain ⟨row, hrow, h⟩ := (Option.any_eq_true _ _).1 h
  obtain ⟨questions, hquestions, h⟩ := (Option.any_eq_true _ _).1 h
  obtain ⟨q, hq, h⟩ := List.any_eq_true.1 h
  exact ⟨by simpa using hup, of_decide_eq_true hfailed, answers, row, questions, hanswers, htext, hrow,
    hquestions, q, hq, Bool.and_eq_true_iff.1 h⟩

/-- A service whose token no header can carry. -/
def Config.unaddressed : Config :=
  ⟨⟨Access.publicUrl, some (.ofString "é"), Binary64.ofInt 10⟩, []⟩

/-- A run that creates a form of one question that demands an answer. -/
def demandingRun : List Turn :=
  [.request (posting "/forms" (formBody [item "a" "A" [("required", .bool true)]]))]

/-- A submission without answers. -/
def noAnswer : Request := posting "/forms/form-1/submit" (.obj [("answers", .obj [])])

/-- Where the remote service cannot be addressed, a submission fails before its answers are judged. -/
theorem submission_unaddressed :
    ¬ ∀ (env : Environment) (c : Config) (turns : List Turn) (id : Text) (r : Request) (answers : Members)
      (row : FormRow) (questions : List Question), (course env c turns).state.isDown = false →
      (course env c turns).state.store.form? id = some row → row.questions? = some questions →
      Route.find r.method r.path = .endpoint .submit [id] →
      Action.answersOf (Action.bodyOf r) = some answers → (Value.obj answers).Encodable →
      (∃ q ∈ Question.visible questions answers, q.key.encodable = true ∧ isMissing answers q = true) →
      ∃ key, Misses ((handle c r).run (course env c turns).state).1 key := by
  intro hclaim
  have hfails : failsDemanding .unaddressed demandingRun noAnswer Text.encodable = true := by
    decide +kernel
  obtain ⟨hup, hfailed, answers, row, questions, hanswers, htext, hrow, hquestions, hmissing⟩ :=
    of_failsDemanding hfails
  obtain ⟨key, hstatus, -⟩ := hclaim .standard .unaddressed demandingRun "form-1" noAnswer answers row
    questions hup hrow hquestions (by decide +kernel) hanswers htext hmissing
  rw [hfailed] at hstatus
  cases hstatus

/-- A run that creates a form of one question that demands an answer. Its key is half of a code point,
written as an escape. -/
def halvedKeyRun : List Turn := [.request ⟨"POST", "localhost", "/forms", [], [], Utf8.encode
  (Json.write .spaced (formBody [item [0xD800] "A" [("required", .bool true)]]))⟩]

/-- A request for the questions that are shown to somebody who has answered nothing. -/
def noAnswerYet : Request := posting "/forms/form-1/visible-questions" (.obj [("answers", .obj [])])

/-- The key of a question can keep the questions shown from being listed. -/
theorem submission_unlisted :
    ¬ ∀ (env : Environment) (c : Config) (turns : List Turn) (id : Text) (v : Request) (answers : Members)
      (row : FormRow) (questions : List Question), (Remote.Client.ofAccess c.access).isOk = true →
      (course env c turns).state.isDown = false →
      (course env c turns).state.store.form? id = some row → row.questions? = some questions →
      Route.find v.method v.path = .endpoint .visibleQuestions [id] →
      Action.answersOf (Action.bodyOf v) = some answers → (Value.obj answers).Encodable →
      ((handle c v).run (course env c turns).state).1.status = 200 := by
  intro hclaim
  have hfails : failsDemanding .plain halvedKeyRun noAnswerYet (fun _ => true) = true := by decide +kernel
  obtain ⟨hup, hfailed, answers, row, questions, hanswers, htext, hrow, hquestions, -⟩ :=
    of_failsDemanding hfails
  have hlisted := hclaim .standard .plain halvedKeyRun "form-1" noAnswerYet answers row questions
    (by decide +kernel) hup hrow hquestions (by decide +kernel) hanswers htext
  rw [hfailed] at hlisted
  cases hlisted

/-- It can also keep a submission from being refused for this question. -/
theorem submission_untold :
    ¬ ∀ (env : Environment) (c : Config) (turns : List Turn) (id : Text) (r : Request) (answers : Members)
      (row : FormRow) (questions : List Question), (Remote.Client.ofAccess c.access).isOk = true →
      (course env c turns).state.isDown = false →
      (course env c turns).state.store.form? id = some row → row.questions? = some questions →
      Route.find r.method r.path = .endpoint .submit [id] →
      Action.answersOf (Action.bodyOf r) = some answers → (Value.obj answers).Encodable →
      (∃ q ∈ Question.visible questions answers, isMissing answers q = true) →
      ∃ key, Misses ((handle c r).run (course env c turns).state).1 key := by
  intro hclaim
  have hfails : failsDemanding .plain halvedKeyRun noAnswer (fun _ => true) = true := by decide +kernel
  obtain ⟨hup, hfailed, answers, row, questions, hanswers, htext, hrow, hquestions, q, hq, -, hmissing⟩ :=
    of_failsDemanding hfails
  obtain ⟨key, hstatus, -⟩ := hclaim .standard .plain halvedKeyRun "form-1" noAnswer answers row questions
    (by decide +kernel) hup hrow hquestions (by decide +kernel) hanswers htext ⟨q, hq, hmissing⟩
  rw [hfailed] at hstatus
  cases hstatus

end Service
end Intake
