import Intake.Proofs.Service.Responses
import Intake.Proofs.Store.Newest

/-!
# Reading what was stored

Four requests read what earlier requests stored. What is read can always be loaded, since it was checked
when it was written. But a reply must be one that every client can read, and nobody asks that of what is
written: a number that is none, or half of a code point, is accepted in a rule or in an answer and stored.
From then on every request that would show it breaks off.

        written    payloads and answers of any JSON value
        loaded     always
        told       unless it holds a number that is none or half of a code point
-/

namespace Intake

/-- Where the function gives something for every item, all of it is collected. -/
theorem mapM_eq_some_filterMap {α β : Type} {f : α → Option β} {xs : List α}
    (h : ∀ x ∈ xs, (f x).isSome = true) : xs.mapM f = some (xs.filterMap f) := by
  induction xs with
  | nil => rfl
  | cons x xs ih =>
    rw [List.forall_mem_cons] at h
    obtain ⟨y, hy⟩ := Option.isSome_iff_exists.1 h.1
    rw [List.mapM_cons, ih h.2, hy, List.filterMap_cons_some hy]
    rfl

/-- Every client can read the answers of the response as they come back from the store. -/
def Store.ResponseRow.Told (row : Store.ResponseRow) : Prop := (Store.content row.answers).published.Plain

instance (row : Store.ResponseRow) : Decidable row.Told := inferInstanceAs (Decidable (Value.Plain _))

/-- A response whose own texts can be encoded is told exactly when its answers are. -/
theorem ResponseView.plain_published_dump {view : ResponseView}
    (htexts : [view.id, view.formId, view.recordId].all Text.encodable = true) :
    (view.dump .wire).published.Plain ↔ (Value.obj view.answers).published.Plain := by
  have hdump : (view.dump .wire).published = .obj [("id", .str view.id), ("formId", .str view.formId),
      ("airtableRecordId", .str view.recordId), ("answers", (Value.obj view.answers).published),
      ("status", .str view.status.name), ("deletedInAirtable", .bool view.deletedRemotely),
      ("createdAt", (Value.ofMoment? view.createdAt).published),
      ("updatedAt", (Value.ofMoment? view.updatedAt).published)] := rfl
  have hkeys : (["id", "formId", "airtableRecordId", "answers", "status", "deletedInAirtable", "createdAt",
      "updatedAt"] : List Text).all Text.encodable = true := by decide
  have hstatus : view.status.name.encodable = true := by cases view.status <;> decide
  simp only [List.all_cons, List.all_nil, Bool.and_true, Bool.and_eq_true] at hkeys htexts
  rw [hdump, Value.published_ofMoment?, Value.published_ofMoment?]
  simp [hkeys, htexts, hstatus, Value.plain_ofMoment?]

/-- A line of the list of forms is told when its texts can be encoded. -/
theorem FormSummary.plain_published_dump {summary : FormSummary}
    (htexts : [summary.id, summary.title, summary.description].all Text.encodable = true) :
    (summary.dump .wire).published.Plain := by
  have hdump : (summary.dump .wire).published = .obj [("id", .str summary.id),
      ("title", .str summary.title), ("description", .str summary.description),
      ("isPublished", .bool summary.status.isPublished),
      ("responseCount", .int summary.status.responseCount),
      ("createdAt", (Value.ofMoment? summary.status.createdAt).published),
      ("updatedAt", (Value.ofMoment? summary.status.updatedAt).published)] := rfl
  have hkeys : (["id", "title", "description", "isPublished", "responseCount", "createdAt",
      "updatedAt"] : List Text).all Text.encodable = true := by decide
  simp only [List.all_cons, List.all_nil, Bool.and_true, Bool.and_eq_true] at hkeys htexts
  rw [hdump, Value.published_ofMoment?, Value.published_ofMoment?]
  simp [hkeys, htexts, Value.plain_ofMoment?]

/-- A question that can be told has a key that can be encoded. -/
theorem Question.Told.encodable_key {q : Question} (h : q.Told) : q.key.encodable = true := by
  have hmember := (Value.plain_obj.1 h) ("questionKey", .str q.key) (by exact List.mem_cons_self)
  exact Value.plain_str.1 hmember.2

namespace Service

open Store Http

/-! ### What the replies say -/

/-- The list of forms. -/
def formsBody (rows : List FormRow) : Value :=
  .obj [("success", .bool true), ("forms", .arr (rows.map fun row => row.summary.dump .wire))]

/-- A form in full. -/
def viewBody (view : FormView) : Value :=
  .obj [("success", .bool true), ("form", view.dump .wire)]

/-- The responses to a form. -/
def responsesBody (row : FormRow) (views : List ResponseView) : Value :=
  .obj [("success", .bool true),
    ("form", .obj [("title", .str row.title), ("responseCount", .int row.responseCount)]),
    ("responses", .arr (views.map fun view => view.dump .wire))]

theorem plain_formsBody {rows : List FormRow}
    (h : ∀ row ∈ rows, row.encodable = true ∧ row.id.encodable = true) :
    (formsBody rows).published.Plain := by
  have hbody : (formsBody rows).published = .obj [("success", .bool true),
      ("forms", .arr (Value.publishedItems (rows.map fun row => row.summary.dump .wire)))] := rfl
  have hkeys : (["success", "forms"] : List Text).all Text.encodable = true := by decide
  simp only [List.all_cons, List.all_nil, Bool.and_true, Bool.and_eq_true] at hkeys
  have hrows : ∀ row ∈ rows, (row.summary.dump .wire).published.Plain := by
    intro row hrow
    obtain ⟨htexts, hid⟩ := h row hrow
    simp only [FormRow.encodable, List.all_cons, List.all_nil, Bool.and_true, Bool.and_eq_true] at htexts
    exact FormSummary.plain_published_dump (by simp [FormRow.summary, htexts, hid])
  rw [hbody, Value.publishedItems_eq_map]
  simpa [hkeys] using hrows

theorem plain_viewBody (view : FormView) :
    (viewBody view).published.Plain ↔ (view.dump .wire).published.Plain := by
  have hbody : (viewBody view).published = .obj [("success", .bool true),
      ("form", (view.dump .wire).published)] := rfl
  have hkeys : (["success", "form"] : List Text).all Text.encodable = true := by decide
  simp only [List.all_cons, List.all_nil, Bool.and_true, Bool.and_eq_true] at hkeys
  rw [hbody]
  simp [hkeys]

theorem plain_shownBody {id : Text} (hid : id.encodable = true) (shown : List Question) :
    (shownBody id shown).published.Plain ↔ ∀ q ∈ shown, q.Told := by
  have hbody : (shownBody id shown).published = .obj [("formId", .str id),
      ("questions", .arr (Value.publishedItems (shown.map (·.dump .wire)))),
      ("questionKeys", .arr (Value.publishedItems (shown.map fun q => .str q.key)))] := rfl
  have hkeys : (["formId", "questions", "questionKeys"] : List Text).all Text.encodable = true := by
    decide
  simp only [List.all_cons, List.all_nil, Bool.and_true, Bool.and_eq_true] at hkeys
  rw [hbody, Value.publishedItems_eq_map, Value.publishedItems_eq_map]
  simp only [Value.plain_obj, List.forall_mem_cons, hkeys, hid, Value.plain_str, Value.plain_arr,
    List.forall_mem_map, true_and]
  constructor
  · rintro ⟨htold, -⟩
    exact htold
  · intro htold
    refine ⟨htold, ?_, by simp⟩
    intro q hq
    exact Value.plain_str.2 (htold q hq).encodable_key

theorem plain_responsesBody {row : FormRow} (htitle : row.title.encodable = true)
    (views : List ResponseView) : (responsesBody row views).published.Plain ↔
      ∀ view ∈ views, (view.dump .wire).published.Plain := by
  have hbody : (responsesBody row views).published = .obj [("success", .bool true),
      ("form", .obj [("title", .str row.title), ("responseCount", .int row.responseCount)]),
      ("responses", .arr (Value.publishedItems (views.map fun view => view.dump .wire)))] := rfl
  have hkeys : (["success", "form", "title", "responseCount", "responses"] : List Text).all
      Text.encodable = true := by decide
  simp only [List.all_cons, List.all_nil, Bool.and_true, Bool.and_eq_true] at hkeys
  rw [hbody, Value.publishedItems_eq_map]
  simp [hkeys, htitle]

/-- A reply of 200 leaves the service exactly when every client can read it. -/
theorem finish_ok_status (c : Config) (r : Request) (requestId : Text) (body : Value) (s : State) :
    (finish c r requestId (Action.exec (Action.ok 200 body) s).1).status =
      if body.published.Plain then 200 else 500 := by
  rw [finish_status, Action.exec_ok]
  by_cases hplain : body.published.Plain
  · obtain ⟨reply, hreply, hstatus, -⟩ :=
      Reply.json_of_renderable 200 jsonType (Value.renderable_of_plain hplain)
    rw [hreply, if_pos hplain]
    exact hstatus
  · rw [if_neg hplain]
    cases hrenderable : body.published.renderable with
    | ok v => exact absurd (Value.isOk_renderable.1 (by rw [hrenderable]; rfl)) hplain
    | error e =>
      have hreply : Reply.json 200 jsonType body.published [] = .error e := by
        rw [Reply.json, hrenderable]
      rw [hreply]
      rfl

/-! ### Loading -/

namespace Action

variable {s : State} {id : Text} {row : FormRow}

theorem exec_listForms (hs : s.isDown = false) :
    exec listForms s = exec (ok 200 (formsBody s.store.newestForms)) s := by
  rw [listForms, exec_bind, forms, exec_bind, exec_reach, hs]
  rfl

theorem exec_getForm_of_form {view : FormView} (hs : s.isDown = false) (hid : id.encodable = true)
    (hrow : s.store.form? id = some row) (hview : row.view? = some view) :
    exec (getForm id) s = exec (ok 200 (viewBody view)) s := by
  rw [getForm, exec_withForm]
  simp only [hs, hid, hrow, Bool.false_eq_true, if_false, if_true, exec_bind, hview,
    exec_ofReadable_some]
  rfl

theorem exec_listResponses_of_form {views : List ResponseView} (hs : s.isDown = false)
    (hid : id.encodable = true) (hrow : s.store.form? id = some row)
    (hviews : (s.store.responsesTo id).mapM (·.view?) = some views) :
    exec (listResponses id) s = exec (ok 200 (responsesBody row views)) s := by
  rw [listResponses, exec_withForm]
  simp only [hs, hid, hrow, Bool.false_eq_true, if_false, if_true, exec_bind, responsesTo,
    exec_key_of_up hs hid, exec_reach, exec_pure, hviews, exec_ofReadable_some]
  rfl

end Action

/-! ### The requests that read -/

/-- How the requests that read are answered: the list of forms always, a form when its questions can be
told, the questions shown when they can be, and the responses to a form when they can be. -/
structure Reads (c : Config) (s : State) (id : Text) (questions : List Question) : Prop where
  forms : ∀ (r : Request) (args : List Text), Route.find r.method r.path = .endpoint .listForms args →
    ((handle c r).run s).1.status = 200
  form : ∀ r : Request, Route.find r.method r.path = .endpoint .getForm [id] →
    ((handle c r).run s).1.status = if ∀ q ∈ questions, q.Told then 200 else 500
  visible : ∀ (r : Request) (answers : Members),
    Route.find r.method r.path = .endpoint .visibleQuestions [id] →
    Action.answersOf (Action.bodyOf r) = some answers → ((handle c r).run s).1.status =
      if ∀ q ∈ Question.visible questions answers, q.Told then 200 else 500
  responses : ∀ r : Request, Route.find r.method r.path = .endpoint .listResponses [id] →
    ((handle c r).run s).1.status =
      if ∀ row ∈ s.store.responsesTo id, row.Told then 200 else 500

/-- Every request that reads a form or its responses is answered by 200. -/
structure Readable (c : Config) (s : State) (id : Text) : Prop where
  forms : ∀ (r : Request) (args : List Text), Route.find r.method r.path = .endpoint .listForms args →
    ((handle c r).run s).1.status = 200
  form : ∀ r : Request, Route.find r.method r.path = .endpoint .getForm [id] →
    ((handle c r).run s).1.status = 200
  visible : ∀ (r : Request) (answers : Members),
    Route.find r.method r.path = .endpoint .visibleQuestions [id] →
    Action.answersOf (Action.bodyOf r) = some answers → ((handle c r).run s).1.status = 200
  responses : ∀ r : Request, Route.find r.method r.path = .endpoint .listResponses [id] →
    ((handle c r).run s).1.status = 200

/-- What can be told can be read. -/
theorem Reads.readable {c : Config} {s : State} {id : Text} {questions : List Question}
    (h : Reads c s id questions) (hquestions : ∀ q ∈ questions, q.Told)
    (hresponses : ∀ row ∈ s.store.responsesTo id, row.Told) : Readable c s id where
  forms := h.forms
  form r hroute := by
    rw [h.form r hroute, if_pos hquestions]
  visible r answers hroute hanswers := by
    have hshown : ∀ q ∈ Question.visible questions answers, q.Told := by
      intro q hq
      exact hquestions q (List.mem_filter.1 hq).1
    rw [h.visible r answers hroute hanswers, if_pos hshown]
  responses r hroute := by
    rw [h.responses r hroute, if_pos hresponses]

section Run

variable {env : Environment} {c : Config} {turns : List Turn}

/-- Every stored response can be loaded, and can be told when its answers can be. -/
theorem loaded_response {row : ResponseRow} (hrow : row ∈ (course env c turns).state.store.responses) :
    ∃ view, row.view? = some view ∧ ((view.dump .wire).published.Plain ↔ row.Told) := by
  obtain ⟨r, answers, questions, accepted, -, hanswers, hcounted, hkeeps⟩ :=
    stored_response env c turns row hrow
  obtain ⟨view, hview, hid, hformId, hrecordId, hcontent⟩ :=
    hkeeps.view?_eq (hcounted.regular (regular_of_answersOf hanswers))
  refine ⟨view, hview, ?_⟩
  rw [ResponseView.plain_published_dump, hcontent]
  · rfl
  · rw [hid, hformId, hrecordId]
    exact hkeeps.texts

/-- The responses to a form are loaded together, and can be told when their answers can be. -/
theorem loaded_responses (env : Environment) (c : Config) (turns : List Turn) (id : Text) :
    ∃ views, ((course env c turns).state.store.responsesTo id).mapM (·.view?) = some views ∧
      ((∀ view ∈ views, (view.dump .wire).published.Plain) ↔
        ∀ row ∈ (course env c turns).state.store.responsesTo id, row.Told) := by
  have hload : ∀ row ∈ (course env c turns).state.store.responsesTo id,
      ∃ view, row.view? = some view ∧ ((view.dump .wire).published.Plain ↔ row.Told) := by
    intro row hrow
    rw [responsesTo, mem_newestFirst] at hrow
    exact loaded_response (List.mem_filter.1 hrow).1
  refine ⟨_, mapM_eq_some_filterMap ?_, ?_, ?_⟩
  · intro row hrow
    obtain ⟨view, hview, -⟩ := hload row hrow
    rw [hview]
    rfl
  · intro hplain row hrow
    obtain ⟨view, hview, htold⟩ := hload row hrow
    exact htold.1 (hplain view (List.mem_filterMap.2 ⟨row, hrow, hview⟩))
  · intro htold view hview
    obtain ⟨row, hrow, hloaded⟩ := List.mem_filterMap.1 hview
    obtain ⟨loaded, hload, hiff⟩ := hload row hrow
    obtain rfl : loaded = view := Option.some.inj (hload.symm.trans hloaded)
    exact hiff.2 (htold row hrow)

/-- The list of forms can be told in every run. -/
theorem plain_newestForms (env : Environment) (c : Config) (turns : List Turn) :
    (formsBody (course env c turns).state.store.newestForms).published.Plain := by
  refine plain_formsBody ?_
  intro row hrow
  rw [newestForms, mem_newestFirst] at hrow
  obtain ⟨n, -, hname⟩ := (Accounted.course env c turns).formIds row hrow
  exact ⟨encodable_forms env c turns row hrow, hname ▸ Names.encodable _ n⟩

/-- A stored form is found with its questions and can be shown in full when these can be told. -/
theorem shown_form {id : Text} (h : ((course env c turns).state.store.form? id).isSome = true) :
    ∃ row view, (course env c turns).state.store.form? id = some row ∧ id.encodable = true ∧
      row.title.encodable = true ∧ row.questions? = some view.form.questions ∧ row.view? = some view ∧
      ((view.dump .wire).published.Plain ↔ ∀ q ∈ view.form.questions, q.Told) := by
  obtain ⟨row, hrow⟩ := Option.isSome_iff_exists.1 h
  have hmem := List.mem_of_find?_eq_some hrow
  obtain rfl : row.id = id := by simpa using List.find?_some hrow
  obtain ⟨r, form, -, passed, hkeeps⟩ := stored_form env c turns hmem
  obtain ⟨items, hmade⟩ := NewForm.madeOf_of_verdict passed
  obtain ⟨n, -, hname⟩ := (Accounted.course env c turns).formIds row hmem
  have hid : row.id.encodable = true := hname ▸ Names.encodable _ n
  have htexts := encodable_forms env c turns row hmem
  simp only [FormRow.encodable, List.all_cons, List.all_nil, Bool.and_true, Bool.and_eq_true] at htexts
  have hview := FormRow.view?_eq hkeeps.questions (hereditary_regular.rulesValues (regular_bodyOf r) hmade)
  refine ⟨row, _, hrow, hid, htexts.1, hkeeps.questions?_eq (regular_bodyOf r) hmade, hview, ?_⟩
  exact FormView.plain_published_dump (by simp [htexts, hid])

/-- In every run in which the store is up, the requests that read a stored form are answered as these
conditions say. -/
theorem reads_form {id : Text} (hup : (course env c turns).state.isDown = false)
    (hform : ((course env c turns).state.store.form? id).isSome = true) :
    ∃ row questions, (course env c turns).state.store.form? id = some row ∧
      row.questions? = some questions ∧ Reads c (course env c turns).state id questions := by
  obtain ⟨row, view, hrow, hid, htitle, hquestions, hview, htold⟩ := shown_form hform
  refine ⟨row, view.form.questions, hrow, hquestions, ?_, ?_, ?_, ?_⟩
  · intro r args hroute
    obtain ⟨requestId, hhandle⟩ := handle_of_route (c := c) hroute (course env c turns).state
    rw [hhandle, Action.serve, Action.exec_listForms (s := (course env c turns).state.requestNamed r) hup,
      finish_ok_status]
    exact if_pos (plain_newestForms env c turns)
  · intro r hroute
    obtain ⟨requestId, hhandle⟩ := handle_of_route (c := c) hroute (course env c turns).state
    rw [hhandle, Action.serve, Action.exec_getForm_of_form
      (s := (course env c turns).state.requestNamed r) hup hid hrow hview, finish_ok_status]
    exact if_congr ((plain_viewBody view).trans htold) rfl rfl
  · intro r answers hroute hanswers
    obtain ⟨requestId, hhandle⟩ := handle_of_route (c := c) hroute (course env c turns).state
    have hexec := Action.exec_postVisible_of_form (s := (course env c turns).state.requestNamed r) hanswers
      hup hid hrow hquestions
    rw [hhandle, Action.serve, hexec]
    refine (finish_ok_status c r requestId (shownBody id _) _).trans ?_
    exact if_congr (plain_shownBody hid _) rfl rfl
  · intro r hroute
    obtain ⟨requestId, hhandle⟩ := handle_of_route (c := c) hroute (course env c turns).state
    obtain ⟨views, hviews, hresponses⟩ := loaded_responses env c turns id
    rw [hhandle, Action.serve, Action.exec_listResponses_of_form
      (s := (course env c turns).state.requestNamed r) hup hid hrow hviews, finish_ok_status]
    exact if_congr ((plain_responsesBody htitle views).trans hresponses) rfl rfl

/-! ### Plain requests -/

/-- The questions of a form can be told when the payload that it goes back to is plain. -/
theorem told_questions {id : Text} {row : FormRow} {questions : List Question}
    (hplain : ∀ r, Turn.request r ∈ turns → (Action.bodyOf r).Plain)
    (hrow : (course env c turns).state.store.form? id = some row)
    (hquestions : row.questions? = some questions) : ∀ q ∈ questions, q.Told := by
  obtain ⟨r, form, hr, passed, hkeeps⟩ := stored_form env c turns (List.mem_of_find?_eq_some hrow)
  obtain ⟨items, hmade⟩ := NewForm.madeOf_of_verdict passed
  rw [hkeeps.questions?_eq (regular_bodyOf r) hmade] at hquestions
  obtain rfl := Option.some.inj hquestions
  exact hmade.told (regular_bodyOf r) (hplain r hr)

/-- The answers of a response can be told when the answers that it goes back to are plain. -/
theorem told_response (hplain : ∀ r, Turn.request r ∈ turns → (Action.bodyOf r).Plain)
    {row : ResponseRow} (hrow : row ∈ (course env c turns).state.store.responses) : row.Told := by
  obtain ⟨r, answers, questions, accepted, hr, hanswers, hcounted, hkeeps⟩ :=
    stored_response env c turns row hrow
  obtain ⟨ms, hbody, hget⟩ := Action.of_answersOf hanswers
  have hanswersPlain : (Value.obj answers).Plain :=
    hereditary_plain.member (hbody ▸ hplain r hr) hget
  have hcontent := hcounted.content_document (regular_of_answersOf hanswers) hanswersPlain.encodable
  rw [ResponseRow.Told, hkeeps.answers, hcontent]
  exact Value.plain_published _
    (hcounted.inherit hereditary_plain hanswersPlain hanswersPlain.encodable)

/-- In every run in which the store is up, the requests that read a stored form are answered by 200 exactly
when what they show can be told, and by 500 else. So nothing that is stored stands in the way of a reader
as long as it can be told, and if every request of the run had a plain body all of it can be. -/
theorem stored_stays_readable (env : Environment) (c : Config) (turns : List Turn) {id : Text}
    (hup : (course env c turns).state.isDown = false)
    (hform : ((course env c turns).state.store.form? id).isSome = true) :
    ∃ row questions, (course env c turns).state.store.form? id = some row ∧
      row.questions? = some questions ∧ Reads c (course env c turns).state id questions ∧
      ((∀ q ∈ questions, q.Told) → (∀ row ∈ (course env c turns).state.store.responsesTo id, row.Told) →
        Readable c (course env c turns).state id) ∧
      ((∀ r, Turn.request r ∈ turns → (Action.bodyOf r).Plain) →
        Readable c (course env c turns).state id) := by
  obtain ⟨row, questions, hrow, hquestions, hreads⟩ := reads_form (c := c) hup hform
  refine ⟨row, questions, hrow, hquestions, hreads, hreads.readable, ?_⟩
  intro hplain
  refine hreads.readable (told_questions hplain hrow hquestions) ?_
  intro response hresponse
  rw [responsesTo, mem_newestFirst] at hresponse
  exact told_response hplain (List.mem_filter.1 hresponse).1

end Run

/-! ### Half of a code point -/

/-- A question for attachments, whose answers are stored and not sent on. -/
def attachment : Value :=
  .obj [("questionKey", .ofString "a"), ("airtableFieldId", .ofString "a"), ("label", .ofString "A"),
    ("type", .str QuestionKind.multipleAttachments.name)]

/-- A submission of half of a code point, written as an escape. -/
def halvedAnswer : Request := ⟨"POST", "localhost", "/forms/form-1/submit", [], [],
  Utf8.encode (Json.write .spaced (.obj [("answers", .obj [("a", .str [0xD800])])]))⟩

/-- A run that creates a form of this question and answers it. -/
def halvedRun : List Turn :=
  [.request (posting "/forms" (formBody [attachment])), .request halvedAnswer]

/-- A request for the responses to the form. -/
def readingResponses : Request := ⟨"GET", "localhost", "/forms/form-1/responses", [], [], []⟩

theorem halvedRun_stores : (course .standard .plain halvedRun).state.isDown = false ∧
    ((course .standard .plain halvedRun).state.store.form? "form-1").isSome = true := by decide +kernel

/-- The form can still be shown, but its response cannot. -/
theorem stored_stays_readable_halved :
    (course .standard .plain halvedRun).state.isDown = false ∧
    ((course .standard .plain halvedRun).state.store.form? "form-1").isSome = true ∧
    (∃ row ∈ (course .standard .plain halvedRun).state.store.responsesTo "form-1", ¬ row.Told) ∧
    ∃ row questions, (course .standard .plain halvedRun).state.store.form? "form-1" = some row ∧
      row.questions? = some questions ∧
      Reads .plain (course .standard .plain halvedRun).state "form-1" questions ∧
      ((∀ q ∈ questions, q.Told) →
        (∀ row ∈ (course .standard .plain halvedRun).state.store.responsesTo "form-1", row.Told) →
        Readable .plain (course .standard .plain halvedRun).state "form-1") ∧
      ((∀ r, Turn.request r ∈ halvedRun → (Action.bodyOf r).Plain) →
        Readable .plain (course .standard .plain halvedRun).state "form-1") := by
  obtain ⟨hup, hform⟩ := halvedRun_stores
  exact ⟨hup, hform, by decide +kernel, stored_stays_readable .standard .plain halvedRun hup hform⟩

/-- An answer that was accepted can keep the responses to its form from being read. -/
theorem stored_not_readable :
    ¬ ∀ (env : Environment) (c : Config) (turns : List Turn) (id : Text),
      (course env c turns).state.isDown = false →
      ((course env c turns).state.store.form? id).isSome = true →
      Readable c (course env c turns).state id := by
  intro hclaim
  obtain ⟨hup, hform⟩ := halvedRun_stores
  have hreadable := hclaim .standard .plain halvedRun "form-1" hup hform
  have hstatus := hreadable.responses readingResponses (by decide +kernel)
  have hfailed : ((handle .plain readingResponses).run
      (course .standard .plain halvedRun).state).1.status = 500 := by decide +kernel
  rw [hfailed] at hstatus
  cases hstatus

end Service
end Intake
