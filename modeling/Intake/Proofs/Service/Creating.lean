import Intake.Proofs.Form.Shown
import Intake.Proofs.Service.Replies

/-!
# Creating a form

A form is stored and its event is published before the reply is made. So the reply can still break off:
the form is there then, although the author is told that something failed. This happens exactly when a
question of the form, as it comes back from the store, holds what no client can read. In every other
case the status tells whether there is a new form.

        payload ──▶ three gates ──▶ form and event ──▶ reply 201
                        │                  │
                        ▼                  ▼
                  reply 400          a question that cannot be told: 500, and the form is there
-/

namespace Intake

namespace Service

open Store Http

/-- The payload becomes a form: it passes, the store is up and can take the texts of the form. -/
structure Stores (s : State) (payload : Value) (form : NewForm) : Prop where
  passed : verdict payload = .ok (.ok form)
  up : s.isDown = false
  storable : storable form = true

/-- One form is added, and one event tells so. -/
structure Adds (s t : State) (form : NewForm) : Prop where
  store : t.store = s.store.addForm (s.rowOf form)
  events : t.events = s.events ++ [createdEvent (s.rowOf form) form]

/-- The store and the events are as they were. -/
structure Untouched (s t : State) : Prop where
  store : t.store = s.store
  events : t.events = s.events

/-- The status of the reply tells whether there is a new form: it is 201 and a form was added with its
event, or it is another one and nothing was touched. -/
def Atomic (s : State) (out : Reply × State) : Prop :=
  (out.1.status = 201 ∧ ∃ form, Adds s out.2 form) ∨ (out.1.status ≠ 201 ∧ Untouched s out.2)

/-- Whoever adds a form touches the store. -/
theorem Adds.not_untouched {s t : State} {form : NewForm} (h : Adds s t form) : ¬ Untouched s t := by
  intro huntouched
  have hforms : s.store.forms ++ [s.rowOf form] = s.store.forms :=
    congrArg Store.forms (h.store.symm.trans huntouched.store)
  simp at hforms

/-- The row of a form shows its questions as they come back. -/
theorem State.view?_rowOf (s : State) {form : NewForm} {items : List Value} {payload : Value}
    (hmade : form.MadeOf payload items) (hregular : payload.Regular) :
    (s.rowOf form).view? = some ⟨⟨form.title.trim, form.description, form.baseId, form.tableId,
      tableNameOf form, form.questions.map (·.settled)⟩, s.nextForm,
      (s.rowOf form).status⟩ :=
  FormRow.view?_eq rfl (hereditary_regular.rulesValues hregular hmade)

/-- The reply to a new form can be told exactly when the form can be. -/
theorem plain_createdBody (view : FormView) :
    (createdBody view).published.Plain ↔ (view.dump .wire).published.Plain := by
  have hbody : (createdBody view).published = .obj [("success", .bool true),
      ("message", .ofString "Form created successfully"), ("form", (view.dump .wire).published)] := rfl
  have htexts : (["success", "message", "form", "Form created successfully"] : List Text).all
      Text.encodable = true := by decide
  simp only [List.all_cons, List.all_nil, Bool.and_true, Bool.and_eq_true] at htexts
  rw [hbody]
  simp [Value.ofString, htexts]

namespace Action

variable {payload : Value} {form : NewForm} {s : State}

/-- A payload that becomes no form leaves the store and the events alone and is not answered by 201. -/
theorem exec_postForm_of_not_stores (h : ∀ form, ¬ Stores s payload form) :
    Untouched s (exec (postForm payload) s).2 ∧
      ∀ reply, (exec (postForm payload) s).1 = .ok reply → reply.status = 400 := by
  rw [postForm, exec_bind, exec_newForm]
  rcases hverdict : verdict payload with e | (problem | form)
  · exact ⟨⟨rfl, rfl⟩, by rintro _ ⟨⟩⟩
  · refine ⟨by simp only [exec_refuse]; exact ⟨rfl, rfl⟩, fun reply hreply => ?_⟩
    obtain ⟨-, hstatus, -⟩ := of_exec_refuse (statusOf_verdict hverdict) (Prod.ext hreply rfl)
    exact hstatus
  · simp only [exec_bind, exec_storeForm]
    by_cases hup : s.isDown = true
    · simp only [hup, if_true]
      exact ⟨⟨rfl, rfl⟩, by rintro _ ⟨⟩⟩
    · have hstorable : ¬ storable form = true := fun hstorable =>
        h form ⟨hverdict, by simpa using hup, hstorable⟩
      simp only [hup, hstorable, Bool.false_eq_true, if_false]
      exact ⟨⟨rfl, rfl⟩, by rintro _ ⟨⟩⟩

/-- A payload that becomes a form is answered by 201 if the form can be told, and else breaks off after
the form was added. -/
theorem exec_postForm_of_stores (h : Stores s payload form) (hregular : payload.Regular) :
    Adds s (exec (postForm payload) s).2 form ∧
      if form.Told then ∃ reply, (exec (postForm payload) s).1 = .ok reply ∧ reply.status = 201
      else ∃ e, (exec (postForm payload) s).1 = .error e := by
  obtain ⟨items, hmade⟩ := NewForm.madeOf_of_verdict h.passed
  have hview := s.view?_rowOf hmade hregular
  generalize hv : FormView.mk _ _ _ = view at hview
  have htold : (createdBody view).published.Plain ↔ form.Told := by
    have htexts := h.storable
    rw [storable] at htexts
    subst hv
    rw [plain_createdBody, FormView.plain_published_dump]
    · rfl
    · simpa [State.encodable_nextForm] using htexts
  have hexec : exec (postForm payload) s = exec (ok 201 (createdBody view))
      { s.formNamed with
        store := s.store.addForm (s.rowOf form)
        events := s.events ++ [createdEvent (s.rowOf form) form] } := by
    rw [postForm, exec_bind, exec_newForm, h.passed]
    simp only [exec_bind, exec_storeForm, h.up, h.storable, Bool.false_eq_true, if_false, if_true, hview,
      exec_ofReadable_some]
    rfl
  rw [hexec, exec_ok]
  refine ⟨⟨rfl, rfl⟩, ?_⟩
  split
  · rename_i hform
    obtain ⟨reply, hreply, hstatus, -⟩ :=
      Reply.json_of_renderable 201 jsonType (Value.renderable_of_plain (htold.2 hform))
    exact ⟨reply, by simp only [hreply]; rfl, hstatus⟩
  · rename_i hform
    cases hrenderable : (createdBody view).published.renderable with
    | ok v => exact absurd (htold.1 (Value.isOk_renderable.1 (by rw [hrenderable]; rfl))) hform
    | error e => exact ⟨.reply e, by simp only [Reply.json, hrenderable]; rfl⟩

end Action

end Service

/-- Every encoding can carry the texts of a stored form, its questions apart. -/
def Store.FormRow.encodable (row : Store.FormRow) : Bool :=
  [row.title, row.description, row.baseId, row.tableId, row.tableName].all Text.encodable

namespace Service

open Store Http

/-! ### Texts of stored forms -/

/-- Forms that are the same but for their counters have the same texts. -/
theorem encodable_of_origins {fs gs : List FormRow} (h : gs.map FormRow.origin = fs.map FormRow.origin)
    (hfs : ∀ row ∈ fs, row.encodable = true) : ∀ row ∈ gs, row.encodable = true := by
  intro row hrow
  have hmem := List.mem_map_of_mem (f := FormRow.origin) hrow
  rw [h] at hmem
  obtain ⟨old, hold, hsame⟩ := List.mem_map.1 hmem
  have hencodable : old.origin.encodable = row.origin.encodable := by rw [hsame]
  exact hencodable.symm.trans (hfs old hold)

namespace Action

/-- A submission leaves the forms as they were, but for their counters. -/
theorem origins_postSubmission (access : Access) (id : Text) (body : Value) (s : State) :
    (exec (postSubmission access id body) s).2.store.forms.map FormRow.origin =
      s.store.forms.map FormRow.origin := by
  -- the effect of a submission does not depend on the request; one without a body stores no form
  rcases (effect_postSubmission ⟨[], [], [], [], [], []⟩ access id body s).forms with h | ⟨form, hform, -⟩
  · exact h
  · cases hform

/-- What is stored of a new form can be encoded. -/
theorem encodable_postForm {payload : Value} {s : State} (hregular : payload.Regular)
    (hs : ∀ row ∈ s.store.forms, row.encodable = true) :
    ∀ row ∈ (exec (postForm payload) s).2.store.forms, row.encodable = true := by
  by_cases h : ∃ form, Stores s payload form
  · obtain ⟨form, hstores⟩ := h
    rw [(exec_postForm_of_stores hstores hregular).1.store]
    intro row hrow
    rcases List.mem_append.1 hrow with hold | hnew
    · exact hs row hold
    · rw [List.mem_singleton.1 hnew]
      exact hstores.storable
  · rw [(exec_postForm_of_not_stores (not_exists.1 h)).1.store]
    exact hs

theorem encodable_dispatch (c : Config) (r : Request) {s : State}
    (hs : ∀ row ∈ s.store.forms, row.encodable = true) :
    ∀ row ∈ (exec (dispatch c r) s).2.store.forms, row.encodable = true := by
  rcases dispatch_cases c r with h | ⟨id, h⟩ | h
  · rw [h]
    exact encodable_postForm (regular_bodyOf r) hs
  · rw [h]
    exact encodable_of_origins (origins_postSubmission _ _ _ s) hs
  · rw [(h compositional_keeps s).forms]
    exact hs

end Action

theorem encodable_act (c : Config) (t : Turn) {s : State}
    (hs : ∀ row ∈ s.store.forms, row.encodable = true) :
    ∀ row ∈ (t.act c s).store.forms, row.encodable = true := by
  cases t with
  | request r =>
    rw [Turn.act]
    cases h : Origin.preflight? c.origins r with
    | some reply => rw [handle_of_preflight h]; exact hs
    | none =>
      rw [handle_of_no_preflight h]
      exact Action.encodable_dispatch c r (s := s.requestNamed r) hs
  | fetch clear => cases clear <;> exact hs
  | _ => exact hs

/-- In every run the texts of the stored forms can be encoded. -/
theorem encodable_forms (env : Environment) (c : Config) (turns : List Turn) :
    ∀ row ∈ (course env c turns).state.store.forms, row.encodable = true := by
  induction turns using List.reverseRecOn with
  | nil => rintro _ ⟨⟩
  | append_singleton turns t ih =>
    rw [course_concat]
    exact encodable_act c t ih

/-! ### Requests for a new form -/

section Created

variable (c : Config) (s : State) {r : Request} {args : List Text}
variable (hroute : Route.find r.method r.path = .endpoint .createForm args)

include hroute

/-- A request whose body becomes a form adds it, and is answered by 201 or by 500. -/
theorem handle_of_stores {form : NewForm} (h : Stores s (Action.bodyOf r) form) :
    Adds s ((handle c r).run s).2 form ∧
      ((handle c r).run s).1.status = if form.Told then 201 else 500 := by
  obtain ⟨id, hhandle⟩ := handle_of_route (c := c) hroute s
  obtain ⟨hadds, hreply⟩ := Action.exec_postForm_of_stores (s := s.requestNamed r)
    ⟨h.passed, h.up, h.storable⟩ (regular_bodyOf r)
  rw [hhandle, finish_status, Action.serve]
  refine ⟨⟨hadds.store, hadds.events⟩, ?_⟩
  split at hreply
  · rename_i htold
    obtain ⟨reply, hreply, hstatus⟩ := hreply
    rw [hreply, if_pos htold]
    exact hstatus
  · rename_i htold
    obtain ⟨e, hreply⟩ := hreply
    rw [hreply, if_neg htold]

/-- A request whose body becomes no form touches nothing, and is not answered by 201. -/
theorem handle_of_not_stores (h : ∀ form, ¬ Stores s (Action.bodyOf r) form) :
    Untouched s ((handle c r).run s).2 ∧ ((handle c r).run s).1.status ≠ 201 := by
  obtain ⟨id, hhandle⟩ := handle_of_route (c := c) hroute s
  have hnamed : ∀ form, ¬ Stores (s.requestNamed r) (Action.bodyOf r) form := fun form hstores =>
    h form ⟨hstores.passed, hstores.up, hstores.storable⟩
  obtain ⟨huntouched, hreply⟩ := Action.exec_postForm_of_not_stores hnamed
  rw [hhandle, finish_status, Action.serve]
  refine ⟨⟨huntouched.store, huntouched.events⟩, ?_⟩
  split
  · rename_i reply houtcome
    rw [hreply reply houtcome]
    decide
  · decide

/-- In every state, a request for a new form is atomic exactly when the form that it stores, if any, can
be told. A form that cannot be told is there, with its event, although the reply is 500; a payload whose
numbers are finite and whose texts can be encoded never comes to that. -/
theorem creation_atomic_iff :
    (Atomic s ((handle c r).run s) ↔ ∀ form, Stores s (Action.bodyOf r) form → form.Told) ∧
    (∀ form, Stores s (Action.bodyOf r) form → Adds s ((handle c r).run s).2 form ∧
      ((handle c r).run s).1.status = if form.Told then 201 else 500) ∧
    ((Action.bodyOf r).Plain → Atomic s ((handle c r).run s)) := by
  have hiff : Atomic s ((handle c r).run s) ↔
      ∀ form, Stores s (Action.bodyOf r) form → form.Told := by
    constructor
    · rintro hatomic form hstores
      obtain ⟨hadds, hstatus⟩ := handle_of_stores c s hroute hstores
      by_contra htold
      rw [if_neg htold] at hstatus
      rcases hatomic with ⟨hcreated, -⟩ | ⟨-, huntouched⟩
      · rw [hstatus] at hcreated
        cases hcreated
      · exact hadds.not_untouched huntouched
    · intro htold
      by_cases hstores : ∃ form, Stores s (Action.bodyOf r) form
      · obtain ⟨form, hstores⟩ := hstores
        obtain ⟨hadds, hstatus⟩ := handle_of_stores c s hroute hstores
        rw [if_pos (htold form hstores)] at hstatus
        exact .inl ⟨hstatus, form, hadds⟩
      · obtain ⟨huntouched, hstatus⟩ := handle_of_not_stores c s hroute (not_exists.1 hstores)
        exact .inr ⟨hstatus, huntouched⟩
  refine ⟨hiff, fun form hstores => handle_of_stores c s hroute hstores, fun hplain => ?_⟩
  refine hiff.2 fun form hstores => ?_
  obtain ⟨items, hmade⟩ := NewForm.madeOf_of_verdict hstores.passed
  exact hmade.told (regular_bodyOf r) hplain

end Created

/-- A form whose second question is shown when the first is answered by a number that is none. -/
def unspeakableForm : Request := posting "/forms" (formBody [item "a" "A" [], item "b" "B"
  [("conditionalRules", .obj [("logic", .ofString "AND"), ("conditions", .arr
    [.obj [("questionKey", .ofString "a"), ("operator", .ofString "equals"), ("value", .real .nan)]])])]])

theorem creation_atomic_iff_unspeakable :
    Route.find unspeakableForm.method unspeakableForm.path = .endpoint .createForm [] ∧
    (Atomic (course .standard .plain []).state
        ((handle .plain unspeakableForm).run (course .standard .plain []).state) ↔
      ∀ form, Stores (course .standard .plain []).state (Action.bodyOf unspeakableForm) form → form.Told) ∧
    (∀ form, Stores (course .standard .plain []).state (Action.bodyOf unspeakableForm) form →
      Adds (course .standard .plain []).state
        ((handle .plain unspeakableForm).run (course .standard .plain []).state).2 form ∧
      ((handle .plain unspeakableForm).run (course .standard .plain []).state).1.status =
        if form.Told then 201 else 500) ∧
    ((Action.bodyOf unspeakableForm).Plain → Atomic (course .standard .plain []).state
      ((handle .plain unspeakableForm).run (course .standard .plain []).state)) := by
  have hroute : Route.find unspeakableForm.method unspeakableForm.path = .endpoint .createForm [] := by
    decide +kernel
  exact ⟨hroute, creation_atomic_iff .plain (course .standard .plain []).state hroute⟩

/-- A form can be stored although its author is told that something failed. -/
theorem creation_not_atomic :
    ¬ ∀ (env : Environment) (c : Config) (turns : List Turn) (r : Request) (args : List Text),
      Route.find r.method r.path = .endpoint .createForm args →
      Atomic (course env c turns).state ((handle c r).run (course env c turns).state) := by
  intro hclaim
  have hstatus : ((handle .plain unspeakableForm).run (course .standard .plain []).state).1.status = 500 := by
    decide +kernel
  have hforms :
      ((handle .plain unspeakableForm).run (course .standard .plain []).state).2.store.forms.length = 1 := by
    decide +kernel
  rcases hclaim .standard .plain [] unspeakableForm [] (by decide +kernel) with
    ⟨hcreated, -⟩ | ⟨-, huntouched⟩
  · rw [hstatus] at hcreated
    cases hcreated
  · rw [huntouched.store] at hforms
    cases hforms

end Service
end Intake
