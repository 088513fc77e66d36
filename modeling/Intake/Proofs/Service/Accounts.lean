import Intake.Proofs.Service.Turn

/-!
# Accounts

Three records are kept of the same facts: the counters of the forms, the stored responses and the log
of events. They are written one after the other, so a request that breaks off in between could leave
them at odds. The invariant says that the log, read in order, tells the stored responses in order; each
of the effects that a request can have keeps it, and so do all runs.
-/

namespace Intake

namespace Event

/-- The event is of a kind. -/
def isOf (kind : Text) (e : Event) : Bool := e.kind == kind

/-- The form that an event is about. -/
def form? (e : Event) : Option Text := (e.payload.member "formId").text?

/-- The response that an event is about. -/
def response? (e : Event) : Option Text := (e.payload.member "responseId").text?

/-- The event is of a kind and about a form. -/
def isAbout (kind form : Text) (e : Event) : Bool := e.isOf kind && e.form? == some form

/-- The event says that a response was stored. -/
def isAnswer (e : Event) : Bool := e.isOf responseSubmitted || e.isOf syncFailed

theorem isOf_mk (kind other : Text) (payload : Value) :
    isOf kind ⟨other, payload⟩ = (other == kind) := rfl

theorem isAnswer_mk (kind : Text) (payload : Value) :
    isAnswer ⟨kind, payload⟩ = (kind == responseSubmitted || kind == syncFailed) := rfl

theorem isAnswer_of_responseDeleted {e : Event} (h : e.kind = responseDeleted) :
    e.isAnswer = false := by
  rw [isAnswer, isOf, isOf, h]; decide

theorem isOf_of_responseDeleted {e : Event} (h : e.kind = responseDeleted) {kind : Text}
    (hkind : (responseDeleted == kind) = false) : e.isOf kind = false := by
  rw [isOf, h, hkind]

end Event

namespace Service

open Store Http

/-- The records of a store and of a log agree. -/
structure Balanced (store : Store) (log : List Event) : Prop where
  /-- Each form has one event of its creation. -/
  forms : log.countP (Event.isOf Event.formCreated) = store.forms.length
  /-- The counter of a form counts its responses that were sent on. -/
  counters : ∀ f ∈ store.forms,
    f.responseCount = log.countP (Event.isAbout Event.responseSubmitted f.id)
  /-- Each response to a form has one event, of one of two kinds. -/
  responses : ∀ f ∈ store.forms, store.responses.countP (fun r => r.formId == f.id) =
    log.countP (Event.isAbout Event.responseSubmitted f.id) +
      log.countP (Event.isAbout Event.syncFailed f.id)
  /-- The events name the stored responses one by one. -/
  named : (log.filter Event.isAnswer).map Event.response? = store.responses.map fun r => some r.id
  /-- No two responses have the same id. -/
  distinct : (store.responses.map (·.id)).Nodup
  /-- Every response belongs to a form. -/
  owned : ∀ r ∈ store.responses, ∃ f ∈ store.forms, r.formId = f.id

/-- What every state without fetched events satisfies. -/
structure Accounted (s : State) : Prop where
  created : s.events.countP (Event.isOf Event.formCreated) = s.store.forms.length
  counted : ∀ f ∈ s.store.forms,
    f.responseCount = s.events.countP (Event.isAbout Event.responseSubmitted f.id)
  answers : (s.events.filter Event.isAnswer).map (fun e => (e.response?, e.form?)) =
    s.store.responses.map fun r => (some r.id, some r.formId)
  formIds : ∀ f ∈ s.store.forms, ∃ n ≤ s.formsNamed, f.id = s.env.forms.name n
  responseIds : ∀ r ∈ s.store.responses, ∃ n ≤ s.responsesNamed, r.id = s.env.responses.name n
  distinct : (s.store.responses.map (·.id)).Nodup
  owned : ∀ r ∈ s.store.responses, ∃ f ∈ s.store.forms, r.formId = f.id

namespace Accounted

theorem initial (env : Environment) : Accounted (State.initial env) where
  created := rfl
  counted := by simp [State.initial, Store.empty]
  answers := rfl
  formIds := by simp [State.initial, Store.empty]
  responseIds := by simp [State.initial, Store.empty]
  distinct := List.nodup_nil
  owned := by simp [State.initial, Store.empty]

/-- No event about a submission names a form that is not stored. -/
theorem countP_isAbout_eq_zero {s : State} (h : Accounted s) {id : Text}
    (hid : ∀ f ∈ s.store.forms, f.id ≠ id) :
    s.events.countP (Event.isAbout Event.responseSubmitted id) = 0 := by
  rw [List.countP_eq_zero]
  intro e he habout
  simp only [Event.isAbout, Bool.and_eq_true, beq_iff_eq] at habout
  have hanswer : e ∈ s.events.filter Event.isAnswer :=
    List.mem_filter.2 ⟨he, by simp [Event.isAnswer, habout.1]⟩
  have hpair : (e.response?, e.form?) ∈ s.store.responses.map fun r => (some r.id, some r.formId) :=
    h.answers ▸ List.mem_map_of_mem hanswer
  obtain ⟨r, hr, heq⟩ := List.mem_map.1 hpair
  obtain ⟨f, hf, hform⟩ := h.owned r hr
  have hsome : some r.formId = some id := (Prod.ext_iff.1 heq).2.trans habout.2
  exact hid f hf (hform ▸ Option.some.inj hsome)

/-- The two kinds of events about a form together are its responses. -/
theorem countP_responses {s : State} (h : Accounted s) (id : Text) :
    s.store.responses.countP (fun r => r.formId == id) =
      s.events.countP (Event.isAbout Event.responseSubmitted id) +
        s.events.countP (Event.isAbout Event.syncFailed id) := by
  have hsplit (es : List Event) :
      (es.filter Event.isAnswer).countP (fun e => e.form? == some id) =
        es.countP (Event.isAbout Event.responseSubmitted id) +
          es.countP (Event.isAbout Event.syncFailed id) := by
    induction es with
    | nil => rfl
    | cons e es ih =>
      by_cases hs : e.kind = Event.responseSubmitted
      · have hf : e.isOf Event.syncFailed = false := by rw [Event.isOf, hs]; decide
        have hs : e.isOf Event.responseSubmitted = true := by simpa [Event.isOf] using hs
        rw [List.filter_cons_of_pos (by simp [Event.isAnswer, hs])]
        simp only [List.countP_cons, ih, Event.isAbout, hs, hf, Bool.true_and, Bool.false_and,
          Bool.false_eq_true, if_false]
        omega
      · have hs : e.isOf Event.responseSubmitted = false := by simpa [Event.isOf] using hs
        by_cases hf : e.isOf Event.syncFailed = true
        · rw [List.filter_cons_of_pos (by simp [Event.isAnswer, hf])]
          simp only [List.countP_cons, ih, Event.isAbout, hs, hf, Bool.true_and, Bool.false_and,
            Bool.false_eq_true, if_false]
          omega
        · rw [List.filter_cons_of_neg (by simp [Event.isAnswer, hs, hf])]
          simp [ih, Event.isAbout, hs, hf]
  have hmap : (s.events.filter Event.isAnswer).map Event.form? =
      s.store.responses.map fun r => some r.formId := by
    have := congrArg (List.map Prod.snd) h.answers
    simpa [List.map_map, Function.comp_def] using this
  have hcount := congrArg (List.countP fun t => t == some id) hmap
  rw [List.countP_map, List.countP_map] at hcount
  rw [← hsplit]
  simpa [Function.comp_def] using hcount.symm

theorem balanced {s : State} (h : Accounted s) : Balanced s.store s.events where
  forms := h.created
  counters := h.counted
  responses f _ := h.countP_responses f.id
  named := by
    have := congrArg (List.map Prod.fst) h.answers
    simpa [List.map_map, Function.comp_def] using this
  distinct := h.distinct
  owned := h.owned

/-! ### Each effect keeps the accounts -/

theorem of_steady {s t : State} (h : Accounted s) (st : Steady s t) : Accounted t := by
  obtain ⟨new, hnew, hgone⟩ := st.events
  have hcreated : new.countP (Event.isOf Event.formCreated) = 0 := by
    rw [List.countP_eq_zero]
    intro e he
    have hkind : e.isOf Event.formCreated = false :=
      Event.isOf_of_responseDeleted (hgone e he) (by decide)
    simp [hkind]
  have habout (id : Text) : new.countP (Event.isAbout Event.responseSubmitted id) = 0 := by
    rw [List.countP_eq_zero]
    intro e he
    have hkind : e.isOf Event.responseSubmitted = false :=
      Event.isOf_of_responseDeleted (hgone e he) (by decide)
    simp [Event.isAbout, hkind]
  have hanswers : new.filter Event.isAnswer = [] := by
    rw [List.filter_eq_nil_iff]
    intro e he
    simp [Event.isAnswer_of_responseDeleted (hgone e he)]
  have hids : t.store.responses.map (·.id) = s.store.responses.map (·.id) := by
    have := congrArg (List.map ResponseRow.id) st.responses
    simpa [List.map_map, Function.comp_def, ResponseRow.origin] using this
  have hpairs : t.store.responses.map (fun r => (some r.id, some r.formId)) =
      s.store.responses.map (fun r => (some r.id, some r.formId)) := by
    have := congrArg (List.map fun r : ResponseRow => (some r.id, some r.formId)) st.responses
    simpa [List.map_map, Function.comp_def, ResponseRow.origin] using this
  -- a response that is there now was there before, perhaps without its marks
  have hold {r : ResponseRow} (hr : r ∈ t.store.responses) :
      ∃ q ∈ s.store.responses, q.id = r.id ∧ q.formId = r.formId := by
    have hmem : (some r.id, some r.formId) ∈
        s.store.responses.map fun r => (some r.id, some r.formId) := hpairs ▸ List.mem_map_of_mem hr
    obtain ⟨q, hq, heq⟩ := List.mem_map.1 hmem
    simp only [Prod.mk.injEq, Option.some.injEq] at heq
    exact ⟨q, hq, heq.1, heq.2⟩
  refine ⟨?_, ?_, ?_, ?_, ?_, ?_, ?_⟩
  · rw [hnew, List.countP_append, hcreated, st.forms, h.created, Nat.add_zero]
  · intro f hf
    rw [hnew, List.countP_append, habout, Nat.add_zero]
    exact h.counted f (st.forms ▸ hf)
  · rw [hnew, List.filter_append, hanswers, List.append_nil, h.answers, hpairs]
  · intro f hf
    obtain ⟨n, hn, hid⟩ := h.formIds f (st.forms ▸ hf)
    exact ⟨n, hn.trans st.formsNamed, st.env ▸ hid⟩
  · intro r hr
    obtain ⟨q, hq, hid, -⟩ := hold hr
    obtain ⟨n, hn, hname⟩ := h.responseIds q hq
    exact ⟨n, hn.trans st.responsesNamed, st.env ▸ hid ▸ hname⟩
  · rw [hids]; exact h.distinct
  · intro r hr
    obtain ⟨q, hq, -, hform⟩ := hold hr
    rw [st.forms, ← hform]
    exact h.owned q hq

/-- No stored form has the id of the next form. -/
theorem id_ne_next {s : State} (h : Accounted s) {f : FormRow} (hf : f ∈ s.store.forms) :
    f.id ≠ s.nextForm := by
  obtain ⟨n, hn, hid⟩ := h.formIds f hf
  exact hid ▸ Names.name_ne_next _ hn

/-- No stored response has the id of the next response. -/
theorem response_ne_next {s : State} (h : Accounted s) {r : ResponseRow}
    (hr : r ∈ s.store.responses) : r.id ≠ s.nextResponse := by
  obtain ⟨n, hn, hid⟩ := h.responseIds r hr
  exact hid ▸ Names.name_ne_next _ hn

theorem of_created {s t : State} (h : Accounted s) {form : NewForm}
    (store : t.store = s.store.addForm (s.rowOf form))
    (events : t.events = s.events ++ [createdEvent (s.rowOf form) form])
    (formsNamed : t.formsNamed = s.formsNamed + 1)
    (responsesNamed : t.responsesNamed = s.responsesNamed) (env : t.env = s.env) : Accounted t := by
  have hforms : t.store.forms = s.store.forms ++ [s.rowOf form] := by rw [store]; rfl
  have hresponses : t.store.responses = s.store.responses := by rw [store]; rfl
  have hcreated : (createdEvent (s.rowOf form) form).isOf Event.formCreated = true := by
    rw [createdEvent, Event.isOf_mk]; decide
  have hsubmitted : (createdEvent (s.rowOf form) form).isOf Event.responseSubmitted = false := by
    rw [createdEvent, Event.isOf_mk]; decide
  have hanswer : (createdEvent (s.rowOf form) form).isAnswer = false := by
    rw [createdEvent, Event.isAnswer_mk]; decide
  refine ⟨?_, ?_, ?_, ?_, ?_, ?_, ?_⟩
  · simp [events, hforms, h.created, hcreated]
  · intro f hf
    rw [hforms, List.mem_append, List.mem_singleton] at hf
    have hnew (id : Text) : Event.isAbout Event.responseSubmitted id
        (createdEvent (s.rowOf form) form) = false := by simp [Event.isAbout, hsubmitted]
    rw [events, List.countP_append, List.countP_singleton, hnew]
    rcases hf with hf | rfl
    · exact h.counted f hf
    · exact (h.countP_isAbout_eq_zero fun f hf => h.id_ne_next hf).symm
  · simp [events, hresponses, h.answers, hanswer]
  · intro f hf
    rw [hforms, List.mem_append, List.mem_singleton] at hf
    rcases hf with hf | rfl
    · obtain ⟨n, hn, hid⟩ := h.formIds f hf
      exact ⟨n, by omega, env ▸ hid⟩
    · exact ⟨s.formsNamed + 1, by omega, by rw [env]; rfl⟩
  · rw [hresponses, responsesNamed, env]; exact h.responseIds
  · rw [hresponses]; exact h.distinct
  · intro r hr
    obtain ⟨f, hf, hid⟩ := h.owned r (hresponses ▸ hr)
    exact ⟨f, hforms ▸ List.mem_append_left _ hf, hid⟩

/-- A new response to a stored form, told by an event of one of the two kinds. The forms may change in
their counters. -/
theorem of_answered {s t : State} (h : Accounted s) {form : FormRow} (found : form ∈ s.store.forms)
    {row : ResponseRow} (id : row.id = s.nextResponse)
    (formId : row.formId = form.id) {e : Event}
    (isCreated : e.isOf Event.formCreated = false) (isAnswer : e.isAnswer = true)
    (response : e.response? = some row.id) (about : e.form? = some row.formId)
    (forms : t.store.forms.map (·.id) = s.store.forms.map (·.id))
    (counted : ∀ f ∈ t.store.forms, f.responseCount =
      (s.events ++ [e]).countP (Event.isAbout Event.responseSubmitted f.id))
    (responses : t.store.responses = s.store.responses ++ [row])
    (events : t.events = s.events ++ [e]) (formsNamed : t.formsNamed = s.formsNamed)
    (responsesNamed : t.responsesNamed = s.responsesNamed + 1) (env : t.env = s.env) : Accounted t := by
  have hkept {f : FormRow} (hf : f ∈ s.store.forms) : ∃ g ∈ t.store.forms, f.id = g.id := by
    have hmem : f.id ∈ t.store.forms.map (·.id) := forms ▸ List.mem_map_of_mem hf
    obtain ⟨g, hg, heq⟩ := List.mem_map.1 hmem
    exact ⟨g, hg, heq.symm⟩
  refine ⟨?_, ?_, ?_, ?_, ?_, ?_, ?_⟩
  · have hlength := congrArg List.length forms
    rw [List.length_map, List.length_map] at hlength
    rw [events, List.countP_append, h.created, hlength, List.countP_singleton, isCreated]
    rfl
  · rw [events]; exact counted
  · rw [events, responses, List.filter_append, List.map_append, h.answers,
      List.filter_cons_of_pos isAnswer]
    simp [response, about]
  · intro f hf
    have hmem : f.id ∈ s.store.forms.map (·.id) := forms ▸ List.mem_map_of_mem hf
    obtain ⟨g, hg, heq⟩ := List.mem_map.1 hmem
    obtain ⟨n, hn, hid⟩ := h.formIds g hg
    exact ⟨n, by omega, env ▸ heq ▸ hid⟩
  · intro r hr
    rw [responses, List.mem_append, List.mem_singleton] at hr
    rcases hr with hr | rfl
    · obtain ⟨n, hn, hid⟩ := h.responseIds r hr
      exact ⟨n, by omega, env ▸ hid⟩
    · exact ⟨s.responsesNamed + 1, by omega, env ▸ id⟩
  · rw [responses, List.map_append, List.nodup_append]
    refine ⟨h.distinct, by simp, ?_⟩
    rintro a ha b hb rfl
    obtain ⟨r, hr, rfl⟩ := List.mem_map.1 ha
    rw [List.map_singleton, List.mem_singleton] at hb
    exact h.response_ne_next hr (hb.trans id)
  · intro r hr
    rw [responses, List.mem_append, List.mem_singleton] at hr
    rcases hr with hr | rfl
    · obtain ⟨f, hf, hid⟩ := h.owned r hr
      obtain ⟨g, hg, heq⟩ := hkept hf
      exact ⟨g, hg, hid.trans heq⟩
    · obtain ⟨g, hg, heq⟩ := hkept found
      exact ⟨g, hg, formId.trans heq⟩

theorem of_synced {s t : State} (h : Accounted s) {form : FormRow} (found : form ∈ s.store.forms)
    {row : ResponseRow} (id : row.id = s.nextResponse)
    (formId : row.formId = form.id) {now : Nat}
    (store : t.store = (s.store.addResponse row).countResponse form.id now)
    (events : t.events = s.events ++ [syncedEvent row]) (formsNamed : t.formsNamed = s.formsNamed)
    (responsesNamed : t.responsesNamed = s.responsesNamed + 1) (env : t.env = s.env) : Accounted t := by
  have habout (id : Text) : Event.isAbout Event.responseSubmitted id (syncedEvent row) =
      decide (row.formId = id) := by
    rw [Bool.eq_iff_iff, decide_eq_true_eq]
    change (true && some row.formId == some id) = true ↔ _
    simp
  refine h.of_answered found id formId (e := syncedEvent row)
    (by rw [syncedEvent, Event.isOf_mk]; decide) (by rw [syncedEvent, Event.isAnswer_mk]; decide) rfl rfl
    ?_ ?_ (by rw [store]; rfl) events formsNamed responsesNamed env
  · rw [store]
    simp only [Store.countResponse, Store.addResponse, List.map_map]
    refine List.map_congr_left fun f _ => ?_
    simp only [Function.comp]
    split <;> rfl
  · intro f hf
    rw [store] at hf
    obtain ⟨g, hg, rfl⟩ := List.mem_map.1 hf
    have hcount := h.counted g hg
    by_cases hid : g.id = form.id
    · simp only [hid, if_true]
      rw [List.countP_append, List.countP_singleton, habout, formId, ← hid, ← hcount]
      simp
    · simp only [hid, if_false]
      rw [List.countP_append, List.countP_singleton, habout, formId, ← hcount]
      simp [Ne.symm hid]

theorem of_failed {s t : State} (h : Accounted s) {form : FormRow} (found : form ∈ s.store.forms)
    {row : ResponseRow} (id : row.id = s.nextResponse)
    (formId : row.formId = form.id) (store : t.store = s.store.addResponse row)
    (events : t.events = s.events ++ [failedEvent row]) (formsNamed : t.formsNamed = s.formsNamed)
    (responsesNamed : t.responsesNamed = s.responsesNamed + 1) (env : t.env = s.env) : Accounted t := by
  have habout (id : Text) : Event.isAbout Event.responseSubmitted id (failedEvent row) = false :=
    rfl
  refine h.of_answered found id formId (e := failedEvent row)
    (by rw [failedEvent, Event.isOf_mk]; decide) (by rw [failedEvent, Event.isAnswer_mk]; decide) rfl rfl
    (by rw [store]; rfl) ?_ (by rw [store]; rfl) events formsNamed responsesNamed env
  intro f hf
  rw [List.countP_append, List.countP_singleton, habout]
  rw [store] at hf
  exact h.counted f hf

/-- Every effect of a request keeps the accounts. -/
theorem of_effect {r : Request} {s t : State} (h : Accounted s) (e : Effect r s t) :
    Accounted t := by
  cases e with
  | steady st => exact h.of_steady st
  | created _ _ store events forms responses env => exact h.of_created store events forms responses env
  | synced _ found _ id formId _ store events forms responses env =>
    exact h.of_synced found id formId store events forms responses env
  | failed _ found _ id formId store events forms responses env =>
    exact h.of_failed found id formId store events forms responses env

/-- Every turn but fetching keeps the accounts. -/
theorem act {t : Turn} (ht : t.isNoFetch = true) (c : Config) {s : State} (h : Accounted s) :
    Accounted (t.act c s) := by
  cases t with
  | request r => exact h.of_effect (effect_handle c r s)
  | fetch clear => cases ht
  | _ => exact h.of_steady (.of_same rfl rfl rfl (Nat.le_refl _) (Nat.le_refl _))

/-- The accounts are kept in the course of every run. -/
theorem course (env : Environment) (c : Config) (turns : List Turn) :
    Accounted (course env c turns).unfetched := by
  induction turns using List.reverseRecOn with
  | nil => exact initial env
  | append_singleton turns t ih =>
    rw [course_append, List.foldl_cons, List.foldl_nil]
    cases ht : t.isNoFetch with
    | true => rw [Course.unfetched_next ht]; exact ih.act ht c
    | false =>
      cases t with
      | fetch clear => rw [Course.unfetched_next_fetch]; exact ih
      | _ => cases ht

end Accounted

/-- What fetching does: it gives all the events that are there, and if they are to be cleared, takes them
away and leaves none, so that doing it again changes nothing. Fetching without clearing changes nothing. -/
structure Course.Fetches (c : Config) (k : Course) : Prop where
  given : ∀ clear, (Action.exec (Action.fetchEvents clear) k.state).1 = .ok k.state.events
  cleared : k.next c (.fetch true) = ⟨{ k.state with events := [] }, k.log⟩
  again : (k.next c (.fetch true)).next c (.fetch true) = k.next c (.fetch true)
  kept : k.next c (.fetch false) = k

theorem fetches (c : Config) (k : Course) : k.Fetches c := by
  refine ⟨fun clear => rfl, rfl, ?_, ?_⟩
  · -- the second fetch takes nothing away
    exact congrArg (Course.mk { k.state with events := [] }) (List.append_nil k.log)
  · exact congrArg (Course.mk k.state) (List.append_nil k.taken)

/-- In every run the counters, the responses and the events agree, and the events are those of the
run in which nobody fetches any. Whoever fetches them with clearing is given all that are there, and
leaves none. -/
theorem accounts_balance (env : Environment) (c : Config) (turns : List Turn) :
    Balanced (course env c turns).state.store (course env c turns).log ∧
    (course env c turns).log = (course env c (turns.filter Turn.isNoFetch)).state.events ∧
    (course env c turns).state.store = (course env c (turns.filter Turn.isNoFetch)).state.store ∧
    (course env c turns).Fetches c := by
  have hquiet : (course env c (turns.filter Turn.isNoFetch)).taken = [] :=
    taken_course_of_no_fetch env c fun t ht => (List.mem_filter.1 ht).2
  have hsame := unfetched_course env c turns
  refine ⟨(Accounted.course env c turns).balanced, ?_, congrArg (fun k => k.store) hsame,
    fetches c (course env c turns)⟩
  rw [Course.log_eq, hsame]
  simp [Course.unfetched, State.after, hquiet]

end Service
end Intake
