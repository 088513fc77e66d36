import Intake.Proofs.Service.Keeping

/-!
# What a submission does

A submission has five ways out, and its status tells which one it took. Two of them go through the remote
service and keep a response: when a record was created the response is synced, its form is counted and
one event is published; when none was, the response has an error, no form is counted and another event
is published. Two refuse the submission before the remote service is asked, and leave everything as it
was. On the last one something broke off, and the status promises nothing.

        no answers, wrong answers ───────────────▶ 400    nothing
        no such form ────────────────────────────▶ 404    nothing
        accepted ──▶ one request ──▶ a record ───▶ 200    response, count, event
                                 └─▶ no record ──▶ 502    response, event
-/

namespace Intake

namespace Store

/-- The form after one more response to it. -/
def FormRow.counted (now : Nat) (form : FormRow) : FormRow :=
  { form with responseCount := form.responseCount + 1, updatedAt := now }

/-- Counting a response to a form changes this form and no other. -/
theorem countResponse_of_mem {s : Store} (hids : (s.forms.map (·.id)).Nodup) {form : FormRow}
    (hform : form ∈ s.forms) (now : Nat) :
    ∃ before after, s.forms = before ++ form :: after ∧
      (s.countResponse form.id now).forms = before ++ form.counted now :: after := by
  obtain ⟨before, after, hsplit⟩ := List.append_of_mem hform
  rw [hsplit, List.map_append, List.map_cons] at hids
  have hothers : ∀ f ∈ before ++ after, f.id ≠ form.id := by
    intro f hf hid
    rw [List.nodup_middle, List.nodup_cons, ← List.map_append] at hids
    exact hids.1 (hid ▸ List.mem_map_of_mem hf)
  -- a form of another id stays as it is
  have hkept (fs : List FormRow) (hfs : ∀ f ∈ fs, f.id ≠ form.id) : (fs.map fun f =>
      if f.id = form.id then FormRow.counted now f else f) = fs := by
    rw [List.map_congr_left fun f hf => if_neg (hfs f hf), List.map_id']
  refine ⟨before, after, hsplit, ?_⟩
  change s.forms.map (fun f => if f.id = form.id then FormRow.counted now f else f) = _
  rw [hsplit, List.map_append, List.map_cons, if_pos rfl,
    hkept before fun f hf => hothers f (List.mem_append_left _ hf),
    hkept after fun f hf => hothers f (List.mem_append_right _ hf)]

end Store

namespace Service

open Store Http

/-- Answers to a form that were accepted were sent on in one request, and one response was added that holds
them and what was answered. -/
structure Delivers (c : Config) (r : Request) (id : Text) (s t : State) (form : FormRow)
    (accepted : Members) (answer : Remote.Answer) (row : ResponseRow) : Prop where
  asked : ∃ client questions, Remote.Client.ofAccess c.access = .ok client ∧
    Accepts s id (Action.bodyOf r) form questions accepted ∧
    Asked client form (Submission.columns questions accepted) answer s.peer t.peer
  sent : ∃ request, t.peer.sent = s.peer.sent ++ [request] ∧ request.method = .post
  responses : t.store.responses = s.store.responses ++ [row]
  document : row.answers = document (.obj accepted)
  holds : Holds row id accepted answer s.millis

/-- The ways out of a submission, each with its status and with everything that it did. -/
inductive SubmissionEnds (c : Config) (r : Request) (id : Text) (s t : State) (reply : Reply) : Prop where
  /-- A record was created: its form is counted and every other form stays as it is. -/
  | synced (status : reply.status = 200) (form : FormRow) (accepted : Members) (answer : Remote.Answer)
      (row : ResponseRow) (now : Nat) (before after : List FormRow)
      (delivers : Delivers c r id s t form accepted answer row)
      (recordId : answer.recordId? = some row.recordId) (synced : row.status = SyncStatus.synced.name)
      (forms : s.store.forms = before ++ form :: after)
      (counted : t.store.forms = before ++ form.counted now :: after)
      (events : t.events = s.events ++ [syncedEvent row])
  /-- No record was created: every form stays as it is. -/
  | failed (status : reply.status = 502) (form : FormRow) (accepted : Members) (answer : Remote.Answer)
      (row : ResponseRow) (delivers : Delivers c r id s t form accepted answer row)
      (noRecord : answer.recordId? = none) (recordId : ("ERROR_" : Text) <+: row.recordId)
      (failed : row.status = SyncStatus.error.name) (forms : t.store.forms = s.store.forms)
      (events : t.events = s.events ++ [failedEvent row])
  /-- The submission was refused: nothing was sent and nothing changed. -/
  | refused (status : reply.status = 400 ∨ reply.status = 404) (peer : t.peer = s.peer)
      (store : t.store = s.store) (events : t.events = s.events)
  /-- Something broke off. -/
  | broken (status : reply.status = 500)

section Ends

variable {c : Config} {r : Request} {id : Text} {s t : State} {reply : Reply}

/-- Answers that are delivered end in a response, unless something breaks off. -/
theorem SubmissionEnds.of_deliver {client : Remote.Client} {form : FormRow} {questions : List Question}
    {accepted : Members} (hids : (s.store.forms.map (·.id)).Nodup)
    (hclient : Remote.Client.ofAccess c.access = .ok client)
    (haccepts : Accepts s id (Action.bodyOf r) form questions accepted)
    (h : Action.exec (Action.deliver client form questions accepted) s = (.ok reply, t)) :
    SubmissionEnds c r id s t reply := by
  have hmem : form ∈ s.store.forms := List.mem_of_find?_eq_some haccepts.found
  obtain rfl : form.id = id := by simpa using List.find?_some haccepts.found
  obtain ⟨answers, hanswers, haccept⟩ := haccepts.accepted
  have hregular : (Value.obj accepted).Regular :=
    (Submission.of_accept haccept).2.regular (regular_of_answersOf hanswers)
  have hends := Action.deliver_ends client questions accepted haccepts.up haccepts.encodable
  rw [h] at hends
  cases hends with
  | synced answer peer recordId hasked hkept _ hstatus =>
    have hnamed := recordId?_of_synced hkept
    obtain ⟨request, hsent, hmethod, -⟩ := hasked.sent
    have hholds := holds_of_keptAs? hkept hregular s form.id
    obtain ⟨before, after, hbefore, hafter⟩ := countResponse_of_mem hids hmem (s.env.time (s.clock + 2))
    refine .synced (hstatus reply rfl) form accepted answer _ (s.env.time (s.clock + 2)) before after ?_
      hnamed rfl hbefore hafter rfl
    exact ⟨⟨client, questions, hclient, haccepts, hasked⟩, ⟨request, hsent, hmethod⟩, rfl, rfl, hholds⟩
  | failed answer peer hasked hkept _ hstatus =>
    have hnamed := recordId?_of_failed hkept
    obtain ⟨request, hsent, hmethod, -⟩ := hasked.sent
    have hholds := holds_of_keptAs? hkept hregular s form.id
    have hprefix : ("ERROR_" : Text) <+: Action.placeholderAt s.millis := List.prefix_append _ _
    refine .failed (hstatus reply rfl) form accepted answer _ ?_ hnamed hprefix rfl rfl rfl
    exact ⟨⟨client, questions, hclient, haccepts, hasked⟩, ⟨request, hsent, hmethod⟩, rfl, rfl, hholds⟩

/-- A submission that is answered was refused, or its answers were delivered. -/
theorem SubmissionEnds.of_postSubmission (hids : (s.store.forms.map (·.id)).Nodup)
    (h : Action.exec (Action.postSubmission c.access id (Action.bodyOf r)) s = (.ok reply, t)) :
    SubmissionEnds c r id s t reply := by
  have hsubmits := Action.submits_to c.access id (Action.bodyOf r) s
  rw [h] at hsubmits
  generalize hend : (Except.ok reply, t) = out at hsubmits
  cases hsubmits with
  | unchanged outcome hstatus =>
    cases hend
    exact .refused (hstatus reply rfl) rfl rfl rfl
  | delivered client form questions accepted hclient haccepts =>
    exact .of_deliver hids hclient haccepts hend.symm

/-- The number of the next request plays no part in a delivery. -/
theorem Delivers.of_requestNamed {form : FormRow} {accepted : Members} {answer : Remote.Answer}
    {row : ResponseRow} (h : Delivers c r id (s.requestNamed r) t form accepted answer row) :
    Delivers c r id s t form accepted answer row := by
  obtain ⟨⟨client, questions, hclient, haccepts, hasked⟩, hsent, hresponses, hdocument, hholds⟩ := h
  obtain ⟨hup, hid, hfound, hloaded, haccepted⟩ := haccepts
  exact ⟨⟨client, questions, hclient, ⟨hup, hid, hfound, hloaded, haccepted⟩, hasked⟩, hsent, hresponses,
    hdocument, hholds⟩

/-- The number of the next request plays no part in how a submission ends. -/
theorem SubmissionEnds.of_requestNamed {requestId : Text}
    (h : SubmissionEnds c r id (s.requestNamed r) t reply) :
    SubmissionEnds c r id s t (finish c r requestId (.ok reply)) := by
  cases h with
  | synced status form accepted answer row now before after delivers recordId synced forms counted events =>
    exact .synced status form accepted answer row now before after delivers.of_requestNamed recordId
      synced forms counted events
  | failed status form accepted answer row delivers noRecord recordId failed forms events =>
    exact .failed status form accepted answer row delivers.of_requestNamed noRecord recordId failed forms
      events
  | refused status peer store events => exact .refused status peer store events
  | broken status => exact .broken status

end Ends

/-- In every run, with the store up or not, a submission ends in one of these ways, whatever the form, the
answers and the remote service: its status tells all that it did. -/
theorem submission_ends (env : Environment) (c : Config) (turns : List Turn) {id : Text} {r : Request}
    (hroute : Route.find r.method r.path = .endpoint .submit [id]) :
    SubmissionEnds c r id (course env c turns).state ((handle c r).run (course env c turns).state).2
      ((handle c r).run (course env c turns).state).1 := by
  obtain ⟨requestId, hhandle⟩ := handle_of_route (c := c) hroute (course env c turns).state
  rw [hhandle, Action.serve]
  rcases hexec : Action.exec (Action.postSubmission c.access id (Action.bodyOf r))
    ((course env c turns).state.requestNamed r) with ⟨e | reply, t⟩
  · exact .broken rfl
  · refine SubmissionEnds.of_requestNamed ?_
    exact .of_postSubmission (nodup_formIds env c turns) hexec

/-- The same submission to a remote service that takes it and to one that is silent. -/
theorem submission_ends_both :
    Route.find (answering (.int 1)).method (answering (.int 1)).path = .endpoint .submit ["form-1"] ∧
    SubmissionEnds .plain (answering (.int 1)) "form-1" (course .standard .plain demandingRun).state
      ((handle .plain (answering (.int 1))).run (course .standard .plain demandingRun).state).2
      ((handle .plain (answering (.int 1))).run (course .standard .plain demandingRun).state).1 ∧
    ((handle .plain (answering (.int 1))).run (course .standard .plain demandingRun).state).1.status = 200 ∧
    SubmissionEnds .plain (answering (.int 1)) "form-1" (course .standard .plain silentRun).state
      ((handle .plain (answering (.int 1))).run (course .standard .plain silentRun).state).2
      ((handle .plain (answering (.int 1))).run (course .standard .plain silentRun).state).1 ∧
    ((handle .plain (answering (.int 1))).run (course .standard .plain silentRun).state).1.status = 502 := by
  have hroute : Route.find (answering (.int 1)).method (answering (.int 1)).path =
      .endpoint .submit ["form-1"] := by decide +kernel
  exact ⟨hroute, submission_ends .standard .plain demandingRun hroute, by decide +kernel,
    submission_ends .standard .plain silentRun hroute, by decide +kernel⟩

end Service
end Intake
