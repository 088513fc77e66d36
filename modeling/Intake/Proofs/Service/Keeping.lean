import Intake.Proofs.Form.Resubmitting
import Intake.Proofs.Service.Creating
import Intake.Proofs.Service.Submitting

/-!
# Keeping what was accepted

What the remote service answers decides how accepted answers are kept: with the record id that it names, or
as a submission that failed. Whatever can break off before that is told exactly by what is heard: nothing
when the request cannot be sent, an answer that does not arrive, or a record id that cannot be stored. Then
nothing is kept, and the respondent is told that something failed.
-/

namespace Intake

/-- Accepted answers are regular when the answers are. -/
theorem Submission.Counted.regular {questions : List Question} {answers accepted : Members}
    (h : Submission.Counted questions answers accepted) (hregular : (Value.obj answers).Regular) :
    (Value.obj accepted).Regular := by
  refine ⟨h.keys, Value.regularMembers_iff.2 fun e he => ?_⟩
  exact hereditary_regular.member hregular ((h.entries e.1 e.2).1 (Members.get?_of_mem h.keys he)).2.1

namespace Service

open Store Http

/-- The answers of a request are regular, as every value that was read. -/
theorem regular_of_answersOf {r : Request} {answers : Members}
    (h : Action.answersOf (Action.bodyOf r) = some answers) : (Value.obj answers).Regular := by
  obtain ⟨ms, hbody, hget⟩ := Action.of_answersOf h
  exact hereditary_regular.member (hbody ▸ regular_bodyOf r) hget

namespace Action

/-- Delivering accepted answers keeps one response as the answer of the remote service says. -/
theorem responses_deliver (client : Remote.Client) {form : FormRow} (questions : List Question)
    (accepted : Members) {path : Text} {s : State} (hs : s.isDown = false)
    (hid : form.id.encodable = true)
    (hpath : Remote.Client.recordsPath? form.baseId form.tableName = some path) :
    (exec (deliver client form questions accepted) s).2.store.responses = s.store.responses ++
      (((client.heard? path (.obj (Submission.columns questions accepted)) s.peer).bind
        (keptAs? s.millis)).map fun kept => s.responseRow form.id kept.1 accepted kept.2).toList := by
  have hends := deliver_ends client questions accepted hs hid
  generalize exec (deliver client form questions accepted) s = out at hends
  cases hends with
  | unsent e t unheard store peer => simp [unheard path hpath, store]
  | unkept e t answer asked unkept store => simp [asked.heard hpath, unkept, store]
  | synced answer after recordId asked kept outcome status =>
    rw [asked.heard hpath, Option.bind_some, kept]
    rfl
  | failed answer after asked kept outcome status =>
    rw [asked.heard hpath, Option.bind_some, kept]
    rfl

end Action

/-- A response holds accepted answers, and tells what the remote service answered, or when it failed. -/
structure Holds (stored : ResponseRow) (formId : Text) (accepted : Members) (answer : Remote.Answer)
    (millis : Nat) : Prop where
  formId : stored.formId = formId
  answers : content stored.answers = (Value.obj accepted).settled
  recordId : stored.recordId = answer.recordId?.getD (Action.placeholderAt millis)
  status : stored.status = (if answer.recordId?.isSome then SyncStatus.synced else .error).name
  isDeleted : stored.isDeleted = false

/-- The row of what is kept holds the answers, and tells what was answered. -/
theorem holds_of_keptAs? {answer : Remote.Answer} {millis : Nat} {recordId : Text} {status : SyncStatus}
    {accepted : Members} (hkept : keptAs? millis answer = some (recordId, status))
    (hregular : (Value.obj accepted).Regular) (s : State) (formId : Text) :
    Holds (s.responseRow formId recordId accepted status) formId accepted answer millis := by
  obtain ⟨hrecordId, hstatus⟩ := eq_of_keptAs? hkept
  exact ⟨rfl, content_document hregular, hrecordId, congrArg SyncStatus.name hstatus, rfl⟩

/-- What becomes of accepted answers to a form when something or nothing is heard from the remote service,
and what the respondent is told. -/
structure KeepsAnswers (formId : Text) (accepted : Members) (heard : Option Remote.Answer) (s t : State)
    (reply : Reply) (kept : Option ResponseRow) : Prop where
  /-- At most one response is added. -/
  stored : t.store.responses = s.store.responses ++ kept.toList
  /-- One is added exactly when an answer arrives and the record id that it names, if any, can be
  stored. -/
  isSome_iff : kept.isSome = true ↔ ∃ answer, heard = some answer ∧ answer.arrives = true ∧
    ∀ recordId, answer.recordId? = some recordId → recordId.encodable = true
  /-- It holds what was accepted. -/
  holds : ∀ stored ∈ kept, ∃ answer, heard = some answer ∧
    Holds stored formId accepted answer s.millis
  /-- When none is added, the respondent is told that something failed. -/
  lost : kept = none → reply.status = 500

/-- Delivered answers are kept as the remote service answers. -/
theorem keepsAnswers_deliver (c : Config) (r : Request) (requestId : Text) {path : Text}
    {client : Remote.Client} {row : FormRow} {questions : List Question} {accepted : Members}
    {s t : State} {outcome : Except Failure Reply} (hs : s.isDown = false) (hid : row.id.encodable = true)
    (hpath : Remote.Client.recordsPath? row.baseId row.tableName = some path)
    (hregular : (Value.obj accepted).Regular)
    (h : Action.exec (Action.deliver client row questions accepted) s = (outcome, t)) :
    ∃ kept, KeepsAnswers row.id accepted
      (client.heard? path (.obj (Submission.columns questions accepted)) s.peer) s t
      (finish c r requestId outcome) kept := by
  have hresponses := Action.responses_deliver client questions accepted hs hid hpath
  rw [h] at hresponses
  obtain ⟨stored, hstored, -, hreply⟩ := (Action.kept_deliver hs hid h).stored
  refine ⟨_, hresponses, ?_, ?_, fun hnone => ?_⟩
  · rw [Option.isSome_map, Option.isSome_bind, Option.any_eq_true]
    simp only [isSome_keptAs?]
  · intro kept hkept
    obtain ⟨⟨recordId, status⟩, hkeptAs, rfl⟩ := Option.map_eq_some_iff.1 hkept
    obtain ⟨answer, hheard, hanswer⟩ := Option.bind_eq_some_iff.1 hkeptAs
    exact ⟨answer, hheard, holds_of_keptAs? hanswer hregular s row.id⟩
  · rw [hresponses, hnone, List.append_cancel_left_eq] at hstored
    rw [finish_status]
    cases outcome with
    | ok reply =>
      have hsome := (hreply reply rfl).2
      cases stored with
      | none => cases hsome
      | some row => cases hstored
    | error e => rfl

/-- Where there is no client, a submission breaks off and keeps nothing. -/
theorem keepsAnswers_of_no_client (c : Config) (r : Request) (requestId id : Text) (body : Value)
    (accepted : Members) (s : State) {e : Remote.CallError}
    (h : Remote.Client.ofAccess c.access = .error e) :
    KeepsAnswers id accepted none s (Action.exec (Action.postSubmission c.access id body) s).2
      (finish c r requestId (Action.exec (Action.postSubmission c.access id body) s).1) none := by
  rw [Action.exec_postSubmission, h]
  exact ⟨by simp, by simp, by simp, fun _ => rfl⟩

/-- In every run in which the store is up, accepted answers to a stored form are kept as one response,
unless the request for a record cannot be sent, no answer comes through, or the record id in it cannot be
stored. -/
theorem accepted_answers_kept_iff (env : Environment) (c : Config) (turns : List Turn) {id : Text}
    {r : Request} {answers : Members} (hup : (course env c turns).state.isDown = false)
    (hform : ((course env c turns).state.store.form? id).isSome = true)
    (hroute : Route.find r.method r.path = .endpoint .submit [id])
    (hanswers : Action.answersOf (Action.bodyOf r) = some answers) :
    ∃ row questions path, (course env c turns).state.store.form? id = some row ∧
      row.questions? = some questions ∧
      Remote.Client.recordsPath? row.baseId row.tableName = some path ∧
      ∀ accepted, Submission.accept questions answers = .ok accepted →
        ∃ kept, KeepsAnswers id accepted (Remote.heard? c.access path
            (.obj (Submission.columns questions accepted)) (course env c turns).state.peer)
          (course env c turns).state ((handle c r).run (course env c turns).state).2
          ((handle c r).run (course env c turns).state).1 kept := by
  obtain ⟨row, questions, hrow, rfl, hid, hquestions⟩ := loaded_form hform
  obtain ⟨path, hpath⟩ : ∃ path, Remote.Client.recordsPath? row.baseId row.tableName = some path := by
    have hencodable := encodable_forms env c turns row (List.mem_of_find?_eq_some hrow)
    simp only [FormRow.encodable, List.all_cons, List.all_nil, Bool.and_true, Bool.and_eq_true]
      at hencodable
    simp [Remote.Client.recordsPath?, Percent.encode?, Utf8.encode?, hencodable]
  refine ⟨row, questions, path, hrow, hquestions, hpath, fun accepted haccept => ?_⟩
  obtain ⟨requestId, hhandle⟩ := handle_of_route (c := c) hroute (course env c turns).state
  rw [hhandle, Action.serve, Remote.heard?]
  cases hclient : Remote.Client.ofAccess c.access with
  | error e =>
    have hkeeps := keepsAnswers_of_no_client c r requestId row.id (Action.bodyOf r) accepted
      ((course env c turns).state.requestNamed r) hclient
    exact ⟨none, hkeeps.stored, hkeeps.isSome_iff, hkeeps.holds, hkeeps.lost⟩
  | ok client =>
    obtain ⟨ms, hbody, hget⟩ := Action.of_answersOf hanswers
    have hregular : (Value.obj answers).Regular :=
      hereditary_regular.member (hbody ▸ regular_bodyOf r) hget
    have hexec := Action.exec_postSubmission_of_form (s := (course env c turns).state.requestNamed r) hclient
      hanswers hup hid hrow hquestions
    simp only [haccept] at hexec
    rcases hdeliver : Action.exec (Action.deliver client row questions accepted)
      ((course env c turns).state.requestNamed r) with ⟨outcome, t⟩
    obtain ⟨kept, hkeeps⟩ := keepsAnswers_deliver c r requestId
      (s := (course env c turns).state.requestNamed r) hup hid hpath
      ((Submission.of_accept haccept).2.regular hregular) hdeliver
    rw [hexec, hdeliver]
    exact ⟨kept, hkeeps.stored, hkeeps.isSome_iff, hkeeps.holds, hkeeps.lost⟩

/-- A submission of one answer. -/
def answering (answer : Value) : Request :=
  posting "/forms/form-1/submit" (.obj [("answers", .obj [("a", answer)])])

/-- The run that creates the form, before the remote service falls silent. -/
def silentRun : List Turn :=
  demandingRun ++ [.remote [.unreachable "timed out"] (.arr [])]

/-- After a run the store is up, no prepared answer breaks down, and the answers of a request are accepted
by the stored form. -/
def accepts (turns : List Turn) (r : Request) : Bool :=
  let s := (course .standard .plain turns).state
  !s.isDown && s.peer.script.all Remote.Answer.arrives &&
    (Action.answersOf (Action.bodyOf r)).any fun answers =>
      (s.store.form? "form-1").any fun row =>
        row.questions?.any fun questions => (Submission.accept questions answers).isOk

theorem of_accepts {turns : List Turn} {r : Request} (h : accepts turns r = true) :
    (course .standard .plain turns).state.isDown = false ∧
    (∀ answer ∈ (course .standard .plain turns).state.peer.script, answer.arrives = true) ∧
    ∃ answers row questions accepted, Action.answersOf (Action.bodyOf r) = some answers ∧
      (course .standard .plain turns).state.store.form? "form-1" = some row ∧
      row.questions? = some questions ∧ Submission.accept questions answers = .ok accepted := by
  simp only [accepts, Bool.and_eq_true, Bool.not_eq_true'] at h
  obtain ⟨⟨hup, hscript⟩, h⟩ := h
  obtain ⟨answers, hanswers, h⟩ := (Option.any_eq_true _ _).1 h
  obtain ⟨row, hrow, h⟩ := (Option.any_eq_true _ _).1 h
  obtain ⟨questions, hquestions, h⟩ := (Option.any_eq_true _ _).1 h
  refine ⟨hup, List.all_eq_true.1 hscript, answers, row, questions, ?_⟩
  cases haccept : Submission.accept questions answers with
  | error e => rw [haccept] at h; cases h
  | ok accepted => exact ⟨accepted, hanswers, hrow, hquestions, rfl⟩

/-- Without an answer of the remote service in time, the submission is kept as one that failed. -/
theorem accepted_answers_kept_iff_silent : ∃ answers row questions path accepted kept,
    (course .standard .plain silentRun).state.isDown = false ∧
    Action.answersOf (Action.bodyOf (answering (.int 1))) = some answers ∧
    (course .standard .plain silentRun).state.store.form? "form-1" = some row ∧
    row.questions? = some questions ∧
    Remote.Client.recordsPath? row.baseId row.tableName = some path ∧
    Submission.accept questions answers = .ok accepted ∧
    KeepsAnswers "form-1" accepted (Remote.heard? Config.plain.access path
        (.obj (Submission.columns questions accepted)) (course .standard .plain silentRun).state.peer)
      (course .standard .plain silentRun).state
      ((handle .plain (answering (.int 1))).run (course .standard .plain silentRun).state).2
      ((handle .plain (answering (.int 1))).run (course .standard .plain silentRun).state).1 kept ∧
    kept.isSome = true := by
  have haccepts : accepts silentRun (answering (.int 1)) = true := by decide +kernel
  obtain ⟨hup, -, answers, row, questions, accepted, hanswers, hrow, hquestions, haccept⟩ :=
    of_accepts haccepts
  obtain ⟨row', questions', path, hrow', hquestions', hpath, hkeeps⟩ :=
    accepted_answers_kept_iff .standard .plain silentRun hup (by rw [hrow]; rfl) (by decide +kernel)
      hanswers
  obtain rfl : row = row' := Option.some.inj (hrow.symm.trans hrow')
  obtain rfl : questions = questions' := Option.some.inj (hquestions.symm.trans hquestions')
  obtain ⟨kept, hkeeps⟩ := hkeeps accepted haccept
  have hlength : ((handle .plain (answering (.int 1))).run
      (course .standard .plain silentRun).state).2.store.responses.length =
      (course .standard .plain silentRun).state.store.responses.length + 1 := by decide +kernel
  rw [hkeeps.stored, List.length_append, Nat.add_left_cancel_iff] at hlength
  refine ⟨answers, row, questions, path, accepted, kept, hup, hanswers, hrow, hquestions, hpath, haccept,
    hkeeps, ?_⟩
  cases kept with
  | none => cases hlength
  | some stored => rfl

/-- An answer that was accepted can be lost: no service can read a number that is none, so the record is
never asked for. -/
theorem accepted_answers_lost :
    ¬ ∀ (env : Environment) (c : Config) (turns : List Turn) (id : Text) (r : Request)
      (answers accepted : Members) (row : FormRow) (questions : List Question),
      (Remote.Client.ofAccess c.access).isOk = true → (course env c turns).state.isDown = false →
      (∀ answer ∈ (course env c turns).state.peer.script, answer.arrives = true) →
      (course env c turns).state.store.form? id = some row → row.questions? = some questions →
      Route.find r.method r.path = .endpoint .submit [id] →
      Action.answersOf (Action.bodyOf r) = some answers →
      Submission.accept questions answers = .ok accepted →
      ∃ stored, ((handle c r).run (course env c turns).state).2.store.responses =
        (course env c turns).state.store.responses ++ [stored] := by
  intro hclaim
  have haccepts : accepts demandingRun (answering (.real .nan)) = true := by decide +kernel
  obtain ⟨hup, hscript, answers, row, questions, accepted, hanswers, hrow, hquestions, haccept⟩ :=
    of_accepts haccepts
  obtain ⟨stored, hstored⟩ := hclaim .standard .plain demandingRun "form-1" (answering (.real .nan))
    answers accepted row questions (by decide +kernel) hup hscript hrow hquestions (by decide +kernel)
    hanswers haccept
  have hlength : ((handle .plain (answering (.real .nan))).run
      (course .standard .plain demandingRun).state).2.store.responses.length =
      (course .standard .plain demandingRun).state.store.responses.length := by decide +kernel
  rw [hstored, List.length_append] at hlength
  simp at hlength

end Service
end Intake
