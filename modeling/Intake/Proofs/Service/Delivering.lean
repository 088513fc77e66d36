import Intake.Proofs.Remote.Asking
import Intake.Proofs.Service.Replies

/-!
# Delivering accepted answers

Between accepted answers and a stored response stands the remote service. The request may not be sent, no
answer may come through, and a record id may be a text that cannot be stored; then nothing is kept.
Otherwise one response is kept, as the answer says. All that a delivery can do, and all that a submission
can do before it, is listed here once.

        accepted ──▶ request ──▶ answer ──▶ record id ──▶ synced response
                        │           │           │
                        │           ├──▶ no record id ──▶ response with an error
                        ▼           ▼           ▼
                     nothing     nothing     nothing
-/

namespace Intake.Service

open Store Http

/-! ### What is kept -/

/-- What is kept beside accepted answers when an answer comes at a time of day: the record id and the state
of a response, or nothing when the answer breaks down or names a record id that cannot be stored. -/
def keptAs? (millis : Nat) (answer : Remote.Answer) : Option (Text × SyncStatus) :=
  if answer.arrives then
    match answer.recordId? with
    | some recordId => if recordId.encodable then some (recordId, .synced) else none
    | none => some (Action.placeholderAt millis, .error)
  else none

/-- Something is kept exactly when the answer arrives and can be stored. -/
theorem isSome_keptAs? {millis : Nat} {answer : Remote.Answer} :
    (keptAs? millis answer).isSome = true ↔
    answer.arrives = true ∧ ∀ recordId, answer.recordId? = some recordId →
      recordId.encodable = true := by
  rw [keptAs?]
  cases answer.arrives with
  | false => simp
  | true => cases answer.recordId? <;> simp

/-- What is kept is the record id that the answer names, or the mark of a submission that failed. -/
theorem eq_of_keptAs? {millis : Nat} {answer : Remote.Answer} {recordId : Text} {status : SyncStatus}
    (h : keptAs? millis answer = some (recordId, status)) :
    recordId = answer.recordId?.getD (Action.placeholderAt millis) ∧
      status = if answer.recordId?.isSome then .synced else .error := by
  rw [keptAs?] at h
  split at h
  · split at h
    · rename_i named hnamed
      split at h
      · cases h
        rw [hnamed]
        exact ⟨rfl, rfl⟩
      · cases h
    · rename_i hnamed
      cases h
      rw [hnamed]
      exact ⟨rfl, rfl⟩
  · cases h

/-- The record id of what is kept can be stored. -/
theorem encodable_of_keptAs? {millis : Nat} {answer : Remote.Answer} {recordId : Text} {status : SyncStatus}
    (h : keptAs? millis answer = some (recordId, status)) : recordId.encodable = true := by
  rw [keptAs?] at h
  split at h
  · split at h
    · split at h
      · cases h
        assumption
      · cases h
    · cases h
      exact Action.encodable_placeholderAt millis
  · cases h

/-- What is kept as synced has the record id that the answer names. -/
theorem recordId?_of_synced {millis : Nat} {answer : Remote.Answer} {recordId : Text}
    (h : keptAs? millis answer = some (recordId, .synced)) : answer.recordId? = some recordId := by
  obtain ⟨hrecordId, hstatus⟩ := eq_of_keptAs? h
  cases hnamed : answer.recordId? with
  | none => rw [hnamed] at hstatus; cases hstatus
  | some named => rw [hrecordId, hnamed]; rfl

/-- What is kept as failed comes of an answer that names no record id. -/
theorem recordId?_of_failed {millis : Nat} {answer : Remote.Answer} {recordId : Text}
    (h : keptAs? millis answer = some (recordId, .error)) : answer.recordId? = none := by
  obtain ⟨-, hstatus⟩ := eq_of_keptAs? h
  cases hnamed : answer.recordId? with
  | none => rfl
  | some named => rw [hnamed] at hstatus; cases hstatus

/-- What is understood of an answer decides what is kept. -/
theorem keptAs?_of_understood (millis : Nat) (answer : Remote.Answer) :
    match (Remote.Client.understand answer).bind Remote.Client.recordIdOf with
    | .ok recordId => keptAs? millis answer = if recordId.encodable then some (recordId, .synced) else none
    | .error (.refused _) => keptAs? millis answer = some (Action.placeholderAt millis, .error)
    | .error _ => keptAs? millis answer = none := by
  by_cases harrives : answer.arrives = true
  · have hunderstood := Remote.Client.understand_of_arrives harrives
    rw [keptAs?, if_pos harrives]
    cases hnamed : answer.recordId? with
    | some recordId =>
      rw [hnamed] at hunderstood
      simp only at hunderstood
      rw [hunderstood]
    | none =>
      rw [hnamed] at hunderstood
      obtain ⟨refusal, hunderstood⟩ := hunderstood
      rw [hunderstood]
  · cases answer with
    | broken => rfl
    | _ => exact absurd rfl harrives

/-- One request for a record of the form was sent, with the columns, and this was answered. -/
def Asked (client : Remote.Client) (form : FormRow) (columns : Members) (answer : Remote.Answer)
    (before after : Remote.Peer) : Prop :=
  ∃ path url, Remote.Client.recordsPath? form.baseId form.tableName = some path ∧
    client.urlOf? path = some url ∧ (Value.obj columns).Plain ∧
    before.exchange (client.creating url (.obj columns)) = (answer, after)

namespace Asked

variable {client : Remote.Client} {form : FormRow} {columns : Members} {answer : Remote.Answer}
variable {before after : Remote.Peer}

theorem sent (h : Asked client form columns answer before after) :
    ∃ request, after.sent = before.sent ++ [request] ∧ request.method = .post ∧
      request.body = some (Remote.Client.recordBody (.obj columns)) := by
  obtain ⟨path, url, -, -, -, hexchange⟩ := h
  have hsent := Remote.Peer.sent_exchange (client.creating url (.obj columns)) before
  rw [hexchange] at hsent
  exact ⟨_, hsent, rfl, rfl⟩

/-- Whatever was sent then asks for a record with the columns. -/
theorem sent_all (h : Asked client form columns answer before after) :
    ∃ requests, after.sent = before.sent ++ requests ∧ ∀ request ∈ requests,
      request.method = .post ∧ request.body = some (Remote.Client.recordBody (.obj columns)) := by
  obtain ⟨request, hsent, hrequest⟩ := h.sent
  refine ⟨[request], hsent, ?_⟩
  intro other hother
  rw [List.mem_singleton.1 hother]
  exact hrequest

theorem heard (h : Asked client form columns answer before after) {path : Text}
    (hpath : Remote.Client.recordsPath? form.baseId form.tableName = some path) :
    client.heard? path (.obj columns) before = some answer := by
  obtain ⟨asked, url, hasked, hurl, hplain, hexchange⟩ := h
  obtain rfl : path = asked := Option.some.inj (hpath.symm.trans hasked)
  exact Remote.Client.heard?_of_exchange hurl hplain hexchange

end Asked

/-- The answers in the body are accepted by the questions of a stored form. -/
structure Accepts (s : State) (id : Text) (body : Value) (form : FormRow) (questions : List Question)
    (accepted : Members) : Prop where
  up : s.isDown = false
  encodable : id.encodable = true
  found : s.store.form? id = some form
  loaded : form.questions? = some questions
  accepted : ∃ answers, Action.answersOf body = some answers ∧
    Submission.accept questions answers = .ok accepted

namespace Action

/-- A reply leaves the state as it is, and has its status if it can be made. -/
theorem exec_ok_cases (status : Int) (body : Value) (s : State) :
    ∃ outcome, exec (ok status body) s = (outcome, s) ∧
      ∀ reply, outcome = .ok reply → reply.status = status := by
  refine ⟨_, exec_ok status body s, ?_⟩
  intro reply hreply
  exact (of_exec_ok (Prod.ext ((congrArg Prod.fst (exec_ok status body s)).trans hreply) rfl)).2.1

/-- So does the statement of a problem. -/
theorem exec_refuse_cases {problem : Members} {status : Int}
    (hproblem : Problem.statusOf problem = .ok status) (s : State) :
    ∃ outcome, exec (refuse problem) s = (outcome, s) ∧
      ∀ reply, outcome = .ok reply → reply.status = status := by
  refine ⟨_, exec_refuse problem s, ?_⟩
  intro reply hreply
  exact (of_exec_refuse hproblem
    (Prod.ext ((congrArg Prod.fst (exec_refuse problem s)).trans hreply) rfl)).2.1

theorem statusOf_remoteUnavailable (details response message : Value) :
    Problem.statusOf (Problem.remoteUnavailable details response message) = .ok 502 :=
  Problem.statusOf_make (by decide) _ _ _ _

/-- The ways out of a delivery: nothing is sent, the answer is such that nothing is kept, or it is kept as
synced or as one that failed. The reply to a response that was kept may still break off. -/
inductive DeliverEnds (client : Remote.Client) (form : FormRow) (columns accepted : Members) (s : State) :
    Except Failure Reply × State → Prop where
  | unsent (e : Failure) (t : State)
      (unheard : ∀ path, Remote.Client.recordsPath? form.baseId form.tableName = some path →
        client.heard? path (.obj columns) s.peer = none)
      (store : t.store = s.store) (peer : t.peer = s.peer) (events : t.events = s.events) :
      DeliverEnds client form columns accepted s (.error e, t)
  | unkept (e : Failure) (t : State) (answer : Remote.Answer)
      (asked : Asked client form columns answer s.peer t.peer) (unkept : keptAs? s.millis answer = none)
      (store : t.store = s.store) (events : t.events = s.events) :
      DeliverEnds client form columns accepted s (.error e, t)
  | synced (answer : Remote.Answer) (after : Remote.Peer) (recordId : Text)
      (asked : Asked client form columns answer s.peer after)
      (kept : keptAs? s.millis answer = some (recordId, .synced)) (outcome : Except Failure Reply)
      (status : ∀ reply, outcome = .ok reply → reply.status = 200) :
      DeliverEnds client form columns accepted s (outcome,
        syncedState { s with peer := after } (s.responseRow form.id recordId accepted .synced))
  | failed (answer : Remote.Answer) (after : Remote.Peer)
      (asked : Asked client form columns answer s.peer after)
      (kept : keptAs? s.millis answer = some (placeholderAt s.millis, .error)) (outcome : Except Failure Reply)
      (status : ∀ reply, outcome = .ok reply → reply.status = 502) :
      DeliverEnds client form columns accepted s (outcome,
        failedState { s with peer := after } (s.responseRow form.id (placeholderAt s.millis) accepted .error))

theorem deliver_ends {form : FormRow} {s : State} (client : Remote.Client) (questions : List Question)
    (accepted : Members) (hs : s.isDown = false) (hid : form.id.encodable = true) :
    DeliverEnds client form (Submission.columns questions accepted) accepted s
      (exec (deliver client form questions accepted) s) := by
  rw [exec_deliver]
  rcases client.createRecord_cases form.baseId form.tableName
    (.obj (Submission.columns questions accepted)) s.peer with ⟨e, hcreate, he, hunheard⟩ |
      ⟨path, url, answer, after, hpath, hurl, hplain, hexchange, hcreate⟩
  · rw [hcreate]
    cases e with
    | refused refusal => exact absurd rfl (he refusal)
    | _ => exact .unsent _ _ hunheard rfl rfl rfl
  · have hasked : Asked client form (Submission.columns questions accepted) answer s.peer after :=
      ⟨path, url, hpath, hurl, hplain, hexchange⟩
    have hkept := keptAs?_of_understood s.millis answer
    rw [hcreate]
    rcases hunderstood : (Remote.Client.understand answer).bind Remote.Client.recordIdOf
      with e | recordId
    · rw [hunderstood] at hkept
      cases e with
      | refused refusal =>
        obtain ⟨outcome, hrefuse, hstatus⟩ := exec_refuse_cases
          (statusOf_remoteUnavailable (detailsOf refusal) _ (.str Problem.submissionFailed)) _
        simp only [exec_keepFailed (s := { s with peer := after }) hs hid]
        exact hrefuse ▸ .failed answer after hasked hkept outcome hstatus
      | _ => exact .unkept _ _ answer hasked hkept rfl rfl
    · rw [hunderstood] at hkept
      simp only at hkept
      simp only [exec_keepSynced (s := { s with peer := after }) hs hid]
      split
      · rename_i hencodable
        rw [if_pos hencodable] at hkept
        obtain ⟨outcome, hok, hstatus⟩ := exec_ok_cases 200 _ _
        exact hok ▸ .synced answer after recordId hasked hkept outcome hstatus
      · rename_i hencodable
        rw [if_neg hencodable] at hkept
        exact .unkept _ _ answer hasked hkept rfl rfl

/-- The ways out of a submission before its delivery: it is refused or breaks off and changes nothing, or its
answers are accepted and delivered. -/
inductive SubmitsTo (access : Access) (id : Text) (body : Value) (s : State) :
    Except Failure Reply × State → Prop where
  | unchanged (outcome : Except Failure Reply)
      (status : ∀ reply, outcome = .ok reply → reply.status = 400 ∨ reply.status = 404) :
      SubmitsTo access id body s (outcome, s)
  | delivered (client : Remote.Client) (form : FormRow) (questions : List Question) (accepted : Members)
      (addressed : Remote.Client.ofAccess access = .ok client)
      (accepts : Accepts s id body form questions accepted) :
      SubmitsTo access id body s (exec (deliver client form questions accepted) s)

theorem submits_to (access : Access) (id : Text) (body : Value) (s : State) :
    SubmitsTo access id body s (exec (postSubmission access id body) s) := by
  -- whatever is refused leaves the state as it is
  have hrefused {problem : Members} {status : Int} (hproblem : Problem.statusOf problem = .ok status)
      (hstatus : status = 400 ∨ status = 404) :
      SubmitsTo access id body s (exec (refuse problem) s) := by
    obtain ⟨outcome, hrefuse, hreply⟩ := exec_refuse_cases hproblem s
    rw [hrefuse]
    refine .unchanged outcome ?_
    intro reply h
    rw [hreply reply h]
    exact hstatus
  have hfailed (e : Failure) : SubmitsTo access id body s (.error e, s) :=
    .unchanged _ fun reply h => nomatch h
  rw [exec_postSubmission]
  cases hclient : Remote.Client.ofAccess access with
  | error e => exact hfailed (.call e)
  | ok client =>
    cases hanswers : answersOf body with
    | none => exact hrefused (Problem.statusOf_make (by decide) _ _ _ _) (.inl rfl)
    | some answers =>
      simp only [exec_withForm]
      split
      · exact hfailed _
      · rename_i hs
        split
        · rename_i hid
          cases hform : s.store.form? id with
          | none => exact hrefused (Problem.statusOf_make (by decide) _ _ _ _) (.inr rfl)
          | some form =>
            simp only [exec_receive]
            cases hquestions : form.questions? with
            | none => exact hfailed _
            | some questions =>
              simp only
              cases haccept : Submission.accept questions answers with
              | error e => exact hrefused (Problem.statusOf_ofFormError e) (.inl rfl)
              | ok accepted =>
                exact .delivered client form questions accepted hclient
                  ⟨by simpa using hs, hid, hform, hquestions, answers, hanswers, haccept⟩
        · exact hfailed _

end Action
end Intake.Service
