import Intake.Proofs.Service.Keeping

/-!
# Where stored responses come from

A response is stored once, by a submission whose answers were accepted, and from then on it is only marked.
Marking changes neither its answers nor its texts, and gives it a known status. So every stored response
of a run goes back to a request of the run, and holds the answers that were accepted then.
-/

namespace Intake

namespace Store

/-- The row is one of accepted answers: every encoding can carry its other texts, and its status is known. -/
structure ResponseRow.Keeps (row : ResponseRow) (accepted : Members) : Prop where
  answers : row.answers = document (.obj accepted)
  texts : [row.id, row.formId, row.recordId].all Text.encodable = true
  status : ∃ status : SyncStatus, row.status = status.name

namespace ResponseRow.Keeps

variable {row : ResponseRow} {accepted : Members}

theorem synced (h : row.Keeps accepted) (now : Nat) : (row.synced now).Keeps accepted :=
  ⟨h.answers, h.texts, .synced, rfl⟩

theorem deleted (h : row.Keeps accepted) (now : Nat) : (row.deleted now).Keeps accepted :=
  ⟨h.answers, h.texts, .synced, rfl⟩

/-- The response is loaded with its answers as they come back. -/
theorem view?_eq (h : row.Keeps accepted) (hregular : (Value.obj accepted).Regular) :
    ∃ view, row.view? = some view ∧ view.id = row.id ∧ view.formId = row.formId ∧
      view.recordId = row.recordId ∧ Value.obj view.answers = content row.answers := by
  obtain ⟨status, hstatus⟩ := h.status
  have hcontent : content row.answers = (Value.obj accepted).settled := by
    rw [h.answers, content_document hregular]
  rw [view?, hcontent, hstatus, SyncStatus.ofName?_name]
  exact ⟨_, rfl, rfl, rfl, rfl, rfl⟩

end ResponseRow.Keeps
end Store

namespace Service

open Store Http

namespace Action

/-- If every stored response has the property, every one has it after the action. -/
abbrev Preserves (R : ResponseRow → Prop) {α : Type} (a : Action α) : Prop :=
  Leads (fun s t => (∀ row ∈ s.store.responses, R row) → ∀ row ∈ t.store.responses, R row) a

section Preserves

variable {R : ResponseRow → Prop}

/-- A mark that keeps the property of one response keeps it of all. -/
theorem preserves_mark {f : ResponseRow → ResponseRow} (hf : ∀ row, R row → R (f row)) (id : Text) :
    Preserves R (change (mark f id)) := by
  intro s hs
  rw [exec_change]
  split
  · exact hs
  · intro row hrow
    obtain ⟨old, hold, rfl⟩ := List.mem_map.1 hrow
    split
    · exact hf old (hs old hold)
    · exact hs old hold

theorem compositional_preserves (hsynced : ∀ now row, R row → R (row.synced now))
    (hdeleted : ∀ now row, R row → R (row.deleted now)) : Compositional (@Preserves R) :=
  compositional_leads (fun _ hs => hs) (fun h g hs => g (h hs)) (fun _ hs => hs) (fun _ _ hs => hs)
    (fun id now => preserves_mark (hsynced now) id) (fun id now => preserves_mark (hdeleted now) id)
    (fun _ _ hs => hs)

/-- A new form leaves the responses alone. -/
theorem responses_postForm (payload : Value) (s : State) :
    (exec (postForm payload) s).2.store.responses = s.store.responses := by
  by_cases h : ∃ form, verdict payload = .ok (.ok form)
  · obtain ⟨form, passed⟩ := h
    rw [exec_postForm_of_passed passed, exec_storeForm]
    split
    · rfl
    · split <;> rfl
  · rw [exec_postForm_of_refused (not_exists.1 h)]

/-- A submission adds nothing but rows of the answers that were accepted. -/
theorem preserves_postSubmission {access : Access} {id : Text} {body : Value}
    (hnew : ∀ (s : State) (form : FormRow) (questions : List Question) (accepted : Members)
      (row : ResponseRow), Accepts s id body form questions accepted → row.Keeps accepted → R row) :
    Preserves R (postSubmission access id body) := by
  intro s hs
  have hsubmits := submits_to access id body s
  generalize exec (postSubmission access id body) s = out at hsubmits
  cases hsubmits with
  | unchanged outcome hstatus => exact hs
  | delivered client form questions accepted hclient haccepts =>
    obtain rfl : form.id = id := by simpa using List.find?_some haccepts.found
    -- a row is new, with sound texts, whatever is kept
    have hrow {answer : Remote.Answer} {recordId : Text} {status : SyncStatus}
        (hkept : keptAs? s.millis answer = some (recordId, status)) :
        ∀ row ∈ s.store.responses ++ [s.responseRow form.id recordId accepted status], R row := by
      intro row hmem
      rcases List.mem_append.1 hmem with hmem | hmem
      · exact hs row hmem
      · rw [List.mem_singleton.1 hmem]
        refine hnew s form questions accepted _ haccepts ⟨rfl, ?_, status, rfl⟩
        simp [State.responseRow, State.encodable_nextResponse, haccepts.encodable, encodable_of_keptAs? hkept]
    have hends := deliver_ends client questions accepted haccepts.up haccepts.encodable
    generalize exec (deliver client form questions accepted) s = out at hends
    cases hends with
    | unsent e t unheard store peer => rwa [store]
    | unkept e t answer asked unkept store => rwa [store]
    | synced answer after recordId asked kept outcome status => exact hrow kept
    | failed answer after asked kept outcome status => exact hrow kept

end Preserves
end Action

/-- The response goes back to one of the requests, whose answers it keeps. -/
def FromRequest (turns : List Turn) (row : ResponseRow) : Prop :=
  ∃ r answers questions accepted, Turn.request r ∈ turns ∧
    Action.answersOf (Action.bodyOf r) = some answers ∧
    Submission.Counted questions answers accepted ∧ row.Keeps accepted

theorem FromRequest.append {turns : List Turn} {row : ResponseRow} (h : FromRequest turns row)
    (later : List Turn) : FromRequest (turns ++ later) row := by
  obtain ⟨r, answers, questions, accepted, hr, hrest⟩ := h
  exact ⟨r, answers, questions, accepted, List.mem_append_left _ hr, hrest⟩

theorem compositional_fromRequest (turns : List Turn) :
    Action.Compositional (@Action.Preserves (FromRequest turns)) := by
  refine Action.compositional_preserves ?_ ?_
  · rintro now row ⟨r, answers, questions, accepted, hr, hanswers, hcounted, hkeeps⟩
    exact ⟨r, answers, questions, accepted, hr, hanswers, hcounted, hkeeps.synced now⟩
  · rintro now row ⟨r, answers, questions, accepted, hr, hanswers, hcounted, hkeeps⟩
    exact ⟨r, answers, questions, accepted, hr, hanswers, hcounted, hkeeps.deleted now⟩

/-- One request keeps what holds of the responses. -/
theorem preserves_dispatch (c : Config) {r : Request} {turns : List Turn}
    (hr : Turn.request r ∈ turns) : Action.Preserves (FromRequest turns) (Action.dispatch c r) := by
  rcases Action.dispatch_cases c r with h | ⟨id, h⟩ | h
  · rw [h]
    intro s hs
    rw [Action.responses_postForm]
    exact hs
  · rw [h]
    refine Action.preserves_postSubmission ?_
    intro s form questions accepted row haccepts hkeeps
    obtain ⟨answers, hanswers, haccept⟩ := haccepts.accepted
    exact ⟨r, answers, questions, accepted, hr, hanswers, (Submission.of_accept haccept).2, hkeeps⟩
  · exact h (compositional_fromRequest turns)

theorem fromRequest_act (c : Config) {turns : List Turn} {t : Turn} (ht : t ∈ turns) {s : State}
    (hs : ∀ row ∈ s.store.responses, FromRequest turns row) :
    ∀ row ∈ (t.act c s).store.responses, FromRequest turns row := by
  cases t with
  | request r =>
    rw [Turn.act]
    cases h : Origin.preflight? c.origins r with
    | some reply => rw [handle_of_preflight h]; exact hs
    | none =>
      rw [handle_of_no_preflight h]
      exact preserves_dispatch c ht (s.requestNamed r) hs
  | fetch clear => cases clear <;> exact hs
  | _ => exact hs

/-- Every stored response of a run goes back to a request of the run whose answers were accepted. -/
theorem stored_response (env : Environment) (c : Config) (turns : List Turn) :
    ∀ row ∈ (course env c turns).state.store.responses, FromRequest turns row := by
  induction turns using List.reverseRecOn with
  | nil => rintro _ ⟨⟩
  | append_singleton turns t ih =>
    rw [course_concat]
    refine fromRequest_act c (by simp) ?_
    intro row hrow
    exact (ih row hrow).append [t]

end Service
end Intake
