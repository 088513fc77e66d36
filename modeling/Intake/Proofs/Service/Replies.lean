import Intake.Proofs.Service.Provenance

/-!
# What replies say

A reply that leaves the service has the status and the body that its endpoint gave it; an endpoint that
breaks off gives the status 500. The status inside a problem is the status of the reply. So from a
status one can tell how far a request got: only a form that was stored is answered by 201.
-/

namespace Intake

theorem Value.eq_of_renderable {v w : Value} (h : v.renderable = .ok w) : w = v := by
  unfold Value.renderable at h
  split at h
  · cases h
  · split at h
    · cases h
    · exact (Except.ok.inj h).symm

namespace Http

/-- A reply with a JSON body has that body. -/
theorem Reply.of_json {status : Int} {type : Text} {v : Value} {extra : List Header} {reply : Reply}
    (h : Reply.json status type v extra = .ok reply) : reply.status = status ∧ reply.body = .json v := by
  unfold Reply.json at h
  split at h
  · cases h
  · rename_i w hw
    obtain rfl := Value.eq_of_renderable hw
    split at h
    · cases h
    · cases h
      exact ⟨rfl, rfl⟩

/-- A value that every client can read makes a reply. -/
theorem Reply.json_of_renderable (status : Int) (type : Text) {v : Value}
    (hv : v.renderable = .ok v) :
    ∃ reply, Reply.json status type v [] = .ok reply ∧ reply.status = status ∧ reply.body = .json v := by
  refine ⟨⟨status, withContentType type [], .json v⟩, ?_, rfl, rfl⟩
  rw [Reply.json, hv]; rfl

/-- A request that is led to an endpoint has one of its methods. -/
theorem Route.mem_methods_of_find {method path : Text} {e : Endpoint} {args : List Text}
    (h : Route.find method path = .endpoint e args) : method ∈ e.methods := by
  unfold Route.find at h
  split at h
  · split at h <;> cases h
  · split at h
    · rename_i hfound
      cases h
      simpa using List.find?_some hfound
    · cases h

/-- A request that is led to an endpoint is no preflight. -/
theorem Origin.preflight?_of_find {r : Request} {e : Endpoint} {args : List Text}
    (h : Route.find r.method r.path = .endpoint e args) (configured : List Text) :
    Origin.preflight? configured r = none := by
  have hmethod : r.method ≠ "OPTIONS" := by
    have hno : ("OPTIONS" : Text) ∉ e.methods := by
      cases e with
      | document d => exact (by decide : ("OPTIONS" : Text) ∉ [("GET" : Text), "HEAD"])
      | _ => decide
    exact fun heq => hno (heq ▸ Route.mem_methods_of_find h)
  unfold Origin.preflight?
  split
  · rw [if_neg hmethod]
  · rfl

end Http

namespace Problem

/-- A problem tells the status that it was made with. -/
theorem statusOf_make {status : Int} (hstatus : status ≠ 0) (title : Text) (detail : Value)
    (code : Text) (extra : List (Text × Value)) :
    statusOf (make title status detail code extra) = .ok status := by
  have hget : Members.get? (make title status detail code extra) "status" = some (.int status) := rfl
  have hfalsy : (Value.int status).isFalsy = false := by simpa [Value.isFalsy] using hstatus
  rw [statusOf, hget, Option.getD_some, hfalsy]
  rfl

theorem statusOf_ofFormError (e : FormError) : statusOf (ofFormError e) = .ok 400 :=
  statusOf_make (by decide) _ _ _ _

/-- The reply that a problem makes has the status of the problem. -/
theorem status_of_reply {problem : Members} {status : Int} {reply : Http.Reply}
    (hproblem : statusOf problem = .ok status) (h : Problem.reply problem [] = .ok reply) :
    reply.status = status ∧ reply.body = .json (Value.obj problem).published := by
  rw [Problem.reply, hproblem] at h
  exact Http.Reply.of_json h

end Problem

namespace Service

open Store Http

namespace Action

/-- What the reply of an endpoint says when the endpoint did not break off. -/
theorem of_exec_ok {status : Int} {body : Value} {s t : State} {reply : Reply}
    (h : exec (ok status body) s = (.ok reply, t)) :
    t = s ∧ reply.status = status ∧ reply.body = .json body.published := by
  rw [exec_ok] at h
  cases hreply : Reply.json status jsonType body.published [] with
  | error e => rw [hreply] at h; cases h
  | ok made =>
    rw [hreply] at h
    cases h
    exact ⟨rfl, Reply.of_json hreply⟩

theorem of_exec_refuse {problem : Members} {status : Int} {s t : State} {reply : Reply}
    (hproblem : Problem.statusOf problem = .ok status)
    (h : exec (refuse problem) s = (.ok reply, t)) :
    t = s ∧ reply.status = status ∧ reply.body = .json (Value.obj problem).published := by
  rw [exec_refuse] at h
  cases hreply : Problem.reply problem [] with
  | error e => rw [hreply] at h; cases h
  | ok made =>
    rw [hreply] at h
    cases h
    exact ⟨rfl, Problem.status_of_reply hproblem hreply⟩

end Action

/-- What leaves the service is what the endpoint gave, or tells that it broke off. -/
theorem finish_status (c : Config) (r : Request) (id : Text) (outcome : Except Failure Reply) :
    (finish c r id outcome).status = match outcome with
      | .ok reply => reply.status
      | .error _ => 500 := by
  cases outcome <;> rfl

theorem finish_body (c : Config) (r : Request) (id : Text) (reply : Reply) :
    (finish c r id (.ok reply)).body = reply.body := rfl

/-- A request that is led to an endpoint is served there. -/
theorem handle_of_route {c : Config} {r : Request} {e : Endpoint} {args : List Text}
    (h : Route.find r.method r.path = .endpoint e args) (s : State) :
    ∃ id, (handle c r).run s =
      (finish c r id (Action.exec (Action.serve c r e args) (s.requestNamed r)).1,
        (Action.exec (Action.serve c r e args) (s.requestNamed r)).2) := by
  refine ⟨((nameRequest r).run s).1, ?_⟩
  rw [handle_of_no_preflight (Origin.preflight?_of_find h c.origins), Action.dispatch, h]

/-! ### Forms that were created -/

/-- A payload that does not pass is refused as an invalid form. -/
theorem statusOf_verdict {payload : Value} {problem : Members}
    (h : verdict payload = .ok (.error problem)) : Problem.statusOf problem = .ok 400 := by
  unfold verdict at h
  split at h
  · cases h
    exact Problem.statusOf_ofFormError _
  · split at h
    · cases h
      exact Problem.statusOf_ofFormError _
    · cases h
    · split at h
      · cases h
        unfold Action.fieldProblem
        simp only
        split
        · exact Problem.statusOf_ofFormError _
        · exact Problem.statusOf_make (by decide) _ _ _ _
      · cases h

/-- What the reply to a new form says. -/
def createdBody (view : FormView) : Value :=
  .obj [("success", .bool true), ("message", .ofString "Form created successfully"),
    ("form", view.dump .wire)]

/-- Only a form that was stored is answered by 201. -/
theorem Action.postForm_created {payload : Value} {s t : State} {reply : Reply}
    (h : exec (postForm payload) s = (.ok reply, t)) (hstatus : reply.status = 201) :
    ∃ form view, verdict payload = .ok (.ok form) ∧ (s.rowOf form).view? = some view ∧
      t.store = s.store.addForm (s.rowOf form) ∧ reply.body = .json (createdBody view).published := by
  rw [postForm, exec_bind, exec_newForm] at h
  cases hv : verdict payload with
  | error e => rw [hv] at h; cases h
  | ok outcome =>
    rw [hv] at h
    cases outcome with
    | error problem =>
      obtain ⟨-, hrefused, -⟩ := of_exec_refuse (statusOf_verdict hv) h
      rw [hstatus] at hrefused
      cases hrefused
    | ok form =>
      simp only [exec_bind, exec_storeForm] at h
      by_cases hs : s.isDown = true
      · simp [hs] at h
      · by_cases hstorable : storable form = true
        · simp only [hs, hstorable, Bool.false_eq_true, if_false, if_true] at h
          cases hview : (s.rowOf form).view? with
          | none => rw [hview] at h; cases h
          | some view =>
            rw [hview] at h
            obtain ⟨rfl, -, hbody⟩ := of_exec_ok h
            exact ⟨form, view, rfl, hview, rfl, hbody⟩
        · simp [hs, hstorable] at h

/-- The form behind a reply of 201: its row is the last one, and the reply shows it. -/
theorem created_of_status {c : Config} {r : Request} {args : List Text} {s : State}
    (hroute : Route.find r.method r.path = .endpoint .createForm args)
    (hstatus : ((handle c r).run s).1.status = 201) :
    ∃ form view, verdict (Action.bodyOf r) = .ok (.ok form) ∧ (s.rowOf form).view? = some view ∧
      ((handle c r).run s).2.store = s.store.addForm (s.rowOf form) ∧
      ((handle c r).run s).1.body = .json (createdBody view).published := by
  obtain ⟨id, hhandle⟩ := handle_of_route (c := c) hroute s
  rw [hhandle] at hstatus ⊢
  rcases hexec : Action.exec (Action.serve c r .createForm args) (s.requestNamed r) with ⟨e | reply, t⟩
  · rw [hexec] at hstatus; cases hstatus
  · rw [hexec] at hstatus
    obtain ⟨form, view, hverdict, hview, hstore, hbody⟩ := Action.postForm_created hexec hstatus
    exact ⟨form, view, hverdict, hview, hstore, hbody⟩

end Service
end Intake
