import Intake.Proofs.Service.Replies

/-!
# Replies that tell of a failure

A reply with a status of 400 or more should be a problem: of the one media type, and with an object that
names the status. An endpoint gives a status below 400 or refuses with a problem, whatever the state, and
an endpoint that breaks off is answered for by a problem as well. What leaves the service adds headers to
that, but neither a content type nor a member. Two failures come from no endpoint and are plain objects
instead: a path that fits no pattern, and a method that no fitting pattern has.

        endpoint ──▶ below 400 │ refusal │ breaks off ──▶ as it should be
        no route ──▶ 404 │ 405                        ──▶ application/json, no status inside
-/

namespace Intake

namespace Http

/-- What stands in the headers of a name, in order. -/
def Reply.valuesOf (name : Text) (reply : Reply) : List Text :=
  (reply.headers.filter fun h => sameName h.name name).map (·.value)

/-- The content types that a reply names. -/
def Reply.contentTypes (reply : Reply) : List Text :=
  (reply.headers.filter fun h => sameName h.name "content-type").map (·.value)

/-- The members of a body under the name of the status. -/
def Body.statuses : Body → List Value
  | .json (.obj ms) => (ms.filter fun e => decide (e.1 = ("status" : Text))).map (·.2)
  | _ => []

/-- The reply is a problem: it has the media type of problems and no other, and an object that names the
status of the reply, once. -/
structure Reply.IsProblem (reply : Reply) : Prop where
  type : reply.contentTypes = [problemType]
  status : reply.body.statuses = [.int reply.status]

/-- A failure is told as a problem. -/
def Reply.Uniform (reply : Reply) : Prop := 400 ≤ reply.status → reply.IsProblem

/-- The reply by which the routes themselves tell of a failure. -/
def Route.Target.failure? : Target → Option Reply
  | .nowhere => some notFound
  | .wrongMethod allowed => some (notAllowed allowed)
  | _ => none

/-- A reply with a JSON body has one content type and that body. -/
theorem Reply.eq_of_json {status : Int} {type : Text} {v : Value} {reply : Reply}
    (h : Reply.json status type v [] = .ok reply) :
    reply = ⟨status, [⟨"content-type", type⟩], .json v⟩ := by
  unfold Reply.json at h
  split at h
  · cases h
  · rename_i w hw
    obtain rfl := Value.eq_of_renderable hw
    cases h
    rfl

/-! ### What is added on the way out -/

/-- The id of a request stands in a header of its own. -/
theorem valuesOf_stampHeaders {name : Text} (h : sameName Service.requestIdName name = false)
    (id : Text) (reply : Reply) :
    ({ reply with headers := RequestId.stampHeaders Service.requestIdName id reply.headers } :
      Reply).valuesOf name = reply.valuesOf name := by
  rw [RequestId.stampHeaders]
  split
  · rfl
  · rw [Reply.valuesOf, List.filter_append,
      List.filter_cons_of_neg (by simpa using h), List.filter_nil, List.append_nil]
    rfl

/-- What is said about origins stands after everything else. -/
theorem valuesOf_stamp (name : Text) (configured : List Text) (r : Request) (reply : Reply) :
    ({ reply with headers := Origin.stamp configured r reply.headers } : Reply).valuesOf name =
      reply.valuesOf name ++
        ({ reply with headers := Origin.stamp configured r [] } : Reply).valuesOf name := by
  simp only [Reply.valuesOf, Origin.stamp, List.nil_append, List.append_assoc, List.filter_append,
    List.map_append]

/-- It names no content type. -/
theorem contentTypes_stamp (configured : List Text) (r : Request) (reply : Reply) :
    ({ reply with headers := Origin.stamp configured r reply.headers } : Reply).contentTypes =
      reply.contentTypes := by
  have hadmission : ∀ origin, (Origin.admission configured origin).filter
      (fun h => sameName h.name "content-type") = [] := by
    intro origin
    unfold Origin.admission
    split <;> rfl
  refine (valuesOf_stamp "content-type" configured r reply).trans ?_
  rw [Reply.valuesOf, Reply.valuesOf, Origin.stamp, List.nil_append, List.filter_append]
  cases r.header? "origin" with
  | none => exact List.append_nil _
  | some origin =>
    rw [List.filter_append, hadmission]
    exact List.append_nil _

end Http

/-- What stands under a key is the first of its members. -/
theorem Members.get?_eq_head? (ms : Members) (key : Text) :
    ms.get? key = ((ms.filter fun e => decide (e.1 = key)).map (·.2)).head? := by
  induction ms with
  | nil => rfl
  | cons e rest ih =>
    obtain ⟨k, v⟩ := e
    by_cases hk : k = key
    · rw [get?_cons, if_pos hk, List.filter_cons_of_pos (by simpa using hk)]
      rfl
    · rw [get?_cons, if_neg hk, List.filter_cons_of_neg (by simpa using hk), ih]

namespace Problem

open Http

/-- The status that a problem names, once. -/
def Names (problem : Members) (status : Int) : Prop :=
  (Body.json (.obj problem)).statuses = [.int status]

theorem names_make (title : Text) (status : Int) (detail : Value) (code : Text)
    {extra : List (Text × Value)} (h : (extra.map Prod.fst).contains ("status" : Text) = false) :
    Names (make title status detail code extra) status := by
  have hextra : (extra.filter fun e => !e.2.isNull).filter
      (fun e => decide (e.1 = ("status" : Text))) = [] := by
    rw [List.filter_eq_nil_iff]
    intro e he hkey
    have hmem := List.mem_map_of_mem (f := Prod.fst) (List.mem_of_mem_filter he)
    rw [of_decide_eq_true hkey, ← List.contains_iff_mem, h] at hmem
    exact Bool.noConfusion hmem
  rw [Names, Body.statuses, make, List.filter_append, hextra]
  rfl

theorem names_ofFormError (e : FormError) : Names (ofFormError e) 400 := names_make _ _ _ _ rfl

/-- What is wrong with a new form is told by a problem of the status 400. -/
theorem names_verdict {payload : Value} {problem : Members}
    (h : Service.verdict payload = .ok (.error problem)) : Names problem 400 := by
  unfold Service.verdict at h
  split at h
  · cases h
    exact names_ofFormError _
  · split at h
    · cases h
      exact names_ofFormError _
    · cases h
    · split at h
      · cases h
        unfold Service.Action.fieldProblem
        simp only
        split
        · exact names_ofFormError _
        · exact names_make _ _ _ _ rfl
      · cases h

/-- Leaving out what is private keeps what a problem says about the status. -/
theorem statuses_published (ms : Members) :
    (Body.json (Value.obj ms).published).statuses =
      (Body.json (.obj ms)).statuses.map Value.published := by
  change ((Value.publishedMembers ms).filter _).map _ = ((ms.filter _).map _).map _
  induction ms with
  | nil => rfl
  | cons e rest ih =>
    obtain ⟨k, v⟩ := e
    rw [Value.publishedMembers]
    by_cases hk : k = ("status" : Text)
    · subst hk
      rw [if_neg (by decide), List.filter_cons_of_pos rfl, List.filter_cons_of_pos rfl]
      simp only [List.map_cons, ih]
    · rw [List.filter_cons_of_neg (by simpa using hk), ← ih]
      split
      · rfl
      · rw [List.filter_cons_of_neg (by simpa using hk)]

/-- What a problem says about the status is its status. -/
theorem Names.statusOf {problem : Members} {status : Int} (h : Names problem status)
    (hstatus : status ≠ 0) : statusOf problem = .ok status := by
  have hget : problem.get? "status" = some (.int status) := by
    rw [Members.get?_eq_head?]
    exact congrArg List.head? h
  have hfalsy : (Value.int status).isFalsy = false := by simpa [Value.isFalsy] using hstatus
  rw [Problem.statusOf, hget, Option.getD_some, hfalsy]
  rfl

/-- What is published of a problem is one. -/
theorem Names.isProblem {problem : Members} {status : Int} (h : Names problem status) :
    Reply.IsProblem ⟨status, [⟨"content-type", problemType⟩], .json (Value.obj problem).published⟩ := by
  refine ⟨rfl, ?_⟩
  change (Body.json (Value.obj problem).published).statuses = _
  rw [statuses_published, h]
  rfl

end Problem

namespace Http

/-! ### What the routes give -/

/-- How many segments of a pattern are named. -/
def Segment.holes : List Segment → Nat
  | [] => 0
  | .fixed _ :: ps => holes ps
  | .named _ :: ps => holes ps + 1

/-- A pattern that fits gives one text for each of its named segments. -/
theorem Segment.length_of_fit? {ps : List Segment} {ss args : List Text}
    (h : fit? ps ss = some args) : args.length = holes ps := by
  fun_induction fit? ps ss generalizing args with
  | case1 => cases h; rfl
  | case2 => cases h; rfl
  | case4 _ _ _ _ ih => exact ih h
  | case7 _ _ _ _ _ ih =>
    obtain ⟨more, hmore, rfl⟩ := Option.map_eq_some_iff.1 h
    exact congrArg (· + 1) (ih hmore)
  | case3 | case5 | case6 | case8 => cases h

/-- Both mounts of an endpoint name the same segments. -/
theorem Route.holes_of_mem : ∀ r ∈ all, Segment.holes r.pattern = Segment.holes r.endpoint.pattern := by
  decide

/-- The routes lead to an endpoint with as many texts as its pattern names. -/
theorem Route.length_of_find {method path : Text} {e : Endpoint} {args : List Text}
    (h : find method path = .endpoint e args) : args.length = Segment.holes e.pattern := by
  have hmem : (e, args) ∈ fitting path := by
    unfold find at h
    split at h
    · split at h <;> cases h
    · rename_i hfitting
      split at h
      · rename_i hfound
        cases h
        exact hfitting ▸ List.mem_of_find?_eq_some hfound
      · cases h
  obtain ⟨r, hr, hfit⟩ := List.mem_filterMap.1 hmem
  obtain ⟨_, hargs, heq⟩ := Option.map_eq_some_iff.1 hfit
  cases heq
  obtain ⟨ss, -, hss⟩ := Option.bind_eq_some_iff.1 hargs
  rw [Segment.length_of_fit? hss, holes_of_mem r hr]

end Http

namespace Service

open Store Http

namespace Action

variable {α β : Type}

/-- Whatever the action gives, in any state, has the property. -/
def Gives (P : α → Prop) (a : Action α) : Prop := ∀ s x, (exec a s).1 = .ok x → P x

theorem gives_pure {P : α → Prop} {a : α} (h : P a) : Gives P (pure a : Action α) := by
  intro s x hx
  cases hx
  exact h

theorem gives_throw (P : α → Prop) (e : Failure) : Gives P (throw e : Action α) := by
  intro s x hx
  cases hx

theorem gives_bind {P : β → Prop} {Q : α → Prop} {a : Action α} {f : α → Action β}
    (ha : Gives Q a) (hf : ∀ x, Q x → Gives P (f x)) : Gives P (a >>= f) := by
  intro s y hy
  rw [exec_bind] at hy
  rcases hexec : exec a s with ⟨e | x, t⟩
  · rw [hexec] at hy
    cases hy
  · rw [hexec] at hy
    exact hf x (ha s x (congrArg Prod.fst hexec)) t y hy

/-- What only the second action gives does not depend on what the first one gives. -/
theorem gives_of_forall {P : β → Prop} {a : Action α} {f : α → Action β} (hf : ∀ x, Gives P (f x)) :
    Gives P (a >>= f) :=
  gives_bind (Q := fun _ => True) (fun _ _ _ => trivial) fun x _ => hf x

/-- A JSON body gives the one reply that it makes. -/
theorem gives_json (status : Int) (type : Text) (v : Value) :
    Gives (· = ⟨status, [⟨"content-type", type⟩], .json v⟩)
      (ofExcept .reply (Reply.json status type v [])) := by
  intro s reply hreply
  rw [exec_ofExcept] at hreply
  cases hmade : Reply.json status type v [] with
  | error e => rw [hmade] at hreply; cases hreply
  | ok made =>
    rw [hmade] at hreply
    cases hreply
    exact Reply.eq_of_json hmade

end Action

/-! ### One endpoint after the other -/

/-- The property holds of every reply that an endpoint makes: of one with a status below 400, and of one
that states a problem. Neither has a header beside its content type. -/
structure Common (P : Reply → Prop) : Prop where
  told : ∀ {status : Int}, status < 400 → ∀ (type : Text) (body : Body),
    P ⟨status, [⟨"content-type", type⟩], body⟩
  problem : ∀ {problem : Members} {status : Int}, Problem.Names problem status →
    P ⟨status, [⟨"content-type", problemType⟩], .json (Value.obj problem).published⟩

/-- What an endpoint makes tells of a failure as it should. -/
theorem common_uniform : Common Reply.Uniform where
  told hstatus _ _ hfailed := absurd hfailed (Int.not_le.2 hstatus)
  problem hnames _ := hnames.isProblem

namespace Common

open Intake.Service.Action

variable {P : Reply → Prop}
variable (h : Common P)

include h

theorem ok {status : Int} (hstatus : status < 400) (body : Value) : Gives P (Action.ok status body) := by
  intro s reply hreply
  rw [gives_json status jsonType body.published s reply hreply]
  exact h.told hstatus _ _

theorem refuse {problem : Members} {status : Int} (hstatus : status ≠ 0)
    (hnames : Problem.Names problem status) : Gives P (Action.refuse problem) := by
  rw [Action.refuse, Problem.reply, hnames.statusOf hstatus]
  intro s reply hreply
  rw [gives_json status problemType (Value.obj problem).published s reply hreply]
  exact h.problem hnames

theorem getDocument (d : Document) : Gives P (Action.getDocument d) := by
  refine gives_of_forall fun s => ?_
  split
  · intro s reply hreply
    rw [gives_json _ _ _ s reply hreply]
    exact h.told (by decide) _ _
  · exact gives_pure (h.told (by decide) _ _)

theorem withForm (id : Text) {k : FormRow → Action Reply} (hk : ∀ row, Gives P (k row)) :
    Gives P (Action.withForm id k) :=
  gives_of_forall fun found => by
    cases found with
    | some row => exact hk row
    | none => exact h.refuse (by decide) (Problem.names_make _ _ _ _ rfl)

theorem postForm (payload : Value) : Gives P (Action.postForm payload) := by
  refine gives_bind (Q := fun outcome => verdict payload = .ok outcome) ?_ fun outcome hverdict => ?_
  · intro s outcome hgiven
    rwa [exec_newForm] at hgiven
  · cases outcome with
    | error problem => exact h.refuse (by decide) (Problem.names_verdict hverdict)
    | ok form =>
      exact gives_of_forall fun row => gives_of_forall fun view => h.ok (by decide) _

theorem postVisible (id : Text) (body : Value) : Gives P (Action.postVisible id body) := by
  refine h.withForm id fun row => ?_
  cases answersOf body with
  | none => exact h.refuse (by decide) (Problem.names_make _ _ _ _ rfl)
  | some answers => exact gives_of_forall fun questions => h.ok (by decide) _

/-- A submission that was accepted is answered for whatever the remote service does with it. -/
theorem deliver (client : Remote.Client) (row : FormRow) (questions : List Question)
    (accepted : Members) : Gives P (Action.deliver client row questions accepted) := by
  refine gives_of_forall fun outcome => ?_
  split
  · exact gives_of_forall fun _ => gives_of_forall fun _ => gives_of_forall fun _ =>
      h.ok (by decide) _
  · exact gives_of_forall fun _ => gives_of_forall fun _ => gives_of_forall fun _ =>
      h.refuse (by decide) (Problem.names_make _ _ _ _ rfl)
  · exact gives_throw _ _

theorem postSubmission (access : Access) (id : Text) (body : Value) :
    Gives P (Action.postSubmission access id body) := by
  refine gives_of_forall fun client => ?_
  cases answersOf body with
  | none => exact h.refuse (by decide) (Problem.names_make _ _ _ _ rfl)
  | some answers =>
    refine h.withForm id fun row => gives_of_forall fun questions => ?_
    cases Submission.accept questions answers with
    | error e => exact h.refuse (by decide) (Problem.names_ofFormError e)
    | ok accepted => exact h.deliver client row questions accepted

theorem postNotification (body : Value) : Gives P (Action.postNotification body) := by
  unfold Action.postNotification
  split
  · exact gives_of_forall fun summary => h.ok (by decide) _
  · exact h.refuse (by decide) (Problem.names_make _ _ _ _ rfl)

theorem getTableFields (access : Access) (base table : Text) :
    Gives P (Action.getTableFields access base table) := by
  refine gives_of_forall fun client => ?_
  split
  · exact h.refuse (by decide) (Problem.names_make _ _ _ _ rfl)
  · refine gives_of_forall fun outcome => ?_
    split
    · exact h.refuse (by decide) (Problem.names_make _ _ _ _ rfl)
    · exact gives_throw _ _
    · refine gives_of_forall fun found => ?_
      split
      · exact h.refuse (by decide) (Problem.names_make _ _ _ _ rfl)
      · exact gives_of_forall fun columns => gives_of_forall fun drafts => h.ok (by decide) _

theorem getHealth : Gives P Action.getHealth := by
  refine gives_of_forall fun s => ?_
  split <;> exact h.ok (by decide) _

/-- What is common to the replies that endpoints make holds of whatever is served. -/
theorem serve (c : Config) (r : Request) {e : Endpoint} {args : List Text}
    (hargs : args.length = Segment.holes e.pattern) : Gives P (Action.serve c r e args) := by
  match e, args with
  | .document d, _ => exact h.getDocument d
  | .listForms, _ => exact gives_of_forall fun _ => h.ok (by decide) _
  | .createForm, _ => exact h.postForm _
  | .getForm, id :: _ =>
    exact h.withForm id fun _ => gives_of_forall fun _ => h.ok (by decide) _
  | .visibleQuestions, id :: _ => exact h.postVisible _ _
  | .submit, id :: _ => exact h.postSubmission _ _ _
  | .listResponses, id :: _ =>
    exact h.withForm id fun _ => gives_of_forall fun _ => gives_of_forall fun _ =>
      h.ok (by decide) _
  | .notify, _ => exact h.postNotification _
  | .liveness, _ => exact gives_of_forall fun _ => h.ok (by decide) _
  | .tableFields, base :: table :: _ => exact h.getTableFields _ _ _
  | .health, _ => exact h.getHealth

end Common

namespace Action

/-- Where the routes do not tell of a failure themselves, what is dispatched gives none that is not told
as a problem. -/
theorem uniform_dispatch (c : Config) {r : Request}
    (h : (Route.find r.method r.path).failure? = none) : Gives Reply.Uniform (dispatch c r) := by
  unfold dispatch
  cases hfind : Route.find r.method r.path with
  | endpoint e args => exact common_uniform.serve c r (Route.length_of_find hfind)
  | elsewhere path => exact gives_pure fun hfailed => absurd hfailed (by decide : ¬(400 : Int) ≤ 307)
  | wrongMethod allowed => rw [hfind] at h; cases h
  | nowhere => rw [hfind] at h; cases h

theorem dispatch_of_failure {c : Config} {r : Request} {told : Reply}
    (h : (Route.find r.method r.path).failure? = some told) : dispatch c r = pure told := by
  unfold dispatch
  cases hfind : Route.find r.method r.path with
  | endpoint e args => rw [hfind] at h; cases h
  | elsewhere path => rw [hfind] at h; cases h
  | wrongMethod allowed => rw [hfind] at h; cases h; rfl
  | nowhere => rw [hfind] at h; cases h; rfl

end Action

/-! ### What leaves the service -/

/-- On its way out a reply keeps its content types. -/
theorem contentTypes_finish (c : Config) (r : Request) (id : Text) (reply : Reply) :
    (finish c r id (.ok reply)).contentTypes = reply.contentTypes :=
  (contentTypes_stamp c.origins r _).trans (valuesOf_stampHeaders rfl id reply)

/-- What leaves the service is uniform if what the endpoint gave is, and if the endpoint broke off. -/
theorem uniform_finish (c : Config) (r : Request) (id : Text) {outcome : Except Failure Reply}
    (h : ∀ reply, outcome = .ok reply → reply.Uniform) : (finish c r id outcome).Uniform := by
  intro hfailed
  cases outcome with
  | error e => exact ⟨rfl, rfl⟩
  | ok reply =>
    have hproblem := h reply rfl hfailed
    exact ⟨(contentTypes_finish c r id reply).trans hproblem.type, hproblem.status⟩

/-- What the routes themselves tell of a failure is no problem. -/
theorem finish_of_failure {target : Route.Target} {told : Reply} (h : target.failure? = some told)
    (c : Config) (r : Request) (id : Text) :
    let reply := finish c r id (.ok told)
    400 ≤ reply.status ∧ reply.contentTypes = [jsonType] ∧ reply.body.statuses = [] := by
  have htold : 400 ≤ told.status ∧ told.contentTypes = [jsonType] ∧ told.body.statuses = [] := by
    cases target with
    | endpoint e args => cases h
    | elsewhere path => cases h
    | wrongMethod allowed => cases h; exact ⟨(by decide : (400 : Int) ≤ 405), rfl, rfl⟩
    | nowhere => cases h; exact ⟨by decide, rfl, rfl⟩
  exact ⟨htold.1, (contentTypes_finish c r id told).trans htold.2.1, htold.2.2⟩

/-- **Which failures are told as problems.** A request that is no preflight is answered uniformly in every
state, unless its path fits no pattern or its method is not one of those that fit. Then the reply is the
one of the routes: of the type of any JSON, and without a status inside. -/
theorem failures_uniform_iff (c : Config) {r : Request} (h : Origin.preflight? c.origins r = none)
    (s : State) :
    let reply := ((handle c r).run s).1
    let own := (Route.find r.method r.path).failure?
    (reply.Uniform ↔ own = none) ∧
      ∀ told, own = some told → reply = finish c r ((nameRequest r).run s).1 (.ok told) ∧
        400 ≤ reply.status ∧ reply.contentTypes = [jsonType] ∧ reply.body.statuses = [] := by
  intro reply own
  have hreply : reply = finish c r ((nameRequest r).run s).1
      (Action.exec (Action.dispatch c r) (s.requestNamed r)).1 :=
    congrArg Prod.fst (handle_of_no_preflight h s)
  have htold : ∀ told, own = some told → reply = finish c r ((nameRequest r).run s).1 (.ok told) := by
    intro told hown
    rw [hreply, Action.dispatch_of_failure hown, Action.exec_pure]
  refine ⟨⟨fun huniform => ?_, fun hnone => ?_⟩, fun told hown => ⟨htold told hown, ?_⟩⟩
  · cases hown : own with
    | none => rfl
    | some told =>
      obtain ⟨hfailed, htypes, -⟩ := finish_of_failure hown c r ((nameRequest r).run s).1
      rw [← htold told hown] at hfailed htypes
      exact absurd (htypes.symm.trans (huniform hfailed).type) (by decide)
  · rw [hreply]
    exact uniform_finish c r _ fun told => Action.uniform_dispatch c hnone _ told
  · rw [htold told hown]
    exact finish_of_failure hown c r _

/-- A request for a path that is not offered. -/
def straying : Request := ⟨"GET", "localhost", "/nowhere", [], [], []⟩

/-- Such a request is told that there is nothing, but not by a problem. -/
theorem failures_uniform_iff_straying :
    Origin.preflight? Config.plain.origins straying = none ∧
    (let reply := ((handle .plain straying).run State.initial).1
    let own := (Route.find straying.method straying.path).failure?
    (reply.Uniform ↔ own = none) ∧
      ∀ told, own = some told →
        reply = finish .plain straying ((nameRequest straying).run State.initial).1 (.ok told) ∧
        400 ≤ reply.status ∧ reply.contentTypes = [jsonType] ∧ reply.body.statuses = []) ∧
    (Route.find straying.method straying.path).failure? = some Route.notFound := by
  have hpreflight : Origin.preflight? Config.plain.origins straying = none := rfl
  exact ⟨hpreflight, failures_uniform_iff .plain hpreflight State.initial, rfl⟩

/-- Not every failure is told as a problem. -/
theorem failures_not_uniform :
    ¬ ∀ (env : Environment) (c : Config) (turns : List Turn) (r : Request),
      Origin.preflight? c.origins r = none → ((handle c r).run (course env c turns).state).1.Uniform := by
  intro hclaim
  have huniform := hclaim .standard .plain [] straying rfl
  exact absurd (huniform (by decide)).type (by decide)

end Service
end Intake
