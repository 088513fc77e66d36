import Intake.Proofs.Service.Responses

/-!
# Record ids

Stored responses get their record ids from two sources. The remote service names one for each submission that
it takes; for a submission that it does not take, the service makes a mark out of the time in milliseconds.
Ids of the remote service differ when it never names one twice. Marks differ exactly when no two submissions
failed in the same millisecond, so the record ids of a run are distinct just in that case.

        submission ──▶ taken ──────▶ the id that was named      rec0001, rec0002, …
                   └─▶ not taken ──▶ the mark of the time       ERROR_1700000000000, …
-/

namespace Intake

namespace Remote.Peer

/-- What is answered to several requests, one after the other. -/
def answers : List Request → Peer → List (Request × Answer)
  | [], _ => []
  | r :: rs, p => (r, (p.exchange r).1) :: answers rs (p.exchange r).2

/-- The record ids that are named to the requests for a record. -/
def named (p : Peer) (rs : List Request) : List Text :=
  ((answers rs p).filter fun e => e.1.method = .post).filterMap fun e => e.2.recordId?

/-- One request for a record. -/
theorem named_singleton {p q : Peer} {r : Request} {answer : Answer} {id : Text}
    (hexchange : p.exchange r = (answer, q)) (hmethod : r.method = .post)
    (hid : answer.recordId? = some id) : p.named [r] = [id] := by
  simp [named, answers, hexchange, hmethod, hid]

end Remote.Peer

namespace Service

open Store Http

/-- The record ids of the stored responses, the oldest first. -/
def State.recordIds (s : State) : List Text := s.store.responses.map (·.recordId)

/-- The record ids that the remote service named between two states. -/
def namedBetween (s t : State) : List Text := s.peer.named (t.peer.sent.drop s.peer.sent.length)

/-- The responses that were stored between two states because the remote service did not take them. -/
def failedBetween (s t : State) : List ResponseRow :=
  (t.store.responses.drop s.store.responses.length).filter fun row => row.status = SyncStatus.error.name

section Between

variable {s t : State} {row : ResponseRow}

theorem recordIds_of_origins
    (h : t.store.responses.map ResponseRow.origin = s.store.responses.map ResponseRow.origin) :
    t.recordIds = s.recordIds :=
  map_of_origins h fun _ => rfl

theorem recordIds_of_append (h : t.store.responses = s.store.responses ++ [row]) :
    t.recordIds = s.recordIds ++ [row.recordId] := by
  rw [State.recordIds, h, List.map_append]
  rfl

theorem failedBetween_of_origins
    (h : t.store.responses.map ResponseRow.origin = s.store.responses.map ResponseRow.origin) :
    failedBetween s t = [] := by
  have hlength : t.store.responses.length = s.store.responses.length := by
    simpa only [List.length_map] using congrArg List.length h
  rw [failedBetween, ← hlength, List.drop_length]
  rfl

theorem failedBetween_of_append (h : t.store.responses = s.store.responses ++ [row]) :
    failedBetween s t = if row.status = SyncStatus.error.name then [row] else [] := by
  rw [failedBetween, h, List.drop_left]
  by_cases hrow : row.status = SyncStatus.error.name <;> simp [hrow]

end Between

/-! ### What a turn adds -/

/-- What a turn adds to the responses: nothing, one with an id that the remote service named meanwhile, or
one with the mark of the time. -/
inductive Gains (s t : State) : Prop where
  | nothing (h : t.store.responses.map ResponseRow.origin = s.store.responses.map ResponseRow.origin)
  | taken (row : ResponseRow) (h : t.store.responses = s.store.responses ++ [row])
      (status : row.status = SyncStatus.synced.name) (named : namedBetween s t = [row.recordId])
  | failed (row : ResponseRow) (h : t.store.responses = s.store.responses ++ [row])
      (status : row.status = SyncStatus.error.name) (marked : row.recordId = Action.placeholderAt s.millis)

namespace Gains

variable {s t : State}

theorem of_same (h : t.store.responses = s.store.responses) : Gains s t := .nothing (by rw [h])

theorem of_postSubmission (access : Access) (id : Text) (body : Value) (s : State) :
    Gains s (Action.exec (Action.postSubmission access id body) s).2 := by
  have hsubmits := Action.submits_to access id body s
  generalize Action.exec (Action.postSubmission access id body) s = out at hsubmits
  cases hsubmits with
  | unchanged outcome status => exact .of_same rfl
  | delivered client form questions accepted addressed accepts =>
    obtain rfl : form.id = id := by simpa using List.find?_some accepts.found
    have hends := Action.deliver_ends client questions accepted accepts.up accepts.encodable
    generalize Action.exec (Action.deliver client form questions accepted) s = out at hends
    cases hends with
    | unsent e t unheard store peer events => exact .of_same (by rw [store])
    | unkept e t answer asked unkept store events => exact .of_same (by rw [store])
    | synced answer after recordId asked kept outcome status =>
      refine .taken _ rfl rfl ?_
      obtain ⟨path, url, -, -, -, hexchange⟩ := asked
      have hsent := Remote.Peer.sent_exchange
        (client.creating url (.obj (Submission.columns questions accepted))) s.peer
      rw [hexchange] at hsent
      change s.peer.named (after.sent.drop s.peer.sent.length) = [recordId]
      rw [hsent, List.drop_left]
      exact Remote.Peer.named_singleton hexchange rfl (recordId?_of_synced kept)
    | failed answer after asked kept outcome status => exact .failed _ rfl rfl rfl

theorem of_dispatch (c : Config) (r : Request) (s : State) :
    Gains s (Action.exec (Action.dispatch c r) s).2 := by
  rcases Action.dispatch_cases c r with h | ⟨id, h⟩ | h
  · rw [h]
    exact .of_same (Action.responses_postForm _ s)
  · rw [h]
    exact of_postSubmission _ _ _ s
  · exact .nothing (h Action.compositional_keeps s).responses

theorem of_act (c : Config) (t : Turn) (s : State) : Gains s (t.act c s) := by
  cases t with
  | request r =>
    rw [Turn.act]
    cases h : Origin.preflight? c.origins r with
    | some reply =>
      rw [handle_of_preflight h]
      exact .of_same rfl
    | none =>
      rw [handle_of_no_preflight h]
      -- the number of the request plays no part
      cases of_dispatch c r (s.requestNamed r) with
      | nothing h => exact .nothing h
      | taken row h status named => exact .taken row h status named
      | failed row h status marked => exact .failed row h status marked
  | fetch clear => cases clear <;> exact .of_same rfl
  | _ => exact .of_same rfl

end Gains

/-! ### Runs and their failures -/

/-- A run: the state, the record ids that the remote service named, and the times of day at which
submissions failed. -/
structure Chronicle where
  state : State
  named : List Text
  failures : List Nat

namespace Chronicle

/-- Before the first turn. -/
def start (env : Environment) : Chronicle := ⟨State.initial env, [], []⟩

/-- One more turn. -/
def next (c : Config) (k : Chronicle) (t : Turn) : Chronicle :=
  let s := t.act c k.state
  ⟨s, k.named ++ namedBetween k.state s,
    k.failures ++ (failedBetween k.state s).map fun _ => k.state.millis⟩

end Chronicle

/-- The run of several turns. -/
def chronicle (env : Environment) (c : Config) (turns : List Turn) : Chronicle :=
  turns.foldl (Chronicle.next c) (Chronicle.start env)

theorem chronicle_concat (env : Environment) (c : Config) (turns : List Turn) (t : Turn) :
    chronicle env c (turns ++ [t]) = (chronicle env c turns).next c t := by
  rw [chronicle, List.foldl_append]
  rfl

theorem state_chronicle (env : Environment) (c : Config) (turns : List Turn) :
    (chronicle env c turns).state = (course env c turns).state := by
  induction turns using List.reverseRecOn with
  | nil => rfl
  | append_singleton turns t ih => rw [chronicle_concat, course_concat, ← ih, Chronicle.next]

/-- The text begins as marks do. -/
def isMark (id : Text) : Bool := ("ERROR_" : Text).isPrefixOf id

theorem isMark_placeholderAt (time : Nat) : isMark (Action.placeholderAt time) = true := by
  rw [isMark, List.isPrefixOf_iff_prefix]
  exact List.prefix_append _ _

/-- The marks among the record ids are those of the failures, and the others were named. -/
structure Chronicle.Sourced (k : Chronicle) : Prop where
  marks : k.state.recordIds.filter isMark = k.failures.map Action.placeholderAt
  others : (k.state.recordIds.filter fun id => !isMark id).Sublist k.named

namespace Chronicle.Sourced

variable {k : Chronicle}

theorem start (env : Environment) : Sourced (Chronicle.start env) := ⟨rfl, .slnil⟩

/-- Each kind of turn keeps both, when no mark is named. -/
theorem next (h : Sourced k) (c : Config) (t : Turn)
    (hnamed : ∀ id ∈ (k.next c t).named, isMark id = false) : Sourced (k.next c t) := by
  have hgains := Gains.of_act c t k.state
  rw [Chronicle.next] at hnamed ⊢
  simp only at hnamed ⊢
  generalize t.act c k.state = later at hgains hnamed ⊢
  cases hgains with
  | nothing hsame =>
    refine ⟨?_, ?_⟩
    · simp only [recordIds_of_origins hsame, failedBetween_of_origins hsame, List.map_nil, List.append_nil]
      exact h.marks
    · simp only [recordIds_of_origins hsame]
      exact h.others.trans (List.sublist_append_left _ _)
  | taken row hadded status named =>
    have hother : isMark row.recordId = false := hnamed _ (by rw [named]; simp)
    have hfailed : failedBetween k.state later = [] := by
      rw [failedBetween_of_append hadded, status]
      rfl
    refine ⟨?_, ?_⟩
    · simp only [recordIds_of_append hadded, hfailed, List.map_nil, List.append_nil, List.filter_append]
      simpa [hother] using h.marks
    · simp only [recordIds_of_append hadded, named, List.filter_append]
      simpa [hother] using h.others
  | failed row hadded status marked =>
    have hmark : isMark row.recordId = true := by rw [marked, isMark_placeholderAt]
    have hfailed : failedBetween k.state later = [row] := by
      rw [failedBetween_of_append hadded, status]
      rfl
    refine ⟨?_, ?_⟩
    · simp only [recordIds_of_append hadded, hfailed, List.filter_append, h.marks, List.map_append]
      simp [marked, isMark_placeholderAt]
    · have hothers : (k.state.recordIds ++ [row.recordId]).filter (fun id => !isMark id) =
          k.state.recordIds.filter fun id => !isMark id := by simp [hmark]
      simp only [recordIds_of_append hadded, hothers]
      exact h.others.trans (List.sublist_append_left _ _)

end Chronicle.Sourced

/-- The record ids of a run come from its failures and from the remote service. -/
theorem sourced_chronicle (env : Environment) (c : Config) {turns : List Turn}
    (hnamed : ∀ id ∈ (chronicle env c turns).named, isMark id = false) :
    (chronicle env c turns).Sourced := by
  induction turns using List.reverseRecOn with
  | nil => exact .start env
  | append_singleton turns t ih =>
    rw [chronicle_concat] at hnamed ⊢
    refine Chronicle.Sourced.next (ih ?_) c t hnamed
    intro id hid
    exact hnamed id (List.mem_append_left _ hid)

/-- The record ids of a run are distinct exactly when no two submissions failed in the same millisecond,
whatever the time of day does, as long as the remote service names no id twice and none that begins as marks
do. -/
theorem record_ids_distinct_iff (env : Environment) (c : Config) {turns : List Turn}
    (hdistinct : (chronicle env c turns).named.Nodup)
    (hnamed : ∀ id ∈ (chronicle env c turns).named, isMark id = false) :
    (course env c turns).state.recordIds.Nodup ↔ (chronicle env c turns).failures.Nodup := by
  obtain ⟨hmarks, hothers⟩ := sourced_chronicle env c hnamed
  rw [state_chronicle] at hmarks hothers
  generalize (course env c turns).state.recordIds = ids at hmarks hothers ⊢
  have hsplit : (ids.filter isMark ++ ids.filter fun id => !isMark id).Perm ids :=
    List.filter_append_perm isMark ids
  -- no id is both a mark and another one
  have hdisjoint : List.Disjoint (ids.filter isMark) (ids.filter fun id => !isMark id) := by
    intro id hmark hother
    have hmark := (List.mem_filter.1 hmark).2
    have hother := (List.mem_filter.1 hother).2
    rw [hmark] at hother
    cases hother
  have hinjective : Function.Injective Action.placeholderAt :=
    fun _ _ h => Action.placeholderAt_inj.1 h
  rw [← hsplit.nodup_iff, List.nodup_append', hmarks, List.nodup_map_iff hinjective]
  exact ⟨fun h => h.1, fun h => ⟨h, hothers.nodup hdistinct, hmarks ▸ hdisjoint⟩⟩

/-- A form is created, two submissions fail at two times, and a third one is taken. -/
def failingRun (first second : Nat) : List Turn :=
  demandingRun ++
    [.remote [.unreachable "timed out", .unreachable "timed out"] (.arr []), .time first,
      .request (answering (.int 1)), .time second, .request (answering (.int 1)),
      .request (answering (.int 1))]

/-- Two failures at different times leave different marks. -/
theorem record_ids_distinct_iff_apart :
    (chronicle .standard .plain (failingRun 1700000000000 1700000000001)).named.Nodup ∧
    (∀ id ∈ (chronicle .standard .plain (failingRun 1700000000000 1700000000001)).named,
      isMark id = false) ∧
    (chronicle .standard .plain (failingRun 1700000000000 1700000000001)).failures =
      [1700000000000, 1700000000001] ∧
    (course .standard .plain (failingRun 1700000000000 1700000000001)).state.recordIds.Nodup := by
  obtain ⟨hnamed, hfailures⟩ :
      (chronicle .standard .plain (failingRun 1700000000000 1700000000001)).named = [("rec0001" : Text)] ∧
      (chronicle .standard .plain (failingRun 1700000000000 1700000000001)).failures =
        [1700000000000, 1700000000001] := by decide +kernel
  have hdistinct :
      (chronicle .standard .plain (failingRun 1700000000000 1700000000001)).named.Nodup := by
    rw [hnamed]
    decide
  have hmarks : ∀ id ∈ (chronicle .standard .plain (failingRun 1700000000000 1700000000001)).named,
      isMark id = false := by
    rw [hnamed]
    decide
  refine ⟨hdistinct, hmarks, hfailures,
    (record_ids_distinct_iff .standard .plain hdistinct hmarks).2 ?_⟩
  rw [hfailures]
  decide

/-- The time of day that a turn sets. -/
def Turn.time? : Turn → Option Nat
  | time millis => some millis
  | _ => none

/-- Though the time of day never goes back, two failures can leave the same mark. -/
theorem record_ids_not_distinct :
    ¬ ∀ (env : Environment) (c : Config) (turns : List Turn),
      (turns.filterMap Turn.time?).Pairwise (· ≤ ·) → (chronicle env c turns).named.Nodup →
      (∀ id ∈ (chronicle env c turns).named, isMark id = false) →
      (course env c turns).state.recordIds.Nodup := by
  intro hclaim
  obtain ⟨hnamed, hids⟩ :
      (chronicle .standard .plain (failingRun 1700000000000 1700000000000)).named = [("rec0001" : Text)] ∧
      (course .standard .plain (failingRun 1700000000000 1700000000000)).state.recordIds =
        [("ERROR_1700000000000" : Text), ("ERROR_1700000000000" : Text), ("rec0001" : Text)] := by
    decide +kernel
  have hdistinct := hclaim .standard .plain (failingRun 1700000000000 1700000000000) (by decide)
    (by rw [hnamed]; decide) (by rw [hnamed]; decide)
  rw [hids] at hdistinct
  exact absurd hdistinct (by decide)

end Service
end Intake
