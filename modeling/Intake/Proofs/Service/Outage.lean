import Intake.Proofs.Service.Converging
import Intake.Proofs.Service.Replies

/-!
# While the store is down

Every request needs the store before it does anything that lasts, so while the store cannot be reached a
request leaves nothing behind: no row, no event, and no record at the remote service. A notification is
answered all the same. Each of its changes fails by itself and is counted, and delivering the notification
again makes up for all of them.

        down    change ──▶ failed    change ──▶ failed    …    200, nothing changed
        up      change ──▶ applied   change ──▶ applied   …    200, as if delivered only now
-/

namespace Intake

namespace Remote.Client

/-- Listing tables sends nothing, or one request that only reads. -/
theorem sent_listTables (client : Client) (base : Text) (p : Peer) :
    ∃ asked, (client.listTables base p).2.sent = p.sent ++ asked ∧ ∀ r ∈ asked, r.method = .get := by
  have hnone : ∃ asked, p.sent = p.sent ++ asked ∧ ∀ r ∈ asked, r.method = Method.get :=
    ⟨[], (List.append_nil _).symm, by simp⟩
  unfold listTables
  split
  · exact hnone
  · unfold call sendable
    split
    · exact hnone
    · simp only
      split
      · exact hnone
      · refine ⟨_, Peer.sent_exchange _ p, ?_⟩
        simp

end Remote.Client

namespace Service

open Store Http Notification

/-- Nothing was stored, nothing was published, and the remote service was only asked. -/
structure Idle (s t : State) : Prop where
  store : t.store = s.store
  events : t.events = s.events
  isDown : t.isDown = s.isDown
  asked : ∃ asked, t.peer.sent = s.peer.sent ++ asked ∧ ∀ r ∈ asked, r.method = .get

namespace Idle

theorem of_same {s t : State} (store : t.store = s.store) (events : t.events = s.events)
    (isDown : t.isDown = s.isDown) (peer : t.peer = s.peer) : Idle s t :=
  ⟨store, events, isDown, [], by rw [peer, List.append_nil], by simp⟩

theorem refl (s : State) : Idle s s := of_same rfl rfl rfl rfl

theorem trans {s t u : State} (h : Idle s t) (g : Idle t u) : Idle s u := by
  obtain ⟨first, hfirst, hgets⟩ := h.asked
  obtain ⟨second, hsecond, hmore⟩ := g.asked
  refine ⟨g.store.trans h.store, g.events.trans h.events, g.isDown.trans h.isDown, first ++ second, ?_, ?_⟩
  · rw [hsecond, hfirst, List.append_assoc]
  · intro r hr
    rcases List.mem_append.1 hr with hr | hr
    · exact hgets r hr
    · exact hmore r hr

end Idle

namespace Action

/-! ### Requests that break off -/

theorem exec_withForm_of_down {s : State} (hs : s.isDown = true) (id : Text)
    (k : FormRow → Action Reply) :
    exec (withForm id k) s = (.error (.store .unavailable), s) := by
  rw [exec_withForm, if_pos hs]

theorem exec_listForms_of_down {s : State} (hs : s.isDown = true) :
    exec listForms s = (.error (.store .unavailable), s) := by
  rw [listForms, exec_bind, forms, exec_bind, exec_reach, if_pos hs]

/-- A form that passes uses up an id and a reading of the clock. -/
theorem idle_postForm {s : State} (hs : s.isDown = true) (payload : Value) :
    Idle s (exec (postForm payload) s).2 := by
  by_cases h : ∃ form, verdict payload = .ok (.ok form)
  · obtain ⟨form, passed⟩ := h
    rw [exec_postForm_of_passed passed, exec_storeForm, if_pos hs]
    exact .of_same rfl rfl rfl rfl
  · rw [exec_postForm_of_refused (not_exists.1 h)]
    exact .refl s

/-- A submission looks for its form before it is sent on. -/
theorem exec_postSubmission_of_down {s : State} (hs : s.isDown = true) (access : Access) (id : Text)
    (body : Value) : (exec (postSubmission access id body) s).2 = s := by
  rw [exec_postSubmission]
  cases Remote.Client.ofAccess access with
  | error e => rfl
  | ok client =>
    cases answersOf body with
    | none => simp
    | some answers => simp only [exec_withForm_of_down hs]

/-- What a table looks like is asked for, and the store takes no part in it. -/
theorem idle_getTableFields (access : Access) (base table : Text) (s : State) :
    Idle s (exec (getTableFields access base table) s).2 := by
  have hdescribe (found : Value) (t : State) : (exec (describeTable found) t).2 = t := by
    rw [describeTable, exec_bind, exec_ofExcept]
    cases Column.ofTable found with
    | error e => rfl
    | ok columns =>
      simp only [Except.mapError, exec_bind, exec_ofExcept]
      cases Draft.ofTable found <;> simp
  rw [getTableFields, exec_bind, exec_ofExcept]
  cases Remote.Client.ofAccess access with
  | error e => exact .refl s
  | ok client =>
    simp only [Except.mapError]
    split
    · simpa using Idle.refl s
    · have hasked : Idle s { s with peer := (client.listTables base s.peer).2 } :=
        ⟨rfl, rfl, rfl, client.sent_listTables base s.peer⟩
      simp only [exec_bind, exec_call]
      split
      · simpa using hasked
      · simpa using hasked
      · rename_i tables _
        simp only [exec_bind, exec_ofExcept]
        cases findTable (some table) tables with
        | error m => exact hasked
        | ok found =>
          cases found with
          | none => simpa [Except.mapError] using hasked
          | some found => simpa [Except.mapError, hdescribe] using hasked

/-- A document is shown as it is. -/
theorem exec_getDocument (d : Document) (s : State) : (exec (getDocument d) s).2 = s := by
  have hcontent : exec (contentOf d) s = (.ok (s.env.documents d), s) := rfl
  rw [getDocument, exec_bind, hcontent]
  simp only
  cases s.env.documents d with
  | json description => rw [exec_ofExcept]
  | text page => rfl

/-! ### Notifications -/

theorem exec_applyChange_of_down {s : State} (hs : s.isDown = true) (c : Change) (sum : Summary) :
    ∃ clock, exec (applyChange c sum) s = (.error (.store .unavailable), { s with clock := clock }) := by
  obtain ⟨kind, record⟩ := c
  cases kind with
  | created =>
    refine ⟨s.clock, ?_⟩
    simp only [applyChange, response?, exec_bind, exec_key, if_pos hs]
  | _ =>
    refine ⟨s.clock + 1, ?_⟩
    simp only [applyChange, markSynced, markDeleted, markWith, exec_bind, exec_now, exec_key, if_pos hs]

/-- A change fails without a trace. -/
theorem exec_attempt_of_down {s : State} (hs : s.isDown = true) (c : Change) (sum : Summary) :
    ∃ clock, exec (attempt c sum) s =
      (.ok { sum with failed := sum.failed + 1 }, { s with clock := clock }) := by
  obtain ⟨clock, happly⟩ := exec_applyChange_of_down hs c sum
  refine ⟨clock, ?_⟩
  rw [attempt, exec_tryCatch, happly]
  rfl

/-- So do all the changes of a notification, and each of them is counted. -/
theorem exec_follow_of_down {s : State} (hs : s.isDown = true) (cs : List Change) (sum : Summary) :
    ∃ clock, exec (follow (cs.map .change) sum) s =
      (.ok { sum with failed := sum.failed + cs.length }, { s with clock := clock }) := by
  induction cs generalizing s sum with
  | nil => exact ⟨s.clock, rfl⟩
  | cons c cs ih =>
    obtain ⟨clock, hattempt⟩ := exec_attempt_of_down hs c sum
    obtain ⟨later, hrest⟩ := ih (s := { s with clock := clock }) hs { sum with failed := sum.failed + 1 }
    refine ⟨later, ?_⟩
    rw [List.map_cons, follow, exec_bind, hattempt]
    simp only [hrest, List.length_cons]
    rw [Nat.add_right_comm, Nat.add_assoc]

/-- Whatever stands in a notification, going through it leaves no trace. -/
theorem exec_follow_any_of_down {s : State} (hs : s.isDown = true) (items : List Item) (sum : Summary) :
    ∃ outcome clock, exec (follow items sum) s = (outcome, { s with clock := clock }) := by
  induction items generalizing s sum with
  | nil => exact ⟨_, s.clock, rfl⟩
  | cons item rest ih =>
    cases item with
    | broken => exact ⟨_, s.clock, rfl⟩
    | change c =>
      obtain ⟨clock, hattempt⟩ := exec_attempt_of_down hs c sum
      obtain ⟨outcome, later, hrest⟩ :=
        ih (s := { s with clock := clock }) hs { sum with failed := sum.failed + 1 }
      refine ⟨outcome, later, ?_⟩
      rw [follow, exec_bind, hattempt]
      exact hrest

theorem idle_postNotification {s : State} (hs : s.isDown = true) (body : Value) :
    Idle s (exec (postNotification body) s).2 := by
  unfold postNotification reconcile
  split
  · obtain ⟨outcome, clock, hfollow⟩ := exec_follow_any_of_down hs (items body) Summary.none
    rw [exec_bind, hfollow]
    cases outcome with
    | error e => exact .of_same rfl rfl rfl rfl
    | ok sum =>
      simp only [exec_ok]
      exact .of_same rfl rfl rfl rfl
  · simpa using Idle.refl s

/-! ### All requests -/

theorem idle_serve {s : State} (hs : s.isDown = true) (c : Config) (r : Request) (e : Endpoint)
    (args : List Text) : Idle s (exec (serve c r e args) s).2 := by
  unfold serve
  split
  · rw [exec_getDocument]
    exact .refl s
  · rw [exec_listForms_of_down hs]
    exact .refl s
  · exact idle_postForm hs _
  · rw [getForm, exec_withForm_of_down hs]
    exact .refl s
  · rw [postVisible, exec_withForm_of_down hs]
    exact .refl s
  · rw [exec_postSubmission_of_down hs]
    exact .refl s
  · rw [listResponses, exec_withForm_of_down hs]
    exact .refl s
  · exact idle_postNotification hs _
  · rw [getLiveness, exec_bind, exec_now]
    simp only [exec_ok]
    exact .of_same rfl rfl rfl rfl
  · exact idle_getTableFields _ _ _ s
  · rw [getHealth, exec_bind, exec_get]
    simp only [hs, if_true, exec_ok]
    exact .refl s
  · exact .refl s

theorem idle_dispatch {s : State} (hs : s.isDown = true) (c : Config) (r : Request) :
    Idle s (exec (dispatch c r) s).2 := by
  unfold dispatch
  split
  · exact idle_serve hs c r _ _
  · exact .refl s
  · exact .refl s
  · exact .refl s

end Action

/-- While the store is down a request leaves nothing behind. -/
theorem idle_handle {s : State} (hs : s.isDown = true) (c : Config) (r : Request) :
    Idle s ((handle c r).run s).2 := by
  cases h : Origin.preflight? c.origins r with
  | some reply =>
    rw [handle_of_preflight h]
    exact .refl s
  | none =>
    rw [handle_of_no_preflight h]
    obtain ⟨hstore, hevents, hdown, hasked⟩ := Action.idle_dispatch (s := s.requestNamed r) hs c r
    exact ⟨hstore, hevents, hdown, hasked⟩

/-- So do several requests. -/
theorem idle_handleAll {s : State} (hs : s.isDown = true) (c : Config) (rs : List Request) :
    Idle s ((handleAll c rs).run s).2 := by
  induction rs generalizing s with
  | nil => exact .refl s
  | cons r rs ih =>
    have hfirst := idle_handle hs c r
    exact hfirst.trans (ih (hfirst.isDown.trans hs))

/-! ### Delivering again -/

/-- The reply to a notification tells what came of it. -/
structure Tells (total : Summary) (reply : Reply) : Prop where
  status : reply.status = 200
  summary : ∃ v, reply.body = .json v ∧ v.member "summary" = total.value

/-- The states agree on forms and events, and on responses but for the times of their last changes. -/
structure AgreeOnRecords (t u : State) : Prop where
  forms : t.store.forms = u.store.forms
  responses : t.store.responses.map ResponseRow.untimed = u.store.responses.map ResponseRow.untimed
  events : t.events = u.events

/-- The state when the store has come back. -/
def State.up (s : State) : State := { s with isDown := false }

theorem agreeOnRecords_foldl_reconciled (cs : List Change) {s t : State} (hstore : t.store = s.store)
    (hevents : t.events = s.events) :
    AgreeOnRecords (cs.foldl State.reconciled t) (cs.foldl State.reconciled s) := by
  refine ⟨?_, ?_, ?_⟩
  · rw [forms_foldl_reconciled, forms_foldl_reconciled, hstore]
  · rw [responses_foldl_reconciled, responses_foldl_reconciled, hstore]
  · rw [events_foldl_reconciled, events_foldl_reconciled, hstore, hevents]

namespace Action

/-- What is said about a notification can be told. -/
theorem exec_ok_summary (total : Summary) (s : State) :
    ∃ reply, exec (ok 200 (.obj [("success", .bool true),
      ("message", .ofString "Webhook processed successfully"), ("summary", total.value)])) s =
        (.ok reply, s) ∧ Tells total reply := by
  have hrenderable : (Value.obj [("success", .bool true),
      ("message", .ofString "Webhook processed successfully"), ("summary", total.value)]).published.renderable
      = .ok (Value.obj [("success", .bool true),
        ("message", .ofString "Webhook processed successfully"), ("summary", total.value)]).published :=
    rfl
  obtain ⟨reply, hreply, hstatus, hbody⟩ := Reply.json_of_renderable 200 jsonType hrenderable
  refine ⟨reply, ?_, hstatus, _, hbody, rfl⟩
  rw [exec_ok, hreply]
  rfl

/-- A notification of the right shape is answered, and counts every change as failed. -/
theorem exec_postNotification_of_down {body : Value} {s : State} (hs : s.isDown = true)
    (hbody : wellShaped body = true) : ∃ reply t, exec (postNotification body) s = (.ok reply, t) ∧
      Tells { Summary.none with failed := (changes body).length } reply := by
  obtain ⟨clock, hfollow⟩ := exec_follow_of_down hs (changes body) Summary.none
  obtain ⟨reply, hreply, htells⟩ := exec_ok_summary
    { Summary.none with failed := (changes body).length } { s with clock := clock }
  refine ⟨reply, { s with clock := clock }, ?_, htells⟩
  have haccepted := accepted_of_wellShaped hbody
  rw [postNotification, if_pos haccepted, exec_bind, reconcile, if_pos haccepted,
    items_of_wellShaped hbody, hfollow]
  simpa [Summary.none] using hreply

/-- While the store is up it is applied to its end. -/
theorem exec_postNotification_of_up {body : Value} {s : State} (hs : s.isDown = false)
    (hbody : wellShaped body = true) :
    (exec (postNotification body) s).2 = (changes body).foldl State.reconciled s := by
  rw [postNotification, if_pos (accepted_of_wellShaped hbody), exec_bind, exec_reconcile hs hbody]
  simp only [exec_ok]

end Action

theorem handle_notification_of_up {c : Config} {r : Request} {args : List Text} {s : State}
    (hroute : Route.find r.method r.path = .endpoint .notify args) (hs : s.isDown = false)
    (hbody : wellShaped (Action.bodyOf r) = true) : ((handle c r).run s).2 =
      (changes (Action.bodyOf r)).foldl State.reconciled (s.requestNamed r) := by
  obtain ⟨id, hhandle⟩ := handle_of_route (c := c) hroute s
  rw [hhandle, Action.serve]
  exact Action.exec_postNotification_of_up hs hbody

theorem handle_notification_of_down {c : Config} {r : Request} {args : List Text} {s : State}
    (hroute : Route.find r.method r.path = .endpoint .notify args) (hs : s.isDown = true)
    (hbody : wellShaped (Action.bodyOf r) = true) :
    Tells { Summary.none with failed := (changes (Action.bodyOf r)).length } ((handle c r).run s).1 := by
  obtain ⟨id, hhandle⟩ := handle_of_route (c := c) hroute s
  obtain ⟨reply, t, hexec, htells⟩ :=
    Action.exec_postNotification_of_down (s := s.requestNamed r) hs hbody
  rw [hhandle, Action.serve, hexec]
  exact ⟨htells.status, htells.summary⟩

/-- While the store is down, requests change no form and no response, publish no event and create no
record at the remote service, whatever they ask for. A notification of the right shape is still answered,
with every change that it lists counted as failed. When the store has come back, delivering it again
leaves the same records as if it had been delivered only then. -/
theorem outage_leaves_no_trace (c : Config) {s : State} (hdown : s.isDown = true) (rs : List Request) :
    Idle s ((handleAll c rs).run s).2 ∧
    ∀ (r : Request) (args : List Text), Route.find r.method r.path = .endpoint .notify args →
      wellShaped (Action.bodyOf r) = true →
      Tells { Summary.none with failed := (changes (Action.bodyOf r)).length }
        ((handle c r).run ((handleAll c rs).run s).2).1 ∧
      AgreeOnRecords
        ((handle c r).run ((handleAll c (rs ++ [r])).run s).2.up).2 ((handle c r).run s.up).2 := by
  have hidle (rs : List Request) := idle_handleAll hdown c rs
  refine ⟨hidle rs, ?_⟩
  intro r args hroute hbody
  refine ⟨handle_notification_of_down hroute ((hidle rs).isDown.trans hdown) hbody, ?_⟩
  rw [handle_notification_of_up hroute rfl hbody, handle_notification_of_up hroute rfl hbody]
  exact agreeOnRecords_foldl_reconciled _ (hidle _).store (hidle _).events

/-- A state with responses whose store is down. -/
def State.unreachable : State := { State.answered with isDown := true }

/-- A notification that one record changed and another one is gone. -/
def noticing : Request := posting "/webhooks/airtable" (notice ["rec1"] ["rec2"])

/-- The notification comes while the store is down, and again when it is back. -/
theorem outage_leaves_no_trace_twice :
    State.unreachable.isDown = true ∧
    Route.find noticing.method noticing.path = .endpoint .notify [] ∧
    wellShaped (Action.bodyOf noticing) = true ∧
    Idle State.unreachable ((handleAll .plain [noticing]).run State.unreachable).2 ∧
    Tells { Summary.none with failed := (changes (Action.bodyOf noticing)).length }
      ((handle .plain noticing).run ((handleAll .plain [noticing]).run State.unreachable).2).1 ∧
    AgreeOnRecords
      ((handle .plain noticing).run
        ((handleAll .plain ([noticing] ++ [noticing])).run State.unreachable).2.up).2
      ((handle .plain noticing).run State.unreachable.up).2 := by
  have hroute : Route.find noticing.method noticing.path = .endpoint .notify [] := by decide +kernel
  have hbody : wellShaped (Action.bodyOf noticing) = true := by decide +kernel
  obtain ⟨hidle, hagain⟩ := outage_leaves_no_trace .plain (s := State.unreachable) rfl [noticing]
  obtain ⟨htells, hagree⟩ := hagain noticing [] hroute hbody
  exact ⟨rfl, hroute, hbody, hidle, htells, hagree⟩

end Service
end Intake
