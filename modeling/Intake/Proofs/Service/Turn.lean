import Intake.Proofs.Service.Effect

/-!
# Runs of the service

A run is a list of turns: requests arrive, the store goes down and comes back, the remote service has
new answers ready, the time of day is set, and somebody fetches the events. No action of the service looks
at the events that were published before. So a run in which events are fetched now and then is the run
without any fetching, with its events cut into what was taken away and what is still there.

        log of a run   =   taken by the first fetch ++ … ++ taken by the last fetch ++ still there
-/

namespace Intake.Service

open Http

/-- What can happen to the service. -/
inductive Turn where
  | request (r : Request)
  | outage (down : Bool)
  | remote (script : List Remote.Answer) (tables : Value)
  | time (millis : Nat)
  | fetch (clear : Bool)

/-- A run up to some turn: the state, and the events that were taken away. -/
structure Course where
  state : State
  taken : List Event

namespace Turn

/-- What a turn does to the state. -/
def act (c : Config) : Turn → State → State
  | request r, s => ((handle c r).run s).2
  | outage down, s => { s with isDown := down }
  | remote script tables, s => { s with peer := { s.peer with script := script, tables := tables } }
  | time millis, s => { s with millis := millis }
  | fetch clear, s => (Action.exec (Action.fetchEvents clear) s).2

/-- The events that a turn takes away. -/
def takes : Turn → State → List Event
  | fetch true, s =>
    match (Action.exec (Action.fetchEvents true) s).1 with
    | .ok events => events
    | .error _ => []
  | _, _ => []

/-- Everything but fetching. -/
def isNoFetch : Turn → Bool
  | fetch _ => false
  | _ => true

end Turn

namespace Course

/-- Before the first turn. -/
def start (env : Environment) : Course := ⟨State.initial env, []⟩

/-- One more turn. -/
def next (c : Config) (k : Course) (t : Turn) : Course :=
  ⟨t.act c k.state, k.taken ++ t.takes k.state⟩

/-- All events that were ever published, in order. -/
def log (k : Course) : List Event := k.taken ++ k.state.events

end Course

/-- The course of a run in an environment. -/
def course (env : Environment) (c : Config) (turns : List Turn) : Course :=
  turns.foldl (Course.next c) (Course.start env)

/-- Running the turns one after the other. -/
theorem course_append (env : Environment) (c : Config) (ts us : List Turn) :
    course env c (ts ++ us) = us.foldl (Course.next c) (course env c ts) := List.foldl_append

/-- The state with older events in front of its events. -/
def State.after (older : List Event) (s : State) : State := { s with events := older ++ s.events }

namespace Action

variable {α β : Type}

/-- Older events change neither what the action gives nor what it does. -/
def Blind (a : Action α) : Prop :=
  ∀ older s, exec a (s.after older) = ((exec a s).1, (exec a s).2.after older)

theorem blind_bind {a : Action α} {f : α → Action β} (ha : Blind a) (hf : ∀ x, Blind (f x)) :
    Blind (a >>= f) := by
  intro older s
  rw [exec_bind, exec_bind, ha]
  rcases exec a s with ⟨e | x, t⟩
  · rfl
  · exact hf x older t

theorem blind_tryCatch {a : Action α} {f : Failure → Action α} (ha : Blind a)
    (hf : ∀ e, Blind (f e)) : Blind (tryCatch a f) := by
  intro older s
  rw [exec_tryCatch, exec_tryCatch, ha]
  rcases exec a s with ⟨e | x, t⟩
  · exact hf e older t
  · rfl

theorem blind_change (f : Store → Store) : Blind (change f) := fun older s => by
  rw [exec_change, exec_change]
  cases h : s.isDown <;> simp [State.after, h]

theorem blind_publish (e : Event) : Blind (publish e) := fun older s => by simp [State.after]

theorem compositional_blind : Compositional @Blind where
  pure _ _ _ := rfl
  throw _ _ _ := rfl
  bind := blind_bind
  tryCatch := blind_tryCatch
  reach older s := by rw [exec_reach, exec_reach]; rfl
  isDown _ _ := rfl
  contentOf _ _ _ := rfl
  now _ _ := rfl
  call _ _ _ := rfl
  synced id now := blind_change _
  deleted id now := blind_change _
  gone payload := blind_publish _

theorem blind_timeOfDay : Blind timeOfDay := fun _ _ => rfl

theorem blind_nameForm : Blind nameForm := fun _ _ => rfl

theorem blind_nameResponse : Blind nameResponse := fun _ _ => rfl

theorem blind_cells (vs : List Value) : Blind (cells vs) :=
  blind_bind compositional_blind.reach fun _ => blind_bind (compositional_blind.ofExcept _ _)
    fun _ => compositional_blind.ofExcept _ _

theorem blind_createForm (title description baseId tableId tableName questions : Value) :
    Blind (createForm title description baseId tableId tableName questions) := by
  have htrimmed : Blind (trimmed title) := by
    cases title <;> first | exact compositional_blind.pure _ | exact compositional_blind.throw _
  refine blind_bind blind_nameForm fun id => blind_bind compositional_blind.now fun time =>
    blind_bind htrimmed fun title => blind_bind (blind_cells _) fun filled => ?_
  split
  · exact blind_bind (blind_change _) fun _ => compositional_blind.pure _
  · exact compositional_blind.throw _

theorem blind_createResponse (formId recordId answers status : Value) :
    Blind (createResponse formId recordId answers status) := by
  refine blind_bind blind_nameResponse fun id => blind_bind compositional_blind.now fun time =>
    blind_bind (blind_cells _) fun filled => ?_
  split
  · exact blind_bind (blind_change _) fun _ => compositional_blind.pure _
  · exact compositional_blind.throw _

theorem blind_countResponse (id : Text) : Blind (countResponse id) :=
  blind_bind compositional_blind.now fun _ => blind_bind (compositional_blind.key _) fun _ =>
    blind_change _

theorem blind_postForm (payload : Value) : Blind (postForm payload) := by
  have hverdict : Blind (newForm payload) := fun older s => by rw [exec_newForm, exec_newForm]
  have hstore (form : NewForm) : Blind (storeForm form) :=
    blind_bind (blind_createForm _ _ _ _ _ _) fun _ => blind_bind (blind_publish _) fun _ =>
      compositional_blind.pure _
  refine blind_bind hverdict fun verdict => ?_
  cases verdict with
  | error problem => exact compositional_blind.refuse _
  | ok form =>
    exact blind_bind (hstore form) fun row => blind_bind (compositional_blind.ofReadable _)
      fun _ => compositional_blind.ok _ _

theorem blind_deliver (client : Remote.Client) (form : Store.FormRow) (questions : List Question)
    (accepted : Members) : Blind (deliver client form questions accepted) := by
  refine blind_bind (compositional_blind.call _) fun outcome => ?_
  split
  · exact blind_bind (blind_createResponse _ _ _ _) fun _ => blind_bind (blind_countResponse _)
      fun _ => blind_bind (blind_publish _) fun _ => compositional_blind.ok _ _
  · exact blind_bind blind_timeOfDay fun _ => blind_bind (blind_createResponse _ _ _ _) fun _ =>
      blind_bind (blind_publish _) fun _ => compositional_blind.refuse _
  · exact compositional_blind.throw _

theorem blind_postSubmission (access : Access) (id : Text) (body : Value) :
    Blind (postSubmission access id body) := by
  refine blind_bind (compositional_blind.ofExcept _ _) fun client => ?_
  cases answersOf body with
  | none => exact compositional_blind.refuse _
  | some answers =>
    refine compositional_blind.withForm id fun row =>
      blind_bind (compositional_blind.ofReadable _) fun questions => ?_
    cases Submission.accept questions answers with
    | error e => exact compositional_blind.refuse _
    | ok accepted => exact blind_deliver _ _ _ _

theorem blind_dispatch (c : Config) (r : Request) : Blind (dispatch c r) := by
  rcases dispatch_cases c r with h | ⟨id, h⟩ | h
  · rw [h]; exact blind_postForm _
  · rw [h]; exact blind_postSubmission _ _ _
  · exact h compositional_blind

end Action

/-- Answering a request does not depend on the events before it, which stay in front. -/
theorem handle_after (c : Config) (r : Request) (older : List Event) (s : State) :
    (handle c r).run (s.after older) =
      (((handle c r).run s).1, ((handle c r).run s).2.after older) := by
  cases h : Origin.preflight? c.origins r with
  | some reply => rw [handle_of_preflight h, handle_of_preflight h]
  | none =>
    rw [handle_of_no_preflight h, handle_of_no_preflight h]
    have hnamed : (s.after older).requestNamed r = (s.requestNamed r).after older := rfl
    rw [hnamed, Action.blind_dispatch c r older]
    rfl

namespace Course

/-- The state as if nobody had ever fetched events. -/
def unfetched (k : Course) : State := k.state.after k.taken

theorem log_eq (k : Course) : k.log = k.unfetched.events := rfl

/-- A turn other than fetching does to the unfetched state what it does to the state. -/
theorem unfetched_next {t : Turn} (ht : t.isNoFetch = true) (c : Config) (k : Course) :
    (k.next c t).unfetched = t.act c k.unfetched := by
  cases t with
  | request r =>
    change (((handle c r).run k.state).2).after (k.taken ++ []) =
      ((handle c r).run (k.state.after k.taken)).2
    rw [List.append_nil, handle_after]
  | outage down => simp [next, unfetched, Turn.act, Turn.takes, State.after]
  | remote script tables => simp [next, unfetched, Turn.act, Turn.takes, State.after]
  | time millis => simp [next, unfetched, Turn.act, Turn.takes, State.after]
  | fetch clear => cases ht

/-- Fetching moves events from the state to what was taken and changes nothing else. -/
theorem unfetched_next_fetch (clear : Bool) (c : Config) (k : Course) :
    (k.next c (.fetch clear)).unfetched = k.unfetched := by
  cases clear with
  | true => simp [next, unfetched, Turn.act, Turn.takes, State.after, Action.fetchEvents]
  | false => simp [next, unfetched, Turn.act, Turn.takes, State.after, Action.fetchEvents]

end Course

/-- A run in which events are fetched is the run without fetching. -/
theorem unfetched_course (env : Environment) (c : Config) (turns : List Turn) :
    (course env c turns).unfetched = (course env c (turns.filter Turn.isNoFetch)).unfetched := by
  induction turns using List.reverseRecOn with
  | nil => rfl
  | append_singleton turns t ih =>
    rw [List.filter_append, course_append, course_append, List.foldl_cons, List.foldl_nil]
    cases ht : t.isNoFetch with
    | true =>
      rw [List.filter_cons_of_pos ht, List.filter_nil, List.foldl_cons, List.foldl_nil,
        Course.unfetched_next ht, Course.unfetched_next ht, ih]
    | false =>
      rw [List.filter_cons_of_neg (by simp [ht]), List.filter_nil, List.foldl_nil, ← ih]
      cases t with
      | fetch clear => exact Course.unfetched_next_fetch clear c _
      | _ => cases ht

/-- Without fetching nothing is taken away. -/
theorem taken_course_of_no_fetch (env : Environment) (c : Config) {turns : List Turn}
    (h : ∀ t ∈ turns, t.isNoFetch = true) : (course env c turns).taken = [] := by
  induction turns using List.reverseRecOn with
  | nil => rfl
  | append_singleton turns t ih =>
    have hturns := ih fun u hu => h u (List.mem_append_left _ hu)
    have ht := h t (by simp)
    rw [course_append, List.foldl_cons, List.foldl_nil]
    cases t with
    | fetch clear => cases ht
    | _ => simp [Course.next, Turn.takes, hturns]

end Intake.Service
