import Intake.Proofs.Service.Writing

/-!
# Properties that come from the parts of an action

A property of actions is compositional when it holds of the steps that actions are made of and passes
from two actions to their sequence. It then holds of every endpoint that reads, and of going through a
notification, by the shape of these actions alone. Whether a request looks at the events, and what it
leaves in the store, are both shown this way.
-/

namespace Intake.Service.Action

open Store Http

/-- The property passes from the parts of an action to the whole, and holds of every part but those
that store something new. -/
structure Compositional (P : ∀ {α : Type}, Action α → Prop) : Prop where
  pure : ∀ {α : Type} (a : α), P (Pure.pure a : Action α)
  throw : ∀ {α : Type} (e : Failure), P (MonadExcept.throw e : Action α)
  bind : ∀ {α β : Type} {a : Action α} {f : α → Action β}, P a → (∀ x, P (f x)) → P (a >>= f)
  tryCatch : ∀ {α : Type} {a : Action α} {f : Failure → Action α}, P a → (∀ e, P (f e)) →
    P (MonadExcept.tryCatch a f)
  reach : P reach
  isDown : P (State.isDown <$> get)
  contentOf : ∀ d : Document, P (contentOf d)
  now : P now
  call : ∀ {α : Type} (f : Remote.Peer → α × Remote.Peer), P (call f)
  synced : ∀ (id : Text) (now : Nat), P (change (Store.markSynced id now))
  deleted : ∀ (id : Text) (now : Nat), P (change (Store.markDeleted id now))
  gone : ∀ payload : Value, P (publish ⟨Event.responseDeleted, payload⟩)

namespace Compositional

variable {P : ∀ {α : Type}, Action α → Prop}
variable (h : Compositional @P)

include h

theorem ofExcept {α ε : Type} (f : ε → Failure) (x : Except ε α) : P (ofExcept f x) := by
  cases x with
  | ok a => exact h.pure a
  | error e => exact h.throw (f e)

theorem ofReadable {α : Type} (x : Option α) : P (ofReadable x) := by
  cases x with
  | some a => exact h.pure a
  | none => exact h.throw _

theorem ok (status : Int) (body : Value) : P (ok status body) := h.ofExcept _ _

theorem refuse (problem : Members) : P (refuse problem) := h.ofExcept _ _

theorem key (t : Text) : P (key t) := h.bind h.reach fun _ => h.ofExcept _ _

/-- Looking for what a text names. -/
theorem looking {α : Type} (t : Text) (f : Text → Store → α) :
    P (do let t ← Action.key t; Pure.pure (f t (← Action.reach))) :=
  h.bind (h.key t) fun _ => h.bind h.reach fun _ => h.pure _

/-! ### Requests that read -/

theorem withForm (id : Text) {k : FormRow → Action Reply} (hk : ∀ row, P (k row)) :
    P (withForm id k) :=
  h.bind (h.bind (h.key id) fun _ => h.bind h.reach fun _ => h.pure _) fun row => by
    cases row with
    | some row => exact hk row
    | none => exact h.refuse _

theorem listForms : P listForms :=
  h.bind (h.bind h.reach fun _ => h.pure _) fun _ => h.ok _ _

theorem getForm (id : Text) : P (getForm id) :=
  h.withForm id fun _ => h.bind (h.ofReadable _) fun _ => h.ok _ _

theorem postVisible (id : Text) (body : Value) : P (postVisible id body) :=
  h.withForm id fun row => by
    cases answersOf body with
    | none => exact h.refuse _
    | some answers => exact h.bind (h.ofReadable _) fun _ => h.ok _ _

theorem listResponses (id : Text) : P (listResponses id) :=
  h.withForm id fun _ =>
    h.bind (h.bind (h.key id) fun _ => h.bind h.reach fun _ => h.pure _) fun _ =>
      h.bind (h.ofReadable _) fun _ => h.ok _ _

theorem describeTable (table : Value) : P (describeTable table) :=
  h.bind (h.ofExcept _ _) fun _ => h.bind (h.ofExcept _ _) fun _ => h.ok _ _

theorem getTableFields (access : Access) (base table : Text) :
    P (getTableFields access base table) := by
  refine h.bind (h.ofExcept _ _) fun client => ?_
  split
  · exact h.refuse _
  · refine h.bind (h.call _) fun outcome => ?_
    split
    · exact h.refuse _
    · exact h.throw _
    · refine h.bind (h.ofExcept _ _) fun found => ?_
      split
      · exact h.refuse _
      · exact h.describeTable _

theorem getLiveness : P getLiveness := h.bind h.now fun _ => h.ok _ _

theorem getHealth : P getHealth := by
  have heq : Action.getHealth = State.isDown <$> get >>= fun down =>
      if down then Action.ok 200 (.obj [("status", .ofString "degraded"), ("db", .bool false)])
      else Action.ok 200 (.obj [("status", .ofString "ok"), ("db", .bool true)]) := by
    rw [bind_map_left]; rfl
  rw [heq]
  refine h.bind h.isDown fun down => ?_
  split <;> exact h.ok _ _

theorem getDocument (d : Document) : P (getDocument d) := by
  refine h.bind (h.contentOf d) fun content => ?_
  cases content with
  | json description => exact h.ofExcept _ _
  | text page => exact h.pure _

/-! ### Notifications -/

theorem markWith {f : Text → Nat → Store → Store} (hf : ∀ id now, P (change (f id now)))
    (recordId : Text) : P (markWith f recordId) :=
  h.bind h.now fun now => h.bind (h.key recordId) fun id => h.bind h.reach fun _ =>
    h.bind (hf id now) fun _ => h.pure _

theorem applyChange (c : Change) (sum : Notification.Summary) : P (applyChange c sum) := by
  unfold Action.applyChange
  split
  · refine h.bind (h.markWith h.synced _) fun known => ?_
    split <;> exact h.pure _
  · refine h.bind (h.bind (h.key _) fun _ => h.bind h.reach fun _ => h.pure _) fun found => ?_
    split <;> exact h.pure _
  · refine h.bind (h.markWith h.deleted _) fun known => ?_
    split
    · exact h.bind (h.gone _) fun _ => h.pure _
    · exact h.pure _

theorem attempt (c : Change) (sum : Notification.Summary) : P (attempt c sum) :=
  h.tryCatch (h.applyChange c sum) fun e => by
    split
    · exact h.pure _
    · exact h.throw _

/-- Going through a notification, item by item. -/
theorem follow (items : List Notification.Item) (sum : Notification.Summary) :
    P (follow items sum) := by
  induction items generalizing sum with
  | nil => exact h.pure sum
  | cons item rest ih =>
    cases item with
    | change c => exact h.bind (h.attempt c sum) fun _ => ih _
    | broken => exact h.throw _

theorem postNotification (body : Value) : P (postNotification body) := by
  unfold Action.postNotification reconcile
  split
  · exact h.bind (h.follow _ _) fun _ => h.ok _ _
  · exact h.refuse _

end Compositional

/-! ### What an action leads to -/

/-- Every run of the action leads from a state to a related one. -/
def Leads (R : State → State → Prop) {α : Type} (a : Action α) : Prop := ∀ s, R s (exec a s).2

/-- Where a relation is reflexive and transitive, an action leads on when its steps do. -/
theorem compositional_leads {R : State → State → Prop} (refl : ∀ s, R s s)
    (trans : ∀ {s t u : State}, R s t → R t u → R s u)
    (now : ∀ s : State, R s { s with clock := s.clock + 1 })
    (call : ∀ (s : State) (peer : Remote.Peer), R s { s with peer := peer })
    (synced : ∀ id now, Leads R (change (Store.markSynced id now)))
    (deleted : ∀ id now, Leads R (change (Store.markDeleted id now)))
    (gone : ∀ (s : State) (payload : Value),
      R s { s with events := s.events ++ [⟨Event.responseDeleted, payload⟩] }) :
    Compositional (@Leads R) where
  pure _ s := refl s
  throw _ s := refl s
  bind {α β a f} ha hf s := by
    have hfirst := ha s
    rw [exec_bind]
    rcases hexec : exec a s with ⟨e | x, t⟩ <;> rw [hexec] at hfirst
    · exact hfirst
    · exact trans hfirst (hf x t)
  tryCatch {α a f} ha hf s := by
    have hfirst := ha s
    rw [exec_tryCatch]
    rcases hexec : exec a s with ⟨e | x, t⟩ <;> rw [hexec] at hfirst
    · exact trans hfirst (hf e t)
    · exact hfirst
  reach s := by rw [exec_reach]; exact refl s
  isDown s := refl s
  contentOf _ s := refl s
  now s := now s
  call _ s := call s _
  synced := synced
  deleted := deleted
  gone payload s := gone s payload

/-- A request creates a form, submits answers, or has every compositional property. -/
theorem dispatch_cases (c : Config) (r : Request) :
    dispatch c r = postForm (bodyOf r) ∨
    (∃ id, dispatch c r = postSubmission c.access id (bodyOf r)) ∨
    ∀ {P : ∀ {α : Type}, Action α → Prop}, Compositional @P → P (dispatch c r) := by
  unfold dispatch
  split
  · unfold serve
    split
    · exact .inr (.inr fun h => h.getDocument _)
    · exact .inr (.inr fun h => h.listForms)
    · exact .inl rfl
    · exact .inr (.inr fun h => h.getForm _)
    · exact .inr (.inr fun h => h.postVisible _ _)
    · exact .inr (.inl ⟨_, rfl⟩)
    · exact .inr (.inr fun h => h.listResponses _)
    · exact .inr (.inr fun h => h.postNotification _)
    · exact .inr (.inr fun h => h.getLiveness)
    · exact .inr (.inr fun h => h.getTableFields _ _ _)
    · exact .inr (.inr fun h => h.getHealth)
    · exact .inr (.inr fun h => h.pure _)
  · exact .inr (.inr fun h => h.pure _)
  · exact .inr (.inr fun h => h.pure _)
  · exact .inr (.inr fun h => h.pure _)

end Intake.Service.Action
