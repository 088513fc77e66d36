import Intake.Remote.Client
import Intake.Service.Environment
import Intake.Store.Basic
import Intake.Store.Cell

/-!
# The state of the service

Everything that one request can leave for the next: the store and whether it can be reached, how often the
clock was read, the numbers of the next ids, the events that nobody has fetched yet, and the remote service.
Beside it stand the time of day, which nobody but the outside world changes, and the environment, which
nothing changes. An action changes the state and may break off with a failure; what it changed before it
broke off stays changed.
-/

namespace Intake

/-- Something that happened in the service. -/
structure Event where
  kind : Text
  payload : Value

namespace Event

/-- A form was created. -/
def formCreated : Text := "form.created"

/-- A submission was accepted by the remote service. -/
def responseSubmitted : Text := "response.submitted"

/-- A submission was stored but not accepted by the remote service. -/
def syncFailed : Text := "response.sync_failed"

/-- The record of a response is gone. -/
def responseDeleted : Text := "response.deleted_in_airtable"

/-- An event as an object. -/
def value (e : Event) : Value := .obj [("type", .str e.kind), ("payload", e.payload)]

end Event

namespace Service

/-- The state of the service. -/
structure State where
  store : Store
  isDown : Bool
  /-- How often the clock was read. -/
  clock : Nat
  formsNamed : Nat
  responsesNamed : Nat
  nextRequest : Nat
  events : List Event
  peer : Remote.Peer
  /-- The time of day, in milliseconds from the start of 1970. -/
  millis : Nat
  env : Environment

/-- The state before the first request. -/
def State.initial (env : Environment := .standard) : State :=
  ⟨Store.empty, false, 0, 0, 0, 1, [], Remote.Peer.fresh, 1700000000000, env⟩

/-- Why an action breaks off. -/
inductive Failure where
  | store (e : Store.StoreError)
  | call (e : Remote.CallError)
  | reply (e : Http.ReplyError)
  | misuse (m : Misuse)
  | unreadable
  | notification

/-- An action of the service. -/
abbrev Action := ExceptT Failure (StateM State)

namespace Action

variable {α ε : Type}

/-- Breaks off where a computation failed. -/
def ofExcept (failure : ε → Failure) : Except ε α → Action α
  | .ok a => pure a
  | .error e => throw (failure e)

/-- Breaks off where a stored record does not pass its checks. -/
def ofReadable : Option α → Action α
  | some a => pure a
  | none => throw .unreadable

/-- The next reading of the clock. -/
def now : Action Nat := modifyGet fun s => (s.env.time (s.clock + 1), { s with clock := s.clock + 1 })

/-- The time of day, in milliseconds. -/
def timeOfDay : Action Nat := State.millis <$> get

/-- The id of the next form. -/
def nameForm : Action Text := modifyGet fun s =>
  (s.env.forms.name (s.formsNamed + 1), { s with formsNamed := s.formsNamed + 1 })

/-- The id of the next response. -/
def nameResponse : Action Text := modifyGet fun s =>
  (s.env.responses.name (s.responsesNamed + 1), { s with responsesNamed := s.responsesNamed + 1 })

/-- Reaches the store. -/
def reach : Action Store := do
  let s ← get
  if s.isDown then throw (.store .unavailable) else pure s.store

/-- Changes the store. -/
def change (f : Store → Store) : Action Unit := do
  let store ← reach
  modify fun s => { s with store := f store }

/-- Publishes an event. -/
def publish (e : Event) : Action Unit := modify fun s => { s with events := s.events ++ [e] }

/-- Calls the remote service. -/
def call (f : Remote.Peer → α × Remote.Peer) : Action α :=
  modifyGet fun s => ((f s.peer).1, { s with peer := (f s.peer).2 })

/-- The events that nobody has fetched yet. They are forgotten if they are to be cleared. -/
def fetchEvents (clear : Bool) : Action (List Event) :=
  modifyGet fun s => (s.events, if clear then { s with events := [] } else s)

end Action
end Service
end Intake
