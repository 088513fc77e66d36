import Intake.Service.Handle

/-!
# Running actions

What an action gives in a state and which state it leaves. An action that breaks off stops there, and
what it changed before stays changed; so running two actions in a row is a case distinction on how the
first one ends.
-/

namespace Intake.Service.Action

variable {α β ε : Type}

/-- What an action gives in a state, and the state that it leaves. -/
def exec (a : Action α) (s : State) : Except Failure α × State := StateT.run (ExceptT.run a) s

@[simp] theorem exec_pure (a : α) (s : State) : exec (pure a) s = (.ok a, s) := rfl

@[simp] theorem exec_throw (e : Failure) (s : State) :
    exec (throw e : Action α) s = (.error e, s) := rfl

theorem exec_bind (a : Action α) (f : α → Action β) (s : State) :
    exec (a >>= f) s = match exec a s with
      | (.ok x, t) => exec (f x) t
      | (.error e, t) => (.error e, t) := by
  simp only [exec, ExceptT.run_bind, StateT.run_bind]
  rcases StateT.run (ExceptT.run a) s with ⟨e | x, t⟩ <;> rfl

theorem exec_tryCatch (a : Action α) (f : Failure → Action α) (s : State) :
    exec (tryCatch a f) s = match exec a s with
      | (.ok x, t) => (.ok x, t)
      | (.error e, t) => exec (f e) t := by
  simp only [exec, tryCatch, tryCatchThe, MonadExceptOf.tryCatch, ExceptT.tryCatch,
    ExceptT.run_mk, StateT.run_bind]
  change bind (StateT.run (ExceptT.run a) s) _ = _
  rcases StateT.run (ExceptT.run a) s with ⟨e | x, t⟩ <;> rfl

@[simp] theorem exec_get (s : State) : exec get s = (.ok s, s) := rfl

@[simp] theorem exec_modify (f : State → State) (s : State) : exec (modify f) s = (.ok (), f s) := rfl

@[simp] theorem exec_modifyGet (f : State → α × State) (s : State) :
    exec (modifyGet f) s = (.ok (f s).1, (f s).2) := rfl

@[simp] theorem exec_ofExcept_ok (f : ε → Failure) (a : α) (s : State) :
    exec (ofExcept f (.ok a)) s = (.ok a, s) := rfl

@[simp] theorem exec_ofExcept_error (f : ε → Failure) (e : ε) (s : State) :
    exec (ofExcept f (.error e) : Action α) s = (.error (f e), s) := rfl

@[simp] theorem exec_ofReadable_some (a : α) (s : State) :
    exec (ofReadable (some a)) s = (.ok a, s) := rfl

@[simp] theorem exec_ofReadable_none (s : State) :
    exec (ofReadable none : Action α) s = (.error .unreadable, s) := rfl

@[simp] theorem exec_now (s : State) :
    exec now s = (.ok (s.env.time (s.clock + 1)), { s with clock := s.clock + 1 }) := rfl

@[simp] theorem exec_timeOfDay (s : State) : exec timeOfDay s = (.ok s.millis, s) := rfl

@[simp] theorem exec_publish (e : Event) (s : State) :
    exec (publish e) s = (.ok (), { s with events := s.events ++ [e] }) := rfl

@[simp] theorem exec_call (f : Remote.Peer → α × Remote.Peer) (s : State) :
    exec (call f) s = (.ok (f s.peer).1, { s with peer := (f s.peer).2 }) := rfl

theorem exec_reach (s : State) :
    exec reach s = (if s.isDown then .error (.store .unavailable) else .ok s.store, s) := by
  rw [reach, exec_bind, exec_get]
  cases h : s.isDown <;> simp [h]

theorem exec_change (f : Store → Store) (s : State) :
    exec (change f) s = if s.isDown then (.error (.store .unavailable), s)
      else (.ok (), { s with store := f s.store }) := by
  rw [change, exec_bind, exec_reach]
  cases h : s.isDown <;> simp [h]

theorem exec_change_of_up {s : State} (f : Store → Store) (h : s.isDown = false) :
    exec (change f) s = (.ok (), { s with store := f s.store }) := by
  rw [exec_change, h]; rfl

end Intake.Service.Action
