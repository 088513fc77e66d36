import Intake.Proofs.Service.Calling
import Intake.Proofs.Service.Responses

/-!
# The life of a response

A response is stored once and then only marked. Marks change its status, the sign that its record is gone and
the time of its last change, and they change them in one direction. So whatever happens to the service, by
calls, notifications or requests at any times, a stored response stays in its place and keeps what it was when
it was stored.

        submitted ──┐
        error ──────┼──▶ synced ──▶ synced, deleted
        …       ────┘      └───────────▶ (no way back)
-/

namespace Intake

namespace Store.ResponseRow

/-- What a response can become: the same response, marked further. -/
structure Becomes (row later : ResponseRow) : Prop where
  origin : later.origin = row.origin
  isDeleted : row.isDeleted = true → later.isDeleted = true
  status : later.status = row.status ∨ later.status = SyncStatus.synced.name

theorem Becomes.refl (row : ResponseRow) : row.Becomes row := ⟨rfl, fun h => h, .inl rfl⟩

theorem Becomes.trans {row later last : ResponseRow} (h : row.Becomes later) (g : later.Becomes last) :
    row.Becomes last := by
  refine ⟨g.origin.trans h.origin, fun hdeleted => g.isDeleted (h.isDeleted hdeleted), ?_⟩
  rcases g.status with hsame | hsynced
  · rw [hsame]
    exact h.status
  · exact .inr hsynced

theorem becomes_synced (now : Nat) (row : ResponseRow) : row.Becomes (row.synced now) :=
  ⟨rfl, fun h => h, .inr rfl⟩

theorem becomes_deleted (now : Nat) (row : ResponseRow) : row.Becomes (row.deleted now) :=
  ⟨rfl, fun _ => rfl, .inr rfl⟩

/-- The record of the response can be looked up, and if it is gone, the response is synced. -/
structure Coherent (row : ResponseRow) : Prop where
  encodable : row.recordId.encodable = true
  status : row.isDeleted = true → row.status = SyncStatus.synced.name

theorem Coherent.synced {row : ResponseRow} (h : row.Coherent) (now : Nat) : (row.synced now).Coherent :=
  ⟨h.encodable, fun _ => rfl⟩

theorem Coherent.deleted {row : ResponseRow} (h : row.Coherent) (now : Nat) :
    (row.deleted now).Coherent := ⟨h.encodable, fun _ => rfl⟩

end Store.ResponseRow

namespace Service

open Store Http

/-- Every response stays in its place and is only marked further, and responses stay coherent. -/
structure Advances (s t : State) : Prop where
  kept : ∀ (i : Nat) (row : ResponseRow), s.store.responses[i]? = some row →
    ∃ later, t.store.responses[i]? = some later ∧ row.Becomes later
  coherent : (∀ row ∈ s.store.responses, row.Coherent) → ∀ row ∈ t.store.responses, row.Coherent

namespace Advances

variable {s t u : State}

theorem of_same (h : t.store.responses = s.store.responses) : Advances s t := by
  refine ⟨?_, by rw [h]; exact fun hs => hs⟩
  intro i row hrow
  exact ⟨row, by rw [h, hrow], .refl row⟩

theorem refl (s : State) : Advances s s := of_same rfl

theorem trans (h : Advances s t) (g : Advances t u) : Advances s u := by
  refine ⟨?_, fun hs => g.coherent (h.coherent hs)⟩
  intro i row hrow
  obtain ⟨later, hlater, hbecomes⟩ := h.kept i row hrow
  obtain ⟨last, hlast, hthen⟩ := g.kept i later hlater
  exact ⟨last, hlast, hbecomes.trans hthen⟩

/-- A response is marked where it stands. -/
theorem of_map {f : ResponseRow → ResponseRow} (hbecomes : ∀ row : ResponseRow, row.Becomes (f row))
    (hcoherent : ∀ row : ResponseRow, row.Coherent → (f row).Coherent)
    (h : t.store.responses = s.store.responses.map f) : Advances s t := by
  constructor
  · intro i row hrow
    exact ⟨f row, by rw [h, List.getElem?_map, hrow]; rfl, hbecomes row⟩
  · intro hs row hrow
    rw [h] at hrow
    obtain ⟨old, hold, rfl⟩ := List.mem_map.1 hrow
    exact hcoherent old (hs old hold)

/-- A new response comes after those that are there. -/
theorem of_append {row : ResponseRow} (hrow : row.Coherent)
    (h : t.store.responses = s.store.responses ++ [row]) : Advances s t := by
  constructor
  · intro i old hold
    have hi : i < s.store.responses.length := (List.getElem?_eq_some_iff.1 hold).1
    exact ⟨old, by rw [h, List.getElem?_append_left hi, hold], .refl old⟩
  · intro hs later hlater
    rw [h, List.mem_append, List.mem_singleton] at hlater
    rcases hlater with hold | rfl
    · exact hs later hold
    · exact hrow

end Advances

/-! ### What each action does to the responses -/

namespace Action

/-- Every run of the action advances the responses. -/
abbrev Advancing {α : Type} (a : Action α) : Prop := Leads Advances a

theorem advancing_mark {f : ResponseRow → ResponseRow}
    (hbecomes : ∀ row : ResponseRow, row.Becomes (f row))
    (hcoherent : ∀ row : ResponseRow, row.Coherent → (f row).Coherent) (id : Text) :
    Advancing (change (Store.mark f id)) := by
  intro s
  rw [exec_change]
  split
  · exact .refl s
  · refine .of_map (f := fun row => if row.recordId = id then f row else row) ?_ ?_ rfl
    · intro row
      split
      · exact hbecomes row
      · exact .refl row
    · intro row hrow
      split
      · exact hcoherent row hrow
      · exact hrow

theorem compositional_advancing : Compositional @Advancing :=
  compositional_leads Advances.refl Advances.trans (fun _ => .of_same rfl) (fun _ _ => .of_same rfl)
    (fun id now => advancing_mark (ResponseRow.becomes_synced now) (fun _ h => h.synced now) id)
    (fun id now => advancing_mark (ResponseRow.becomes_deleted now) (fun _ h => h.deleted now) id)
    (fun _ _ => .of_same rfl)

theorem advancing_postForm (payload : Value) : Advancing (postForm payload) :=
  fun s => .of_same (responses_postForm payload s)

/-- A submission adds one response, or none. -/
theorem advancing_postSubmission (access : Access) (id : Text) (body : Value) :
    Advancing (postSubmission access id body) := by
  intro s
  have hsubmits := submits_to access id body s
  generalize exec (postSubmission access id body) s = out at hsubmits
  cases hsubmits with
  | unchanged outcome status => exact .refl s
  | delivered client form questions accepted addressed accepts =>
    obtain rfl : form.id = id := by simpa using List.find?_some accepts.found
    have hends := deliver_ends client questions accepted accepts.up accepts.encodable
    generalize exec (deliver client form questions accepted) s = out at hends
    cases hends with
    | unsent e t unheard store peer events => exact .of_same (by rw [store])
    | unkept e t answer asked unkept store events => exact .of_same (by rw [store])
    | synced answer after recordId asked kept outcome status =>
      exact .of_append ⟨encodable_of_keptAs? kept, fun _ => rfl⟩ rfl
    | failed answer after asked kept outcome status =>
      exact .of_append ⟨encodable_placeholderAt s.millis, fun h => Bool.noConfusion h⟩ rfl

theorem advancing_dispatch (c : Config) (r : Request) : Advancing (dispatch c r) := by
  rcases dispatch_cases c r with h | ⟨id, h⟩ | h
  · rw [h]
    exact advancing_postForm _
  · rw [h]
    exact advancing_postSubmission _ _ _
  · exact h compositional_advancing

end Action

theorem advances_handle (c : Config) (r : Request) (s : State) : Advances s ((handle c r).run s).2 := by
  cases h : Origin.preflight? c.origins r with
  | some reply =>
    rw [handle_of_preflight h]
    exact .refl s
  | none =>
    rw [handle_of_no_preflight h]
    have hnamed : Advances s (s.requestNamed r) := .of_same rfl
    exact hnamed.trans (Action.advancing_dispatch c r (s.requestNamed r))

theorem advances_act (c : Config) (t : Turn) (s : State) : Advances s (t.act c s) := by
  cases t with
  | request r => exact advances_handle c r s
  | fetch clear => cases clear <;> exact .of_same rfl
  | _ => exact .of_same rfl

/-- Counting and looking leave the responses alone; creating adds one. -/
theorem Call.advances_act (k : Call) (s : State) : Advances s (k.act s) := by
  have hreads := Action.compositional_advancing
  cases k with
  | createForm title description baseId tableId tableName questions =>
    rw [Call.act]
    rcases Action.exec_createForm_cases title description baseId tableId tableName questions s with
      ⟨e, hexec⟩ | ⟨row, hexec, -⟩ <;> rw [hexec] <;> exact .of_same rfl
  | createResponse formId recordId answers status =>
    rw [Call.act]
    rcases Action.exec_createResponse_cases formId recordId answers status s with
      ⟨e, hexec⟩ | ⟨row, hexec, hfresh, -⟩
    · rw [hexec]; exact .of_same rfl
    · rw [hexec]
      refine .of_append ⟨hfresh.encodable, ?_⟩ rfl
      rw [hfresh.isDeleted]
      intro hdeleted
      cases hdeleted
  | countResponse id =>
    have hcount : Action.Advancing (Action.countResponse id) :=
      hreads.bind hreads.now fun now => hreads.bind (hreads.key id) fun id s => by
        rw [Action.exec_change]
        split
        · exact .refl s
        · exact .of_same rfl
    exact hcount s
  | markSynced recordId => exact hreads.markWith hreads.synced recordId s
  | markDeleted recordId => exact hreads.markWith hreads.deleted recordId s
  | listForms => exact hreads.bind hreads.reach (fun _ => hreads.pure _) s
  | findForm id => exact hreads.looking id _ s
  | listResponses formId => exact hreads.looking formId _ s
  | findResponse recordId => exact hreads.looking recordId _ s

/-! ### Runs -/

/-- What can happen to the responses: a call of the records, a notification, or a turn of the service. -/
inductive Operation where
  | call (k : Call)
  | notify (body : Value)
  | turn (t : Turn)

/-- What an operation does to the state. -/
def Operation.act (c : Config) : Operation → State → State
  | call k, s => k.act s
  | notify body, s => (Action.exec (Action.reconcile body) s).2
  | turn t, s => t.act c s

/-- The state after several operations in an environment. -/
def operated (env : Environment) (c : Config) (ops : List Operation) : State :=
  ops.foldl (fun s op => op.act c s) (State.initial env)

theorem Operation.advances_act (c : Config) (op : Operation) (s : State) : Advances s (op.act c s) := by
  cases op with
  | call k => exact k.advances_act s
  | notify body =>
    rw [Operation.act, Action.reconcile]
    split
    · exact Action.compositional_advancing.follow _ _ s
    · exact .refl s
  | turn t => exact Service.advances_act c t s

theorem advances_foldl (c : Config) (ops : List Operation) (s : State) :
    Advances s (ops.foldl (fun s op => op.act c s) s) := by
  induction ops generalizing s with
  | nil => exact .refl s
  | cons op ops ih => exact (op.advances_act c s).trans (ih (op.act c s))

/-- Every response of a run is coherent. -/
theorem coherent_operated (env : Environment) (c : Config) (ops : List Operation) :
    ∀ row ∈ (operated env c ops).store.responses, row.Coherent :=
  (advances_foldl c ops (State.initial env)).coherent (by rintro _ ⟨⟩)

/-! ### Marks -/

/-- Marking a record that the state knows changes its responses and nothing else, and says so; of any other
record it changes no row. -/
structure MarksExactly (marking : Text → Action Bool) (change : Nat → ResponseRow → ResponseRow)
    (s : State) (id : Text) : Prop where
  responses : (Action.exec (marking id) s).2.store.responses =
    s.store.responses.map fun row => if row.recordId = id then change s.nextTime row else row
  forms : (Action.exec (marking id) s).2.store.forms = s.store.forms
  events : (Action.exec (marking id) s).2.events = s.events
  known : (Action.exec (marking id) s).1 = .ok true ↔ ∃ row ∈ s.store.responses, row.recordId = id
  unknown : (∀ row ∈ s.store.responses, row.recordId ≠ id) →
    (Action.exec (marking id) s).2.store = s.store ∧
    (id.encodable = true → (Action.exec (marking id) s).1 = .ok false)

/-- Marking the rows of a record that none of them has changes no row. -/
theorem map_unknown {rows : List ResponseRow} {id : Text} (h : ∀ row ∈ rows, row.recordId ≠ id)
    (f : ResponseRow → ResponseRow) :
    (rows.map fun row => if row.recordId = id then f row else row) = rows := by
  conv_rhs => rw [← List.map_id rows]
  exact List.map_congr_left fun row hrow => if_neg (h row hrow)

theorem marks_exactly {f : Text → Nat → Store → Store} {change : Nat → ResponseRow → ResponseRow}
    (hf : ∀ id now, f id now = Store.mark (change now) id) {s : State} (hs : s.isDown = false)
    (hcoherent : ∀ row ∈ s.store.responses, row.Coherent) (id : Text) :
    MarksExactly (Action.markWith f) change s id := by
  by_cases hid : id.encodable = true
  · have hexec := Action.exec_markWith (f := f) hs hid
    rw [hf] at hexec
    refine ⟨by rw [hexec]; rfl, by rw [hexec]; rfl, by rw [hexec], ?_, ?_⟩
    · rw [hexec]
      simp [Store.knows]
    · intro hunknown
      have hknows : s.store.knows id = false := by simpa [Store.knows] using hunknown
      rw [hexec, hknows]
      refine ⟨?_, fun _ => rfl⟩
      simp only [Store.mark, map_unknown hunknown]
  · -- no response has a record that cannot be looked up
    have hunknown : ∀ row ∈ s.store.responses, row.recordId ≠ id := by
      rintro row hrow rfl
      exact hid (hcoherent row hrow).encodable
    have hexec := Action.exec_markWith_of_unencodable (f := f) hs (by simpa using hid)
    refine ⟨by rw [hexec, map_unknown hunknown], by rw [hexec], by rw [hexec], ?_, ?_⟩
    · rw [hexec]
      constructor
      · intro hknown
        cases hknown
      · rintro ⟨row, hrow, hsame⟩
        exact absurd hsame (hunknown row hrow)
    · intro _
      rw [hexec]
      exact ⟨rfl, fun h => absurd h hid⟩

/-- While the store is down no record can be marked. -/
theorem exec_markWith_of_down {f : Text → Nat → Store → Store} {s : State} (hs : s.isDown = true)
    (id : Text) : Action.exec (Action.markWith f id) s =
      (.error (.store .unavailable), { s with clock := s.clock + 1 }) := by
  rw [Action.markWith, Action.exec_bind, Action.exec_now]
  simp [Action.exec_bind, Action.exec_key, hs]

/-- After any operations every response stays in its place and is only marked further, whatever operations
follow, and a response whose record is gone is synced. Marking a record changes exactly its responses, and
says whether there are any; while the store is down it breaks off and changes nothing. -/
theorem responses_live_on (env : Environment) (c : Config) (before after : List Operation) :
    (∀ (i : Nat) (row : ResponseRow), (operated env c before).store.responses[i]? = some row →
      ∃ later, (operated env c (before ++ after)).store.responses[i]? = some later ∧ row.Becomes later) ∧
    (∀ row ∈ (operated env c before).store.responses, row.isDeleted = true →
      row.status = SyncStatus.synced.name) ∧
    ((operated env c before).isDown = false → ∀ id,
      MarksExactly Action.markSynced ResponseRow.synced (operated env c before) id ∧
      MarksExactly Action.markDeleted ResponseRow.deleted (operated env c before) id) ∧
    ((operated env c before).isDown = true → ∀ id, ∀ marking ∈ [Action.markSynced, Action.markDeleted],
      (Action.exec (marking id) (operated env c before)).1 = .error (.store .unavailable) ∧
      (Action.exec (marking id) (operated env c before)).2.store = (operated env c before).store) := by
  have hcoherent := coherent_operated env c before
  refine ⟨?_, fun row hrow => (hcoherent row hrow).status, ?_, ?_⟩
  · rw [operated, operated, List.foldl_append]
    exact (advances_foldl c after _).kept
  · intro hup id
    exact ⟨marks_exactly (fun _ _ => rfl) hup hcoherent id, marks_exactly (fun _ _ => rfl) hup hcoherent id⟩
  · intro hdown id marking hmarking
    have hmarks : Action.exec (marking id) (operated env c before) = (.error (.store .unavailable),
        { operated env c before with clock := (operated env c before).clock + 1 }) := by
      rcases List.mem_pair.1 hmarking with rfl | rfl
      · exact exec_markWith_of_down hdown id
      · exact exec_markWith_of_down hdown id
    rw [hmarks]
    exact ⟨rfl, rfl⟩

/-! ### Two responses of one record -/

/-- Two responses of one record and one of another are stored, and the first record is gone. -/
def sharedRecord : List Operation :=
  [.call (.createResponse (.ofString "form-1") (.ofString "rec1") (.obj []) (.ofString "submitted")),
    .call (.createResponse (.ofString "form-2") (.ofString "rec1") (.obj []) (.ofString "error")),
    .call (.createResponse (.ofString "form-1") (.ofString "rec2") (.obj []) (.ofString "error")),
    .notify (notice ["rec1"] ["rec1"])]

/-- Both responses of the record are synced and deleted, the other one is as it was; and so they stay when
the record is reported again. -/
theorem responses_live_on_shared :
    (operated .standard .plain sharedRecord).store.responses.map (·.status) =
      [SyncStatus.synced.name, SyncStatus.synced.name, SyncStatus.error.name] ∧
    (operated .standard .plain sharedRecord).store.responses.map (·.isDeleted) = [true, true, false] ∧
    (operated .standard .plain sharedRecord).isDown = false ∧
    (∀ (i : Nat) (row : ResponseRow),
      (operated .standard .plain sharedRecord).store.responses[i]? = some row → ∃ later,
        (operated .standard .plain
          (sharedRecord ++ [.notify (notice ["rec1", "rec2"] [])])).store.responses[i]? = some later ∧
        row.Becomes later) ∧
    MarksExactly Action.markSynced ResponseRow.synced (operated .standard .plain sharedRecord) "rec2" ∧
    MarksExactly Action.markDeleted ResponseRow.deleted (operated .standard .plain sharedRecord) "rec2" := by
  obtain ⟨hkept, -, hmarks, -⟩ :=
    responses_live_on .standard .plain sharedRecord [.notify (notice ["rec1", "rec2"] [])]
  have hup : (operated .standard .plain sharedRecord).isDown = false := by decide +kernel
  exact ⟨by decide +kernel, by decide +kernel, hup, hkept, hmarks hup "rec2"⟩

end Service
end Intake
