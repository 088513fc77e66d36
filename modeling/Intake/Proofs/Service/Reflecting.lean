import Intake.Proofs.Form.Stored
import Intake.Proofs.Service.Calling
import Intake.Proofs.Service.Provenance
import Intake.Proofs.Store.Newest

/-!
# Looking reflects writing

What calls that look give is what calls that write gave before. Beside a run of calls stands a ledger of the
rows that were given when forms and responses were created, in their order. Rows are added at the end, under
fresh ids and at later times, and what is changed afterwards is no part of what a row was when it was stored.
So the stored rows are those of the ledger, in its order and in the order of their times, and sorting them by
time, the newest first, gives the ledger backwards.

        calls     createForm ─ createResponse ─ countResponse ─ createForm ─ markSynced
        ledger       f₁             r₁                             f₂
        forms        f₁ ──────────── f₁ ──────────── f₁ + 1 ────── f₁ + 1, f₂
-/

namespace Intake

namespace Store

/-- Counting changes a form that is found only in its count and its time. -/
theorem form?_countResponse (s : Store) (id other : Text) (now : Nat) :
    (s.countResponse other now).form? id = (s.form? id).map fun row =>
      if row.id = other then { row with responseCount := row.responseCount + 1, updatedAt := now }
      else row := by
  have hsame (row : FormRow) : (if row.id = other
      then { row with responseCount := row.responseCount + 1, updatedAt := now } else row).id = row.id := by
    split <;> rfl
  simp only [form?, countResponse, List.find?_map, Function.comp_def, hsame]

/-- A form that is found is still found when another one is added. -/
theorem form?_addForm {s : Store} {id : Text} {row : FormRow} (h : s.form? id = some row)
    (new : FormRow) : (s.addForm new).form? id = some row := by
  change (s.forms ++ [new]).find? _ = _
  rw [List.find?_append]
  change (s.form? id).or _ = _
  rw [h]
  rfl

/-- A form under a new id is found. -/
theorem form?_addForm_of_new {s : Store} {new : FormRow} (h : ∀ row ∈ s.forms, row.id ≠ new.id) :
    (s.addForm new).form? new.id = some new := by
  have hnone : s.forms.find? (fun row => row.id == new.id) = none := by simpa using h
  change (s.forms ++ [new]).find? _ = _
  rw [List.find?_append, hnone]
  simp

end Store

namespace Service

open Store

/-! ### Rows in order -/

/-- The rows have distinct ids, which are names that are used up, and later rows were stored at later
times. -/
structure InOrder {α : Type} (id : α → Text) (createdAt : α → Nat) (names : Names) (named now : Nat)
    (rows : List α) : Prop where
  numbered : ∀ row ∈ rows, ∃ n ≤ named, id row = names.name n
  past : ∀ row ∈ rows, createdAt row ≤ now
  ids : (rows.map id).Nodup
  times : rows.Pairwise fun a b => createdAt a < createdAt b

namespace InOrder

variable {α : Type} {id : α → Text} {createdAt : α → Nat} {names : Names} {named now : Nat}
variable {rows : List α}

theorem nil : InOrder id createdAt names named now [] :=
  ⟨by simp, by simp, List.nodup_nil, List.Pairwise.nil⟩

theorem mono (h : InOrder id createdAt names named now rows) {named' now' : Nat}
    (hnamed : named ≤ named') (hnow : now ≤ now') : InOrder id createdAt names named' now' rows := by
  refine ⟨?_, fun row hrow => (h.past row hrow).trans hnow, h.ids, h.times⟩
  intro row hrow
  obtain ⟨n, hn, hid⟩ := h.numbered row hrow
  exact ⟨n, hn.trans hnamed, hid⟩

/-- No row has the next id. -/
theorem id_ne_next (h : InOrder id createdAt names named now rows) {row : α} (hrow : row ∈ rows) :
    id row ≠ names.name (named + 1) := by
  obtain ⟨n, hn, hid⟩ := h.numbered row hrow
  exact hid ▸ names.name_ne_next hn

/-- The next row. -/
theorem concat (h : InOrder id createdAt names named now rows) {row : α} {later : Nat}
    (hid : id row = names.name (named + 1)) (hlater : now < later) (hcreated : createdAt row = later) :
    InOrder id createdAt names (named + 1) later (rows ++ [row]) := by
  have hold := h.mono (Nat.le_succ named) hlater.le
  refine ⟨?_, ?_, ?_, ?_⟩
  · rw [List.forall_mem_append]
    exact ⟨hold.numbered, by simpa using ⟨named + 1, Nat.le_refl _, hid⟩⟩
  · rw [List.forall_mem_append]
    exact ⟨hold.past, by simp [hcreated]⟩
  · rw [List.map_append, List.map_singleton, hid]
    refine h.ids.append (List.nodup_singleton _) ?_
    rw [List.disjoint_singleton]
    intro hmem
    obtain ⟨old, hrow, hsame⟩ := List.mem_map.1 hmem
    exact h.id_ne_next hrow hsame
  · rw [List.pairwise_append]
    refine ⟨h.times, List.pairwise_singleton _ _, ?_⟩
    intro old hrow new hnew
    rw [List.mem_singleton.1 hnew, hcreated]
    exact (h.past old hrow).trans_lt hlater

/-- Rows with the same ids and times are in the same order. -/
theorem of_map (h : InOrder id createdAt names named now rows) {others : List α}
    (hids : others.map id = rows.map id) (htimes : others.map createdAt = rows.map createdAt) :
    InOrder id createdAt names named now others := by
  refine ⟨?_, ?_, by rw [hids]; exact h.ids, ?_⟩
  · intro other hother
    have hmem : id other ∈ rows.map id := hids ▸ List.mem_map_of_mem hother
    obtain ⟨row, hrow, hsame⟩ := List.mem_map.1 hmem
    rw [← hsame]
    exact h.numbered row hrow
  · intro other hother
    have hmem : createdAt other ∈ rows.map createdAt := htimes ▸ List.mem_map_of_mem hother
    obtain ⟨row, hrow, hsame⟩ := List.mem_map.1 hmem
    rw [← hsame]
    exact h.past row hrow
  · rw [← List.pairwise_map (R := fun a b : Nat => a < b), htimes, List.pairwise_map]
    exact h.times

/-- Some of the rows are in the same order. -/
theorem filter (h : InOrder id createdAt names named now rows) (p : α → Bool) :
    InOrder id createdAt names named now (rows.filter p) :=
  ⟨fun row hrow => h.numbered row (List.mem_of_mem_filter hrow),
    fun row hrow => h.past row (List.mem_of_mem_filter hrow),
    h.ids.sublist (List.filter_sublist.map id), h.times.filter p⟩

/-- The newest row comes first, and none comes twice. -/
theorem newestFirst (h : InOrder id createdAt names named now rows) :
    ((Store.newestFirst createdAt rows).map id).Nodup ∧
    (Store.newestFirst createdAt rows).Pairwise fun newer older => createdAt older < createdAt newer := by
  refine ⟨((perm_newestFirst createdAt rows).map id).nodup_iff.2 h.ids, pairwise_newestFirst createdAt ?_⟩
  exact List.pairwise_map.2 (h.times.imp Nat.ne_of_lt)

end InOrder

/-! ### The ledger of a run -/

/-- A run of calls: the state, and the rows that were given when forms and responses were created, the
oldest first. -/
structure Ledger where
  state : State
  forms : List FormRow
  responses : List ResponseRow

namespace Ledger

/-- Before the first call. -/
def start (env : Environment) : Ledger := ⟨State.initial env, [], []⟩

/-- One more call. -/
def next (l : Ledger) (k : Call) : Ledger :=
  ⟨k.act l.state, l.forms ++ (k.created l.state).1.toList,
    l.responses ++ (k.created l.state).2.toList⟩

end Ledger

/-- The run of several calls in an environment. -/
def ledger (env : Environment) (calls : List Call) : Ledger :=
  calls.foldl Ledger.next (Ledger.start env)

/-- The store is up and holds the rows of the ledger in their order, whatever was changed in them since. -/
structure Ledger.Faithful (l : Ledger) : Prop where
  up : l.state.isDown = false
  forms : l.state.store.forms.map FormRow.origin = l.forms.map FormRow.origin
  responses : l.state.store.responses.map ResponseRow.origin = l.responses.map ResponseRow.origin
  formOrder : InOrder FormRow.id FormRow.createdAt l.state.env.forms l.state.formsNamed l.state.time l.forms
  responseOrder : InOrder ResponseRow.id ResponseRow.createdAt l.state.env.responses
    l.state.responsesNamed l.state.time l.responses

namespace Ledger.Faithful

theorem start (env : Environment) : Faithful (Ledger.start env) := ⟨rfl, rfl, rfl, .nil, .nil⟩

variable {l : Ledger}

theorem next (h : Faithful l) (k : Call) : Faithful (l.next k) := by
  have hprecedes := k.precedes l.state
  have hforms := h.formOrder.mono hprecedes.formsNamed hprecedes.time_le
  have hresponses := h.responseOrder.mono hprecedes.responsesNamed hprecedes.time_le
  rw [← hprecedes.env] at hforms hresponses
  have hup : (k.act l.state).isDown = false := hprecedes.isDown.trans h.up
  cases k.ends h.up with
  | unchanged created store uncounted =>
    simp only [Ledger.next, created, Option.toList_none, List.append_nil]
    exact ⟨hup, by rw [store, h.forms], by rw [store, h.responses], hforms, hresponses⟩
  | formCreated row created fresh store uncounted named clock =>
    simp only [Ledger.next, created, Option.toList_none, Option.toList_some, List.append_nil]
    refine ⟨hup, ?_, by rw [store]; exact h.responses, ?_, hresponses⟩
    · simp only [store, addForm, List.map_append, h.forms]
    · rw [hprecedes.env, named, hprecedes.time_of_clock clock]
      exact h.formOrder.concat fresh.id l.state.time_lt_nextTime fresh.createdAt
  | responseCreated row created fresh store uncounted named clock =>
    simp only [Ledger.next, created, Option.toList_none, Option.toList_some, List.append_nil]
    refine ⟨hup, by rw [store]; exact h.forms, ?_, hforms, ?_⟩
    · simp only [store, addResponse, List.map_append, h.responses]
    · rw [hprecedes.env, named, hprecedes.time_of_clock clock]
      exact h.responseOrder.concat fresh.id l.state.time_lt_nextTime fresh.createdAt
  | marked mark recordId created origin store uncounted =>
    simp only [Ledger.next, created, Option.toList_none, List.append_nil]
    refine ⟨hup, by rw [store]; exact h.forms, ?_, hforms, hresponses⟩
    rw [store, ← h.responses, Store.mark, List.map_map]
    refine List.map_congr_left fun row _ => ?_
    simp only [Function.comp_apply]
    split
    · exact origin row
    · rfl
  | counted id now created store counted =>
    simp only [Ledger.next, created, Option.toList_none, List.append_nil]
    refine ⟨hup, ?_, by rw [store]; exact h.responses, hforms, hresponses⟩
    rw [store, ← h.forms, Store.countResponse, List.map_map]
    refine List.map_congr_left fun row _ => ?_
    simp only [Function.comp_apply]
    split <;> rfl

end Ledger.Faithful

theorem faithful_ledger (env : Environment) (calls : List Call) : (ledger env calls).Faithful := by
  induction calls using List.reverseRecOn with
  | nil => exact .start env
  | append_singleton calls k ih =>
    rw [ledger, List.foldl_append]
    exact ih.next k

/-! ### What looking gives -/

/-- What the calls that look give: the forms and the responses of the ledger, the newest first, as they were
created, each once; nothing for an id exactly when no form was created under it, and nothing for a record
exactly when no response was created with it. A text that no encoding carries cannot be looked for or
counted, and nothing changes then. -/
structure Ledger.Reads (l : Ledger) : Prop where
  forms : ∃ rows, Action.exec Action.forms l.state = (.ok rows, l.state) ∧
    rows.map FormRow.origin = (l.forms.map FormRow.origin).reverse ∧
    (rows.map (·.id)).Nodup ∧ rows.Pairwise fun newer older => older.createdAt < newer.createdAt
  responses : ∀ id : Text, id.encodable = true → ∃ rows,
    Action.exec (Action.responsesTo id) l.state = (.ok rows, l.state) ∧
    rows.map ResponseRow.origin =
      ((l.responses.filter fun row => row.formId == id).map ResponseRow.origin).reverse ∧
    (rows.map (·.id)).Nodup ∧ rows.Pairwise fun newer older => older.createdAt < newer.createdAt
  form : ∀ id : Text, id.encodable = true → ∃ found,
    Action.exec (Action.form? id) l.state = (.ok found, l.state) ∧
    (found = none ↔ ∀ row ∈ l.forms, row.id ≠ id)
  response : ∀ id : Text, id.encodable = true → ∃ found,
    Action.exec (Action.response? id) l.state = (.ok found, l.state) ∧
    (found = none ↔ ∀ row ∈ l.responses, row.recordId ≠ id)
  unencodable : ∀ id : Text, id.encodable = false →
    Action.exec (Action.form? id) l.state = (.error (.store .notEncodable), l.state) ∧
    Action.exec (Action.responsesTo id) l.state = (.error (.store .notEncodable), l.state) ∧
    Action.exec (Action.response? id) l.state = (.error (.store .notEncodable), l.state) ∧
    ((Call.countResponse id).act l.state).store = l.state.store

/-- Rows of the same keys miss the same keys. -/
theorem forall_ne_iff_of_map {α : Type} {key : α → Text} {xs ys : List α} (h : xs.map key = ys.map key)
    (id : Text) : (∀ x ∈ xs, key x ≠ id) ↔ ∀ y ∈ ys, key y ≠ id := by
  have hmem (rows : List α) : (∀ row ∈ rows, key row ≠ id) ↔ id ∉ rows.map key := by simp
  rw [hmem, hmem, h]

namespace Ledger.Faithful

variable {l : Ledger}

/-- The stored rows are in the order of the ledger. -/
theorem formOrder_stored (h : Faithful l) : InOrder FormRow.id FormRow.createdAt
    l.state.env.forms l.state.formsNamed l.state.time l.state.store.forms :=
  h.formOrder.of_map (map_of_origins h.forms fun _ => rfl) (map_of_origins h.forms fun _ => rfl)

theorem responseOrder_stored (h : Faithful l) : InOrder ResponseRow.id ResponseRow.createdAt
    l.state.env.responses l.state.responsesNamed l.state.time l.state.store.responses :=
  h.responseOrder.of_map (map_of_origins h.responses fun _ => rfl)
    (map_of_origins h.responses fun _ => rfl)

theorem reads (h : Faithful l) : l.Reads where
  forms := by
    refine ⟨_, Action.exec_forms h.up, ?_, ?_⟩
    · rw [newestForms, newestFirst_of_ascending _ h.formOrder_stored.times, List.map_reverse, h.forms]
    · exact h.formOrder_stored.newestFirst
  responses id hid := by
    refine ⟨_, by rw [Action.exec_responsesTo h.up, if_pos hid], ?_, ?_⟩
    · have hfilter (rows : List ResponseRow) : (rows.filter fun row => row.formId == id).map
          ResponseRow.origin = (rows.map ResponseRow.origin).filter fun row => row.formId == id := by
        rw [List.filter_map]
        rfl
      rw [Store.responsesTo, newestFirst_of_ascending _ (h.responseOrder_stored.filter _).times,
        List.map_reverse, hfilter, hfilter, h.responses]
    · exact (h.responseOrder_stored.filter _).newestFirst
  form id hid := by
    refine ⟨_, by rw [Action.exec_form? h.up, if_pos hid], ?_⟩
    rw [← forall_ne_iff_of_map (map_of_origins h.forms fun _ => rfl) id]
    simp [Store.form?]
  response id hid := by
    refine ⟨_, by rw [Action.exec_findResponse h.up, if_pos hid], ?_⟩
    rw [← forall_ne_iff_of_map (map_of_origins h.responses fun _ => rfl) id]
    simp [Store.response?]
  unencodable id hid := by
    have hno : ¬ id.encodable = true := by simp [hid]
    refine ⟨?_, ?_, ?_, ?_⟩
    · rw [Action.exec_form? h.up, if_neg hno]
    · rw [Action.exec_responsesTo h.up, if_neg hno]
    · rw [Action.exec_findResponse h.up, if_neg hno]
    · rw [Call.act, Action.exec_countResponse_of_unencodable h.up hid]

end Ledger.Faithful

/-! ### What can be written -/

/-- Texts that every encoding can carry are taken: a call that creates a form or a response of them gives its
row. -/
structure State.Takes (s : State) : Prop where
  form : ∀ (title description baseId tableId tableName : Text) (questions : Value),
    (∀ t ∈ [title, description, baseId, tableId, tableName], t.encodable = true) →
    ∃ row, ((Call.createForm (.str title) (.str description) (.str baseId) (.str tableId)
      (.str tableName) questions).created s).1 = some row
  response : ∀ (formId recordId status : Text) (answers : Value),
    (∀ t ∈ [formId, recordId, status], t.encodable = true) →
    ∃ row, ((Call.createResponse (.str formId) (.str recordId) answers (.str status)).created s).2 =
      some row

theorem takes {s : State} (hs : s.isDown = false) : s.Takes where
  form title description baseId tableId tableName questions h := by
    simp only [List.forall_mem_cons] at h
    obtain ⟨htitle, hdescription, hbase, htable, hname, -⟩ := h
    have hsome : Fills (Action.orText [] (.str description)) description := by
      rw [Action.orText_nil_str]
      exact fills_str hdescription
    obtain ⟨name, hname⟩ : ∃ name, Fills (Action.orText "Table" (.str tableName)) name := by
      cases tableName with
      | nil => exact ⟨"Table", fills_str (by decide)⟩
      | cons c rest => exact ⟨c :: rest, fills_str hname⟩
    obtain ⟨row, hexec, -⟩ := Action.exec_createForm_of_fills questions hs
      (.cons (fills_str (Text.encodable_trim htitle)) (.cons hsome (.cons (fills_str hbase)
        (.cons (fills_str htable) (.cons hname .nil)))))
    exact ⟨row, by rw [Call.created, hexec]; rfl⟩
  response formId recordId status answers h := by
    simp only [List.forall_mem_cons] at h
    obtain ⟨hform, hrecord, hstatus, -⟩ := h
    obtain ⟨row, hexec, -⟩ := Action.exec_createResponse_of_fills answers hs
      (.cons (fills_str hform) (.cons (fills_str hrecord) (.cons (fills_str hstatus) .nil)))
    exact ⟨row, by rw [Call.created, hexec]; rfl⟩

/-! ### A form and its count -/

/-- A call changes a form that is found only by counting it. -/
theorem Call.form?_act (k : Call) {s : State} {id : Text} {row : FormRow} (hs : s.isDown = false)
    (hid : id.encodable = true) (hrow : s.store.form? id = some row) :
    ∃ later, (k.act s).store.form? id = some later ∧ later.origin = row.origin ∧
      later.responseCount = row.responseCount + (if k.counts id then 1 else 0) ∧
      (k.counts id = false → later = row) := by
  have hsame (hstore : (k.act s).store.form? id = some row) (huncounted : k.counts id = false) :
      ∃ later, (k.act s).store.form? id = some later ∧ later.origin = row.origin ∧
        later.responseCount = row.responseCount + (if k.counts id then 1 else 0) ∧
        (k.counts id = false → later = row) :=
    ⟨row, hstore, rfl, by simp [huncounted], fun _ => rfl⟩
  cases k.ends hs with
  | unchanged created store uncounted => exact hsame (by rw [store, hrow]) (uncounted id hid)
  | formCreated new created fresh store uncounted named clock =>
    exact hsame (by rw [store, form?_addForm hrow]) (uncounted id)
  | responseCreated new created fresh store uncounted named clock =>
    exact hsame (by rw [store]; exact hrow) (uncounted id)
  | marked mark recordId created origin store uncounted =>
    exact hsame (by rw [store]; exact hrow) (uncounted id)
  | counted other now created store counted =>
    obtain rfl : row.id = id := by simpa using List.find?_some hrow
    have hlater := form?_countResponse s.store row.id other now
    rw [hrow, Option.map_some] at hlater
    rw [store, hlater, counted row.id]
    by_cases hother : row.id = other
    · rw [if_pos hother]
      exact ⟨_, rfl, rfl, by simp [hother], by simp [hother]⟩
    · rw [if_neg hother]
      exact ⟨_, rfl, rfl, by simp [Ne.symm hother], fun _ => rfl⟩

/-- Several calls change a form that is found only by counting it, and count it as often as they are for its
id. -/
theorem form?_foldl (calls : List Call) {s : State} {id : Text} {row : FormRow}
    (hs : s.isDown = false) (hid : id.encodable = true) (hrow : s.store.form? id = some row) :
    ∃ later, (calls.foldl (fun s k => k.act s) s).store.form? id = some later ∧
      later.origin = row.origin ∧
      later.responseCount = row.responseCount + calls.countP (Call.counts id) := by
  induction calls generalizing s row with
  | nil => exact ⟨row, hrow, rfl, by simp⟩
  | cons k calls ih =>
    obtain ⟨next, hnext, horigin, hcount, -⟩ := k.form?_act hs hid hrow
    obtain ⟨later, hlater, hsame, hrest⟩ := ih ((k.precedes s).isDown.trans hs) hnext
    refine ⟨later, hlater, hsame.trans horigin, ?_⟩
    rw [hrest, hcount, List.countP_cons]
    omega

/-! ### What was created -/

/-- A value whose texts every encoding can carry comes back from its column as it was. -/
theorem content_document_of_encodable {v : Value} (hregular : v.Regular)
    (htext : v.allText Text.encodable = true) : content (document v) = v := by
  rw [content_document hregular, Value.settled_eq_self v hregular htext]

/-- The row of a form that was created holds its questions. -/
theorem questions_of_created {title description baseId tableId tableName questions : Value} {s : State}
    {row : FormRow} (h : ((Call.createForm title description baseId tableId tableName questions).created
      s).1 = some row) : row.questions = document questions := by
  rw [Call.created] at h
  rcases Action.exec_createForm_cases title description baseId tableId tableName questions s with
    ⟨e, hexec⟩ | ⟨new, hexec, -, hquestions⟩
  · rw [hexec] at h
    cases h
  · rw [hexec] at h
    cases h
    exact hquestions

/-- The row of a response that was created for texts holds them, and its answers. -/
theorem response_of_created {formId recordId : Text} {answers status : Value} {s : State}
    {row : ResponseRow} (h : ((Call.createResponse (.str formId) (.str recordId) answers status).created
      s).2 = some row) :
    row.formId = formId ∧ row.recordId = recordId ∧ row.answers = document answers := by
  rw [Call.created] at h
  rcases Action.exec_createResponse_cases (.str formId) (.str recordId) answers status s with
    ⟨e, hexec⟩ | ⟨new, hexec, -, hform, hrecord, hanswers⟩
  · rw [hexec] at h
    cases h
  · rw [hexec] at h
    cases h
    exact ⟨hform.of_str, hrecord.of_str, hanswers⟩

/-- A form is found from its creation on. -/
theorem Ledger.Faithful.form?_created {l : Ledger} (h : l.Faithful) {k : Call} {row : FormRow}
    (hrow : (k.created l.state).1 = some row) : (k.act l.state).store.form? row.id = some row ∧
      row.id.encodable = true ∧ row.responseCount = 0 := by
  cases k.ends h.up with
  | formCreated new created fresh store uncounted named clock =>
    rw [created] at hrow
    cases hrow
    refine ⟨?_, by rw [fresh.id, State.encodable_nextForm], fresh.responseCount⟩
    rw [store]
    refine form?_addForm_of_new ?_
    intro old hold
    rw [fresh.id]
    exact h.formOrder_stored.id_ne_next hold
  | unchanged created | responseCreated _ created | marked _ _ created | counted _ _ created =>
    rw [created] at hrow
    cases hrow

theorem state_foldl_next (calls : List Call) (l : Ledger) :
    (calls.foldl Ledger.next l).state = calls.foldl (fun s k => k.act s) l.state := by
  induction calls generalizing l with
  | nil => rfl
  | cons k calls ih => exact ih (l.next k)

/-- After every run of calls, forms and responses of sound texts can be created, and what looking gives
reflects what was written. A form that was created is found with its questions, with one count for each call
since then that counts its id, and with all else as it was when it was created; no other call changes it. A
response that was created has the form, the record and the answers that were given. -/
theorem reads_reflect_writes (env : Environment) (calls : List Call) :
    (ledger env calls).state.Takes ∧ (ledger env calls).Reads ∧
    (∀ (before after : List Call) (title description baseId tableId tableName questions : Value)
        (row : FormRow),
      calls = before ++ .createForm title description baseId tableId tableName questions :: after →
      ((Call.createForm title description baseId tableId tableName questions).created
        (ledger env before).state).1 = some row →
      ∃ later, Action.exec (Action.form? row.id) (ledger env calls).state =
          (.ok (some later), (ledger env calls).state) ∧
        later.origin = row.origin ∧ later.responseCount = after.countP (Call.counts row.id) ∧
        (questions.Regular → questions.allText Text.encodable = true →
          later.value.member "questions" = questions)) ∧
    (∀ (before after : List Call) (formId recordId : Text) (answers status : Value) (row : ResponseRow),
      calls = before ++ .createResponse (.str formId) (.str recordId) answers status :: after →
      ((Call.createResponse (.str formId) (.str recordId) answers status).created
        (ledger env before).state).2 = some row →
      row.formId = formId ∧ row.recordId = recordId ∧
        (answers.Regular → answers.allText Text.encodable = true →
          row.value.member "answers" = answers)) ∧
    ∀ (k : Call) (id : Text) (row : FormRow), id.encodable = true →
      (ledger env calls).state.store.form? id = some row → k.counts id = false →
      (k.act (ledger env calls).state).store.form? id = some row := by
  have hfaithful := faithful_ledger env calls
  refine ⟨takes hfaithful.up, hfaithful.reads, ?_, ?_, ?_⟩
  · rintro before after title description baseId tableId tableName questions row rfl hrow
    have hbefore := faithful_ledger env before
    obtain ⟨hfound, hid, hcount⟩ := hbefore.form?_created hrow
    have hstate := (Call.createForm title description baseId tableId tableName questions).precedes
      (ledger env before).state
    obtain ⟨later, hlater, horigin, hcounted⟩ :=
      form?_foldl after (hstate.isDown.trans hbefore.up) hid hfound
    have hend : (ledger env (before ++ .createForm title description baseId tableId tableName questions ::
        after)).state.store.form? row.id = some later := by
      rw [ledger, List.foldl_append, List.foldl_cons, state_foldl_next]
      exact hlater
    refine ⟨later, ?_, horigin, by rw [hcounted, hcount, Nat.zero_add], ?_⟩
    · rw [Action.exec_form? hfaithful.up, if_pos hid, hend]
    · intro hregular htext
      have hsame : later.questions = row.questions := congrArg (·.questions) horigin
      change content later.questions = questions
      rw [hsame, questions_of_created hrow, content_document_of_encodable hregular htext]
  · rintro before after formId recordId answers status row - hrow
    obtain ⟨hform, hrecord, hanswers⟩ := response_of_created hrow
    refine ⟨hform, hrecord, ?_⟩
    intro hregular htext
    change content row.answers = answers
    rw [hanswers, content_document_of_encodable hregular htext]
  · intro k id row hid hrow huncounted
    obtain ⟨later, hlater, -, -, hsame⟩ := k.form?_act hfaithful.up hid hrow
    rw [hlater, hsame huncounted]

/-! ### A run of calls -/

/-- Questions of values that are easily lost: numbers that are none, a negative zero, a large number, and
members that are not in the order of their keys. -/
def rareQuestions : Value :=
  .arr [.obj [("b", .real .nan), ("a", .real .negZero)], .int (10 ^ 30), .null]

/-- A call that creates a form with the questions. -/
def rareForm : Call :=
  .createForm (.ofString " Visit ") .null (.ofString "app1") (.ofString "tbl1") .null rareQuestions

/-- A call that creates a response to the form. -/
def plainResponse : Call :=
  .createResponse (.ofString "form-1") (.ofString "rec1") (.obj []) (.ofString "submitted")

/-- Calls after the form was created, two of which count it. -/
def laterCalls : List Call :=
  [plainResponse, .countResponse "form-1", .countResponse "form-2", rareForm, .markDeleted "rec1",
    .countResponse "form-1", .listForms]

/-- A count before the form was created does not count, and neither does one of another form. -/
theorem reads_reflect_writes_rare :
    (ledger .standard (.countResponse "form-1" :: rareForm :: laterCalls)).Reads ∧
    ∃ row later, (rareForm.created (ledger .standard [.countResponse "form-1"]).state).1 = some row ∧
      Action.exec (Action.form? row.id)
          (ledger .standard (.countResponse "form-1" :: rareForm :: laterCalls)).state =
        (.ok (some later), (ledger .standard (.countResponse "form-1" :: rareForm :: laterCalls)).state) ∧
      later.responseCount = 2 ∧ later.value.member "questions" = rareQuestions := by
  obtain ⟨-, hreads, hforms, -, -⟩ :=
    reads_reflect_writes .standard (.countResponse "form-1" :: rareForm :: laterCalls)
  have hcreated : ((rareForm.created (ledger .standard [.countResponse "form-1"]).state).1.map (·.id)) =
      some "form-1" := by decide +kernel
  obtain ⟨row, hrow, hid⟩ := Option.map_eq_some_iff.1 hcreated
  obtain ⟨later, hfound, -, hcount, hquestions⟩ :=
    hforms [.countResponse "form-1"] laterCalls _ _ _ _ _ _ row rfl hrow
  refine ⟨hreads, row, later, hrow, hfound, ?_, hquestions ?_ (by decide)⟩
  · rw [hcount, hid]
    decide
  · refine ⟨⟨by decide, trivial, trivial, trivial⟩, trivial, trivial, trivial⟩

/-- A record id that no encoding carries is not looked for at all, though no response has it. -/
theorem reads_not_reflect_writes :
    ¬ ∀ (env : Environment) (calls : List Call) (recordId : Text),
      (Action.exec (Action.response? recordId) (ledger env calls).state).1 = .ok none ↔
        ∀ row ∈ (ledger env calls).responses, row.recordId ≠ recordId := by
  intro hclaim
  have hnone := (hclaim .standard [plainResponse] [0xD800]).2 (by decide +kernel)
  rw [Action.exec_findResponse (faithful_ledger _ _).up] at hnone
  cases hnone

end Service
end Intake
