import Intake.Proofs.Service.Replies

/-!
# Forms that are read back

A form passes from one shape to the next: the body of a request, its rules reduced, the record of each
question, the text of a column, and the records that are loaded from it. Where the payload uses the wire
names and no halves of code points, nothing that the author wrote gets lost on the way: the loaded
questions are those of the payload, and they are shown under the same answers.
-/

namespace Intake

namespace Question

/-- The item gives none of its fields under a second name. -/
def isWired (item : Value) : Bool :=
  [keyName, fieldIdName, rulesName].all fun n => !(item.members?.getD []).has n.plain

/-- The record of a question says what its item says. -/
structure SameAs (item : Value) (q : Question) : Prop where
  key : item.member "questionKey" = .str q.key
  fieldId : item.member "airtableFieldId" = .str q.fieldId
  label : item.member "label" = .str q.label
  type : item.member "type" = .str q.type

variable {item : Value} {q : Question}

theorem MadeOf.sameAs (h : MadeOf item q) : SameAs item q := ⟨h.key, h.fieldId, h.label, h.type⟩

/-- The engine decides the same about a question as about its item, whatever the answers. -/
theorem MadeOf.shows (h : MadeOf item q) (hwired : isWired item = true)
    (hwell : Rules.wellFormed (Visibility.rawRules item) = true) (answers : Members) :
    Rules.shows q.rulesValue answers = Rules.shows (Visibility.rawRules item) answers := by
  obtain ⟨ms, rfl, hrule⟩ := h.rule
  cases hrule with
  | none hwire hrules => rw [hrules, Visibility.rawRules, Value.member_obj_of_get? hwire]
  | checked v hwire _ r hr hrules =>
    rw [Visibility.rawRules, Value.member_obj_of_get? hwire] at hwell ⊢
    rw [hrules, (RuleRecord.seenIn_of_check hr hwell).shows]
  | unchecked hwire hrules =>
    have hplain : ms.get? "conditional_rules" = none := by
      have hhas := List.all_eq_true.1 hwired rulesName (by simp)
      change (!(Members.get? ms "conditional_rules").isSome) = true at hhas
      simpa using hhas
    have hraw : Visibility.rawRules (.obj ms) = .null := by
      rw [Visibility.rawRules, Value.member, Members.getD, hwire]; rfl
    rw [hrules, hplain, hraw]
    rfl

/-- The questions shown have the keys of the items shown. -/
theorem visible_keys {items : List Value} {qs : List Question} (h : List.Forall₂ MadeOf items qs)
    (hwired : ∀ item ∈ items, isWired item = true)
    (hwell : ∀ item ∈ items, Rules.wellFormed (Visibility.rawRules item) = true) (answers : Members) :
    (visible qs answers).map (·.key) =
      (Visibility.visible Visibility.rawRules items answers).map Visibility.rawKey := by
  unfold visible Visibility.visible
  induction h with
  | nil => rfl
  | @cons item q items qs hmade hrest ih =>
    rw [List.forall_mem_cons] at hwired hwell
    have htail := ih hwired.2 hwell.2
    have hshows := hmade.shows hwired.1 hwell.1 answers
    simp only [List.filter_cons, hshows]
    split
    · rw [List.map_cons, List.map_cons, htail]
      exact congrArg (· :: _) hmade.keyOf.symm
    · exact htail

end Question

/-- The questions of a payload use the wire names only. -/
def Payload.isWired (payload : Value) : Bool :=
  match payload.member "questions" with
  | .arr items => items.all Question.isWired
  | _ => true

/-- The row of a form brings back what the payload says and what was made of it. -/
structure Store.FormRow.ReadsBack (row : Store.FormRow) (payload : Value) (items : List Value)
    (form : NewForm) : Prop where
  /-- The title is the given one, trimmed, and not empty. -/
  title : ∃ t, payload.member "title" = .str t ∧ row.title = t.trim ∧ t.trim ≠ []
  /-- The questions are loaded as they were when the form was created. -/
  questions : row.questions? = some form.questions
  /-- So they are when the form is shown in full. -/
  view : ∃ view, row.view? = some view ∧ view.form.title = row.title ∧
    view.form.questions = form.questions
  /-- They are the questions of the payload, in the same order. -/
  same : List.Forall₂ Question.SameAs items form.questions
  /-- No two have the same key, and no key is blank. -/
  distinct : (form.questions.map (·.key)).Nodup
  notBlank : ∀ q ∈ form.questions, q.key.isBlank = false
  /-- They are shown under the same answers. -/
  shown : ∀ answers, (Question.visible form.questions answers).map (·.key) =
    (Visibility.visible Visibility.rawRules items answers).map Visibility.rawKey

namespace NewForm

variable {payload : Value} {items : List Value} {form : NewForm} (h : form.MadeOf payload items)

include h

/-- No key is blank. -/
theorem MadeOf.keys_not_blank : ∀ q ∈ form.questions, q.key.isBlank = false := by
  intro q hq
  obtain ⟨item, hitem, hmade⟩ := h.exists_item hq
  have hshape := h.accepted.shapes item hitem
  rw [Payload.filled, Bool.and_eq_true, List.all_eq_true] at hshape
  have hblank := hshape.2 "questionKey" (by decide)
  rw [hmade.key, Bool.not_eq_true'] at hblank
  exact hblank

/-- A row of a form that was made of a payload brings it back. -/
theorem MadeOf.readsBack {row : Store.FormRow} (hkeeps : row.Keeps form) (hregular : payload.Regular)
    (hencodable : payload.Encodable) (hwired : Payload.isWired payload = true) :
    row.ReadsBack payload items form := by
  have hrules := hereditary_regular.rulesValues hregular h
  have hsettled := h.settled_eq_self hregular hencodable
  have hitems : ∀ item ∈ items, Question.isWired item = true := by
    rw [Payload.isWired, h.accepted.questions] at hwired
    exact List.all_eq_true.1 hwired
  have hview := Store.FormRow.view?_eq hkeeps.questions hrules
  rw [hsettled] at hview
  refine ⟨⟨form.title, h.title, hkeeps.title, ?_⟩, ?_, ⟨_, hview, rfl, rfl⟩, ?_, ?_, h.keys_not_blank,
    Question.visible_keys h.questions hitems h.accepted.rules⟩
  · rw [Ne, Text.trim_eq_nil_iff, h.title_not_blank]
    exact Bool.false_ne_true
  · rw [Store.FormRow.questions?_eq hkeeps.questions hrules, hsettled]
  · exact h.questions.imp fun _ _ hmade => hmade.sameAs
  · rw [← h.keys]
    exact h.accepted.keys

end NewForm

namespace Service

open Store Http

/-- The id of the form that a reply shows. -/
def shownId? (reply : Reply) : Option Text :=
  match reply.body with
  | .json v => ((v.member "form").member "id").text?
  | .text _ => none

/-- The reply to a new form shows its id. -/
theorem shownId?_of_view {reply : Reply} {view : FormView}
    (h : reply.body = .json (createdBody view).published) : shownId? reply = some view.id := by
  rw [shownId?, h]; rfl

/-- A form that is answered by 201 is read back, after any further turns, as the author wrote it. -/
theorem created_form_reads_back (env : Environment) (c : Config) (turns : List Turn) {r : Request}
    {args : List Text}
    (hroute : Route.find r.method r.path = .endpoint .createForm args)
    (hcreated : ((handle c r).run (course env c turns).state).1.status = 201)
    (hencodable : (Action.bodyOf r).Encodable) (hwired : Payload.isWired (Action.bodyOf r) = true) :
    ∃ id items form, shownId? ((handle c r).run (course env c turns).state).1 = some id ∧
      (Action.bodyOf r).member "questions" = .arr items ∧
      verdict (Action.bodyOf r) = .ok (.ok form) ∧
      ∀ later, ∃ row, (course env c (turns ++ [.request r] ++ later)).state.store.form? id = some row ∧
        row.ReadsBack (Action.bodyOf r) items form := by
  obtain ⟨form, view, passed, hview, hstore, hbody⟩ := created_of_status hroute hcreated
  obtain ⟨items, hmade⟩ := NewForm.madeOf_of_verdict passed
  have hid : view.id = ((course env c turns).state.rowOf form).id := by
    rw [FormRow.view?_eq rfl (hereditary_regular.rulesValues (regular_bodyOf r) hmade)] at hview
    exact (congrArg (·.id) (Option.some.inj hview)).symm
  have hstored : (course env c turns).state.rowOf form ∈
      (course env c (turns ++ [.request r])).state.store.forms := by
    rw [course_concat]
    change _ ∈ ((handle c r).run (course env c turns).state).2.store.forms
    rw [hstore]
    exact List.mem_append_right _ (List.mem_singleton.2 rfl)
  refine ⟨view.id, items, form, shownId?_of_view hbody, hmade.accepted.questions, passed,
    fun later => ?_⟩
  obtain ⟨row, hrow, horigin⟩ := form?_later env c _ later hstored
  have hkeeps : row.Keeps form := FormRow.Keeps.of_origin horigin ⟨rfl, rfl⟩
  exact ⟨row, hid ▸ hrow, hmade.readsBack hkeeps (regular_bodyOf r) hencodable hwired⟩

/-- A request for a form of two questions, the second of which is shown after one answer to the first. -/
def wiredRequest : Request := posting "/forms" (formBody [item "a" "A" [], item "b" "B"
  [("conditionalRules", .obj [("logic", .ofString "AND"), ("conditions", .arr
    [.obj [("questionKey", .ofString "a"), ("operator", .ofString "equals"), ("value", .int 1)]])])]])

theorem created_form_reads_back_wired :
    ((handle .plain wiredRequest).run (course .standard .plain []).state).1.status = 201 ∧
    ∃ id items form,
      shownId? ((handle .plain wiredRequest).run (course .standard .plain []).state).1 = some id ∧
      (Action.bodyOf wiredRequest).member "questions" = .arr items ∧
      verdict (Action.bodyOf wiredRequest) = .ok (.ok form) ∧
      ∀ later, ∃ row,
        (course .standard .plain ([] ++ [.request wiredRequest] ++ later)).state.store.form? id = some row ∧
        row.ReadsBack (Action.bodyOf wiredRequest) items form := by
  have hcreated : ((handle .plain wiredRequest).run (course .standard .plain []).state).1.status = 201 := by
    decide +kernel
  have hencodable : (Action.bodyOf wiredRequest).allText Text.encodable = true := by decide +kernel
  have hroute : Route.find wiredRequest.method wiredRequest.path = .endpoint .createForm [] := by
    decide +kernel
  exact ⟨hcreated, created_form_reads_back .standard .plain [] hroute hcreated hencodable (by decide +kernel)⟩

end Service
end Intake
