import Intake.Proofs.Form.Inherited
import Intake.Proofs.Json.Telling

/-!
# Forms that can be shown

A form is shown with its texts, its moments and its questions. The moments are digits and marks, and the
texts outside the questions are those that the store could take. So whether a form can be told depends on
its questions alone, and those of a plain payload can be told.
-/

namespace Intake

/-! ### Moments -/

namespace Moment

theorem encodable_padded (width n : Nat) : (padded width n).encodable = true := by
  rw [padded, Text.encodable_append, Text.encodable_replicate_zero, Text.encodable_ofNat]
  rfl

/-- The marks between the numbers of a moment. -/
def marks : List CodePoint := [43, 45, 46, 58, 84]

theorem encodable_cons_mark {c : CodePoint} (hc : c ∈ marks) (t : Text) :
    Text.encodable (c :: t) = t.encodable := by
  have hmark : ∀ d ∈ marks, d.isSurrogate = false := by
    simp only [marks, List.forall_mem_cons]
    exact ⟨rfl, rfl, rfl, rfl, rfl, by simp⟩
  rw [Text.encodable, List.all_cons, hmark c hc]
  rfl

/-- A moment is written in digits and marks. -/
theorem encodable_render (m : Moment) : m.render.encodable = true := by
  have hmark (t : Text) := fun c hc => encodable_cons_mark (c := c) hc t
  simp only [marks, List.forall_mem_cons] at hmark
  have hoffset (o : Int) : (renderOffset o).encodable = true := by
    by_cases hsign : o < 0 <;> by_cases hseconds : o.natAbs % 60 = 0 <;>
      simp [renderOffset, hsign, hseconds, hmark, Text.encodable_append, encodable_padded]
  obtain ⟨seconds, micros, offset⟩ := m
  cases offset <;> by_cases hmicros : micros = 0 <;>
    simp [render, hmicros, hmark, hoffset, Text.encodable_append, encodable_padded]

end Moment

theorem Value.plain_ofMoment? (m : Option Moment) : (Value.ofMoment? m).Plain := by
  cases m with
  | none => exact Value.plain_null
  | some m => exact Value.plain_str.2 m.encodable_render

theorem Value.published_ofMoment? (m : Option Moment) :
    (Value.ofMoment? m).published = Value.ofMoment? m := by
  cases m <;> rfl

/-! ### Forms -/

/-- Every client can read what is shown of the question. -/
def Question.Told (q : Question) : Prop := (q.dump .wire).published.Plain

instance (q : Question) : Decidable q.Told := inferInstanceAs (Decidable (Value.Plain _))

/-- Every client can read the questions of the form as they come back from the store. -/
def NewForm.Told (form : NewForm) : Prop := ∀ q ∈ form.questions.map (·.settled), q.Told

instance (form : NewForm) : Decidable form.Told :=
  inferInstanceAs (Decidable (∀ q ∈ form.questions.map (·.settled), q.Told))

namespace FormView

/-- What is shown of a form. -/
theorem published_dump (view : FormView) : (view.dump .wire).published = .obj
    [("title", .str view.form.title), ("description", .str view.form.description),
      ("airtableBaseId", .str view.form.baseId), ("airtableTableId", .str view.form.tableId),
      ("airtableTableName", .str view.form.tableName),
      ("questions", .arr (view.form.questions.map fun q => (q.dump .wire).published)),
      ("id", .str view.id), ("isPublished", .bool view.status.isPublished),
      ("responseCount", .int view.status.responseCount),
      ("createdAt", Value.ofMoment? view.status.createdAt),
      ("updatedAt", Value.ofMoment? view.status.updatedAt)] := by
  have hitems := Value.publishedItems_eq_map (view.form.questions.map (·.dump .wire))
  rw [List.map_map] at hitems
  change Value.obj (_ :: _ :: _ :: _ :: _ :: (_, Value.arr (Value.publishedItems _)) :: _ :: _ :: _ ::
    (_, Value.published _) :: (_, Value.published _) :: []) = _
  rw [hitems, Value.published_ofMoment?, Value.published_ofMoment?]
  rfl

/-- A form whose own texts can be encoded is told exactly when its questions are. -/
theorem plain_published_dump {view : FormView}
    (htexts : [view.form.title, view.form.description, view.form.baseId, view.form.tableId,
      view.form.tableName, view.id].all Text.encodable = true) :
    (view.dump .wire).published.Plain ↔ ∀ q ∈ view.form.questions, q.Told := by
  simp only [List.all_cons, List.all_nil, Bool.and_true, Bool.and_eq_true] at htexts
  have hkeys : (["title", "description", "airtableBaseId", "airtableTableId", "airtableTableName",
      "questions", "id", "isPublished", "responseCount", "createdAt", "updatedAt"] : List Text).all
      Text.encodable = true := by decide
  simp only [List.all_cons, List.all_nil, Bool.and_true, Bool.and_eq_true] at hkeys
  rw [published_dump]
  simp [htexts, hkeys, Value.plain_ofMoment?, Question.Told]

end FormView

/-! ### Plain payloads -/

theorem hereditary_plain : Hereditary Value.Plain where
  null := Value.plain_null
  member h hget := (Value.plain_obj.1 h _ (Members.mem_of_get? hget)).2
  item h hv := Value.plain_arr.1 h _ hv
  arr h := Value.plain_arr.2 h
  obj _ hkeys h := Value.plain_obj.2 fun e he =>
    ⟨List.all_eq_true.1 hkeys _ (List.mem_map_of_mem he), h e he⟩

/-- What is shown of a question can be told when the item that it was made of can be. -/
theorem Question.told_of_plain {item : Value} {q : Question} (hitem : item.Plain)
    (h : MadeOf item q) : q.Told := by
  have htext {key : Text} {t : Text} (ht : item.member key = .str t) : (Value.str t).Plain :=
    ht ▸ hereditary_plain.memberD hitem key
  have hoptions : (Value.arr (q.options.map .str)).Plain := by
    rcases h.options with hnil | harr
    · rw [hnil]
      exact hereditary_plain.arr (by simp)
    · exact harr ▸ hereditary_plain.memberD hitem "options"
  refine Value.plain_published _ ?_
  rw [q.dump_wire]
  refine hereditary_plain.obj q.nodup_wireMembers q.encodable_wireMembers ?_
  simp only [wireMembers, List.forall_mem_cons]
  exact ⟨htext h.key, htext h.fieldId, htext h.label, htext h.type, Value.plain_bool _, hoptions,
    hereditary_plain.rulesValue hitem h, by simp⟩

/-- All questions of a plain payload can be told. -/
theorem NewForm.MadeOf.told {payload : Value} {items : List Value} {form : NewForm}
    (h : form.MadeOf payload items) (hregular : payload.Regular) (hplain : payload.Plain) :
    form.Told := by
  rw [NewForm.Told, h.settled_eq_self hregular hplain.encodable]
  intro q hq
  obtain ⟨item, hitem, hmade⟩ := h.exists_item hq
  exact Question.told_of_plain (hereditary_plain.items hplain h.accepted item hitem) hmade

end Intake
