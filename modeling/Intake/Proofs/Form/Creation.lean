import Intake.Proofs.Form.Gate
import Intake.Proofs.Form.Stored
import Intake.Proofs.Service.Effect

/-!
# From the payload to the form

A form that was created passed three gates, and each tells something about it. The payload as a whole
was sound: its questions are filled in, no two have the same key, and the rules that the gate saw are
well-formed and refer to other questions. The rules were reduced to their declared fields. And every
question passed the checks of its fields. The first and the last gate read a question differently: the
first looks for rules under one name, the last under two.
-/

namespace Intake

/-! ### The questions -/

namespace Question

/-- What a question has of its rule: the record of the rule under the wire name, or else whatever object
stands under the other name. -/
inductive RuleOf (ms : Members) (q : Question) : Prop where
  | none (wire : ms.get? "conditionalRules" = some .null) (rules : q.rulesValue = .null)
  | checked (v : Value) (wire : ms.get? "conditionalRules" = some v) (notNull : v ≠ .null)
      (r : RuleRecord) (passed : RuleRecord.check v = .ok r) (rules : q.rulesValue = r.dump .wire)
  | unchecked (wire : ms.get? "conditionalRules" = Option.none)
      (rules : q.rulesValue = (ms.get? "conditional_rules").getD .null)

/-- The question that was made of an item of the payload. -/
structure MadeOf (item : Value) (q : Question) : Prop where
  key : item.member "questionKey" = .str q.key
  fieldId : item.member "airtableFieldId" = .str q.fieldId
  label : item.member "label" = .str q.label
  type : item.member "type" = .str q.type
  options : q.options = [] ∨ item.member "options" = .arr (q.options.map .str)
  rule : ∃ ms : Members, item = .obj ms ∧ RuleOf ms q

theorem MadeOf.keyOf {item : Value} {q : Question} (h : MadeOf item q) : Payload.keyOf item = q.key := by
  rw [Payload.keyOf, Visibility.rawKey, h.key]; rfl

/-- Normalising changes nothing but the rule, and that only if there is one. -/
theorem normal_cases {ms ns : Members} (h : Normal.question (.obj ms) = .ok (.obj ns)) :
    ns = ms ∧ ms.getD "conditionalRules" = .null ∨
      ∃ r, RuleRecord.check (ms.getD "conditionalRules") = .ok r ∧
        ms.getD "conditionalRules" ≠ .null ∧ ns = ms.set "conditionalRules" (r.dump .wire) := by
  unfold Normal.question at h
  simp only [Normal.asObject] at h
  split at h
  · rename_i hnull
    cases h
    exact .inl ⟨rfl, hnull⟩
  · rename_i hne
    split at h
    · rename_i r hr
      cases h
      exact .inr ⟨r, hr, hne, rfl⟩
    · cases h

/-- An item that is filled in makes a question by its wire names, except for its rule. -/
theorem madeOf_of_check {item normal : Value} {q : Question}
    (hfilled : Payload.filled Payload.questionFields item = true)
    (hnormal : Normal.question item = .ok normal) (hcheck : check normal = .ok q) :
    MadeOf item q := by
  obtain ⟨ms, rfl⟩ := Payload.isObject_of_filled hfilled
  obtain ⟨ns, rfl, hkey, hfieldId, hlabel, htype, hoptions, hrules⟩ := of_check hcheck
  have hnormal := normal_cases hnormal
  have hsame {key : Text} (hne : key ≠ "conditionalRules") : ns.get? key = ms.get? key := by
    rcases hnormal with ⟨rfl, -⟩ | ⟨r, -, -, rfl⟩
    · rfl
    · exact Members.get?_set_of_ne hne
  have hwire {n : FieldName} {t : Text} (hne : n.wire ≠ "conditionalRules")
      (hn : n.wire ∈ Payload.questionFields) (hv : n.value? ns = some (.str t)) :
      (Value.obj ms).member n.wire = .str t := by
    obtain ⟨v, hget, -⟩ := Payload.get?_of_filled hfilled hn
    rw [FieldName.value?_of_wire ((hsame hne).trans hget)] at hv
    rw [Value.member_obj_of_get? hget, Option.some.inj hv]
  refine ⟨hwire (n := keyName) (by decide) (by decide) hkey,
    hwire (n := fieldIdName) (by decide) (by decide) hfieldId,
    Value.member_obj_of_get? ((hsame (by decide)).symm.trans hlabel),
    Value.member_obj_of_get? ((hsame (by decide)).symm.trans htype),
    hoptions.imp_right fun h => Value.member_obj_of_get? ((hsame (by decide)).symm.trans h),
    ms, rfl, ?_⟩
  rcases hnormal with ⟨rfl, hnull⟩ | ⟨r, hr, hne, rfl⟩
  · cases hget : ns.get? "conditionalRules" with
    | none =>
      rw [FieldName.value?_of_plain (n := rulesName) hget] at hrules
      exact .unchecked hget hrules.symm
    | some v =>
      obtain rfl : v = .null := by rw [Members.getD, hget] at hnull; exact hnull
      rw [FieldName.value?_of_wire (n := rulesName) hget] at hrules
      exact .none hget hrules.symm
  · have hget := Members.get?_of_getD rfl hne
    have hvalue : rulesName.value? (ms.set "conditionalRules" (r.dump .wire)) = some (r.dump .wire) :=
      FieldName.value?_of_wire (Members.get?_set_self ms "conditionalRules" _)
    rw [hvalue] at hrules
    exact .checked _ hget hne r hr hrules.symm

theorem madeOf_of_normal {items normals : List Value} {qs : List Question}
    (hfilled : ∀ item ∈ items, Payload.filled Payload.questionFields item = true)
    (hnormal : Normal.questions items = .ok normals) (hcheck : normals.map check = qs.map .ok) :
    List.Forall₂ MadeOf items qs := by
  induction items generalizing normals qs with
  | nil =>
    cases hnormal
    cases qs with
    | nil => exact .nil
    | cons q qs => cases hcheck
  | cons item items ih =>
    rw [Normal.questions] at hnormal
    split at hnormal
    · cases hnormal
    · rename_i normal hitem
      split at hnormal
      · cases hnormal
      · rename_i rest hrest
        cases hnormal
        cases qs with
        | nil => cases hcheck
        | cons q qs =>
          rw [List.map_cons, List.map_cons, List.cons.injEq] at hcheck
          rw [List.forall_mem_cons] at hfilled
          exact .cons (madeOf_of_check hfilled.1 hitem hcheck.1) (ih hfilled.2 hrest hcheck.2)

end Question

/-! ### The form -/

namespace NewForm

/-- The form that was made of a payload. -/
structure MadeOf (payload : Value) (items : List Value) (form : NewForm) : Prop where
  accepted : Payload.Accepted payload items
  questions : List.Forall₂ Question.MadeOf items form.questions
  title : payload.member "title" = .str form.title

/-- What passes the checks gives its title and its questions. -/
theorem of_check {ms : Members} {form : NewForm} (h : check (.obj ms) = .ok form) :
    ms.get? "title" = some (.str form.title) ∧
      ∃ items, ms.get? "questions" = some (.arr items) ∧
        items.map Question.check = form.questions.map .ok := by
  obtain ⟨_, hms, hfields⟩ := Checked.record_eq_ok.1 h
  cases hms
  obtain ⟨f₅, questions, h₅, hquestions, rfl⟩ := Checked.also_eq_ok.1 hfields
  obtain ⟨f₄, tableName, h₄, -, rfl⟩ := Checked.also_eq_ok.1 h₅
  obtain ⟨f₃, tableId, h₃, -, rfl⟩ := Checked.also_eq_ok.1 h₄
  obtain ⟨f₂, baseId, h₂, -, rfl⟩ := Checked.also_eq_ok.1 h₃
  obtain ⟨f₁, description, h₁, -, rfl⟩ := Checked.also_eq_ok.1 h₂
  obtain ⟨_, title, hmk, htitle, rfl⟩ := Checked.also_eq_ok.1 h₁
  obtain rfl := Checked.ok.inj hmk
  obtain ⟨v, hv, htitle⟩ := FieldName.required_eq_ok.1 htitle
  obtain ⟨w, hw, hquestions⟩ := FieldName.required_eq_ok.1 hquestions
  obtain ⟨items, rfl, hitems⟩ := Checked.list_eq_ok.1 hquestions
  rw [FieldName.value?_same] at hv hw
  rw [Schema.text_eq_ok.1 htitle] at hv
  exact ⟨hv, items, hw, hitems⟩

/-- Every form that passes the gates is made of its payload. -/
theorem madeOf_of_verdict {payload : Value} {form : NewForm}
    (h : Service.verdict payload = .ok (.ok form)) : ∃ items, MadeOf payload items form := by
  obtain ⟨hpayload, normals, hnormal, hform⟩ := Service.verdict_eq_ok_iff.1 h
  obtain ⟨items, haccepted⟩ := Payload.accepted_of_check hpayload
  obtain ⟨ms, rfl⟩ := Payload.isObject_of_filled haccepted.envelope
  rw [haccepted.questions] at hnormal
  obtain ⟨htitle, normals', hnormals', hchecked⟩ := of_check hform
  have hdraft {key : Text} (h₁ : key ≠ "airtableTableName") (h₂ : key ≠ "description") :
      Members.get? (((ms.set "questions" (.arr normals)).set "airtableTableName"
        (Service.Action.orText "Table" ((Value.obj ms).member "airtableTableName"))).set "description"
        (Service.Action.orText [] ((Value.obj ms).member "description"))) key =
      (ms.set "questions" (.arr normals)).get? key := by
    rw [Members.get?_set_of_ne h₂, Members.get?_set_of_ne h₁]
  have hquestions := (hdraft (by decide) (by decide)).symm.trans hnormals'
  rw [Members.get?_set_self] at hquestions
  cases hquestions
  refine ⟨items, haccepted, Question.madeOf_of_normal haccepted.shapes hnormal hchecked, ?_⟩
  have hget := (hdraft (by decide) (by decide)).symm.trans htitle
  rw [Members.get?_set_of_ne (by decide)] at hget
  exact Value.member_obj_of_get? hget

/-- The title is not blank. -/
theorem MadeOf.title_not_blank {payload : Value} {items : List Value} {form : NewForm}
    (h : MadeOf payload items form) : form.title.isBlank = false := by
  obtain ⟨ms, rfl⟩ := Payload.isObject_of_filled h.accepted.envelope
  obtain ⟨v, hget, hblank⟩ := Payload.get?_of_filled h.accepted.envelope (f := "title") (by decide)
  have htitle := h.title
  rw [Value.member_obj_of_get? hget] at htitle
  rw [htitle] at hblank
  exact hblank

/-- The keys of the questions are those of the items. -/
theorem MadeOf.keys {payload : Value} {items : List Value} {form : NewForm}
    (h : MadeOf payload items form) : items.map Payload.keyOf = form.questions.map (·.key) := by
  have hquestions := h.questions
  generalize form.questions = qs at hquestions
  clear h
  induction hquestions with
  | nil => rfl
  | cons hq _ ih => rw [List.map_cons, List.map_cons, hq.keyOf, ih]

/-- Every question was made of some item. -/
theorem MadeOf.exists_item {payload : Value} {items : List Value} {form : NewForm}
    (h : MadeOf payload items form) {q : Question} (hq : q ∈ form.questions) :
    ∃ item ∈ items, Question.MadeOf item q := by
  obtain ⟨i, hi, rfl⟩ := List.getElem_of_mem hq
  have hi' : i < items.length := h.questions.length_eq ▸ hi
  exact ⟨items[i], List.getElem_mem hi', h.questions.get hi' hi⟩

end NewForm
end Intake
