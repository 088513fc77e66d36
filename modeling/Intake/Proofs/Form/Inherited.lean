import Intake.Proofs.Form.Creation
import Intake.Proofs.Json.Regularity

/-!
# What the stored form inherits

Everything in a form that is stored comes from the payload: its texts and options as they stand there,
its rules as a whole or condition by condition. So a property that the parts of a value inherit, and
that passes to objects made of such parts, holds of the stored form if it holds of the payload. Being
regular is one such property, and having no halves of code points is another.
-/

namespace Intake

/-- Parts of a value inherit the property, and what is made of such parts has it. -/
structure Hereditary (P : Value → Prop) : Prop where
  null : P .null
  member : ∀ {ms : Members} {key : Text} {v : Value}, P (.obj ms) → ms.get? key = some v → P v
  item : ∀ {vs : List Value} {v : Value}, P (.arr vs) → v ∈ vs → P v
  arr : ∀ {vs : List Value}, (∀ v ∈ vs, P v) → P (.arr vs)
  obj : ∀ {ms : Members}, ms.keys.Nodup → ms.keys.all Text.encodable = true →
    (∀ e ∈ ms, P e.2) → P (.obj ms)

/-- The texts of a value have no halves of code points. -/
def Value.Encodable (v : Value) : Prop := v.allText Text.encodable = true

theorem hereditary_regular : Hereditary Value.Regular where
  null := trivial
  member h hget := Value.regularMembers_iff.1 h.2 _ (Members.mem_of_get? hget)
  item h hv := Value.regularItems_iff.1 h _ hv
  arr h := Value.regularItems_iff.2 h
  obj hnodup _ h := ⟨hnodup, Value.regularMembers_iff.2 h⟩

theorem hereditary_encodable : Hereditary Value.Encodable where
  null := rfl
  member h hget := (Value.allTextMembers_iff.1 h _ (Members.mem_of_get? hget)).2
  item h hv := Value.allTextItems_iff.1 h _ hv
  arr h := Value.allTextItems_iff.2 h
  obj _ hkeys h := Value.allTextMembers_iff.2 fun e he =>
    ⟨List.all_eq_true.1 hkeys _ (List.mem_map_of_mem he), h e he⟩

namespace Hereditary

variable {P : Value → Prop} (hP : Hereditary P)

include hP

theorem memberD {v : Value} (hv : P v) (key : Text) : P (v.member key) := by
  cases v with
  | obj ms =>
    rw [Value.member, Members.getD]
    cases hget : Members.get? ms key with
    | none => exact hP.null
    | some w => exact hP.member hv hget
  | _ => exact hP.null

theorem value? {n : FieldName} {ms : Members} {v : Value} (h : P (.obj ms)) (hv : n.value? ms = some v) :
    P v := by
  cases hwire : ms.get? n.wire with
  | some w =>
    rw [FieldName.value?_of_wire hwire] at hv
    exact Option.some.inj hv ▸ hP.member h hwire
  | none =>
    rw [FieldName.value?_of_plain hwire] at hv
    exact hP.member h hv

/-- A condition that was checked consists of parts of the value. -/
theorem dump_condition {v : Value} {c : ConditionRecord} (hv : P v)
    (h : ConditionRecord.check v = .ok c) : P (c.dump .wire) := by
  obtain ⟨ms, rfl, hsubject, -, -, hoperator, hvalue⟩ := ConditionRecord.of_check h
  rw [c.dump_wire]
  refine hP.obj c.nodup_wireMembers c.encodable_wireMembers ?_
  simp only [ConditionRecord.wireMembers, List.forall_mem_cons, List.not_mem_nil, false_implies,
    implies_true, and_true]
  exact ⟨hP.value? hv hsubject, hP.member hv hoperator, hP.member hv hvalue⟩

/-- So does a rule that was checked. -/
theorem dump_rule {v : Value} {r : RuleRecord} (hv : P v) (h : RuleRecord.check v = .ok r) :
    P (r.dump .wire) := by
  obtain ⟨ms, items, rfl, hlogic, hconditions, hitems⟩ := RuleRecord.of_check h
  have hdumps : ∀ w ∈ r.conditions.map (·.dump .wire), P w := by
    intro w hw
    obtain ⟨c, hc, rfl⟩ := List.mem_map.1 hw
    have hmem : Checked.ok c ∈ items.map ConditionRecord.check := by
      rw [hitems]; exact List.mem_map_of_mem hc
    obtain ⟨item, hitem, hcheck⟩ := List.mem_map.1 hmem
    exact hP.dump_condition (hP.item (hP.member hv hconditions) hitem) hcheck
  rw [r.dump_wire]
  refine hP.obj r.nodup_wireMembers r.encodable_wireMembers ?_
  simp only [RuleRecord.wireMembers, List.forall_mem_cons, List.not_mem_nil, false_implies,
    implies_true, and_true]
  exact ⟨hP.member hv hlogic, hP.arr hdumps⟩

/-- The rule of a question has the property of the item. -/
theorem rulesValue {item : Value} {q : Question} (hitem : P item) (h : Question.MadeOf item q) :
    P q.rulesValue := by
  obtain ⟨ms, rfl, hrule⟩ := h.rule
  cases hrule with
  | none _ hrules => rw [hrules]; exact hP.null
  | checked v hwire _ r hr hrules =>
    rw [hrules]
    exact hP.dump_rule (hP.member hitem hwire) hr
  | unchecked _ hrules =>
    rw [hrules]
    cases hget : Members.get? ms "conditional_rules" with
    | none => exact hP.null
    | some v => exact hP.member hitem hget

/-- The items of a payload have its property. -/
theorem items {payload : Value} {items : List Value} (hpayload : P payload)
    (h : Payload.Accepted payload items) : ∀ item ∈ items, P item := by
  intro item hitem
  have harr := hP.memberD hpayload "questions"
  rw [h.questions] at harr
  exact hP.item harr hitem

/-- All rules of a form have the property of the payload. -/
theorem rulesValues {payload : Value} {items : List Value} {form : NewForm} (hpayload : P payload)
    (h : form.MadeOf payload items) : ∀ q ∈ form.questions, P q.rulesValue := by
  intro q hq
  obtain ⟨item, hitem, hmade⟩ := h.exists_item hq
  exact hP.rulesValue (hP.items hpayload h.accepted item hitem) hmade

end Hereditary

/-- The body of a request is regular. -/
theorem regular_bodyOf (r : Http.Request) : (Service.Action.bodyOf r).Regular := by
  unfold Service.Action.bodyOf Json.readBody?
  cases Json.bodyText? r.body with
  | none => trivial
  | some t =>
    rw [Option.bind_some]
    cases h : Json.read? t with
    | none => trivial
    | some v => exact Json.regular_read? h

namespace Question

/-- A question made of an item without halves of code points comes back as it was. -/
theorem settled_eq_self {item : Value} {q : Question} (hregular : item.Regular)
    (hencodable : item.Encodable) (h : MadeOf item q) : q.settled = q := by
  have htext {key : Text} {t : Text} (ht : item.member key = .str t) : t.joined = t := by
    have := hereditary_encodable.memberD hencodable key
    rw [ht] at this
    exact Text.joined_eq_self this
  have hoptions : q.options.map Text.joined = q.options := by
    rcases h.options with hnil | harr
    · rw [hnil]; rfl
    · have hmember := hereditary_encodable.memberD hencodable "options"
      rw [harr] at hmember
      refine (List.map_congr_left fun t ht => ?_).trans (List.map_id _)
      exact Text.joined_eq_self (hereditary_encodable.item hmember (List.mem_map_of_mem ht))
  have hrules : q.rulesValue.settled = q.rulesValue :=
    Value.settled_eq_self _ (hereditary_regular.rulesValue hregular h)
      (hereditary_encodable.rulesValue hencodable h)
  have hkey := htext h.key
  have hfieldId := htext h.fieldId
  have hlabel := htext h.label
  have htype := htext h.type
  rw [← rulesValue_settled] at hrules
  have hrules : q.settled.rules = q.rules := by
    unfold rulesValue at hrules
    cases hold : q.rules <;> cases hnew : q.settled.rules <;> simp_all
  cases q
  simp only [settled] at hkey hfieldId hlabel htype hoptions hrules ⊢
  rw [hkey, hfieldId, hlabel, htype, hoptions, hrules]

end Question

/-- Without halves of code points in the payload, all questions come back as they were. -/
theorem NewForm.MadeOf.settled_eq_self {payload : Value} {items : List Value} {form : NewForm}
    (h : form.MadeOf payload items) (hregular : payload.Regular) (hencodable : payload.Encodable) :
    form.questions.map (·.settled) = form.questions := by
  refine (List.map_congr_left fun q hq => ?_).trans (List.map_id _)
  obtain ⟨item, hitem, hmade⟩ := h.exists_item hq
  exact Question.settled_eq_self (hereditary_regular.items hregular h.accepted item hitem)
    (hereditary_encodable.items hencodable h.accepted item hitem) hmade

end Intake
