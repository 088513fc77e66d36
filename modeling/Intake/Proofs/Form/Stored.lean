import Intake.Form.Question
import Intake.Proofs.Json.RoundTrip
import Intake.Proofs.Rule.Reading
import Intake.Store.Row

/-!
# Questions in the store

A question that passed its checks is stored as an object and passes them again when it is loaded: it
comes back as the same question, but for halves of code points in its texts. So every form can be loaded
whose questions once passed.
-/

namespace Intake

open Checked

/-- A list of values that all pass as texts is the list of these texts. -/
theorem eq_strings {items : List Value} {ts : List Text}
    (h : items.map Schema.text = ts.map .ok) : items = ts.map .str := by
  induction items generalizing ts with
  | nil => cases ts with
    | nil => rfl
    | cons t ts => cases h
  | cons v vs ih => cases ts with
    | nil => cases h
    | cons t ts =>
      rw [List.map_cons, List.map_cons, List.cons.injEq] at h
      rw [List.map_cons, ih h.2, Schema.text_eq_ok.1 h.1]

namespace Question

/-- What passes the checks gives its key and column under one of two names, its options or none, and its
rule under one of two names or not at all. -/
theorem of_check {v : Value} {q : Question} (h : check v = .ok q) :
    ∃ ms : Members, v = .obj ms ∧ keyName.value? ms = some (.str q.key) ∧
      fieldIdName.value? ms = some (.str q.fieldId) ∧ ms.get? "label" = some (.str q.label) ∧
      ms.get? "type" = some (.str q.type) ∧
      (q.options = [] ∨ ms.get? "options" = some (.arr (q.options.map .str))) ∧
      (rulesName.value? ms).getD .null = q.rulesValue := by
  obtain ⟨ms, rfl, hfields⟩ := record_eq_ok.1 h
  obtain ⟨f₆, rules, h₆, hrules, rfl⟩ := also_eq_ok.1 hfields
  obtain ⟨f₅, options, h₅, hoptions, rfl⟩ := also_eq_ok.1 h₆
  obtain ⟨f₄, required, h₄, -, rfl⟩ := also_eq_ok.1 h₅
  obtain ⟨f₃, type, h₃, htype, rfl⟩ := also_eq_ok.1 h₄
  obtain ⟨f₂, label, h₂, hlabel, rfl⟩ := also_eq_ok.1 h₃
  obtain ⟨f₁, fieldId, h₁, hfieldId, rfl⟩ := also_eq_ok.1 h₂
  obtain ⟨_, key, hmk, hkey, rfl⟩ := also_eq_ok.1 h₁
  obtain rfl := Checked.ok.inj hmk
  have htext {n : FieldName} {t : Text} (h : n.required Schema.text ms = .ok t) :
      n.value? ms = some (.str t) := by
    obtain ⟨w, hw, ht⟩ := FieldName.required_eq_ok.1 h
    rw [hw, Schema.text_eq_ok.1 ht]
  have hlabel := htext hlabel
  have htype := htext htype
  rw [FieldName.value?_same] at hlabel htype
  refine ⟨ms, rfl, htext hkey, htext hfieldId, hlabel, htype, ?_, ?_⟩
  · rcases FieldName.withDefault_eq_ok.1 hoptions with ⟨w, hw, hoptions⟩ | ⟨-, rfl⟩
    · obtain ⟨items, rfl, hitems⟩ := list_eq_ok.1 hoptions
      rw [FieldName.value?_same] at hw
      rw [hw, eq_strings hitems]
      exact .inr rfl
    · exact .inl rfl
  rcases FieldName.withDefault_eq_ok.1 hrules with ⟨w, hw, hrules⟩ | ⟨hnone, rfl⟩
  · rw [hw, Option.getD_some]
    cases w with
    | null => cases hrules; rfl
    | obj rs => cases hrules; rfl
    | _ => cases hrules
  · rw [hnone]; rfl

/-! ### Loading what was stored -/

/-- The question as it comes back from the store. -/
def settled (q : Question) : Question where
  key := q.key.joined
  fieldId := q.fieldId.joined
  label := q.label.joined
  type := q.type.joined
  required := q.required
  options := q.options.map Text.joined
  rules := q.rules.map fun ms => Members.ofPairs (Value.settledMembers ms)

theorem rulesValue_settled (q : Question) : q.settled.rulesValue = q.rulesValue.settled := by
  unfold rulesValue settled
  cases q.rules <;> rfl

/-- The members of a question on the wire. -/
def wireMembers (q : Question) : Members :=
  [("questionKey", .str q.key), ("airtableFieldId", .str q.fieldId), ("label", .str q.label),
    ("type", .str q.type), ("required", .bool q.required), ("options", .arr (q.options.map .str)),
    ("conditionalRules", q.rulesValue)]

theorem dump_wire (q : Question) : q.dump .wire = .obj q.wireMembers := rfl

theorem keys_wireMembers (q : Question) :
    q.wireMembers.keys = ["questionKey", "airtableFieldId", "label", "type", "required",
      "options", "conditionalRules"] := rfl

theorem nodup_wireMembers (q : Question) : q.wireMembers.keys.Nodup := by
  rw [keys_wireMembers]; decide

theorem encodable_wireMembers (q : Question) :
    q.wireMembers.keys.all Text.encodable = true := by
  rw [keys_wireMembers]; decide

theorem settled_dump (q : Question) : (q.dump .wire).settled = q.settled.dump .wire := by
  have hoptions : Value.settledItems (q.options.map .str) = q.settled.options.map .str := by
    rw [Value.settledItems_eq_map, List.map_map, settled, List.map_map]
    rfl
  rw [q.dump_wire, Value.settled_obj q.nodup_wireMembers q.encodable_wireMembers, q.settled.dump_wire,
    wireMembers, wireMembers, rulesValue_settled]
  simp only [List.map_cons, List.map_nil, Value.settled, hoptions]
  rfl

/-- A question that is written passes the checks as itself. -/
theorem check_dump (q : Question) : check (q.dump .wire) = .ok q := by
  have hoptions : Checked.list Schema.text (.arr (q.options.map .str)) = .ok q.options := by
    rw [list_eq_ok]
    refine ⟨_, rfl, ?_⟩
    rw [List.map_map]
    exact List.map_congr_left fun t _ => rfl
  have hrules : Checked.optional Checked.object q.rulesValue = .ok q.rules := by
    unfold rulesValue
    cases q.rules <;> rfl
  obtain ⟨ms, hms⟩ : ∃ ms : Members, q.dump .wire = .obj ms := ⟨_, rfl⟩
  have hget {key : Text} {v : Value} (h : (q.dump .wire).members?.bind (·.get? key) = some v) :
      ms.get? key = some v := by
    rw [hms] at h; exact h
  have hkey : keyName.required Schema.text ms = .ok q.key :=
    FieldName.required_of_wire (v := .str q.key) (hget rfl) rfl
  have hfieldId : fieldIdName.required Schema.text ms = .ok q.fieldId :=
    FieldName.required_of_wire (v := .str q.fieldId) (hget rfl) rfl
  have hlabel : (FieldName.same "label").required Schema.text ms = .ok q.label :=
    FieldName.required_of_wire (v := .str q.label) (hget rfl) rfl
  have htype : (FieldName.same "type").required Schema.text ms = .ok q.type :=
    FieldName.required_of_wire (v := .str q.type) (hget rfl) rfl
  have hrequired : (FieldName.same "required").withDefault false Schema.flag ms = .ok q.required :=
    FieldName.withDefault_of_wire (v := .bool q.required) (hget rfl) rfl
  have hoptions : (FieldName.same "options").withDefault [] (Checked.list Schema.text) ms =
      .ok q.options :=
    FieldName.withDefault_of_wire (v := .arr (q.options.map .str)) (hget rfl) hoptions
  have hrules : rulesName.withDefault none (Checked.optional Checked.object) ms = .ok q.rules :=
    FieldName.withDefault_of_wire (v := q.rulesValue) (hget rfl) hrules
  refine record_eq_ok.2 ⟨ms, hms, ?_⟩
  rw [hkey, hfieldId, hlabel, htype, hrequired, hoptions, hrules]
  rfl

theorem regular_dump {q : Question} (h : q.rulesValue.Regular) : (q.dump .wire).Regular := by
  have hoptions : Value.RegularItems (q.options.map .str) := by
    rw [Value.regularItems_iff]
    intro v hv
    obtain ⟨t, -, rfl⟩ := List.mem_map.1 hv
    trivial
  exact ⟨q.nodup_wireMembers, trivial, trivial, trivial, trivial, trivial, hoptions, h, trivial⟩

end Question

namespace Store

/-- A column holds its value, settled. -/
theorem content_document {v : Value} (hv : v.Regular) : content (document v) = v.settled := by
  rw [content, document, Json.read?_write Json.readable_spaced hv]; rfl

/-- The column of a form's questions. -/
def questionsColumn (qs : List Question) : Text := document (.arr (qs.map (·.dump .wire)))

theorem content_questionsColumn {qs : List Question} (h : ∀ q ∈ qs, q.rulesValue.Regular) :
    content (questionsColumn qs) = .arr ((qs.map (·.settled)).map (·.dump .wire)) := by
  have hregular : (Value.arr (qs.map (·.dump .wire))).Regular := by
    rw [Value.Regular, Value.regularItems_iff]
    intro v hv
    obtain ⟨q, hq, rfl⟩ := List.mem_map.1 hv
    exact Question.regular_dump (h q hq)
  rw [questionsColumn, content_document hregular, Value.settled, Value.settledItems_eq_map,
    List.map_map, List.map_map]
  congr 1
  exact List.map_congr_left fun q _ => q.settled_dump

theorem list_check_dump (qs : List Question) :
    Checked.list Question.check (.arr (qs.map (·.dump .wire))) = .ok qs := by
  rw [list_eq_ok]
  refine ⟨_, rfl, ?_⟩
  rw [List.map_map]
  exact List.map_congr_left fun q _ => q.check_dump

namespace FormRow

variable {row : FormRow} {qs : List Question}

/-- The questions of a form are loaded as they come back. -/
theorem questions?_eq (hrow : row.questions = questionsColumn qs)
    (h : ∀ q ∈ qs, q.rulesValue.Regular) : row.questions? = some (qs.map (·.settled)) := by
  have hlist := list_check_dump (qs.map (·.settled))
  rw [questions?, hrow, content_questionsColumn h]
  change (Checked.list Question.check _).toOption = _
  rw [hlist]
  rfl

/-- The whole form is loaded with its questions as they come back. -/
theorem view?_eq (hrow : row.questions = questionsColumn qs)
    (h : ∀ q ∈ qs, q.rulesValue.Regular) :
    row.view? = some ⟨⟨row.title, row.description, row.baseId, row.tableId, row.tableName,
      qs.map (·.settled)⟩, row.id, row.status⟩ := by
  rw [view?, hrow, content_questionsColumn h, list_check_dump]
  rfl

end FormRow
end Store
end Intake
