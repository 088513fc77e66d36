import Intake.Proofs.Form.Inherited
import Mathlib.Data.Set.List

/-!
# Normalising

A rule is looked at twice before it is stored: the rule engine says whether it is well-formed, and the
checks of its fields make the record that is kept of it. What the engine accepts passes the checks, so
long as its texts can be encoded, and the record is what the engine saw.

        typed     logic  note  conditions [ questionKey  question_key  operator  value  _id ]
        kept      logic        conditions [ questionKey                operator  value      ]

Nothing else of the question is touched, and what is kept once is kept for good.
-/

namespace Intake

open Checked

/-! ### Well-formed rules pass the checks -/

/-- A list passes its checks if each of its items does. -/
theorem Checked.exists_map_ok {α : Type} {check : Value → Checked α} {items : List Value}
    (h : ∀ item ∈ items, ∃ a, check item = .ok a) : ∃ as : List α, items.map check = as.map .ok := by
  have hrange : items.map check ∈ Set.range (List.map (Checked.ok (α := α))) := by
    rw [Set.range_list_map]
    intro c hc
    obtain ⟨item, hitem, rfl⟩ := List.mem_map.1 hc
    obtain ⟨a, ha⟩ := h item hitem
    exact ⟨a, ha.symm⟩
  obtain ⟨as, has⟩ := hrange
  exact ⟨as, has.symm⟩

/-- A choice that the engine can read passes its check. -/
theorem FieldName.required_choice {α : Type} {n : FieldName} {names : List Text}
    {ofName? : Text → Option α} {ms : Members} {a : α} (hencodable : (Value.obj ms).Encodable)
    (h : ((Value.obj ms).member n.wire).text?.bind ofName? = some a) :
    n.required (Schema.choice names ofName?) ms = .ok a := by
  obtain ⟨name, hname, hof⟩ := Option.bind_eq_some_iff.1 h
  have hget : ms.get? n.wire = some (.str name) := Members.get?_of_text? hname
  have hnameEncodable : name.encodable = true := hereditary_encodable.member hencodable hget
  exact required_of_wire hget (Schema.choice_eq_ok.2 ⟨name, rfl, hnameEncodable, hof⟩)

theorem ConditionRecord.exists_check {v : Value} (hv : Condition.wellFormed v = true)
    (hencodable : v.Encodable) : ∃ c, check v = .ok c := by
  unfold Condition.wellFormed at hv
  split at hv
  · rename_i key op hkey hop
    obtain ⟨ms, rfl⟩ := Condition.exists_members_of_subject? hkey
    rw [Bool.and_eq_true, Bool.not_eq_true', Bool.not_eq_true', List.isEmpty_eq_false_iff] at hv
    have hsubject : ms.get? "questionKey" = some (.str key) := Members.get?_of_text? hkey
    have hkeyEncodable : key.encodable = true := hereditary_encodable.member hencodable hsubject
    have hvalue : ms.get? "value" = some (Condition.value (.obj ms)) := by
      refine Members.get?_of_getD rfl fun hnull => ?_
      rw [Value.isNull_iff.2 hnull] at hv
      cases hv.2
    refine ⟨⟨key, op, Condition.value (.obj ms)⟩, record_eq_ok.2 ⟨ms, rfl, ?_⟩⟩
    rw [FieldName.required_of_wire (n := subjectName) hsubject
        (Schema.nonEmptyText_eq_ok.2 ⟨rfl, hkeyEncodable, hv.1⟩),
      FieldName.required_choice (n := .same "operator") hencodable hop,
      FieldName.required_of_wire (n := .same "value") hvalue rfl]
    rfl
  · cases hv

theorem RuleRecord.exists_check {v : Value} (hv : Rules.wellFormed v = true) (hne : v ≠ .null)
    (hencodable : v.Encodable) : ∃ r, check v = .ok r := by
  unfold Rules.wellFormed at hv
  replace hv := (Bool.or_eq_true_iff.1 hv).resolve_left (hne ∘ Value.isNull_iff.1)
  split at hv
  · rename_i l item items hlogic hitems
    obtain ⟨ms, rfl⟩ := Value.exists_members_of_member hitems (by simp)
    have hconditions : ms.get? "conditions" = some (.arr (item :: items)) :=
      Members.get?_of_getD hitems (by simp)
    have hpass : ∀ c ∈ item :: items, ∃ record, ConditionRecord.check c = .ok record := fun c hc =>
      ConditionRecord.exists_check (List.all_eq_true.1 hv c hc)
        (hereditary_encodable.item (hereditary_encodable.member hencodable hconditions) hc)
    obtain ⟨cs, hcs⟩ := exists_map_ok hpass
    refine ⟨⟨l, cs⟩, record_eq_ok.2 ⟨ms, rfl, ?_⟩⟩
    rw [FieldName.required_choice (n := .same "logic") hencodable hlogic,
      FieldName.required_of_wire (n := .same "conditions") hconditions (list_eq_ok.2 ⟨_, rfl, hcs⟩)]
    rfl
  · cases hv

/-! ### The declared members -/

/-- A condition with its declared members alone. -/
def Condition.reduced (condition : Value) : Value :=
  .obj [("questionKey", condition.member "questionKey"), ("operator", condition.member "operator"),
    ("value", condition.member "value")]

/-- A rule with its declared members alone, and its conditions with theirs. -/
def Rules.reduced (rules : Value) : Value :=
  .obj [("logic", rules.member "logic"),
    ("conditions", .arr ((Rules.conditions rules).map Condition.reduced))]

theorem Rules.reduced_reduced (rules : Value) : reduced (reduced rules) = reduced rules := by
  have hconditions : conditions (reduced rules) = (conditions rules).map Condition.reduced := rfl
  have hlogic : (reduced rules).member "logic" = rules.member "logic" := rfl
  rw [reduced, hconditions, hlogic, List.map_map]
  rfl

/-- The record that the engine sees in a condition is written as its declared members. -/
theorem ConditionRecord.SeenIn.dump_eq {c : ConditionRecord} {v : Value} (h : c.SeenIn v) :
    c.dump .wire = Condition.reduced v := by
  obtain ⟨name, hname, hop⟩ := Option.bind_eq_some_iff.1 h.operator
  rw [Condition.reduced, Value.eq_str_of_text? h.subject, Value.eq_str_of_text? hname,
    Operator.eq_name hop]
  exact congrArg (fun w => Value.obj [_, _, ("value", w)]) h.value.symm

theorem RuleRecord.SeenIn.dump_eq {r : RuleRecord} {v : Value} (h : r.SeenIn v) :
    r.dump .wire = Rules.reduced v := by
  obtain ⟨name, hname, hlogic⟩ := Option.bind_eq_some_iff.1 h.logic
  obtain ⟨items, hitems, hseen⟩ := h.conditions
  have hconditions : r.conditions.map (·.dump .wire) = items.map Condition.reduced := by
    clear hitems
    generalize r.conditions = cs at hseen
    induction hseen with
    | nil => rfl
    | cons hc _ ih => rw [List.map_cons, List.map_cons, hc.dump_eq, ih]
  rw [Rules.reduced, Rules.conditions, hitems, Value.eq_str_of_text? hname, Logic.eq_name hlogic,
    r.dump_wire, wireMembers, hconditions]

section Kept

variable {v : Value} (hv : Rules.wellFormed v = true) (hne : v ≠ .null) (hencodable : v.Encodable)

include hv hne hencodable

/-- The record that is kept of a well-formed rule is what the engine sees in the rule. -/
theorem Rules.exists_record :
    ∃ r : RuleRecord, RuleRecord.check v = .ok r ∧ r.SeenIn v ∧ r.dump .wire = reduced v := by
  obtain ⟨r, hr⟩ := RuleRecord.exists_check hv hne hencodable
  have hseen := RuleRecord.seenIn_of_check hr hv
  exact ⟨r, hr, hseen, hseen.dump_eq⟩

theorem Rules.wellFormed_reduced : wellFormed (reduced v) = true := by
  obtain ⟨r, -, hseen, hdump⟩ := Rules.exists_record hv hne hencodable
  rw [← hdump, r.seenIn_dump.wellFormed, ← hseen.wellFormed]
  exact hv

theorem Rules.references_reduced : references (reduced v) = references v := by
  obtain ⟨r, -, hseen, hdump⟩ := Rules.exists_record hv hne hencodable
  rw [← hdump, r.seenIn_dump.references, hseen.references]

theorem Rules.encodable_reduced : (reduced v).Encodable := by
  obtain ⟨r, hr, -, hdump⟩ := Rules.exists_record hv hne hencodable
  rw [← hdump]
  exact hereditary_encodable.dump_rule hencodable hr

end Kept

/-! ### Questions -/

namespace Normal

open Visibility

/-- A question whose rule, if it has one, is accepted by the engine and can be encoded. -/
structure Storable (item : Value) : Prop where
  object : ∃ ms : Members, item = .obj ms
  wellFormed : Rules.wellFormed (rawRules item) = true
  encodable : (rawRules item).Encodable

/-- The question with its rule, if it has one, left with the declared members. -/
def reduced (item : Value) : Value :=
  if (rawRules item).isNull then item
  else item.withMember "conditionalRules" (Rules.reduced (rawRules item))

/-- What becomes of a question: its rule, if it has one, is left with the declared members, is accepted
as before and refers to the same questions; the other members are the same in the same order. -/
structure Reduces (item normal : Value) : Prop where
  absent : rawRules item = .null → normal = item
  rules : rawRules item ≠ .null → rawRules normal = Rules.reduced (rawRules item)
  wellFormed : Rules.wellFormed (rawRules normal) = true
  references : Rules.references (rawRules normal) = Rules.references (rawRules item)
  others : ∃ ms ns : Members, item = .obj ms ∧ normal = .obj ns ∧ ns.keys = ms.keys ∧
    ∀ key : Text, key ≠ "conditionalRules" → ns.get? key = ms.get? key

section Reduced

variable {item : Value}

theorem reduced_of_null (h : rawRules item = .null) : reduced item = item :=
  if_pos (Value.isNull_iff.2 h)

theorem reduced_of_ne_null (h : rawRules item ≠ .null) :
    reduced item = item.withMember "conditionalRules" (Rules.reduced (rawRules item)) :=
  if_neg (h ∘ Value.isNull_iff.1)

theorem rawRules_reduced (h : rawRules item ≠ .null) :
    rawRules (reduced item) = Rules.reduced (rawRules item) := by
  obtain ⟨ms, rfl⟩ := Value.exists_members_of_member rfl h
  rw [reduced_of_ne_null h]
  exact Value.member_withMember_self ms _ _

/-- Nothing is left to reduce. -/
theorem reduced_reduced (item : Value) : reduced (reduced item) = reduced item := by
  by_cases hnull : rawRules item = .null
  · rw [reduced_of_null hnull, reduced_of_null hnull]
  · have hrules := rawRules_reduced hnull
    have hne : rawRules (reduced item) ≠ .null := by simp [hrules, Rules.reduced]
    rw [reduced_of_ne_null hne, hrules, Rules.reduced_reduced, reduced_of_ne_null hnull,
      Value.withMember_withMember]

end Reduced

namespace Storable

variable {item : Value} (h : Storable item)

include h

theorem question_eq : question item = .ok (Normal.reduced item) := by
  obtain ⟨ms, rfl⟩ := h.object
  by_cases hnull : rawRules (.obj ms) = .null
  · have hget : ms.getD "conditionalRules" = .null := hnull
    rw [reduced_of_null hnull, question]
    simp only [asObject, hget]
  · obtain ⟨r, hr, -, hdump⟩ := Rules.exists_record h.wellFormed hnull h.encodable
    have hne : ms.getD "conditionalRules" ≠ .null := hnull
    have hcheck : RuleRecord.check (ms.getD "conditionalRules") = .ok r := hr
    rw [reduced_of_ne_null hnull, ← hdump, question]
    simp only [asObject, hcheck]
    rfl

theorem reduces : Reduces item (Normal.reduced item) := by
  obtain ⟨ms, rfl⟩ := h.object
  by_cases hnull : rawRules (.obj ms) = .null
  · rw [reduced_of_null hnull]
    exact ⟨fun _ => rfl, fun hne => absurd hnull hne, h.wellFormed, rfl, ms, ms, rfl, rfl, rfl,
      fun _ _ => rfl⟩
  · have hrules := rawRules_reduced hnull
    have hmem : Text.ofString "conditionalRules" ∈ ms.keys :=
      List.mem_map_of_mem (Members.mem_of_get? (Members.get?_of_getD rfl hnull))
    refine ⟨fun h => absurd h hnull, fun _ => hrules, ?_, ?_, ms, _, rfl, reduced_of_ne_null hnull,
      Members.keys_set_of_mem hmem _, fun key hne => Members.get?_set_of_ne hne⟩
    · rw [hrules]
      exact Rules.wellFormed_reduced h.wellFormed hnull h.encodable
    · rw [hrules]
      exact Rules.references_reduced h.wellFormed hnull h.encodable

theorem reduced : Storable (Normal.reduced item) := by
  by_cases hnull : rawRules item = .null
  · rw [reduced_of_null hnull]
    exact h
  · obtain ⟨ms, ns, -, hobject, -⟩ := h.reduces.others
    refine ⟨⟨ns, hobject⟩, h.reduces.wellFormed, ?_⟩
    rw [rawRules_reduced hnull]
    exact Rules.encodable_reduced h.wellFormed hnull h.encodable

end Storable

theorem questions_eq {items : List Value} (h : ∀ item ∈ items, Storable item) :
    questions items = .ok (items.map reduced) := by
  induction items with
  | nil => rfl
  | cons item items ih =>
    rw [List.forall_mem_cons] at h
    rw [questions, h.1.question_eq, ih h.2]
    rfl

/-- Questions whose rules the engine accepts can be normalised. Of each rule the declared members are
left, of every condition in its place, with the values that they had; the engine accepts the rule as
before, finds the same references in it, and whatever else the question has is as it was. To normalise
what came out changes nothing. -/
theorem normalising_is_stable (items : List Value) (h : ∀ item ∈ items, Storable item) :
    ∃ normals, ofValue (.arr items) = .ok normals ∧ List.Forall₂ Reduces items normals ∧
      ofValue (.arr normals) = .ok normals := by
  have hagain : ∀ normal ∈ items.map reduced, Storable normal :=
    List.forall_mem_map.2 fun item hitem => (h item hitem).reduced
  have hsame : (items.map reduced).map reduced = items.map reduced := by
    rw [List.map_map]
    exact List.map_congr_left fun item _ => reduced_reduced item
  refine ⟨items.map reduced, questions_eq h, ?_, ?_⟩
  · rw [List.forall₂_map_right_iff, List.forall₂_same]
    exact fun item hitem => (h item hitem).reduces
  · exact (questions_eq hagain).trans (congrArg _ hsame)

/-- A question as it was typed: its rule has a note, and its condition the other name of the key with
another key under it. -/
def noted : Value :=
  .obj [("label", .str "Visit"),
    ("conditionalRules", .obj [("note", .str "ask again"), ("logic", .str "AND"),
      ("conditions", .arr [.obj [("question_key", .str "b"), ("value", .arr [.int 2, .null]),
        ("operator", .str "equals"), ("questionKey", .str "a")]])]),
    ("help", .str "once a year")]

example : reduced noted =
    .obj [("label", .str "Visit"),
      ("conditionalRules", Rules.written "AND" [Condition.written "a" "equals" (.arr [.int 2, .null])]),
      ("help", .str "once a year")] := rfl

theorem normalising_is_stable_noted :
    (∀ item ∈ [noted, .obj [("label", .str "Name")]], Storable item) ∧
      ∃ normals, ofValue (.arr [noted, .obj [("label", .str "Name")]]) = .ok normals ∧
        List.Forall₂ Reduces [noted, .obj [("label", .str "Name")]] normals ∧
        ofValue (.arr normals) = .ok normals := by
  have h : ∀ item ∈ [noted, .obj [("label", .str "Name")]], Storable item := by
    simp only [List.forall_mem_cons, List.not_mem_nil, false_implies, implies_true, and_true]
    exact ⟨⟨⟨_, rfl⟩, by decide, rfl⟩, ⟨_, rfl⟩, rfl, rfl⟩
  exact ⟨h, normalising_is_stable _ h⟩

end Normal
end Intake
