import Intake.Proofs.Json.Settled
import Intake.Proofs.Rule.References
import Intake.Proofs.Schema.Passing
import Intake.Rule.Record

/-!
# Rules as they are read

The rule engine looks at a rule as a JSON value and sees a logic and conditions with a question, an
operator and a value each. Two values in which it sees the same record are the same rule: both are
well-formed or not, refer to the same questions, and show a question under the same answers. The record
that is checked before a rule is stored is what the engine sees in the rule as it was typed, and in the
rule as it is written.
-/

namespace Intake

open Checked

theorem Operator.eq_name {t : Text} {o : Operator} (h : Operator.ofName? t = some o) : t = o.name := by
  unfold Operator.ofName? at h
  split at h
  · rename_i ht
    rw [ht, Option.some.inj h.symm]
  split at h
  · rename_i ht
    rw [ht, Option.some.inj h.symm]
  split at h
  · rename_i ht
    rw [ht, Option.some.inj h.symm]
  · cases h

theorem Logic.eq_name {t : Text} {l : Logic} (h : Logic.ofName? t = some l) : t = l.name := by
  unfold Logic.ofName? at h
  split at h
  · rename_i ht
    rw [ht, Option.some.inj h.symm]
  split at h
  · rename_i ht
    rw [ht, Option.some.inj h.symm]
  · cases h

/-! ### Conditions -/

namespace ConditionRecord

/-- The engine sees the record in the value. -/
structure SeenIn (c : ConditionRecord) (v : Value) : Prop where
  subject : Condition.subject? v = some c.subject
  operator : Condition.operator? v = some c.operator
  value : Condition.value v = c.value

/-- The record names a question and has a value that is not null. -/
def isSound (c : ConditionRecord) : Bool := !c.subject.isEmpty && !c.value.isNull

/-- The record as it comes back from the store. -/
def settled (c : ConditionRecord) : ConditionRecord :=
  { c with subject := c.subject.joined, value := c.value.settled }

/-- The members of a condition on the wire. -/
def wireMembers (c : ConditionRecord) : Members :=
  [("questionKey", .str c.subject), ("operator", .str c.operator.name), ("value", c.value)]

theorem dump_wire (c : ConditionRecord) : c.dump .wire = .obj c.wireMembers := rfl

theorem keys_wireMembers (c : ConditionRecord) :
    c.wireMembers.keys = ["questionKey", "operator", "value"] := rfl

theorem nodup_wireMembers (c : ConditionRecord) : c.wireMembers.keys.Nodup := by
  rw [keys_wireMembers]; decide

theorem encodable_wireMembers (c : ConditionRecord) :
    c.wireMembers.keys.all Text.encodable = true := by
  rw [keys_wireMembers]; decide

theorem seenIn_dump (c : ConditionRecord) : c.SeenIn (c.dump .wire) := by
  refine ⟨rfl, ?_, rfl⟩
  have hoperator : (c.dump .wire).member "operator" = .str c.operator.name := rfl
  rw [Condition.operator?, hoperator]
  exact Operator.ofName?_name c.operator

/-- What passes the checks gives its operator and value, and its subject under one of two names. -/
theorem of_check {v : Value} {c : ConditionRecord} (h : check v = .ok c) :
    ∃ ms : Members, v = .obj ms ∧ subjectName.value? ms = some (.str c.subject) ∧
      c.subject.encodable = true ∧ c.subject ≠ [] ∧ ms.get? "operator" = some (.str c.operator.name) ∧
      ms.get? "value" = some c.value := by
  obtain ⟨ms, rfl, hfields⟩ := record_eq_ok.1 h
  obtain ⟨f, value, hf, hvalue, rfl⟩ := also_eq_ok.1 hfields
  obtain ⟨g, operator, hg, hoperator, rfl⟩ := also_eq_ok.1 hf
  obtain ⟨_, subject, hmk, hsubject, rfl⟩ := also_eq_ok.1 hg
  obtain rfl := Checked.ok.inj hmk
  obtain ⟨w, hw, hsubject⟩ := FieldName.required_eq_ok.1 hsubject
  obtain ⟨rfl, hencodable, hne⟩ := Schema.nonEmptyText_eq_ok.1 hsubject
  obtain ⟨w', hw', hoperator⟩ := FieldName.required_eq_ok.1 hoperator
  obtain ⟨t, rfl, -, ht⟩ := Schema.choice_eq_ok.1 hoperator
  obtain ⟨w'', hw'', hvalue⟩ := FieldName.required_eq_ok.1 hvalue
  obtain rfl := Checked.ok.inj hvalue
  rw [FieldName.value?_same] at hw' hw''
  rw [Operator.eq_name ht] at hw'
  exact ⟨ms, rfl, hw, hencodable, hne, hw', hw''⟩

/-- In a condition that names its question in the way the engine expects, the engine sees the record that
passed the checks. -/
theorem seenIn_of_check {v : Value} {c : ConditionRecord} (h : check v = .ok c)
    (hv : Condition.wellFormed v = true) : c.SeenIn v := by
  obtain ⟨ms, rfl, hsubject, -, -, hoperator, hvalue⟩ := of_check h
  refine ⟨?_, ?_, ?_⟩
  · unfold Condition.wellFormed at hv
    cases hkey : Condition.subject? (.obj ms) with
    | none => rw [hkey] at hv; cases hv
    | some key =>
      have hget : ms.get? "questionKey" = some (.str key) := Members.get?_of_text? hkey
      have hsame := FieldName.value?_of_wire (n := subjectName) hget
      rw [hsubject] at hsame
      cases hsame
      rfl
  · rw [Condition.operator?, Value.member_obj_of_get? hoperator]
    exact Operator.ofName?_name c.operator
  · rw [Condition.value, Value.member_obj_of_get? hvalue]

section SeenIn

variable {c : ConditionRecord} {v : Value} (h : c.SeenIn v)

include h

theorem SeenIn.wellFormed : Condition.wellFormed v = c.isSound := by
  rw [Condition.wellFormed, h.subject, h.operator, h.value]; rfl

theorem SeenIn.reference? : Rules.reference? v = if c.subject.isEmpty then none else some c.subject := by
  rw [Rules.reference?, h.subject]

theorem SeenIn.holds (answers : Members) :
    Condition.holds v answers = Condition.holds (c.dump .wire) answers := by
  have hdump := c.seenIn_dump
  have hfor (answer : Option Value) :
      Condition.holdsFor v answer = Condition.holdsFor (c.dump .wire) answer := by
    simp only [Condition.holdsFor, h.operator, hdump.operator, h.value, hdump.value]
  rw [Condition.holds, Condition.holds, h.subject, hdump.subject]
  exact hfor _

end SeenIn

end ConditionRecord

/-! ### Rules -/

namespace RuleRecord

/-- The engine sees the record in the value. -/
structure SeenIn (r : RuleRecord) (v : Value) : Prop where
  object : ∃ ms, v = .obj ms
  logic : Rules.logic? v = some r.logic
  conditions : ∃ items, v.member "conditions" = .arr items ∧
    List.Forall₂ ConditionRecord.SeenIn r.conditions items

/-- There are conditions, and all are sound. -/
def isSound (r : RuleRecord) : Bool := !r.conditions.isEmpty && r.conditions.all (·.isSound)

/-- The questions that the record depends on. -/
def references (r : RuleRecord) : List Text :=
  Rules.distinct (r.conditions.filterMap fun c => if c.subject.isEmpty then none else some c.subject)

/-- The record as it comes back from the store. -/
def settled (r : RuleRecord) : RuleRecord := { r with conditions := r.conditions.map (·.settled) }

/-- The members of a rule on the wire. -/
def wireMembers (r : RuleRecord) : Members :=
  [("logic", .str r.logic.name), ("conditions", .arr (r.conditions.map (·.dump .wire)))]

theorem dump_wire (r : RuleRecord) : r.dump .wire = .obj r.wireMembers := rfl

theorem keys_wireMembers (r : RuleRecord) :
    r.wireMembers.keys = ["logic", "conditions"] := rfl

theorem nodup_wireMembers (r : RuleRecord) : r.wireMembers.keys.Nodup := by
  rw [keys_wireMembers]; decide

theorem encodable_wireMembers (r : RuleRecord) :
    r.wireMembers.keys.all Text.encodable = true := by
  rw [keys_wireMembers]; decide

theorem seenIn_dump (r : RuleRecord) : r.SeenIn (r.dump .wire) := by
  refine ⟨⟨_, rfl⟩, ?_, r.conditions.map (·.dump .wire), rfl, ?_⟩
  · have hlogic : (r.dump .wire).member "logic" = .str r.logic.name := rfl
    rw [Rules.logic?, hlogic]
    exact Logic.ofName?_name r.logic
  · induction r.conditions with
    | nil => exact .nil
    | cons c cs ih => exact .cons c.seenIn_dump ih

/-- What passes the checks gives its logic and its conditions. -/
theorem of_check {v : Value} {r : RuleRecord} (h : check v = .ok r) :
    ∃ (ms : Members) (items : List Value), v = .obj ms ∧ ms.get? "logic" = some (.str r.logic.name) ∧
      ms.get? "conditions" = some (.arr items) ∧
      items.map ConditionRecord.check = r.conditions.map .ok := by
  obtain ⟨ms, rfl, hfields⟩ := record_eq_ok.1 h
  obtain ⟨f, conditions, hf, hconditions, rfl⟩ := also_eq_ok.1 hfields
  obtain ⟨_, logic, hmk, hlogic, rfl⟩ := also_eq_ok.1 hf
  obtain rfl := Checked.ok.inj hmk
  obtain ⟨w, hw, hlogic⟩ := FieldName.required_eq_ok.1 hlogic
  obtain ⟨t, rfl, -, ht⟩ := Schema.choice_eq_ok.1 hlogic
  obtain ⟨w', hw', hconditions⟩ := FieldName.required_eq_ok.1 hconditions
  obtain ⟨items, rfl, hitems⟩ := list_eq_ok.1 hconditions
  rw [FieldName.value?_same] at hw hw'
  rw [Logic.eq_name ht] at hw
  exact ⟨ms, items, rfl, hw, hw', hitems⟩

/-- In a well-formed rule the engine sees the record that passed the checks. -/
theorem seenIn_of_check {v : Value} {r : RuleRecord} (h : check v = .ok r)
    (hv : Rules.wellFormed v = true) : r.SeenIn v := by
  obtain ⟨ms, items, rfl, hlogic, hconditions, hitems⟩ := of_check h
  have hmember := Value.member_obj_of_get? hconditions
  have hlogic? : Rules.logic? (.obj ms) = some r.logic := by
    rw [Rules.logic?, Value.member_obj_of_get? hlogic]
    exact Logic.ofName?_name r.logic
  refine ⟨⟨ms, rfl⟩, hlogic?, items, hmember, ?_⟩
  have hall : items.all Condition.wellFormed = true := by
    rw [Rules.wellFormed, hlogic?, hmember] at hv
    cases items with
    | nil => rfl
    | cons c cs => exact hv
  clear hconditions hmember hv
  generalize r.conditions = cs at hitems
  induction items generalizing cs with
  | nil =>
    cases cs with
    | nil => exact .nil
    | cons c cs => cases hitems
  | cons item items ih =>
    cases cs with
    | nil => cases hitems
    | cons c cs =>
      rw [List.map_cons, List.map_cons, List.cons.injEq] at hitems
      rw [List.all_cons, Bool.and_eq_true] at hall
      exact .cons (ConditionRecord.seenIn_of_check hitems.1 hall.1) (ih hall.2 cs hitems.2)

section SeenIn

variable {r : RuleRecord} {v : Value} (h : r.SeenIn v)

include h

theorem SeenIn.wellFormed : Rules.wellFormed v = r.isSound := by
  obtain ⟨ms, rfl⟩ := h.object
  obtain ⟨items, hitems, hseen⟩ := h.conditions
  have hall : items.all Condition.wellFormed = r.conditions.all (·.isSound) := by
    clear hitems
    generalize r.conditions = cs at hseen ⊢
    induction hseen with
    | nil => rfl
    | cons hc _ ih => rw [List.all_cons, List.all_cons, hc.wellFormed, ih]
  rw [Rules.wellFormed, h.logic, hitems, isSound]
  generalize r.conditions = cs at hseen hall ⊢
  cases hseen with
  | nil => rfl
  | cons hc hcs => exact hall

theorem SeenIn.references : Rules.references v = r.references := by
  obtain ⟨items, hitems, hseen⟩ := h.conditions
  have hconditions : Rules.conditions v = items := by rw [Rules.conditions, hitems]
  rw [Rules.references, hconditions, RuleRecord.references]
  congr 1
  clear hitems hconditions
  generalize r.conditions = cs at hseen ⊢
  induction hseen with
  | nil => rfl
  | cons hc _ ih => rw [List.filterMap_cons, List.filterMap_cons, hc.reference?, ih]

theorem SeenIn.shows (answers : Members) :
    Rules.shows v answers = Rules.shows (r.dump .wire) answers := by
  obtain ⟨ms, rfl⟩ := h.object
  obtain ⟨items, hitems, hseen⟩ := h.conditions
  have hmap : items.map (Condition.holds · answers) =
      (r.conditions.map (·.dump .wire)).map (Condition.holds · answers) := by
    clear hitems
    generalize r.conditions = cs at hseen ⊢
    induction hseen with
    | nil => rfl
    | cons hc _ ih => rw [List.map_cons, List.map_cons, List.map_cons, hc.holds, ih]
  have hdump : (r.dump .wire).member "conditions" = .arr (r.conditions.map (·.dump .wire)) := rfl
  have hlogic := r.seenIn_dump.logic
  rw [RuleRecord.dump] at hdump hlogic ⊢
  unfold Rules.shows
  simp only [hitems, hdump, h.logic, hlogic]
  generalize r.conditions = cs at hseen hmap ⊢
  cases hseen with
  | nil => rfl
  | cons hc hcs => exact congrArg r.logic.join hmap

end SeenIn

/-! ### Rules in the store -/

theorem settled_condition (c : ConditionRecord) :
    (c.dump .wire).settled = c.settled.dump .wire := by
  have hoperator : c.operator.name.joined = c.operator.name := by
    cases c.operator <;> decide
  rw [c.dump_wire, Value.settled_obj c.nodup_wireMembers c.encodable_wireMembers]
  simp only [ConditionRecord.wireMembers, List.map_cons, List.map_nil, Value.settled, hoperator]
  rfl

/-- A rule comes back from the store as the record with settled parts. -/
theorem settled_dump (r : RuleRecord) : (r.dump .wire).settled = r.settled.dump .wire := by
  have hlogic : r.logic.name.joined = r.logic.name := by
    cases r.logic <;> decide
  have hconditions : Value.settledItems (r.conditions.map (·.dump .wire)) =
      r.settled.conditions.map (·.dump .wire) := by
    rw [Value.settledItems_eq_map, List.map_map, settled, List.map_map]
    exact List.map_congr_left fun c _ => settled_condition c
  rw [r.dump_wire, Value.settled_obj r.nodup_wireMembers r.encodable_wireMembers]
  simp only [wireMembers, List.map_cons, List.map_nil, Value.settled, hlogic, hconditions]
  rfl

/-- Every question that the record names can be named in every encoding. -/
def Named (r : RuleRecord) : Prop := ∀ c ∈ r.conditions, c.subject.encodable = true

theorem named_of_check {v : Value} {r : RuleRecord} (h : check v = .ok r) : r.Named := by
  obtain ⟨ms, items, -, -, -, hitems⟩ := of_check h
  intro c hc
  have hmem : Checked.ok c ∈ items.map ConditionRecord.check := by
    rw [hitems]; exact List.mem_map_of_mem hc
  obtain ⟨item, -, hitem⟩ := List.mem_map.1 hmem
  obtain ⟨_, -, -, hencodable, -⟩ := ConditionRecord.of_check hitem
  exact hencodable

/-- So can the questions that it refers to. -/
theorem Named.encodable_of_mem {r : RuleRecord} (h : r.Named) {ref : Text} (href : ref ∈ r.references) :
    ref.encodable = true := by
  obtain ⟨c, hc, hsubject⟩ := List.mem_filterMap.1 (Rules.mem_distinct.1 href)
  split at hsubject
  · cases hsubject
  · cases hsubject
    exact h c hc

theorem isNull_settled (v : Value) : v.settled.isNull = v.isNull := by
  cases v <;> rfl

theorem subject_settled {r : RuleRecord} (h : r.Named) {c : ConditionRecord}
    (hc : c ∈ r.conditions) : c.settled.subject = c.subject :=
  Text.joined_eq_self (h c hc)

/-- Such a record is as sound as before when it comes back. -/
theorem isSound_settled {r : RuleRecord} (h : r.Named) : r.settled.isSound = r.isSound := by
  have hall : r.settled.conditions.all (·.isSound) = r.conditions.all (·.isSound) := by
    rw [settled, List.all_map, Bool.eq_iff_iff, List.all_eq_true, List.all_eq_true]
    refine forall₂_congr fun c hc => ?_
    rw [Function.comp_apply, ConditionRecord.isSound, ConditionRecord.isSound, subject_settled h hc,
      ConditionRecord.settled, isNull_settled]
  rw [isSound, isSound, hall, settled]
  simp only [List.isEmpty_map]

/-- And it refers to the same questions. -/
theorem references_settled {r : RuleRecord} (h : r.Named) : r.settled.references = r.references := by
  rw [references, references, settled, List.filterMap_map]
  congr 1
  refine List.filterMap_congr fun c hc => ?_
  rw [Function.comp_apply, subject_settled h hc]

end RuleRecord
end Intake
