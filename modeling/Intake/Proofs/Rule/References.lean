import Intake.Proofs.Json.Members
import Intake.Rule.Visibility
import Mathlib.Data.List.Basic

/-!
# What a rule refers to

The conditions of a rule are gone through in order, and a question is listed when it is first named. In a
well-formed rule every condition names a question, so the list holds the questions of all conditions, each
once, in the order in which they first come up.

        conditions   b   a   b   c   a
        references   b   a       c
-/

namespace Intake

/-- The first list names the members of the second one, each once, in the order in which they first stand
there. -/
structure FirstSeen (ts us : List Text) : Prop where
  mem_iff : ∀ t, t ∈ ts ↔ t ∈ us
  nodup : ts.Nodup
  ordered : ts.Pairwise fun t u => us.idxOf t < us.idxOf u

namespace Rules

/-! ### Distinct texts -/

theorem mem_distinct {t : Text} {ts : List Text} : t ∈ distinct ts ↔ t ∈ ts := by
  induction ts with
  | nil => simp [distinct]
  | cons u us ih => by_cases htu : t = u <;> simp [distinct, ih, htu]

/-- Whatever stands behind another text in the list of the first ones was seen after it. -/
theorem ordered_distinct (ts : List Text) :
    (distinct ts).Pairwise fun t u => ts.idxOf t < ts.idxOf u := by
  induction ts with
  | nil => exact .nil
  | cons t ts ih =>
    have hlater : ∀ u, u ≠ t → (t :: ts).idxOf u = ts.idxOf u + 1 :=
      fun u hu => List.idxOf_cons_ne ts (Ne.symm hu)
    rw [distinct, List.pairwise_cons]
    constructor
    · intro u hu
      have hne : u ≠ t := by simpa using (List.mem_filter.1 hu).2
      rw [List.idxOf_cons_self, hlater u hne]
      exact Nat.succ_pos _
    · refine (ih.filter _).imp_of_mem ?_
      intro u w hu hw hlt
      have hune : u ≠ t := by simpa using (List.mem_filter.1 hu).2
      have hwne : w ≠ t := by simpa using (List.mem_filter.1 hw).2
      rw [hlater u hune, hlater w hwne]
      exact Nat.succ_lt_succ hlt

theorem firstSeen_distinct (ts : List Text) : FirstSeen (distinct ts) ts where
  mem_iff _ := mem_distinct
  nodup := (ordered_distinct ts).imp fun hlt heq => by
    rw [heq] at hlt
    exact Nat.lt_irrefl _ hlt
  ordered := ordered_distinct ts

/-! ### Well-formed rules -/

theorem wellFormed_conditions {rules : Value} (hrules : wellFormed rules = true) :
    ∀ condition ∈ conditions rules, Condition.wellFormed condition = true := by
  intro condition hcondition
  unfold wellFormed at hrules
  unfold conditions at hcondition
  rcases Bool.or_eq_true_iff.1 hrules with hnull | hrules
  · cases rules with
    | null => cases hcondition
    | _ => cases hnull
  · split at hrules
    · rename_i c cs _ hconditions
      rw [hconditions] at hcondition
      exact List.all_eq_true.1 hrules condition hcondition
    · cases hrules

/-- A well-formed condition refers to the question that it looks up. -/
theorem reference?_of_wellFormed {condition : Value} (h : Condition.wellFormed condition = true) :
    ∃ key, Condition.subject? condition = some key ∧ reference? condition = some key := by
  unfold Condition.wellFormed at h
  split at h
  · rename_i key _ hkey _
    rw [Bool.and_eq_true, Bool.not_eq_true'] at h
    refine ⟨key, hkey, ?_⟩
    rw [reference?, hkey]
    simp [h.1]
  · cases h

/-- The questions that the conditions look up, as often as they do. -/
def subjects (rules : Value) : List Text := (conditions rules).filterMap Condition.subject?

section WellFormed

variable {rules : Value} (hrules : wellFormed rules = true)

include hrules

theorem references_eq : references rules = distinct (subjects rules) := by
  refine congrArg distinct (List.filterMap_congr fun condition hcondition => ?_)
  obtain ⟨key, hsubject, href⟩ := reference?_of_wellFormed (wellFormed_conditions hrules _ hcondition)
  rw [hsubject, href]

/-- Every condition looks up a question. -/
theorem map_subject? : (conditions rules).map Condition.subject? = (subjects rules).map some := by
  have hall := wellFormed_conditions hrules
  rw [subjects]
  generalize conditions rules = cs at hall ⊢
  induction cs with
  | nil => rfl
  | cons c cs ih =>
    rw [List.forall_mem_cons] at hall
    obtain ⟨key, hsubject, -⟩ := reference?_of_wellFormed hall.1
    rw [List.map_cons, List.filterMap_cons_some hsubject, List.map_cons, ih hall.2, hsubject]

/-- The conditions of a well-formed rule look up the questions that it refers to. -/
theorem mem_references {condition : Value} (hcondition : condition ∈ conditions rules) {key : Text}
    (hkey : Condition.subject? condition = some key) : key ∈ references rules := by
  rw [references_eq hrules, mem_distinct]
  exact List.mem_filterMap.2 ⟨condition, hcondition, hkey⟩

end WellFormed

end Rules

/-! ### Conditions with another member -/

namespace Condition

section WithMember

variable (condition v : Value) {key : Text}

theorem subject?_withMember (hkey : "questionKey" ≠ key) :
    subject? (condition.withMember key v) = subject? condition := by
  rw [subject?, Value.member_withMember_of_ne condition v hkey, subject?]

theorem operator?_withMember (hkey : "operator" ≠ key) :
    operator? (condition.withMember key v) = operator? condition := by
  rw [operator?, Value.member_withMember_of_ne condition v hkey, operator?]

theorem value_withMember (hkey : "value" ≠ key) :
    value (condition.withMember key v) = value condition := by
  rw [value, Value.member_withMember_of_ne condition v hkey, value]

end WithMember

/-- Only an object looks a question up. -/
theorem exists_members_of_subject? {condition : Value} {key : Text}
    (h : subject? condition = some key) : ∃ ms : Members, condition = .obj ms :=
  Value.exists_members_of_member (Value.eq_str_of_text? h) (by simp)

end Condition

/-! ### Rules as authors write them -/

/-- A condition as it is written. -/
def Condition.written (subject operator : Text) (value : Value) : Value :=
  .obj [("questionKey", .str subject), ("operator", .str operator), ("value", value)]

namespace Rules

/-- A rule as it is written. -/
def written (logic : Text) (conditions : List Value) : Value :=
  .obj [("logic", .str logic), ("conditions", .arr conditions)]

/-- A question is listed where it is first named. -/
example : references (written "OR" [Condition.written "b" "equals" (.int 2),
    Condition.written "a" "contains" .null, Condition.written "b" "notEquals" (.int 3)]) =
    (["b", "a"] : List Text) := by decide

end Rules
end Intake
