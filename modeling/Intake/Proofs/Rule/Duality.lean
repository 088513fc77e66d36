import Intake.Proofs.Rule.Extending

/-!
# Opposed rules

A comparison for equality and one for its contrary give opposite verdicts on every answer that was given,
and none of the two holds of a question that was not answered. By the laws of De Morgan the same is true of
whole rules: the rule that joins the opposed comparisons in the other way is never shown together with the
first rule, and when all questions that the rules look up are answered, exactly one of the two is.

        a = 1  AND  b ≠ 2          answers a, b         one of the two
        a ≠ 1  OR   b = 2          b is missing         at most one
-/

namespace Intake

/-- The comparison with the contrary verdict; containment has none. -/
def Operator.opposed : Operator → Operator
  | equals => notEquals
  | notEquals => equals
  | contains => contains

namespace Condition

/-- The condition compares the answer to a question with its value, for equality or for its contrary. -/
structure Compares (condition : Value) : Prop where
  subject : ∃ key, subject? condition = some key
  operator : operator? condition = some .equals ∨ operator? condition = some .notEquals

/-- The condition with its operator replaced by the opposed one. -/
def opposed (condition : Value) : Value :=
  match operator? condition with
  | some op => condition.withMember "operator" (.str op.opposed.name)
  | none => condition

theorem operator?_withOperator (ms : Members) (op : Operator) :
    operator? ((Value.obj ms).withMember "operator" (.str op.name)) = some op := by
  rw [operator?, Value.member_withMember_self]
  exact Operator.ofName?_name op

theorem subject?_opposed (condition : Value) : subject? (opposed condition) = subject? condition := by
  unfold opposed
  split
  · exact subject?_withMember condition _ (by decide)
  · rfl

theorem value_opposed (condition : Value) : value (opposed condition) = value condition := by
  unfold opposed
  split
  · exact value_withMember condition _ (by decide)
  · rfl

section Opposed

variable {condition : Value} (h : Compares condition)

include h

theorem Compares.operator?_opposed :
    operator? (opposed condition) = (operator? condition).map Operator.opposed := by
  obtain ⟨key, hkey⟩ := h.subject
  obtain ⟨ms, rfl⟩ := exists_members_of_subject? hkey
  unfold opposed
  split
  · rename_i op hop
    rw [operator?_withOperator, hop]
    rfl
  · rename_i hop
    rw [hop]
    rfl

/-- Of an answer that was given the opposed condition says the contrary. -/
theorem Compares.holdsFor_opposed {answer : Option Value} (hanswered : unanswered answer = false) :
    holdsFor (opposed condition) answer = !holdsFor condition answer := by
  cases answer with
  | none => cases hanswered
  | some a =>
    unfold holdsFor
    rw [h.operator?_opposed, value_opposed]
    rcases h.operator with hop | hop
    · simp [hop, hanswered, Operator.opposed, compare]
    · simp [hop, hanswered, Operator.opposed, compare]

theorem Compares.holds_opposed {answers : Members}
    (hanswered : ∀ key, subject? condition = some key → unanswered (answers.get? key) = false) :
    holds (opposed condition) answers = !holds condition answers := by
  obtain ⟨key, hkey⟩ := h.subject
  unfold holds
  simp only [subject?_opposed, hkey]
  exact h.holdsFor_opposed (hanswered key hkey)

/-- Whether or not the question was answered, the opposed condition does not hold with the condition. -/
theorem Compares.not_holds_of_opposed {answers : Members}
    (hopposed : holds (opposed condition) answers = true) : (!holds condition answers) = true := by
  obtain ⟨key, hkey⟩ := h.subject
  cases hanswer : unanswered (answers.get? key) with
  | true =>
    unfold holds
    simp only [hkey, holdsFor_of_unanswered hanswer]
    rfl
  | false =>
    rw [← h.holds_opposed fun other hother => ?_, hopposed]
    rw [hkey] at hother
    rw [← Option.some.inj hother, hanswer]

end Opposed

end Condition

namespace Logic

/-- The other way to join. -/
def dual : Logic → Logic
  | and => or
  | or => and

/-- The laws of De Morgan. -/
theorem join_dual {α : Type} (l : Logic) (items : List α) (f : α → Bool) :
    l.dual.join (items.map fun item => !f item) = !l.join (items.map f) := by
  cases l with
  | and => simp [dual, join, List.not_all_eq_any_not]
  | or => simp [dual, join, List.not_any_eq_all_not]

end Logic

namespace Rules

/-- A rule that was written with conditions joins their verdicts. -/
theorem shows_written (l : Logic) {cs : List Value} (hcs : cs ≠ []) (answers : Members) :
    shows (written l.name cs) answers = l.join (cs.map (Condition.holds · answers)) := by
  have hlogic : logic? (written l.name cs) = some l := Logic.ofName?_name l
  have hconditions : (written l.name cs).member "conditions" = .arr cs := rfl
  rw [written] at hlogic hconditions ⊢
  unfold shows
  simp only [hlogic, hconditions]
  cases cs with
  | nil => exact absurd rfl hcs
  | cons c cs => rfl

/-- **Opposed rules.** The rule that joins comparisons in one way and the rule that joins the opposed
comparisons in the other way are never both shown, whatever the answers are; and when every question that
the comparisons look up is answered, exactly one of the two is shown. -/
theorem opposed_rules (l : Logic) {cs : List Value} (hcs : cs ≠ [])
    (hcompares : ∀ c ∈ cs, Condition.Compares c) (answers : Members) :
    ¬ (shows (written l.name cs) answers = true ∧
      shows (written l.dual.name (cs.map Condition.opposed)) answers = true) ∧
    ((∀ c ∈ cs, ∀ key, Condition.subject? c = some key →
        Condition.unanswered (answers.get? key) = false) →
      shows (written l.dual.name (cs.map Condition.opposed)) answers =
        !shows (written l.name cs) answers) := by
  have hmap : cs.map Condition.opposed ≠ [] := by simpa using hcs
  rw [shows_written l hcs, shows_written l.dual hmap, List.map_map]
  refine ⟨?_, ?_⟩
  · rintro ⟨hshown, hopposed⟩
    have hnot : l.dual.join (cs.map fun c => !Condition.holds c answers) = true := by
      refine l.dual.join_of_imp ?_ hopposed
      intro c hc hholds
      exact (hcompares c hc).not_holds_of_opposed hholds
    rw [Logic.join_dual, hshown] at hnot
    cases hnot
  · intro hanswered
    rw [← Logic.join_dual]
    refine congrArg l.dual.join (List.map_congr_left fun c hc => ?_)
    exact (hcompares c hc).holds_opposed (hanswered c hc)

/-- Two comparisons of different questions. -/
def twoComparisons : List Value :=
  [Condition.written "a" "equals" (.int 1), Condition.written "b" "notEquals" (.ofString "x")]

theorem opposed_rules_two :
    twoComparisons ≠ [] ∧ (∀ c ∈ twoComparisons, Condition.Compares c) ∧
    (∀ c ∈ twoComparisons, ∀ key, Condition.subject? c = some key →
      Condition.unanswered (Members.get? [("a", .int 1), ("b", .ofString "x")] key) = false) ∧
    shows (written "OR" (twoComparisons.map Condition.opposed)) [("a", .int 1), ("b", .ofString "x")] =
      !shows (written "AND" twoComparisons) [("a", .int 1), ("b", .ofString "x")] ∧
    ¬ (shows (written "AND" twoComparisons) [("a", .int 1)] = true ∧
      shows (written "OR" (twoComparisons.map Condition.opposed)) [("a", .int 1)] = true) := by
  have hne : twoComparisons ≠ [] := by simp [twoComparisons]
  have hcompares : ∀ c ∈ twoComparisons, Condition.Compares c := by
    rw [twoComparisons, List.forall_mem_cons, List.forall_mem_singleton]
    exact ⟨⟨⟨_, rfl⟩, .inl (by decide)⟩, ⟨⟨_, rfl⟩, .inr (by decide)⟩⟩
  have hanswered : ∀ c ∈ twoComparisons, ∀ key, Condition.subject? c = some key →
      Condition.unanswered (Members.get? [("a", .int 1), ("b", .ofString "x")] key) = false := by
    rw [twoComparisons, List.forall_mem_cons, List.forall_mem_singleton]
    constructor
    · rintro key hkey
      cases hkey
      rfl
    · rintro key hkey
      cases hkey
      rfl
  exact ⟨hne, hcompares, hanswered, (opposed_rules .and hne hcompares _).2 hanswered,
    (opposed_rules .and hne hcompares [("a", .int 1)]).1⟩

/-- While a question is not answered, neither of the two rules need be shown. -/
example : shows (written "AND" twoComparisons) [("a", .int 1)] = false ∧
    shows (written "OR" (twoComparisons.map Condition.opposed)) [("a", .int 1)] = false := by decide

end Rules
end Intake
