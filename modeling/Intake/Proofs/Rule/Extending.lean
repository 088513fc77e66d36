import Intake.Proofs.Json.Members
import Intake.Proofs.Rule.References

/-!
# More answers

No condition holds of a question that is not answered. So answers that agree with others wherever the
others say something satisfy every condition that the others satisfy, and they show every question that
the others show. For a rule it is enough that they agree on the questions that the rule refers to. Taking
answers back can therefore only hide questions, and answering can only reveal them.

        answers ──say no less about the references──▶ more answers
        shown   ────────────────────────────────────▶ shown
-/

namespace Intake

namespace Condition

/-- The second answer is the first one, if the first says anything. -/
def Extends (a b : Option Value) : Prop := unanswered a = true ∨ a = b

theorem holdsFor_of_extends {condition : Value} {a b : Option Value} (h : Extends a b)
    (ha : holdsFor condition a = true) : holdsFor condition b = true := by
  rcases h with hnone | rfl
  · rw [holdsFor_of_unanswered hnone] at ha
    cases ha
  · exact ha

/-- A condition that holds goes on to hold when the question that it looks up says no less. -/
theorem holds_of_extends {condition : Value} {answers more : Members}
    (h : ∀ key, subject? condition = some key → Extends (answers.get? key) (more.get? key))
    (hholds : holds condition answers = true) : holds condition more = true := by
  unfold holds at hholds ⊢
  cases hsubject : subject? condition with
  | none => rw [hsubject] at hholds; cases hholds
  | some key =>
    rw [hsubject] at hholds
    exact holdsFor_of_extends (h key hsubject) hholds

end Condition

/-- Verdicts that only turn from no to yes do not turn the joint verdict from yes to no. -/
theorem Logic.join_of_imp {α : Type} (l : Logic) {items : List α} {f g : α → Bool}
    (h : ∀ item ∈ items, f item = true → g item = true)
    (hjoin : l.join (items.map f) = true) : l.join (items.map g) = true := by
  cases l with
  | and =>
    simp only [join, List.all_map, Function.id_comp, List.all_eq_true] at hjoin ⊢
    intro item hitem
    exact h item hitem (hjoin item hitem)
  | or =>
    simp only [join, List.any_map, Function.id_comp, List.any_eq_true] at hjoin ⊢
    obtain ⟨item, hitem, hf⟩ := hjoin
    exact ⟨item, hitem, h item hitem hf⟩

namespace Rules

/-- A rule that shows its question goes on to show it when the questions that its conditions look up say
no less. -/
theorem shows_of_extends {rules : Value} {answers more : Members}
    (h : ∀ condition ∈ conditions rules, ∀ key, Condition.subject? condition = some key →
      Condition.Extends (answers.get? key) (more.get? key))
    (hshows : shows rules answers = true) : shows rules more = true := by
  unfold shows at hshows ⊢
  split at hshows
  · rfl
  · split at hshows
    · rfl
    · rfl
    · rename_i c cs hconditions
      rw [conditions, hconditions] at h
      split at hshows
      · rename_i l _
        refine l.join_of_imp ?_ hshows
        intro condition hcondition
        exact Condition.holds_of_extends (h condition hcondition)
      · cases hshows
    · cases hshows
  · cases hshows

/-- A well-formed rule that shows its question goes on to show it when the questions that it refers to
say no less. -/
theorem shows_of_references {rules : Value} (hrules : wellFormed rules = true) {answers more : Members}
    (h : ∀ ref ∈ references rules, Condition.Extends (answers.get? ref) (more.get? ref))
    (hshows : shows rules answers = true) : shows rules more = true := by
  refine shows_of_extends ?_ hshows
  intro condition hcondition key hkey
  exact h key (mem_references hrules hcondition hkey)

end Rules

/-! ### Answers that are taken back -/

/-- What is left of answers when some are taken back, one after the other: an entry is removed, or its
value becomes null or the empty text. -/
inductive Withdrawn (answers : Members) : Members → Prop where
  | unchanged : Withdrawn answers answers
  | removed {left : Members} (h : Withdrawn answers left) (key : Text) :
      Withdrawn answers (left.erase key)
  | blanked {left : Members} (h : Withdrawn answers left) (key : Text) (v : Value)
      (hkey : left.has key = true) (hv : v = .null ∨ v = .str []) : Withdrawn answers (left.set key v)

/-- What is left says no more than the answers said, question by question. -/
theorem Withdrawn.extends {answers left : Members} (h : Withdrawn answers left) (key : Text) :
    Condition.Extends (left.get? key) (answers.get? key) := by
  induction h with
  | unchanged => exact .inr rfl
  | removed _ other ih =>
    by_cases hkey : key = other
    · rw [hkey, Members.get?_erase_self]
      exact .inl rfl
    · rw [Members.get?_erase_of_ne hkey]
      exact ih
  | blanked _ other v _ hv ih =>
    by_cases hkey : key = other
    · rw [hkey, Members.get?_set_self]
      rcases hv with rfl | rfl
      · exact .inl rfl
      · exact .inl rfl
    · rw [Members.get?_set_of_ne hkey]
      exact ih

/-- Answering a question that was not answered takes nothing back. -/
theorem Members.extends_set {answers : Members} {key : Text}
    (h : Condition.unanswered (answers.get? key) = true) (v : Value) (other : Text) :
    Condition.Extends (answers.get? other) ((answers.set key v).get? other) := by
  by_cases hkey : other = key
  · rw [hkey]
    exact .inl h
  · rw [Members.get?_set_of_ne hkey]
    exact .inr rfl

namespace Visibility

section

variable {α : Type} (rulesOf : α → Value) (questions : List α)

/-- Answers that say no more show some of the questions that the others show, in their order. -/
theorem visible_eq_filter {answers more : Members}
    (h : ∀ key, Condition.Extends (answers.get? key) (more.get? key)) :
    visible rulesOf questions answers =
      (visible rulesOf questions more).filter fun q => Rules.shows (rulesOf q) answers := by
  unfold visible
  rw [List.filter_filter]
  refine List.filter_congr fun q _ => ?_
  cases hshows : Rules.shows (rulesOf q) answers with
  | false => rfl
  | true =>
    rw [Bool.true_and]
    exact (Rules.shows_of_extends (fun _ _ key _ => h key) hshows).symm

/-- **Answering can only reveal.** Whatever the rules of the questions are, malformed ones included: the
questions shown under what is left of answers are some of those shown under the answers, in their order;
and a first answer to a question that was not answered hides nothing. -/
theorem answering_only_reveals (answers : Members) :
    (∀ left, Withdrawn answers left →
      (visible rulesOf questions left).Sublist (visible rulesOf questions answers)) ∧
    ∀ key, Condition.unanswered (answers.get? key) = true → ∀ v,
      (visible rulesOf questions answers).Sublist (visible rulesOf questions (answers.set key v)) := by
  constructor
  · intro left hleft
    rw [visible_eq_filter rulesOf questions hleft.extends]
    exact List.filter_sublist
  · intro key hkey v
    rw [visible_eq_filter rulesOf questions (Members.extends_set hkey v)]
    exact List.filter_sublist

end

/-- Rules of four questions; the second one is malformed. -/
def mixedRules : List Value :=
  [Rules.written "AND" [Condition.written "a" "notEquals" (.ofString "x")], .int 5,
    Rules.written "OR" [Condition.written "b" "contains" (.ofString "u")], .null]

theorem answering_only_reveals_mixed :
    Withdrawn [("a", .ofString "y"), ("b", .arr [.ofString "u"])] [("a", .null)] ∧
    (visible id mixedRules [("a", .null)]).Sublist
      (visible id mixedRules [("a", .ofString "y"), ("b", .arr [.ofString "u"])]) ∧
    Condition.unanswered (Members.get? [("a", .null)] "b") = true ∧
    (visible id mixedRules [("a", .null)]).Sublist
      (visible id mixedRules [("a", .null), ("b", .ofString "U-turn")]) := by
  have hleft : Withdrawn [("a", .ofString "y"), ("b", .arr [.ofString "u"])] [("a", .null)] :=
    (Withdrawn.unchanged.removed "b").blanked "a" .null rfl (.inl rfl)
  exact ⟨hleft, (answering_only_reveals id mixedRules _).1 _ hleft, rfl,
    (answering_only_reveals id mixedRules [("a", .null)]).2 "b" rfl (.ofString "U-turn")⟩

end Visibility
end Intake
