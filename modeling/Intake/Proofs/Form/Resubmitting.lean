import Intake.Proofs.Form.Accepting
import Intake.Proofs.Rule.Extending

/-!
# Submitting what was accepted

Which questions are shown is decided once, by all the answers of a submission. The answers to hidden
questions are dropped after that, and so are empty lists, so a question can have been shown by an answer
that is not kept. Submitting the accepted answers again therefore shows no question that was not shown
before, demands nothing new, and drops the answers to the questions that dropped answers had shown.

        answers  ──▶ shown      ──▶ accepted
                      ∪                ∪
        accepted ──▶ shown then ──▶ accepted again
-/

namespace Intake.Submission

/-- The entry of a question among the accepted answers, if its answer says anything. -/
def given? (answers : Members) (q : Question) : Option (Text × Value) :=
  if isEmpty (answers.getD q.key) then none else some (q.key, answers.getD q.key)

theorem key_of_given? {answers : Members} {q : Question} {e : Text × Value}
    (h : given? answers q = some e) : e.1 = q.key := by
  unfold given? at h
  split at h
  · cases h
  · cases h; rfl

theorem isMissing_eq (answers : Members) (q : Question) :
    isMissing answers q = (q.required && (given? answers q).isNone) := by
  unfold isMissing given?
  cases isEmpty (answers.getD q.key) <;> rfl

/-- Among distinct keys the answers are collected question by question. -/
theorem collect_of_distinct {answers : Members} {qs : List Question}
    (h : qs.find? (isMissing answers) = none) {acc : Members}
    (hkeys : (acc.keys ++ qs.map (·.key)).Nodup) :
    collect answers acc qs = .ok (acc ++ qs.filterMap (given? answers)) := by
  induction qs generalizing acc with
  | nil => simp [collect]
  | cons q qs ih =>
    rw [List.find?_eq_none, List.forall_mem_cons] at h
    have hrest : qs.find? (isMissing answers) = none := List.find?_eq_none.2 h.2
    rw [List.map_cons] at hkeys
    rw [collect]
    by_cases hempty : isEmpty (answers.getD q.key) = true
    · have hrequired : q.required = false := by simpa [isMissing, hempty] using h.1
      have hentry : given? answers q = none := by rw [given?, if_pos hempty]
      have hkept : (acc.keys ++ qs.map (·.key)).Nodup :=
        hkeys.sublist (List.Sublist.append_left (List.sublist_cons_self _ _) _)
      rw [if_pos hempty, hrequired, List.filterMap_cons_none hentry]
      exact ih hrest hkept
    · have hentry : given? answers q = some (q.key, answers.getD q.key) := by
        rw [given?, if_neg hempty]
      have hnew : q.key ∉ acc.keys := by
        intro hmem
        exact (List.nodup_append.1 hkeys).2.2 q.key hmem q.key List.mem_cons_self rfl
      have hnext : ((acc ++ [(q.key, answers.getD q.key)]).keys ++ qs.map (·.key)).Nodup := by
        simpa [Members.keys] using hkeys
      rw [if_neg hempty, Members.set_of_not_mem hnew, ih hrest hnext,
        List.filterMap_cons_some hentry, List.append_assoc, List.singleton_append]

section Again

variable {questions : List Question} {answers accepted : Members}

/-- Answers that are accepted leave no question without its answer, and they are the answers that
count. -/
theorem of_accept (h : accept questions answers = .ok accepted) :
    (Question.visible questions answers).find? (isMissing answers) = none ∧
      Counted questions answers accepted := by
  cases hfind : (Question.visible questions answers).find? (isMissing answers) with
  | some q =>
    rw [accept_of_missing hfind] at h
    cases h
  | none =>
    obtain ⟨again, hagain, hcounted⟩ := accept_of_complete hfind
    rw [h] at hagain
    cases hagain
    exact ⟨rfl, hcounted⟩

/-- Where the accepted answers say anything, the answers say the same. -/
theorem Counted.extends (h : Counted questions answers accepted) (key : Text) :
    Condition.Extends (accepted.get? key) (answers.get? key) := by
  cases hget : accepted.get? key with
  | none => exact .inl rfl
  | some v => exact .inr ((h.entries key v).1 hget).2.1.symm

/-- For a question that was shown the accepted answers say what the answers say. -/
theorem Counted.given?_eq (h : Counted questions answers accepted) {q : Question}
    (hq : q ∈ Question.visible questions answers) : given? accepted q = given? answers q := by
  unfold given?
  cases hempty : isEmpty (answers.getD q.key) with
  | false =>
    have hget : accepted.get? q.key = some (answers.getD q.key) :=
      (h.entries _ _).2 ⟨List.mem_map_of_mem hq, Members.get?_of_isEmpty hempty, hempty⟩
    have hgetD : Members.getD accepted q.key = answers.getD q.key := by
      rw [Members.getD, hget]; rfl
    rw [hgetD, hempty]
  | true =>
    have hget : accepted.get? q.key = none := by
      cases hget : accepted.get? q.key with
      | none => rfl
      | some v =>
        obtain ⟨-, hanswer, hsays⟩ := (h.entries _ _).1 hget
        rw [Members.getD, hanswer, Option.getD_some, hsays] at hempty
        cases hempty
    rw [Members.getD, hget]
    rfl

/-- The accepted answers show no question that was not shown before. -/
theorem Counted.visible_eq (h : Counted questions answers accepted) :
    Question.visible questions accepted =
      (Question.visible questions answers).filter fun q => Rules.shows q.rulesValue accepted :=
  Visibility.visible_eq_filter Question.rulesValue questions h.extends

/-- The entries of some of the questions are found by their keys. -/
theorem filterMap_given?_filter (answers : Members) {shown : List Question}
    (hkeys : (shown.map (·.key)).Nodup) (p : Question → Bool) :
    (shown.filter p).filterMap (given? answers) =
      (shown.filterMap (given? answers)).filter fun e => e.1 ∈ (shown.filter p).map (·.key) := by
  rw [List.filterMap_filter, List.filter_filterMap]
  refine List.filterMap_congr fun q hq => ?_
  have hmem : q.key ∈ (shown.filter p).map (·.key) ↔ p q = true := by
    constructor
    · intro hkey
      obtain ⟨other, hother, hsame⟩ := List.mem_map.1 hkey
      obtain ⟨hshown, hp⟩ := List.mem_filter.1 hother
      rwa [List.inj_on_of_nodup_map hkeys hshown hq hsame] at hp
    · intro hp
      exact List.mem_map_of_mem (List.mem_filter.2 ⟨hq, hp⟩)
  cases hentry : given? answers q with
  | none => simp
  | some e => simp [Option.filter, key_of_given? hentry, hmem]

theorem nodup_visible (hkeys : (questions.map (·.key)).Nodup) (answers : Members) :
    ((Question.visible questions answers).map (·.key)).Nodup :=
  hkeys.sublist (List.filter_sublist.map _)

/-- Among distinct keys the entries of the questions shown are accepted, in their order. -/
theorem accept_of_distinct (hkeys : (questions.map (·.key)).Nodup)
    (h : (Question.visible questions answers).find? (isMissing answers) = none) :
    accept questions answers =
      .ok ((Question.visible questions answers).filterMap (given? answers)) := by
  have hnodup : (Members.keys [] ++ (Question.visible questions answers).map (·.key)).Nodup :=
    nodup_visible hkeys answers
  exact collect_of_distinct h hnodup

/-- Accepted answers are accepted again, but for those whose questions they do not show. -/
theorem accept_accepted (hkeys : (questions.map (·.key)).Nodup)
    (h : accept questions answers = .ok accepted) :
    accept questions accepted = .ok (accepted.filter fun e =>
      e.1 ∈ (Question.visible questions accepted).map (·.key)) := by
  obtain ⟨hcomplete, hcounted⟩ := of_accept h
  have haccepted : (Question.visible questions answers).filterMap (given? answers) = accepted := by
    rw [accept_of_distinct hkeys hcomplete] at h
    exact Except.ok.inj h
  -- every question that is shown again was shown, and says what it said
  have hsame : ∀ q ∈ Question.visible questions accepted, given? accepted q = given? answers q := by
    intro q hq
    rw [hcounted.visible_eq] at hq
    exact hcounted.given?_eq (List.mem_filter.1 hq).1
  have hagain : (Question.visible questions accepted).find? (isMissing accepted) = none := by
    rw [List.find?_eq_none] at hcomplete ⊢
    intro q hq hmissing
    have hq' := hq
    rw [hcounted.visible_eq] at hq'
    refine hcomplete q (List.mem_filter.1 hq').1 ?_
    rw [isMissing_eq, hsame q hq, ← isMissing_eq] at hmissing
    exact hmissing
  rw [accept_of_distinct hkeys hagain, List.filterMap_congr hsame, hcounted.visible_eq,
    filterMap_given?_filter answers (nodup_visible hkeys answers), haccepted]

/-- An accepted answer belongs to a question that was shown, and is the answer that was given. -/
theorem Counted.of_mem_keys (h : Counted questions answers accepted) {key : Text}
    (hkey : key ∈ accepted.keys) : key ∈ (Question.visible questions answers).map (·.key) ∧
      answers.get? key = accepted.get? key := by
  obtain ⟨⟨_, v⟩, hmem, rfl⟩ := List.mem_map.1 hkey
  have hget := Members.get?_of_mem h.keys hmem
  obtain ⟨hshown, hanswer, -⟩ := (h.entries _ _).1 hget
  exact ⟨hshown, hanswer.trans hget.symm⟩

/-- The accepted answers show a question that was shown, if every question that its rule refers to has no
answer or has its answer accepted. -/
theorem Counted.shown_again (h : Counted questions answers accepted) {q : Question}
    (hq : q ∈ Question.visible questions answers) (hrules : Rules.wellFormed q.rulesValue = true)
    (hrefs : ∀ ref ∈ Rules.references q.rulesValue,
      Condition.unanswered (answers.get? ref) = true ∨ ref ∈ accepted.keys) :
    q ∈ Question.visible questions accepted := by
  obtain ⟨hmem, hshows⟩ := List.mem_filter.1 hq
  refine List.mem_filter.2 ⟨hmem, Rules.shows_of_references hrules ?_ hshows⟩
  intro ref href
  rcases hrefs ref href with hnone | hkey
  · exact .inl hnone
  · exact .inr (h.of_mem_keys hkey).2

/-- Submitting the accepted answers again shows no question that was not shown before and is never refused,
and it keeps the answers whose questions they show by themselves. It keeps all of them unless a rule counted
an answer that was not accepted. -/
theorem accepted_answers_resubmitted (hkeys : (questions.map (·.key)).Nodup)
    (hrules : ∀ q ∈ questions, Rules.wellFormed q.rulesValue = true)
    (h : accept questions answers = .ok accepted) :
    (Question.visible questions accepted).Sublist (Question.visible questions answers) ∧
    accept questions accepted = .ok (accepted.filter fun e =>
      e.1 ∈ (Question.visible questions accepted).map (·.key)) ∧
    (accept questions accepted = .ok accepted ↔
      ∀ key ∈ accepted.keys, key ∈ (Question.visible questions accepted).map (·.key)) ∧
    ((∀ q ∈ Question.visible questions answers, q.key ∈ accepted.keys →
        ∀ ref ∈ Rules.references q.rulesValue,
          Condition.unanswered (answers.get? ref) = true ∨ ref ∈ accepted.keys) →
      accept questions accepted = .ok accepted) := by
  have hshown : (Question.visible questions accepted).Sublist (Question.visible questions answers) := by
    rw [(of_accept h).2.visible_eq]
    exact List.filter_sublist
  have hagain := accept_accepted hkeys h
  have hiff : accept questions accepted = .ok accepted ↔
      ∀ key ∈ accepted.keys, key ∈ (Question.visible questions accepted).map (·.key) := by
    rw [hagain, Except.ok.injEq, List.filter_eq_self, Members.keys, List.forall_mem_map]
    simp only [decide_eq_true_eq]
  refine ⟨hshown, hagain, hiff, ?_⟩
  intro hrefs
  rw [hiff]
  intro key hkey
  obtain ⟨hshown, -⟩ := (of_accept h).2.of_mem_keys hkey
  obtain ⟨q, hq, rfl⟩ := List.mem_map.1 hshown
  have hwell := hrules q (List.mem_filter.1 hq).1
  exact List.mem_map_of_mem ((of_accept h).2.shown_again hq hwell (hrefs q hq hkey))

end Again

/-! ### A chain of questions -/

/-- A question that is shown after one answer to another. -/
def asked (key : Text) (after : Option (Text × String)) : Question :=
  ⟨key, key, key, "email", false, [], after.map fun condition =>
    [("logic", .ofString "AND"), ("conditions", .arr [.obj [("questionKey", .str condition.1),
      ("operator", .ofString "equals"), ("value", .ofString condition.2)]])]⟩

/-- Three questions, each but the first shown after an answer to the one before. -/
def chain : List Question :=
  [asked "a" none, asked "b" (some ("a", "x")), asked "c" (some ("b", "y"))]

/-- Answers under which the second question is hidden. -/
def chainAnswers : Members :=
  [("a", .ofString "z"), ("b", .ofString "y"), ("c", .ofString "w")]

/-- What is accepted of them. -/
def chainAccepted : Members := [("a", .ofString "z"), ("c", .ofString "w")]

theorem accept_chain : accept chain chainAnswers = .ok chainAccepted := by rfl

theorem accepted_answers_resubmitted_chain :
    (chain.map (·.key)).Nodup ∧ (∀ q ∈ chain, Rules.wellFormed q.rulesValue = true) ∧
    accept chain chainAnswers = .ok chainAccepted ∧
    (Question.visible chain chainAccepted).Sublist (Question.visible chain chainAnswers) ∧
    accept chain chainAccepted = .ok (chainAccepted.filter fun e =>
      e.1 ∈ (Question.visible chain chainAccepted).map (·.key)) ∧
    (accept chain chainAccepted = .ok chainAccepted ↔
      ∀ key ∈ chainAccepted.keys, key ∈ (Question.visible chain chainAccepted).map (·.key)) ∧
    ((∀ q ∈ Question.visible chain chainAnswers, q.key ∈ chainAccepted.keys →
        ∀ ref ∈ Rules.references q.rulesValue,
          Condition.unanswered (chainAnswers.get? ref) = true ∨ ref ∈ chainAccepted.keys) →
      accept chain chainAccepted = .ok chainAccepted) := by
  have hkeys : (chain.map (·.key)).Nodup := by decide
  have hrules : ∀ q ∈ chain, Rules.wellFormed q.rulesValue = true := by decide
  exact ⟨hkeys, hrules, accept_chain, accepted_answers_resubmitted hkeys hrules accept_chain⟩

/-- The answer to a hidden question can decide what is accepted. -/
theorem accepted_answers_not_kept :
    ¬ ∀ (questions : List Question) (answers accepted : Members), (questions.map (·.key)).Nodup →
      (∀ q ∈ questions, Rules.wellFormed q.rulesValue = true) →
      accept questions answers = .ok accepted → accept questions accepted = .ok accepted := by
  intro hclaim
  have hkept := hclaim chain chainAnswers chainAccepted (by decide) (by decide) accept_chain
  have hlost : accept chain chainAccepted = .ok [("a", .ofString "z")] := by rfl
  rw [hlost] at hkept
  have hlength := congrArg List.length (Except.ok.inj hkept)
  cases hlength

end Intake.Submission
