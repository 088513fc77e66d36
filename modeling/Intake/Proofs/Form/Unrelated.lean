import Intake.Proofs.Form.Resubmitting
import Intake.Proofs.Rule.Meaning

/-!
# Answers that no question asks for

A respondent can send answers under any key. The rules of a form refer to its own questions only, and
what is accepted and what is sent on is looked up under the keys of these questions. So two sets of
answers that say the same to every question of the form are treated alike, whatever else they hold and in
whatever order. Where they only mean the same, the same questions are shown and refused, and what is
accepted and sent on means the same.

        answers        a ↦ x   b ↦ ""            zz ↦ 7
        other answers  zz ↦ [] b ↦ null  a ↦ x
        alike under    a, b       ⟹   the same shown, accepted and sent on
-/

namespace Intake

namespace Members

variable {R : Value → Value → Prop} {ms ns : Members}

/-- The same keys in the same order, and related values under them. -/
def Related (R : Value → Value → Prop) (ms ns : Members) : Prop :=
  List.Forall₂ (fun e f => e.1 = f.1 ∧ R e.2 f.2) ms ns

theorem eq_of_related (h : Related Eq ms ns) : ms = ns := by
  induction h with
  | nil => rfl
  | cons hhead _ ih => rw [ih, Prod.ext hhead.1 hhead.2]

/-- Related values are set at the same place. -/
theorem Related.set {v w : Value} (h : Related R ms ns) (key : Text) (hv : R v w) :
    Related R (ms.set key v) (ns.set key w) := by
  induction h with
  | nil => exact .cons ⟨rfl, hv⟩ .nil
  | @cons e f ms ns hhead htail ih =>
    obtain ⟨k, a⟩ := e
    obtain ⟨l, b⟩ := f
    obtain ⟨rfl, hab⟩ := hhead
    rw [Members.set, Members.set]
    by_cases hk : k = key
    · rw [if_pos hk, if_pos hk]
      exact .cons ⟨rfl, hv⟩ htail
    · rw [if_neg hk, if_neg hk]
      exact .cons ⟨rfl, hab⟩ ih

/-- Setting related pairs one after the other gives related members. -/
theorem Related.ofPairs (h : Related R ms ns) : Related R (ofPairs ms) (ofPairs ns) := by
  have hfold : ∀ acc bcc, Related R acc bcc →
      Related R (ms.foldl (fun m e => m.set e.1 e.2) acc) (ns.foldl (fun m e => m.set e.1 e.2) bcc) := by
    induction h with
    | nil => exact fun acc bcc hacc => hacc
    | @cons e f ms ns hhead htail ih =>
      intro acc bcc hacc
      rw [List.foldl_cons, List.foldl_cons, ← hhead.1]
      exact ih _ _ (hacc.set e.1 hhead.2)
  exact hfold [] [] .nil

end Members

namespace Submission

open Value (Agrees Means)

/-- The rules of the questions are well-formed and refer to no other question. -/
structure SelfContained (questions : List Question) : Prop where
  wellFormed : ∀ q ∈ questions, Rules.wellFormed q.rulesValue = true
  closed : ∀ q ∈ questions, ∀ ref ∈ Rules.references q.rulesValue, ref ∈ questions.map (·.key)

/-- Under the key of every question the answers are related, or neither says anything. -/
def AlikeFor (R : Value → Value → Prop) (questions : List Question) (answers others : Members) : Prop :=
  ∀ key ∈ questions.map (·.key), Condition.Alike R (answers.get? key) (others.get? key)

/-- Refused for the same reason, or accepted with related values under the same keys. -/
inductive Outcome (R : Value → Value → Prop) :
    Except FormError Members → Except FormError Members → Prop where
  | refused (e : FormError) : Outcome R (.error e) (.error e)
  | accepted {ms ns : Members} (h : Members.Related R ms ns) : Outcome R (.ok ms) (.ok ns)

theorem eq_of_outcome {a b : Except FormError Members} (h : Outcome Eq a b) : a = b := by
  cases h with
  | refused e => rfl
  | accepted h => rw [Members.eq_of_related h]

theorem isEmpty_of_isBlank {v : Value} (h : isBlank v = true) : isEmpty v = true := by
  unfold isBlank at h
  split at h
  · rfl
  · rfl
  · cases h

/-- Nothing is sent of a question that counts as unanswered. -/
theorem isBlank_getD (ms : Members) (key : Text) :
    isBlank (ms.getD key) = Condition.unanswered (ms.get? key) := by
  rw [Members.getD]
  rcases ms.get? key with _ | _ | _ | _ | _ | (_ | _) | _ | _ <;> rfl

theorem isBlank_congr {v w : Value} (h : Agrees v w) : isBlank v = isBlank w := by
  have hsaid := Condition.unanswered_congr h
  have hblank : ∀ u : Value, isBlank u = Condition.unanswered (some u) := by
    rintro (_ | _ | _ | _ | (_ | _) | _ | _) <;> rfl
  rw [hblank, hblank, hsaid]

theorem isEmpty_congr {v w : Value} (h : Agrees v w) : isEmpty v = isEmpty w := by
  rcases h with rfl | ⟨hsame, hw⟩
  · rfl
  · cases v with
    | arr as =>
      cases w with
      | arr bs =>
        cases as with
        | nil =>
          cases bs with
          | nil => rfl
          | cons b bs => cases hsame
        | cons a as =>
          cases bs with
          | nil => cases hsame
          | cons b bs => rfl
      | _ => cases hsame
    | str s => rw [Value.eq_of_same_str hsame]
    | null =>
      cases w with
      | null => rfl
      | _ => cases hsame
    | _ =>
      cases w with
      | null => cases hsame
      | str t => cases hsame
      | arr bs => cases hsame
      | _ => rfl

section Alike

variable {R : Value → Value → Prop} (hR : ∀ v w, R v w → Agrees v w) {answers others : Members}

/-- Answers that are alike are related, or both are blank. -/
theorem getD_of_alike {key : Text} (h : Condition.Alike R (answers.get? key) (others.get? key)) :
    R (answers.getD key) (others.getD key) ∨
      isBlank (answers.getD key) = true ∧ isBlank (others.getD key) = true := by
  rw [isBlank_getD, isBlank_getD]
  rcases h with hrel | hnone
  · rw [Members.getD, Members.getD]
    cases hanswer : answers.get? key with
    | none =>
      rw [hanswer] at hrel
      cases hother : others.get? key with
      | none => exact .inr ⟨rfl, rfl⟩
      | some w => rw [hother] at hrel; cases hrel
    | some v =>
      rw [hanswer] at hrel
      cases hother : others.get? key with
      | none => rw [hother] at hrel; cases hrel
      | some w =>
        rw [hother] at hrel
        cases hrel with
        | some hvw => exact .inl hvw
  · exact .inr hnone

include hR

/-- Collecting looks at the answers under the keys of the questions only. -/
theorem collect_of_alike {qs : List Question}
    (h : ∀ q ∈ qs, Condition.Alike R (answers.get? q.key) (others.get? q.key)) {acc bcc : Members}
    (hacc : Members.Related R acc bcc) : Outcome R (collect answers acc qs) (collect others bcc qs) := by
  induction qs generalizing acc bcc with
  | nil => exact .accepted hacc
  | cons q qs ih =>
    rw [List.forall_mem_cons] at h
    have hskip : Outcome R
        (if q.required then .error (.answerMissing q.key) else collect answers acc qs)
        (if q.required then .error (.answerMissing q.key) else collect others bcc qs) := by
      split
      · exact .refused _
      · exact ih h.2 hacc
    rw [collect, collect]
    rcases getD_of_alike h.1 with hrel | ⟨hanswer, hother⟩
    · rw [isEmpty_congr (hR _ _ hrel)]
      split
      · exact hskip
      · exact ih h.2 (hacc.set q.key hrel)
    · rw [if_pos (isEmpty_of_isBlank hanswer), if_pos (isEmpty_of_isBlank hother)]
      exact hskip

/-- So do the columns that the questions send. -/
theorem columns_of_alike {qs : List Question}
    (h : ∀ q ∈ qs, Condition.Alike R (answers.get? q.key) (others.get? q.key)) :
    Members.Related R (columns qs answers) (columns qs others) := by
  refine Members.Related.ofPairs ?_
  induction qs with
  | nil => exact .nil
  | cons q qs ih =>
    rw [List.forall_mem_cons] at h
    have hrest := ih h.2
    rw [List.filterMap_cons, List.filterMap_cons, column?, column?]
    rcases getD_of_alike h.1 with hrel | ⟨hanswer, hother⟩
    · rw [isBlank_congr (hR _ _ hrel)]
      by_cases hsent : (submittableTypes.contains q.type && !isBlank (others.getD q.key)) = true
      · rw [if_pos hsent, if_pos hsent]
        exact .cons ⟨rfl, hrel⟩ hrest
      · rw [if_neg hsent, if_neg hsent]
        exact hrest
    · rw [hanswer, hother, Bool.not_true, Bool.and_false, if_neg (by simp), if_neg (by simp)]
      exact hrest

/-- Answers that are alike for a self-contained form show the same questions, are accepted alike or
refused for the same question, and are sent on alike. -/
theorem treated_alike {questions : List Question} (hform : SelfContained questions)
    (halike : AlikeFor R questions answers others) :
    Question.visible questions answers = Question.visible questions others ∧
    Outcome R (accept questions answers) (accept questions others) ∧
    Members.Related R (columns questions answers) (columns questions others) := by
  have hkey : ∀ q ∈ questions, Condition.Alike R (answers.get? q.key) (others.get? q.key) :=
    fun q hq => halike q.key (List.mem_map_of_mem hq)
  have hvisible : Question.visible questions answers = Question.visible questions others := by
    refine List.filter_congr fun q hq => ?_
    exact Rules.shows_of_alike hR (hform.wellFormed q hq) fun ref href =>
      halike ref (hform.closed q hq ref href)
  refine ⟨hvisible, ?_, columns_of_alike hR hkey⟩
  rw [accept, accept, hvisible]
  exact collect_of_alike hR (fun q hq => hkey q (List.mem_filter.1 hq).1) .nil

end Alike

/-- **Keys outside the form do not interfere.** Where the rules of the questions refer to no other
question, answers that are the same under the keys of the questions, or say nothing there, show the same
questions, are accepted as the same or refused for the same question, and give the same columns, whatever
they hold under other keys and in whatever order. Where the answers only mean the same, so do the accepted
answers and the columns. -/
theorem unrelated_answers_do_not_count {questions : List Question} {answers others : Members}
    (hform : SelfContained questions) :
    (AlikeFor Eq questions answers others →
      Question.visible questions answers = Question.visible questions others ∧
      accept questions answers = accept questions others ∧
      columns questions answers = columns questions others) ∧
    (AlikeFor Means questions answers others →
      Question.visible questions answers = Question.visible questions others ∧
      Outcome Means (accept questions answers) (accept questions others) ∧
      Members.Related Means (columns questions answers) (columns questions others)) := by
  constructor
  · intro halike
    obtain ⟨hvisible, haccept, hcolumns⟩ := treated_alike (fun _ _ => .inl) hform halike
    exact ⟨hvisible, eq_of_outcome haccept, Members.eq_of_related hcolumns⟩
  · intro halike
    exact treated_alike (fun _ _ => .inr) hform halike

/-- Answers to the chain of questions; the second one is an object. -/
def chainReply : Members :=
  [("a", .ofString "x"), ("b", .obj [("m", .int 1), ("n", .int 2)])]

/-- The same answers in another order, with an answer that says nothing and one under a key of no
question. -/
def chainOthers : Members :=
  [("zz", .arr [.int 7]), ("b", .obj [("m", .int 1), ("n", .int 2)]), ("c", .null), ("a", .ofString "x")]

/-- Answers that mean the same: the object names its members in another order. -/
def chainMeaning : Members :=
  [("b", .obj [("n", .int 2), ("m", .int 1)]), ("a", .ofString "x")]

theorem unrelated_answers_do_not_count_chain :
    SelfContained chain ∧
    AlikeFor Eq chain chainReply chainOthers ∧
    (Question.visible chain chainReply = Question.visible chain chainOthers ∧
      accept chain chainReply = accept chain chainOthers ∧
      columns chain chainReply = columns chain chainOthers) ∧
    AlikeFor Means chain chainReply chainMeaning ∧
    (Question.visible chain chainReply = Question.visible chain chainMeaning ∧
      Outcome Means (accept chain chainReply) (accept chain chainMeaning) ∧
      Members.Related Means (columns chain chainReply) (columns chain chainMeaning)) := by
  have hform : SelfContained chain := ⟨by decide, by decide⟩
  have hsame : AlikeFor Eq chain chainReply chainOthers := by
    simp only [AlikeFor, chain, asked, List.map_cons, List.map_nil, List.forall_mem_cons]
    exact ⟨.inl (.some rfl), .inl (.some rfl), .inr ⟨rfl, rfl⟩, by simp⟩
  have hobject : Means (.obj [("m", .int 1), ("n", .int 2)]) (.obj [("n", .int 2), ("m", .int 1)]) :=
    ⟨by decide, by decide, trivial, trivial, trivial⟩
  have hmeaning : AlikeFor Means chain chainReply chainMeaning := by
    simp only [AlikeFor, chain, asked, List.map_cons, List.map_nil, List.forall_mem_cons]
    exact ⟨.inl (.some ⟨rfl, trivial⟩), .inl (.some hobject), .inr ⟨rfl, rfl⟩, by simp⟩
  exact ⟨hform, hsame, (unrelated_answers_do_not_count hform).1 hsame, hmeaning,
    (unrelated_answers_do_not_count hform).2 hmeaning⟩

end Submission
end Intake
