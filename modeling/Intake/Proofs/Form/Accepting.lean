import Intake.Form.Submission
import Intake.Proofs.Form.Inherited

/-!
# The answers that count

Going through the questions shown either stops at the first that demands an answer and has none, or
collects exactly the answers to these questions that say something. What is sent on is taken from the
answers collected, so a question that is hidden sends nothing, although every question is asked.
-/

namespace Intake

/-- A member that is not null is there. -/
theorem Members.get?_of_isEmpty {ms : Members} {key : Text}
    (h : Submission.isEmpty (ms.getD key) = false) : ms.get? key = some (ms.getD key) := by
  refine Members.get?_of_getD rfl fun hnull => ?_
  rw [hnull] at h
  cases h

namespace Submission

/-- The question demands an answer and has none. -/
def isMissing (answers : Members) (q : Question) : Bool :=
  q.required && isEmpty (answers.getD q.key)

/-- The first question without its answer stops the collection. -/
theorem collect_of_missing {answers : Members} {qs : List Question} {q : Question}
    (h : qs.find? (isMissing answers) = some q) (acc : Members) :
    collect answers acc qs = .error (.answerMissing q.key) := by
  induction qs generalizing acc with
  | nil => cases h
  | cons p ps ih =>
    rw [List.find?_cons] at h
    rw [collect]
    by_cases hempty : isEmpty (answers.getD p.key) = true
    · by_cases hrequired : p.required = true
      · simp only [isMissing, hempty, hrequired, Bool.and_true, Option.some.injEq] at h
        rw [if_pos hempty, if_pos hrequired, h]
      · simp only [isMissing, hrequired, Bool.false_and] at h
        rw [if_pos hempty, if_neg hrequired]
        exact ih h acc
    · simp only [isMissing, hempty, Bool.and_false] at h
      rw [if_neg hempty]
      exact ih h _

/-- Without such a question every answer to the questions is collected that says something. -/
theorem collect_of_complete {answers : Members} {qs : List Question}
    (h : qs.find? (isMissing answers) = none) (acc : Members) (hacc : acc.keys.Nodup) :
    ∃ accepted, collect answers acc qs = .ok accepted ∧ accepted.keys.Nodup ∧ ∀ key,
      accepted.get? key = if key ∈ qs.map (·.key) ∧ isEmpty (answers.getD key) = false
        then some (answers.getD key) else acc.get? key := by
  induction qs generalizing acc with
  | nil => exact ⟨acc, rfl, hacc, fun key => by simp⟩
  | cons p ps ih =>
    rw [List.find?_eq_none] at h
    have hp : isMissing answers p = false := by simpa using h p List.mem_cons_self
    have hps : ps.find? (isMissing answers) = none :=
      List.find?_eq_none.2 fun q hq => h q (List.mem_cons_of_mem _ hq)
    rw [collect]
    by_cases hempty : isEmpty (answers.getD p.key) = true
    · have hrequired : p.required = false := by simpa [isMissing, hempty] using hp
      obtain ⟨accepted, hcollect, hnodup, hget⟩ := ih hps acc hacc
      refine ⟨accepted, ?_, hnodup, fun key => ?_⟩
      · rw [if_pos hempty, hrequired]
        exact hcollect
      · rw [hget key]
        by_cases hkey : key = p.key
        · subst hkey
          simp [hempty]
        · simp [hkey]
    · obtain ⟨accepted, hcollect, hnodup, hget⟩ :=
        ih hps _ (Members.nodup_keys_set hacc p.key (answers.getD p.key))
      refine ⟨accepted, ?_, hnodup, fun key => ?_⟩
      · rw [if_neg hempty]
        exact hcollect
      · rw [hget key]
        by_cases hkey : key = p.key
        · subst hkey
          simp [hempty]
        · simp [hkey, Members.get?_set_of_ne hkey]

/-- The accepted answers are the entries of the answers that belong to a question shown and say
something. -/
structure Counted (questions : List Question) (answers accepted : Members) : Prop where
  keys : accepted.keys.Nodup
  entries : ∀ key v, accepted.get? key = some v ↔
    key ∈ (Question.visible questions answers).map (·.key) ∧ answers.get? key = some v ∧
      isEmpty v = false

variable {questions : List Question} {answers accepted : Members}

theorem accept_of_missing {q : Question}
    (h : (Question.visible questions answers).find? (isMissing answers) = some q) :
    accept questions answers = .error (.answerMissing q.key) := collect_of_missing h []

theorem accept_of_complete (h : (Question.visible questions answers).find? (isMissing answers) = none) :
    ∃ accepted, accept questions answers = .ok accepted ∧ Counted questions answers accepted := by
  obtain ⟨accepted, haccept, hnodup, hget⟩ := collect_of_complete h [] List.nodup_nil
  refine ⟨accepted, haccept, hnodup, fun key v => ?_⟩
  rw [hget key]
  constructor
  · intro hv
    split at hv
    · rename_i hshown
      have hentry := Members.get?_of_isEmpty hshown.2
      rw [Option.some.inj hv] at hentry
      exact ⟨hshown.1, hentry, Option.some.inj hv ▸ hshown.2⟩
    · cases hv
  · rintro ⟨hkey, hentry, hsays⟩
    have hgetD : Members.getD answers key = v := by rw [Members.getD, hentry]; rfl
    rw [if_pos ⟨hkey, hgetD.symm ▸ hsays⟩, hgetD]

/-- The accepted answers inherit what the answers have. -/
theorem Counted.inherit {P : Value → Prop} (hP : Hereditary P) (h : Counted questions answers accepted)
    (hanswers : P (.obj answers)) (hencodable : (Value.obj answers).Encodable) : P (.obj accepted) := by
  have hentry {key : Text} {v : Value} (hmem : (key, v) ∈ accepted) : answers.get? key = some v :=
    ((h.entries key v).1 (Members.get?_of_mem h.keys hmem)).2.1
  refine hP.obj h.keys (List.all_eq_true.2 fun key hkey => ?_) fun e he => hP.member hanswers (hentry he)
  obtain ⟨⟨_, v⟩, hmem, rfl⟩ := List.mem_map.1 hkey
  exact (Value.allTextMembers_iff.1 hencodable _ (Members.mem_of_get? (hentry hmem))).1

/-- They come back from the store as they were. -/
theorem Counted.content_document (h : Counted questions answers accepted)
    (hregular : (Value.obj answers).Regular) (hencodable : (Value.obj answers).Encodable) :
    Store.content (Store.document (.obj accepted)) = .obj accepted := by
  have haccepted := h.inherit hereditary_regular hregular hencodable
  rw [Store.content_document haccepted]
  exact Value.settled_eq_self _ haccepted (h.inherit hereditary_encodable hencodable hencodable)

/-! ### What is sent on -/

/-- Every column comes from a question of a type that can be sent on, and has its answer. -/
theorem mem_columns {e : Text × Value} (h : e ∈ columns questions accepted) :
    ∃ q ∈ questions, submittableTypes.contains q.type = true ∧ q.label = e.1 ∧
      accepted.get? q.key = some e.2 := by
  obtain ⟨q, hq, hcolumn⟩ := List.mem_filterMap.1 (Members.mem_ofPairs h)
  unfold column? at hcolumn
  split at hcolumn
  · rename_i hsent
    rw [Bool.and_eq_true, Bool.not_eq_true'] at hsent
    cases hcolumn
    have hnull : Members.getD accepted q.key ≠ .null := by
      intro hnull
      rw [hnull] at hsent
      cases hsent.2
    exact ⟨q, hq, hsent.1, rfl, Members.get?_of_getD rfl hnull⟩
  · cases hcolumn

/-- So it comes from a question that is shown, and has the answer that was given to it. -/
theorem Counted.mem_columns (h : Counted questions answers accepted) {e : Text × Value}
    (he : e ∈ columns questions accepted) :
    ∃ q ∈ questions, q.key ∈ (Question.visible questions answers).map (·.key) ∧
      submittableTypes.contains q.type = true ∧ q.label = e.1 ∧ answers.get? q.key = some e.2 := by
  obtain ⟨q, hq, htype, hlabel, hget⟩ := Submission.mem_columns he
  obtain ⟨hshown, hanswer, -⟩ := (h.entries q.key e.2).1 hget
  exact ⟨q, hq, hshown, htype, hlabel, hanswer⟩

end Submission
end Intake
