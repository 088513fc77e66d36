import Intake.Proofs.Form.Resubmitting
import Intake.Proofs.Service.Provenance

/-!
# The columns that are sent

Answers are known by the keys of their questions, which are distinct. The columns of the record that is
sent are known by the labels, and nothing keeps two questions of a form from having one label. Their
answers meet in one column, where the last question of the form wins.

        questions    a: "Name"    b: "Name"    c: "Town"
        answers      a = x        b = y        c = z
        columns                   "Name" = y   "Town" = z
-/

namespace Intake.Submission

/-- The question sends its answer on: it has one that counts, and is of a type that can be sent. -/
def sends (accepted : Members) (q : Question) : Bool :=
  submittableTypes.contains q.type && (accepted.get? q.key).isSome

/-- The last of the questions that send something to a column. -/
def sender? (questions : List Question) (accepted : Members) (label : Text) : Option Question :=
  questions.reverse.find? fun q => sends accepted q && q.label == label

/-- Every accepted answer that can be sent on stands in the column of its question. -/
def Delivered (questions : List Question) (accepted : Members) : Prop :=
  ∀ q ∈ questions, submittableTypes.contains q.type = true → ∀ v, accepted.get? q.key = some v →
    (columns questions accepted).get? q.label = some v

/-- Questions that send to the same column send the same answer. -/
def Agreeing (questions : List Question) (accepted : Members) : Prop :=
  ∀ p ∈ questions, ∀ q ∈ questions, sends accepted p = true → sends accepted q = true →
    p.label = q.label → accepted.get? p.key = accepted.get? q.key

theorem sends_iff {accepted : Members} {q : Question} : sends accepted q = true ↔
    submittableTypes.contains q.type = true ∧ ∃ v, accepted.get? q.key = some v := by
  rw [sends, Bool.and_eq_true, Option.isSome_iff_exists]

section Columns

variable {questions : List Question} {answers accepted : Members}

/-- An answer that counts is not blank. -/
theorem Counted.isBlank_eq (h : Counted questions answers accepted) (key : Text) :
    isBlank (accepted.getD key) = (accepted.get? key).isNone := by
  rw [Members.getD]
  cases hget : accepted.get? key with
  | none => rfl
  | some v =>
    obtain ⟨-, -, hsays⟩ := (h.entries key v).1 hget
    unfold isEmpty at hsays
    unfold isBlank
    split at hsays <;> simp_all

/-- What a question sends, when only answers that count are asked. -/
theorem Counted.column?_eq (h : Counted questions answers accepted) (q : Question) :
    column? accepted q = if sends accepted q then some (q.label, accepted.getD q.key) else none := by
  rw [column?, sends, h.isBlank_eq, Option.not_isNone]

/-- What stands in a column is the answer to the last question that sends to it. -/
theorem Counted.get?_columns (h : Counted questions answers accepted) (label : Text) :
    (columns questions accepted).get? label =
      (sender? questions accepted label).bind fun q => accepted.get? q.key := by
  rw [columns, Members.get?_ofPairs, ← List.filterMap_reverse, sender?]
  induction questions.reverse with
  | nil => rfl
  | cons q qs ih =>
    have hcolumn := h.column?_eq q
    cases hsends : sends accepted q with
    | false =>
      rw [hsends] at hcolumn
      rw [List.filterMap_cons_none hcolumn, List.find?_cons, hsends]
      exact ih
    | true =>
      obtain ⟨-, v, hv⟩ := sends_iff.1 hsends
      have hanswer : accepted.getD q.key = v := by rw [Members.getD, hv]; rfl
      rw [hsends, hanswer] at hcolumn
      rw [List.filterMap_cons_some hcolumn, List.find?_cons, List.find?_cons, hsends, Bool.true_and]
      by_cases hlabel : q.label = label
      · simp [hlabel, hv]
      · simp only [beq_eq_false_iff_ne.2 hlabel]
        exact ih

/-- The sender of a column is a question of this label that sends its answer. -/
theorem of_sender? {label : Text} {q : Question} (h : sender? questions accepted label = some q) :
    q ∈ questions ∧ sends accepted q = true ∧ q.label = label := by
  have hmem := List.mem_reverse.1 (List.mem_of_find?_eq_some h)
  have hq := List.find?_some h
  rw [Bool.and_eq_true, beq_iff_eq] at hq
  exact ⟨hmem, hq⟩

/-- A column to which a question sends has a sender. -/
theorem sender?_isSome {q : Question} (hq : q ∈ questions) (hsends : sends accepted q = true) :
    ∃ p, sender? questions accepted q.label = some p := by
  rw [← Option.isSome_iff_exists, sender?, List.find?_isSome]
  exact ⟨q, List.mem_reverse.2 hq, by simp [hsends]⟩

/-- Nothing is lost exactly when the questions that meet in a column agree. -/
theorem Counted.delivered_iff (h : Counted questions answers accepted) :
    Delivered questions accepted ↔ Agreeing questions accepted := by
  constructor
  · intro hdelivered p hp q hq hsendsp hsendsq hlabel
    obtain ⟨htypep, v, hv⟩ := sends_iff.1 hsendsp
    obtain ⟨htypeq, w, hw⟩ := sends_iff.1 hsendsq
    have hcolumnp := hdelivered p hp htypep v hv
    have hcolumnq := hdelivered q hq htypeq w hw
    rw [hlabel, hcolumnq] at hcolumnp
    rw [hv, hw, hcolumnp]
  · intro hagree q hq htype v hv
    have hsends : sends accepted q = true := sends_iff.2 ⟨htype, v, hv⟩
    obtain ⟨p, hp⟩ := sender?_isSome hq hsends
    obtain ⟨hmem, hsendsp, hlabel⟩ := of_sender? hp
    rw [h.get?_columns, hp, Option.bind_some, hagree p hmem q hq hsendsp hsends hlabel, hv]

/-- Among distinct labels no two questions meet. -/
theorem agreeing_of_distinct (hlabels : (questions.map (·.label)).Nodup) (accepted : Members) :
    Agreeing questions accepted := by
  intro p hp q hq _ _ hlabel
  rw [List.inj_on_of_nodup_map hlabels hp hq hlabel]

/-- Among distinct labels the columns are those of the questions one by one, in their order. -/
theorem columns_of_distinct (hlabels : (questions.map (·.label)).Nodup) (accepted : Members) :
    columns questions accepted = questions.filterMap (column? accepted) := by
  refine Members.ofPairs_eq_self (hlabels.sublist ?_)
  rw [Members.keys, List.map_filterMap]
  induction questions with
  | nil => exact List.Sublist.slnil
  | cons q qs ih =>
    rw [List.map_cons, List.nodup_cons] at hlabels
    rw [List.filterMap_cons, List.map_cons]
    cases hcolumn : column? accepted q with
    | none => exact (ih hlabels.2).cons _
    | some e =>
      have hlabel : e.1 = q.label := by
        unfold column? at hcolumn
        split at hcolumn
        · cases hcolumn; rfl
        · cases hcolumn
      rw [Option.map_some, hlabel]
      exact (ih hlabels.2).cons_cons _

/-- Whatever the questions and the answers that they accept: a column has the answer to the last question
that sends to it, and nothing else; so every accepted answer that can be sent on is sent exactly when the
questions of one label agree, and always when no two labels are the same. -/
theorem accepted_answers_sent_iff (h : accept questions answers = .ok accepted) :
    (∀ label, (columns questions accepted).get? label =
      (sender? questions accepted label).bind fun q => accepted.get? q.key) ∧
    (Delivered questions accepted ↔ Agreeing questions accepted) ∧
    ((questions.map (·.label)).Nodup → Delivered questions accepted) := by
  have hcounted := (of_accept h).2
  refine ⟨hcounted.get?_columns, hcounted.delivered_iff, ?_⟩
  intro hlabels
  exact hcounted.delivered_iff.2 (agreeing_of_distinct hlabels accepted)

end Columns

/-! ### Two questions of one label -/

/-- Two questions that differ in their keys only. -/
def twins : List Question :=
  [⟨"a", "a", "Name", "email", false, [], none⟩, ⟨"b", "b", "Name", "email", false, [], none⟩]

/-- A form that asks them. -/
def twinForm : NewForm := ⟨" Visit ", [], "base", "table", "Table", twins⟩

/-- The payload of this form. -/
def twinPayload : Value :=
  Service.formBody [Service.item "a" "Name" [], Service.item "b" "Name" []]

/-- Answers to both questions. -/
def twinAnswers : Members := [("a", .ofString "x"), ("b", .ofString "y")]

theorem verdict_twinPayload : Service.verdict twinPayload = .ok (.ok twinForm) := by rfl

theorem accept_twins : accept twins twinAnswers = .ok twinAnswers := by rfl

/-- The column of the twins has the answer to the second. -/
theorem accepted_answers_sent_iff_twins :
    accept twins twinAnswers = .ok twinAnswers ∧
    (∀ label, (columns twins twinAnswers).get? label =
      (sender? twins twinAnswers label).bind
        fun q => twinAnswers.get? q.key) ∧
    (Delivered twins twinAnswers ↔ Agreeing twins twinAnswers) ∧
    ((twins.map (·.label)).Nodup → Delivered twins twinAnswers) ∧
    sender? twins twinAnswers "Name" = some ⟨"b", "b", "Name", "email", false, [], none⟩ :=
  ⟨accept_twins, (accepted_answers_sent_iff accept_twins).1,
    (accepted_answers_sent_iff accept_twins).2.1, (accepted_answers_sent_iff accept_twins).2.2, by rfl⟩

/-- A form can pass and lose an answer that it accepts. -/
theorem accepted_answer_not_sent :
    ¬ ∀ (payload : Value) (form : NewForm) (answers accepted : Members),
      Service.verdict payload = .ok (.ok form) → accept form.questions answers = .ok accepted →
      Delivered form.questions accepted := by
  intro hclaim
  have hdelivered := hclaim twinPayload twinForm _ _ verdict_twinPayload accept_twins
  have hcolumn := hdelivered ⟨"a", "a", "Name", "email", false, [], none⟩ (by simp [twinForm, twins])
    (by decide) (.ofString "x") (by rfl)
  have hother : (columns twinForm.questions twinAnswers).get? "Name" =
      some (.ofString "y") := by rfl
  have hsame := Option.some.inj (hother.symm.trans hcolumn)
  cases hsame

end Intake.Submission
