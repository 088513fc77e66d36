import Intake.Proofs.Form.Columns
import Intake.Proofs.Table.Drafting

/-!
# Drafts and what is sent on

Two lists decide about the type of a column. One has the types that no form can ask for: a column of any
other type becomes a draft. The other has the types whose answers are sent on: an answer to a question of any
other type stays behind.

        type                                    drafted    sent on
        text, select, email, number, ...        yes        yes
        attachments, collaborators              no         no
        date, phone number, ...                 yes        no

So all answers to drafted questions are sent on exactly when the two lists agree about the types of the table.
-/

namespace Intake

/-- What is sent on can be asked for. -/
theorem Column.supported_of_submittable {c : Column} (h : submittableTypes.contains c.type = true) :
    c.supported = true := by
  have hall : ∀ t ∈ submittableTypes, unsupportedTypes.contains t = false := by decide
  rw [supported, hall c.type (List.contains_iff_mem.1 h)]
  rfl

/-- Among distinct labels, the column of an answered question has the answer if its type is sent on, and is
missing otherwise. -/
theorem Submission.get?_columns_of_distinct {questions : List Question} {answers : Members} {q : Question}
    (hlabels : (questions.map (·.label)).Nodup) (hq : q ∈ questions)
    (hanswered : isBlank (answers.getD q.key) = false) :
    (columns questions answers).get? q.label =
      if submittableTypes.contains q.type then some (answers.getD q.key) else none := by
  split
  · rename_i htype
    refine Members.get?_of_mem (Members.nodup_keys_ofPairs _) ?_
    rw [columns_of_distinct hlabels]
    exact List.mem_filterMap.2 ⟨q, hq, by rw [column?, htype, hanswered]; rfl⟩
  · rename_i htype
    cases hget : (columns questions answers).get? q.label with
    | none => rfl
    | some v =>
      obtain ⟨p, hp, hsent, hlabel, -⟩ := mem_columns (Members.mem_of_get? hget)
      obtain rfl := List.inj_on_of_nodup_map hlabels hp hq hlabel
      exact absurd hsent htype

namespace Draft

/-- A question that was loaded from a draft has its key, the name of its column and its type. -/
structure Loads (d : Draft) (q : Question) : Prop where
  key : d.key = q.key
  label : d.column.name = .str q.label
  type : d.column.type = q.type

theorem loads_of_check {d : Draft} {q : Question} (h : Question.check d.dump = .ok q) : Loads d q := by
  obtain ⟨ms, hms, hkey, -, hlabel, htype, -⟩ := Question.of_check h
  cases hms
  rw [FieldName.value?_of_wire (n := Question.keyName) (v := .str d.key) rfl] at hkey
  exact ⟨Value.str.inj (Option.some.inj hkey), Option.some.inj hlabel,
    Value.str.inj (Option.some.inj htype)⟩

theorem loads_of_list {drafts : List Draft} {questions : List Question}
    (h : Checked.list Question.check (.arr (drafts.map dump)) = .ok questions) :
    List.Forall₂ Loads drafts questions := by
  obtain ⟨items, hitems, hchecked⟩ := Checked.list_eq_ok.1 h
  cases hitems
  rw [List.map_map, ← List.forall₂_eq_eq_eq, List.forall₂_map_left_iff, List.forall₂_map_right_iff]
    at hchecked
  exact hchecked.imp fun _ _ => loads_of_check

/-- What drafts and questions have in common they have in the same order. -/
theorem map_loaded {α : Type} {drafts : List Draft} {questions : List Question} {f : Draft → α}
    {g : Question → α} (hloads : List.Forall₂ Loads drafts questions)
    (h : ∀ d q, Loads d q → f d = g q) : drafts.map f = questions.map g := by
  rw [← List.forall₂_eq_eq_eq, List.forall₂_map_left_iff, List.forall₂_map_right_iff]
  exact hloads.imp h

/-- Every answer to one of the questions is sent on. -/
def Forwarded (questions : List Question) : Prop :=
  ∀ (answers : Members), ∀ q ∈ questions, Submission.isBlank (answers.getD q.key) = false →
    (Submission.columns questions answers).get? q.label = some (answers.getD q.key)

/-- How answers to drafted questions are sent on. -/
structure Forwards (columns : List Column) (questions : List Question) : Prop where
  /-- An answer is sent on if the type of the question is one of those that are. -/
  sent : ∀ (answers : Members), ∀ q ∈ questions, Submission.isBlank (answers.getD q.key) = false →
    (Submission.columns questions answers).get? q.label =
      if submittableTypes.contains q.type then some (answers.getD q.key) else none
  /-- Every column of such a type is drafted. -/
  drafted : ∀ c ∈ columns, submittableTypes.contains c.type = true → c.supported = true
  /-- All answers are sent on exactly when only columns of such types are drafted. -/
  forwarded_iff : Forwarded questions ↔
    ∀ c ∈ columns, c.supported = true → submittableTypes.contains c.type = true

section Drafted

variable {columns : List Column} {questions : List Question}

/-- Distinct names of columns are distinct labels of questions. -/
theorem nodup_labels (hnames : (columns.map (·.name)).Nodup)
    (hloads : List.Forall₂ Loads (ofColumns columns) questions) : (questions.map (·.label)).Nodup := by
  have hlabels : (columns.filter (·.supported)).map (·.name) = (questions.map (·.label)).map Value.str := by
    rw [← columns_ofColumns, List.map_map, List.map_map]
    exact map_loaded hloads fun _ _ h => h.label
  refine List.Nodup.of_map Value.str (hlabels ▸ ?_)
  exact hnames.sublist (List.filter_sublist.map _)

/-- The types of the questions are those of the columns that can be asked for. -/
theorem types_loaded (hloads : List.Forall₂ Loads (ofColumns columns) questions) :
    questions.map (·.type) = (columns.filter (·.supported)).map (·.type) := by
  rw [← columns_ofColumns, List.map_map]
  exact (map_loaded hloads fun _ _ h => h.type).symm

theorem forwards (hnames : (columns.map (·.name)).Nodup)
    (hloads : List.Forall₂ Loads (ofColumns columns) questions) : Forwards columns questions := by
  have hlabels := nodup_labels hnames hloads
  have htypes := types_loaded hloads
  refine ⟨fun answers q hq => Submission.get?_columns_of_distinct hlabels hq,
    fun c _ => Column.supported_of_submittable, ?_⟩
  constructor
  · intro hforwarded c hc hsupported
    have hmem : c.type ∈ questions.map (·.type) :=
      htypes ▸ List.mem_map_of_mem (List.mem_filter.2 ⟨hc, hsupported⟩)
    obtain ⟨q, hq, htype⟩ := List.mem_map.1 hmem
    -- Any answer to the question of the column tells whether answers to it are sent on.
    have hanswered : Submission.isBlank (Members.getD [(q.key, .int 1)] q.key) = false := by
      rw [Members.getD, Members.get?_cons, if_pos rfl]
      rfl
    have hsent := hforwarded _ q hq hanswered
    rw [Submission.get?_columns_of_distinct hlabels hq hanswered, htype] at hsent
    by_contra hsubmittable
    rw [if_neg hsubmittable] at hsent
    cases hsent
  · intro hagree answers q hq hanswered
    have hmem : q.type ∈ (columns.filter (·.supported)).map (·.type) :=
      htypes ▸ List.mem_map_of_mem hq
    obtain ⟨c, hc, htype⟩ := List.mem_map.1 hmem
    obtain ⟨hc, hsupported⟩ := List.mem_filter.1 hc
    rw [Submission.get?_columns_of_distinct hlabels hq hanswered, ← htype, hagree c hc hsupported,
      if_pos rfl]

end Drafted

/-- **Drafts and what is sent on.** For every table whose columns have distinct names, and every way to answer
the questions that are drafted for it: an answer is sent on, in the column it was drafted for, exactly when
the type of the column is one of those that are sent on. Every column of such a type is drafted. So all
answers to drafted questions are sent on exactly when no column of another type is drafted. -/
theorem drafted_answers_forwarded_iff {table : Value} {columns : List Column} {drafts : List Draft}
    {questions : List Question} (hcolumns : Column.ofTable table = .ok columns)
    (hdrafts : ofTable table = .ok drafts) (hnames : (columns.map (·.name)).Nodup)
    (hquestions : Checked.list Question.check (.arr (drafts.map dump)) = .ok questions) :
    Forwards columns questions := by
  rw [ofTable, hcolumns] at hdrafts
  cases hdrafts
  exact forwards hnames (loads_of_list hquestions)

/-! ### A table with dates -/

/-- The fields of a table that tells dates. -/
def datedFields : List Value :=
  [fieldOf "fld1" "Name" "singleLineText" .null, fieldOf "fld2" "Born" "date" .null]

/-- The table with these fields. -/
def datedTable : Value := .obj [("fields", .arr datedFields)]

/-- Its columns. -/
def datedColumns : List Column := datedFields.map Column.described

/-- The questions that are drafted for it. -/
def datedQuestions : List Question := (ofColumns datedColumns).map question

theorem named_datedFields : ∀ field ∈ datedFields, Column.Named field := by
  simp only [datedFields, List.forall_mem_cons, List.not_mem_nil, false_implies, implies_true, and_true]
  exact ⟨named_fieldOf rfl rfl, named_fieldOf rfl rfl⟩

theorem ofTable_datedTable : Column.ofTable datedTable = .ok datedColumns := rfl

theorem nodup_datedColumns : (datedColumns.map (·.name)).Nodup := by
  have hnames : datedColumns.map (·.name) = (["Name", "Born"] : List Text).map Value.str := rfl
  rw [hnames]
  exact List.Nodup.map (fun _ _ => Value.str.inj) (by decide)

/-- They pass the checks of questions. -/
theorem list_check_datedQuestions :
    Checked.list Question.check (.arr ((ofColumns datedColumns).map dump)) = .ok datedQuestions :=
  list_check_dump (ready_of_mem_ofColumns
    (List.forall_mem_map.2 fun field hfield => (named_datedFields field hfield).askable))

theorem drafted_answers_forwarded_iff_dated :
    Column.ofTable datedTable = .ok datedColumns ∧ ofTable datedTable = .ok (ofColumns datedColumns) ∧
    (datedColumns.map (·.name)).Nodup ∧
    Checked.list Question.check (.arr ((ofColumns datedColumns).map dump)) = .ok datedQuestions ∧
    Forwards datedColumns datedQuestions :=
  ⟨ofTable_datedTable, rfl, nodup_datedColumns, list_check_datedQuestions,
    drafted_answers_forwarded_iff ofTable_datedTable rfl nodup_datedColumns list_check_datedQuestions⟩

/-- A date is asked for, and the answer stays behind. -/
theorem drafted_answer_not_forwarded :
    ¬ ∀ (table : Value) (columns : List Column) (drafts : List Draft) (questions : List Question),
      Column.ofTable table = .ok columns → ofTable table = .ok drafts → (columns.map (·.name)).Nodup →
      Checked.list Question.check (.arr (drafts.map dump)) = .ok questions → Forwarded questions := by
  intro hclaim
  have hforwarded := hclaim datedTable datedColumns _ datedQuestions ofTable_datedTable rfl
    nodup_datedColumns list_check_datedQuestions
  have hforwards := forwards nodup_datedColumns (loads_of_list list_check_datedQuestions)
  have hmem : Column.described (fieldOf "fld2" "Born" "date" .null) ∈ datedColumns :=
    List.mem_map_of_mem (by simp [datedFields])
  have hsubmittable := hforwards.forwarded_iff.1 hforwarded _ hmem (by decide)
  revert hsubmittable
  decide

end Draft
end Intake
