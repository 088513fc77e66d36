import Intake.Proofs.Form.Gate
import Intake.Proofs.Form.Normalising
import Intake.Proofs.Json.Displaying
import Intake.Proofs.Service.Creating

/-!
# Drafts that make a form

A table is described field by field. Every field of a type that a form can ask for becomes a draft, and the
drafts are numbered as they come, so that no two have the same key.

        fields       Name    CV (attachments)    Role    Notes
        columns      yes     no                  yes     yes
        drafts       q_1                         q_2     q_3

When id, name and type of every field are given, the drafts are questions: an author who adds a title, a
base and a table to them has a form. Whatever the options of a field are, its choices have names that can be
carried, because what is displayed of a value that is no text can be.
-/

namespace Intake

/-! ### Payloads -/

/-- A text that is not blank and that every encoding can carry. -/
def Value.IsName (v : Value) : Prop := ∃ t : Text, v = .str t ∧ t.isBlank = false ∧ t.encodable = true

/-- An object is filled in where names stand. -/
theorem Payload.filled_of_isName {fields : List Text} {v : Value} (hobject : ∃ ms : Members, v = .obj ms)
    (h : ∀ f ∈ fields, (v.member f).IsName) : filled fields v = true := by
  obtain ⟨ms, rfl⟩ := hobject
  rw [filled, Bool.and_eq_true, List.all_eq_true]
  refine ⟨rfl, fun f hf => ?_⟩
  obtain ⟨t, ht, hblank, -⟩ := h f hf
  rw [ht, blank, hblank]
  rfl

/-- A text that may be left out: the fallback stands for it then, and for the empty text. -/
theorem Service.Action.exists_orText (fallback : Text) {v : Value} (hfallback : fallback.encodable = true)
    (h : v.isFalsy = true ∨ ∃ t : Text, v = .str t ∧ t.encodable = true) :
    ∃ t : Text, orText fallback v = .str t ∧ t.encodable = true := by
  rw [orText]
  split
  · exact ⟨fallback, rfl, hfallback⟩
  · rename_i hgiven
    exact h.resolve_left hgiven

/-- Members that name the texts and questions of a form pass the checks as this form. -/
theorem NewForm.check_of_get? {ms : Members} {items : List Value} {form : NewForm}
    (htitle : ms.get? "title" = some (.str form.title))
    (hdescription : ms.get? "description" = some (.str form.description))
    (hbaseId : ms.get? "airtableBaseId" = some (.str form.baseId))
    (htableId : ms.get? "airtableTableId" = some (.str form.tableId))
    (htableName : ms.get? "airtableTableName" = some (.str form.tableName))
    (hquestions : ms.get? "questions" = some (.arr items))
    (hitems : Checked.list Question.check (.arr items) = .ok form.questions) :
    check (.obj ms) = .ok form := by
  have hrequired {n : FieldName} {t : Text} (h : ms.get? n.wire = some (.str t)) :
      n.required Schema.text ms = .ok t := FieldName.required_of_wire h rfl
  have hdefault {n : FieldName} {d t : Text} (h : ms.get? n.wire = some (.str t)) :
      n.withDefault d Schema.text ms = .ok t := FieldName.withDefault_of_wire h rfl
  refine Checked.record_eq_ok.2 ⟨ms, rfl, ?_⟩
  rw [checkFields, hrequired (n := .same "title") htitle,
    hdefault (n := .same "description") hdescription, hrequired (n := baseIdName) hbaseId,
    hrequired (n := tableIdName) htableId, hdefault (n := tableNameName) htableName,
    FieldName.required_of_wire (n := .same "questions") hquestions hitems]
  rfl

/-- A payload whose texts and questions pass is a form of them. -/
theorem NewForm.check_draftOf {payload : Value} {items : List Value} {form : NewForm}
    (htitle : payload.member "title" = .str form.title)
    (hdescription : Service.Action.orText [] (payload.member "description") = .str form.description)
    (hbaseId : payload.member "airtableBaseId" = .str form.baseId)
    (htableId : payload.member "airtableTableId" = .str form.tableId)
    (htableName : Service.Action.orText "Table" (payload.member "airtableTableName") =
      .str form.tableName)
    (hitems : Checked.list Question.check (.arr items) = .ok form.questions) :
    check (Service.Action.draftOf payload items) = .ok form := by
  obtain ⟨ms, rfl⟩ := Value.exists_members_of_member htitle (by simp)
  rw [Service.Action.draftOf, hdescription, htableName]
  -- What the payload says stays, but for the three members that are set.
  have hkept {key t : Text} (h : (Value.obj ms).member key = .str t) (hname : key ≠ "airtableTableName")
      (hdescription : key ≠ "description") (hquestions : key ≠ "questions") :
      (((ms.set "questions" (.arr items)).set "airtableTableName" (.str form.tableName)).set
        "description" (.str form.description)).get? key = some (.str t) := by
    rw [Members.get?_set_of_ne hdescription, Members.get?_set_of_ne hname,
      Members.get?_set_of_ne hquestions]
    exact Members.get?_of_getD h (by simp)
  refine check_of_get? (hkept htitle (by decide) (by decide) (by decide)) (Members.get?_set_self _ _ _)
    (hkept hbaseId (by decide) (by decide) (by decide))
    (hkept htableId (by decide) (by decide) (by decide)) ?_ ?_ hitems
  · rw [Members.get?_set_of_ne (by decide), Members.get?_set_self]
  · rw [Members.get?_set_of_ne (by decide), Members.get?_set_of_ne (by decide), Members.get?_set_self]

/-! ### Columns -/

namespace Column

/-- The field has an id, a name and a type, and every encoding can carry the texts in its options. -/
structure Named (field : Value) : Prop where
  object : ∃ ms : Members, field = .obj ms
  id : (field.member "id").IsName
  name : (field.member "name").IsName
  type : (field.member "type").IsName
  options : (field.member "options").Encodable

/-- The column is that of the field. -/
structure Describes (field : Value) (c : Column) : Prop where
  id : c.id = field.member "id"
  name : c.name = field.member "name"
  type : .str c.type = field.member "type"
  options : c.options = choiceNames field

/-- A form can take a question from the column. -/
structure Askable (c : Column) : Prop where
  id : c.id.IsName
  name : c.name.IsName
  type : (Value.str c.type).IsName
  options : ∀ t ∈ c.options, t.encodable = true

/-- The column of an object. -/
def described (field : Value) : Column :=
  ⟨field.member "id", field.member "name", typeOf field, choiceNames field⟩

theorem ofFields_of_objects {fields : List Value} (h : ∀ f ∈ fields, ∃ ms : Members, f = .obj ms) :
    ofFields fields = .ok (fields.map described) := by
  induction fields with
  | nil => rfl
  | cons f fields ih =>
    rw [List.forall_mem_cons] at h
    obtain ⟨⟨ms, rfl⟩, hrest⟩ := h
    rw [ofFields, ih hrest]
    rfl

section Named

variable {field : Value} (h : Named field)

include h

theorem Named.typeOf_eq : .str (typeOf field) = field.member "type" := by
  obtain ⟨t, ht, hblank, -⟩ := h.type
  have hne : t ≠ [] := by
    rintro rfl
    cases hblank
  rw [typeOf, ht]
  cases t with
  | nil => exact absurd rfl hne
  | cons c t => rfl

theorem Named.describes : Describes field (described field) := ⟨rfl, rfl, h.typeOf_eq, rfl⟩

/-- The names of the choices can be carried. -/
theorem Named.encodable_choiceNames : ∀ t ∈ choiceNames field, t.encodable = true := by
  intro t ht
  have hchoices := hereditary_encodable.memberD h.options "choices"
  unfold choiceNames at ht
  split at ht
  · rename_i choices harr
    rw [harr] at hchoices
    obtain ⟨choice, hchoice, hname⟩ := List.mem_filterMap.1 ht
    have hencodable := hereditary_encodable.memberD (hereditary_encodable.item hchoices hchoice) "name"
    unfold choiceName? at hname
    split at hname
    · cases hname
    · cases hname
      exact Value.encodable_display hencodable
  · cases ht

theorem Named.askable : Askable (described field) where
  id := h.id
  name := h.name
  type := h.typeOf_eq ▸ h.type
  options := h.encodable_choiceNames

end Named

end Column

/-! ### Numbers -/

namespace Draft

theorem keyOf_injective : Function.Injective keyOf := by
  intro m n h
  rw [keyOf, keyOf, List.append_cancel_left_eq, Text.ofNat_inj] at h
  exact h

theorem columns_numbered (n : Nat) (cs : List Column) : (numbered n cs).map (·.column) = cs := by
  induction cs generalizing n with
  | nil => rfl
  | cons c cs ih => rw [numbered, List.map_cons, ih]

theorem keys_numbered (n : Nat) (cs : List Column) :
    (numbered n cs).map (·.key) = (List.range' n (numbered n cs).length).map keyOf := by
  induction cs generalizing n with
  | nil => rfl
  | cons c cs ih =>
    rw [numbered, List.map_cons, ih, List.length_cons, List.range'_succ, List.map_cons]

theorem columns_ofColumns (columns : List Column) :
    (ofColumns columns).map (·.column) = columns.filter (·.supported) := columns_numbered 1 _

theorem keys_ofColumns (columns : List Column) : (ofColumns columns).map (·.key) =
    (List.range' 1 (ofColumns columns).length).map keyOf := keys_numbered 1 _

/-- How the drafts of a table follow its fields. -/
structure Follow (fields : List Value) (columns : List Column) (drafts : List Draft) : Prop where
  /-- There is one column for each field. -/
  described : List.Forall₂ Column.Describes fields columns
  /-- There is one draft for each field of a type that a form can ask for. -/
  drafted : List.Forall₂ (fun field d => Column.Describes field d.column)
    (fields.filter fun field => !unsupportedTypes.contains (Column.typeOf field)) drafts
  /-- The drafts agree with the columns that are marked as supported. -/
  supported : drafts.map (·.column) = columns.filter (·.supported)
  /-- The keys are numbered from one on, without gaps. -/
  keys : drafts.map (·.key) = (List.range' 1 drafts.length).map keyOf
  /-- No key is repeated. -/
  distinct : (drafts.map (·.key)).Nodup

theorem follow_ofColumns {fields : List Value} (h : ∀ f ∈ fields, Column.Named f) :
    Follow fields (fields.map Column.described) (ofColumns (fields.map Column.described)) := by
  refine ⟨?_, ?_, columns_ofColumns _, keys_ofColumns _, ?_⟩
  · rw [List.forall₂_map_right_iff, List.forall₂_same]
    exact fun f hf => (h f hf).describes
  · rw [← List.forall₂_map_right_iff (f := column) (R := Column.Describes), columns_ofColumns,
      List.filter_map, List.forall₂_map_right_iff]
    exact List.forall₂_same.2 fun f hf => (h f (List.mem_of_mem_filter hf)).describes
  · rw [keys_ofColumns]
    exact List.Nodup.map keyOf_injective List.nodup_range'

/-! ### Questions -/

/-- The question that a draft stands for. -/
def question (d : Draft) : Question where
  key := d.key
  fieldId := d.column.id.display
  label := d.column.name.display
  type := d.column.type
  required := false
  options := d.column.options
  rules := none

/-- The draft is numbered, and a form can take its question. -/
structure Ready (d : Draft) : Prop where
  key : ∃ n, d.key = keyOf n
  column : d.column.Askable

section Ready

variable {d : Draft} (h : d.Ready)

include h

/-- A draft is its question on the wire. -/
theorem Ready.dump_question : d.question.dump .wire = d.dump := by
  obtain ⟨id, hid, -⟩ := h.column.id
  obtain ⟨name, hname, -⟩ := h.column.name
  rw [dump, question, hid, hname]
  rfl

theorem Ready.isName_key : (Value.str d.key).IsName := by
  obtain ⟨n, hn⟩ := h.key
  refine ⟨d.key, rfl, ?_, ?_⟩
  · rw [hn]
    rfl
  · rw [hn, keyOf, Text.encodable_append, Text.encodable_ofNat]
    rfl

theorem Ready.filled : Payload.filled Payload.questionFields d.dump = true := by
  refine Payload.filled_of_isName ⟨_, rfl⟩ ?_
  simp only [Payload.questionFields, List.forall_mem_cons]
  exact ⟨h.isName_key, h.column.id, h.column.name, h.column.type, by simp⟩

/-- What is displayed of the question can be carried. -/
theorem Ready.encodable_texts : d.question.key.encodable = true ∧ d.question.fieldId.encodable = true ∧
    d.question.label.encodable = true ∧ d.question.type.encodable = true := by
  obtain ⟨_, hkey, -, hkeyEncodable⟩ := h.isName_key
  obtain ⟨_, hid, -, hidEncodable⟩ := h.column.id
  obtain ⟨_, hname, -, hnameEncodable⟩ := h.column.name
  obtain ⟨_, htype, -, htypeEncodable⟩ := h.column.type
  cases hkey
  cases htype
  refine ⟨hkeyEncodable, ?_, ?_, htypeEncodable⟩
  · rw [question, hid]
    exact hidEncodable
  · rw [question, hname]
    exact hnameEncodable

/-- The question comes back from the store as it was. -/
theorem Ready.settled_question : d.question.settled = d.question := by
  obtain ⟨hkey, hid, hlabel, htype⟩ := h.encodable_texts
  have hoptions : d.question.options.map Text.joined = d.question.options :=
    (List.map_congr_left fun t ht => Text.joined_eq_self (h.column.options t ht)).trans (List.map_id _)
  rw [Question.settled, Text.joined_eq_self hkey, Text.joined_eq_self hid, Text.joined_eq_self hlabel,
    Text.joined_eq_self htype, hoptions]
  rfl

theorem Ready.told_question : d.question.Told := by
  obtain ⟨hkey, hid, hlabel, htype⟩ := h.encodable_texts
  have hoptions : (Value.arr (d.question.options.map .str)).Plain :=
    Value.plain_arr.2 (List.forall_mem_map.2 fun t ht => Value.plain_str.2 (h.column.options t ht))
  refine Value.plain_published _ ?_
  rw [d.question.dump_wire]
  refine hereditary_plain.obj d.question.nodup_wireMembers d.question.encodable_wireMembers ?_
  simp only [Question.wireMembers, List.forall_mem_cons]
  exact ⟨Value.plain_str.2 hkey, Value.plain_str.2 hid, Value.plain_str.2 hlabel, Value.plain_str.2 htype,
    Value.plain_bool _, hoptions, Value.plain_null, by simp⟩

end Ready

/-- Drafts that are ready pass the checks of questions. -/
theorem list_check_dump {drafts : List Draft} (h : ∀ d ∈ drafts, d.Ready) :
    Checked.list Question.check (.arr (drafts.map dump)) = .ok (drafts.map question) := by
  have hdumps : drafts.map dump = (drafts.map question).map (·.dump .wire) := by
    rw [List.map_map]
    exact List.map_congr_left fun d hd => ((h d hd).dump_question).symm
  rw [hdumps]
  exact Store.list_check_dump _

/-- The drafts for named fields are ready. -/
theorem ready_of_mem_ofColumns {columns : List Column} (h : ∀ c ∈ columns, c.Askable) :
    ∀ d ∈ ofColumns columns, d.Ready := by
  intro d hd
  have hkey := List.mem_map_of_mem (f := (·.key)) hd
  have hcolumn := List.mem_map_of_mem (f := (·.column)) hd
  rw [keys_ofColumns] at hkey
  rw [columns_ofColumns] at hcolumn
  obtain ⟨n, -, hn⟩ := List.mem_map.1 hkey
  exact ⟨⟨n, hn.symm⟩, h _ (List.mem_of_mem_filter hcolumn)⟩

/-! ### Forms -/

/-- The payload asks for a form with the drafts as its questions. -/
structure Carried (payload : Value) (drafts : List Draft) : Prop where
  envelope : ∀ key ∈ Payload.envelopeFields, (payload.member key).IsName
  /-- A description and the name of the table are texts, if they are given. -/
  optional : ∀ key ∈ (["description", "airtableTableName"] : List Text),
    (payload.member key).isFalsy = true ∨ ∃ t : Text, payload.member key = .str t ∧ t.encodable = true
  questions : payload.member "questions" = .arr (drafts.map dump)

/-- The payload passes all gates as a form of the drafts, and a request for it creates this form. -/
structure Makes (payload : Value) (drafts : List Draft) (form : NewForm) : Prop where
  check : Payload.check payload = .ok ()
  normal : Normal.ofValue (payload.member "questions") = .ok (drafts.map dump)
  passed : NewForm.check (Service.Action.draftOf payload (drafts.map dump)) = .ok form
  questions : form.questions.map (·.dump .wire) = drafts.map dump
  created : ∀ (c : Service.Config) (s : Service.State) (r : Http.Request) (args : List Text),
    Http.Route.find r.method r.path = .endpoint .createForm args →
    Service.Action.bodyOf r = payload → s.isDown = false →
    ((Service.handle c r).run s).1.status = 201 ∧ Service.Adds s ((Service.handle c r).run s).2 form

section Carried

variable {payload : Value} {drafts : List Draft}

theorem Carried.accepted (h : Carried payload drafts) (hready : ∀ d ∈ drafts, d.Ready)
    (hdistinct : (drafts.map (·.key)).Nodup) : Payload.Accepted payload (drafts.map dump) where
  envelope := by
    obtain ⟨_, htitle, -⟩ := h.envelope "title" (by simp [Payload.envelopeFields])
    exact Payload.filled_of_isName (Value.exists_members_of_member htitle (by simp)) h.envelope
  questions := h.questions
  shapes := List.forall_mem_map.2 fun d hd => (hready d hd).filled
  keys := by
    rw [List.map_map]
    exact hdistinct
  rules := List.forall_mem_map.2 fun _ _ => rfl
  references := List.forall_mem_map.2 fun _ _ _ href => by cases href

/-- The drafts are normal: they have no rules. -/
theorem normal_dump (drafts : List Draft) : Normal.questions (drafts.map dump) = .ok (drafts.map dump) := by
  have hstorable : ∀ item ∈ drafts.map dump, Normal.Storable item :=
    List.forall_mem_map.2 fun _ _ => ⟨⟨_, rfl⟩, rfl, rfl⟩
  have hsame : (drafts.map dump).map Normal.reduced = drafts.map dump := by
    rw [List.map_map]
    refine List.map_congr_left fun d _ => ?_
    exact Normal.reduced_of_null rfl
  rw [Normal.questions_eq hstorable, hsame]

/-- A payload that carries drafts which are ready is a form of them that can be stored. -/
theorem Carried.exists_form (h : Carried payload drafts) (hready : ∀ d ∈ drafts, d.Ready) :
    ∃ form : NewForm, NewForm.check (Service.Action.draftOf payload (drafts.map dump)) = .ok form ∧
      form.questions = drafts.map question ∧ Service.storable form = true := by
  obtain ⟨title, htitle, -, htitleEncodable⟩ := h.envelope "title" (by simp [Payload.envelopeFields])
  obtain ⟨baseId, hbaseId, -, hbaseEncodable⟩ :=
    h.envelope "airtableBaseId" (by simp [Payload.envelopeFields])
  obtain ⟨tableId, htableId, -, htableEncodable⟩ :=
    h.envelope "airtableTableId" (by simp [Payload.envelopeFields])
  obtain ⟨description, hdescription, hdescriptionEncodable⟩ :=
    Service.Action.exists_orText [] rfl (h.optional "description" (by simp))
  obtain ⟨tableName, htableName, hnameEncodable⟩ :=
    Service.Action.exists_orText "Table" rfl (h.optional "airtableTableName" (by simp))
  refine ⟨⟨title, description, baseId, tableId, tableName, drafts.map question⟩, ?_, rfl, ?_⟩
  · exact NewForm.check_draftOf htitle hdescription hbaseId htableId htableName (list_check_dump hready)
  · simp only [Service.storable, Service.tableNameOf, List.all_cons, List.all_nil, Bool.and_true,
      Bool.and_eq_true]
    refine ⟨Text.encodable_trim htitleEncodable, hdescriptionEncodable, hbaseEncodable, htableEncodable,
      ?_⟩
    split
    · rfl
    · exact hnameEncodable

/-- A payload that carries drafts which are ready makes a form of them. -/
theorem Carried.makes (h : Carried payload drafts) (hready : ∀ d ∈ drafts, d.Ready)
    (hdistinct : (drafts.map (·.key)).Nodup) : ∃ form, Makes payload drafts form := by
  obtain ⟨form, hpassed, hquestions, hstorable⟩ := h.exists_form hready
  have hcheck := Payload.check_of_accepted (h.accepted hready hdistinct)
  have hnormal : Normal.ofValue (payload.member "questions") = .ok (drafts.map dump) := by
    rw [h.questions]
    exact normal_dump drafts
  have htold : form.Told := by
    rw [NewForm.Told, hquestions, List.map_map]
    refine List.forall_mem_map.2 fun d hd => ?_
    rw [Function.comp_apply, (hready d hd).settled_question]
    exact (hready d hd).told_question
  refine ⟨form, hcheck, hnormal, hpassed, ?_, ?_⟩
  · rw [hquestions, List.map_map]
    exact List.map_congr_left fun d hd => (hready d hd).dump_question
  · rintro c s r args hroute rfl hup
    have hverdict := Service.verdict_eq_ok_iff.2 ⟨hcheck, _, hnormal, hpassed⟩
    obtain ⟨hadds, hstatus⟩ := Service.handle_of_stores c s hroute ⟨hverdict, hup, hstorable⟩
    rw [if_pos htold] at hstatus
    exact ⟨hstatus, hadds⟩

end Carried

/-- **Drafts make a form.** Let every field of a table be an object with an id, a name and a type. Then there
is one column for each field, and one draft for each field of a type that a form can ask for, in the order of
the table and with keys numbered without gaps. Any payload that adds a title, a base and a table to the
drafts passes the gate, is normal, passes the checks of its fields as a form of just these questions, and a
request for it is answered by 201 and adds the form. -/
theorem drafts_make_form {table : Value} {fields : List Value} (hobject : ∃ ms : Members, table = .obj ms)
    (hfields : (table.member "fields").listedOrNone = .ok fields)
    (hnamed : ∀ field ∈ fields, Column.Named field) :
    ∃ columns drafts, Column.ofTable table = .ok columns ∧ ofTable table = .ok drafts ∧
      Follow fields columns drafts ∧
      ∀ payload, Carried payload drafts → ∃ form, Makes payload drafts form := by
  obtain ⟨ms, rfl⟩ := hobject
  have hcolumns : Column.ofTable (.obj ms) = .ok (fields.map Column.described) := by
    rw [Column.ofTable, hfields]
    exact Column.ofFields_of_objects fun field hfield => (hnamed field hfield).object
  have hfollow := follow_ofColumns hnamed
  have hready := ready_of_mem_ofColumns
    (List.forall_mem_map.2 fun field hfield => (hnamed field hfield).askable)
  refine ⟨_, _, hcolumns, ?_, hfollow, ?_⟩
  · rw [ofTable, hcolumns]
    rfl
  · intro payload hcarried
    exact hcarried.makes hready hfollow.distinct

/-- A field with an id, a name, a type and options. -/
def fieldOf (id name type : Text) (options : Value) : Value :=
  .obj [("id", .str id), ("name", .str name), ("type", .str type), ("options", options)]

theorem named_fieldOf {id name type : Text} {options : Value}
    (htexts : ([id, name, type].all fun t => !t.isBlank && t.encodable) = true)
    (hoptions : options.Encodable) : Column.Named (fieldOf id name type options) := by
  simp only [List.all_cons, List.all_nil, Bool.and_true, Bool.and_eq_true, Bool.not_eq_true'] at htexts
  obtain ⟨hid, hname, htype⟩ := htexts
  exact ⟨⟨_, rfl⟩, ⟨id, rfl, hid⟩, ⟨name, rfl, hname⟩, ⟨type, rfl, htype⟩, hoptions⟩

/-- Fields of three types, one of which no form can ask for. A choice is named by a number. -/
def someFields : List Value :=
  [fieldOf "fld1" "Name" "singleLineText" .null, fieldOf "fld2" "CV" "multipleAttachments" .null,
    fieldOf "fld3" "Role" "singleSelect"
      (.obj [("choices", .arr [.obj [("name", .str "Engineer")], .obj [("name", .int 2)]])])]

example : (ofTable (.obj [("fields", .arr someFields)])).toOption.map (·.map (·.key)) =
    some (["q_1", "q_2"] : List Text) := by decide +kernel

theorem named_someFields : ∀ field ∈ someFields, Column.Named field := by
  simp only [someFields, List.forall_mem_cons, List.not_mem_nil, false_implies, implies_true, and_true]
  exact ⟨named_fieldOf rfl rfl, named_fieldOf rfl rfl, named_fieldOf rfl rfl⟩

/-- A title, a base and a table are all that the drafts need. -/
theorem carried_formBody (drafts : List Draft) : Carried (Service.formBody (drafts.map dump)) drafts where
  envelope := by
    simp only [Payload.envelopeFields, List.forall_mem_cons, List.not_mem_nil, false_implies, implies_true,
      and_true]
    exact ⟨⟨_, rfl, rfl, rfl⟩, ⟨_, rfl, rfl, rfl⟩, ⟨_, rfl, rfl, rfl⟩⟩
  optional := by
    simp only [List.forall_mem_cons, List.not_mem_nil, false_implies, implies_true, and_true]
    exact ⟨.inl rfl, .inl rfl⟩
  questions := rfl

theorem drafts_make_form_some :
    (∃ ms : Members, Value.obj [("fields", .arr someFields)] = .obj ms) ∧
    ((Value.obj [("fields", .arr someFields)]).member "fields").listedOrNone = .ok someFields ∧
    (∀ field ∈ someFields, Column.Named field) ∧
    ∃ columns drafts form, Column.ofTable (.obj [("fields", .arr someFields)]) = .ok columns ∧
      ofTable (.obj [("fields", .arr someFields)]) = .ok drafts ∧ Follow someFields columns drafts ∧
      Makes (Service.formBody (drafts.map dump)) drafts form := by
  obtain ⟨columns, drafts, hcolumns, hdrafts, hfollow, hmakes⟩ :=
    drafts_make_form ⟨[("fields", .arr someFields)], rfl⟩ rfl named_someFields
  obtain ⟨form, hform⟩ := hmakes _ (carried_formBody drafts)
  exact ⟨⟨_, rfl⟩, rfl, named_someFields, columns, drafts, form, hcolumns, hdrafts, hfollow, hform⟩

end Draft
end Intake
