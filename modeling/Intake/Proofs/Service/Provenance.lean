import Intake.Proofs.Form.Inherited
import Intake.Proofs.Service.Accounts

/-!
# Where stored forms come from

Every stored form goes back to one request whose payload passed the gates. Counting a response touches
two columns of a form and nothing else ever touches any, so without these two columns the stored forms
are a list that only grows:

        forms of a run  =  forms of its first part ++ forms of later requests
-/

namespace Intake

namespace Store

namespace FormRow

/-- What a form was when it was stored: counting does not change this. -/
def origin (f : FormRow) : FormRow := { f with responseCount := 0, updatedAt := 0 }

/-- The row is one of the form. -/
structure Keeps (row : FormRow) (form : NewForm) : Prop where
  title : row.title = form.title.trim
  questions : row.questions = questionsColumn form.questions

theorem Keeps.of_origin {f g : FormRow} {form : NewForm} (h : g.origin = f.origin)
    (hf : f.Keeps form) : g.Keeps form := by
  have htitle : g.title = f.title := congrArg (·.title) h
  have hquestions : g.questions = f.questions := congrArg (·.questions) h
  exact ⟨htitle.trans hf.title, hquestions.trans hf.questions⟩

/-- The questions of a form come back as they were, but for halves of code points. -/
theorem Keeps.questions?_eq {row : FormRow} {payload : Value} {items : List Value} {form : NewForm}
    (hkeeps : row.Keeps form) (hpayload : payload.Regular) (hmade : form.MadeOf payload items) :
    row.questions? = some (form.questions.map (·.settled)) :=
  FormRow.questions?_eq hkeeps.questions (hereditary_regular.rulesValues hpayload hmade)

end FormRow

/-- Where no two forms have the same id, a form is found by its id. -/
theorem form?_of_mem {s : Store} (hids : (s.forms.map (·.id)).Nodup) {f : FormRow}
    (hf : f ∈ s.forms) : s.form? f.id = some f := by
  unfold form?
  generalize s.forms = fs at hids hf
  induction fs with
  | nil => cases hf
  | cons g gs ih =>
    rw [List.map_cons, List.nodup_cons] at hids
    rcases List.mem_cons.1 hf with rfl | hf
    · exact List.find?_cons_of_pos (by simp)
    · have hne : g.id ≠ f.id := fun h => hids.1 (h ▸ List.mem_map_of_mem hf)
      rw [List.find?_cons_of_neg (by simpa using hne)]
      exact ih hids.2 hf

end Store

namespace Service

open Store Http

/-- A request leaves the forms as they were, or adds the one that it asks for. -/
theorem Effect.forms {r : Request} {s t : State} (h : Effect r s t) :
    t.store.forms.map FormRow.origin = s.store.forms.map FormRow.origin ∨
      ∃ form, verdict (Action.bodyOf r) = .ok (.ok form) ∧
        t.store.forms = s.store.forms ++ [s.rowOf form] := by
  cases h with
  | steady st => exact .inl (by rw [st.forms])
  | created form passed store => exact .inr ⟨form, passed, by rw [store]; rfl⟩
  | synced form _ row _ _ now store =>
    refine .inl ?_
    rw [store]
    simp only [Store.countResponse, Store.addResponse, List.map_map]
    refine List.map_congr_left fun f _ => ?_
    simp only [Function.comp]
    split <;> rfl
  | failed _ _ _ _ _ store => exact .inl (by rw [store]; rfl)

/-- A turn leaves the forms as they were, or adds the one that its request asks for. -/
theorem Turn.forms_act (c : Config) (t : Turn) (s : State) :
    (t.act c s).store.forms.map FormRow.origin = s.store.forms.map FormRow.origin ∨
      ∃ r form, t = .request r ∧ verdict (Action.bodyOf r) = .ok (.ok form) ∧
        (t.act c s).store.forms = s.store.forms ++ [s.rowOf form] := by
  cases t with
  | request r =>
    rcases (effect_handle c r s).forms with h | ⟨form, passed, h⟩
    · exact .inl h
    · exact .inr ⟨r, form, rfl, passed, h⟩
  | fetch clear => cases clear <;> exact .inl rfl
  | _ => exact .inl rfl

/-- What the forms of a run are, apart from their counters. -/
def origins (env : Environment) (c : Config) (turns : List Turn) : List FormRow :=
  (course env c turns).state.store.forms.map FormRow.origin

theorem course_concat (env : Environment) (c : Config) (turns : List Turn) (t : Turn) :
    (course env c (turns ++ [t])).state = t.act c (course env c turns).state := by
  rw [course_append]; rfl

/-- Stored forms stay. -/
theorem origins_grow (env : Environment) (c : Config) (turns later : List Turn) :
    origins env c turns <+: origins env c (turns ++ later) := by
  induction later using List.reverseRecOn with
  | nil => rw [List.append_nil]
  | append_singleton later t ih =>
    refine ih.trans ?_
    rw [← List.append_assoc]
    unfold origins
    rw [course_concat]
    rcases t.forms_act c (course env c (turns ++ later)).state with h | ⟨r, form, -, -, h⟩
    · rw [h]
    · rw [h, List.map_append]
      exact List.prefix_append _ _

/-- No two stored forms have the same id. -/
theorem nodup_formIds (env : Environment) (c : Config) (turns : List Turn) :
    ((course env c turns).state.store.forms.map (·.id)).Nodup := by
  have hids (fs : List FormRow) : fs.map (·.id) = (fs.map FormRow.origin).map (·.id) := by
    rw [List.map_map]; rfl
  induction turns using List.reverseRecOn with
  | nil => exact List.nodup_nil
  | append_singleton turns t ih =>
    rw [course_concat]
    rcases t.forms_act c (course env c turns).state with h | ⟨r, form, -, -, h⟩
    · rwa [hids, h, ← hids]
    · rw [h, List.map_append, List.nodup_append]
      refine ⟨ih, by simp, ?_⟩
      rintro a ha b hb rfl
      obtain ⟨f, hf, rfl⟩ := List.mem_map.1 ha
      rw [List.map_singleton, List.mem_singleton] at hb
      exact (Accounted.course env c turns).id_ne_next hf hb

/-- A stored form is found after any further turns, with the columns that it was stored with. -/
theorem form?_later (env : Environment) (c : Config) (turns later : List Turn) {f : FormRow}
    (hf : f ∈ (course env c turns).state.store.forms) :
    ∃ g, (course env c (turns ++ later)).state.store.form? f.id = some g ∧ g.origin = f.origin := by
  have hmem : f.origin ∈ origins env c (turns ++ later) :=
    (origins_grow env c turns later).subset (List.mem_map_of_mem hf)
  obtain ⟨g, hg, horigin⟩ := List.mem_map.1 hmem
  have hid : g.id = f.id := congrArg (·.id) horigin
  exact ⟨g, hid ▸ form?_of_mem (nodup_formIds env c (turns ++ later)) hg, horigin⟩

/-- Every stored form goes back to a request whose payload passed. -/
theorem stored_form (env : Environment) (c : Config) (turns : List Turn) {row : FormRow}
    (hrow : row ∈ (course env c turns).state.store.forms) :
    ∃ r form, Turn.request r ∈ turns ∧ verdict (Action.bodyOf r) = .ok (.ok form) ∧
      row.Keeps form := by
  induction turns using List.reverseRecOn generalizing row with
  | nil => cases hrow
  | append_singleton turns t ih =>
    rw [course_concat] at hrow
    -- a form that was there before goes back to a request before
    have hold {f : FormRow} (hf : f ∈ (course env c turns).state.store.forms)
        (hsame : row.origin = f.origin) : ∃ r form, Turn.request r ∈ turns ++ [t] ∧
          verdict (Action.bodyOf r) = .ok (.ok form) ∧ row.Keeps form := by
      obtain ⟨r, form, hr, passed, hkeeps⟩ := ih hf
      exact ⟨r, form, List.mem_append_left _ hr, passed, hkeeps.of_origin hsame⟩
    rcases t.forms_act c (course env c turns).state with h | ⟨r, form, rfl, passed, h⟩
    · have hmem := List.mem_map_of_mem (f := FormRow.origin) hrow
      rw [h] at hmem
      obtain ⟨f, hf, hsame⟩ := List.mem_map.1 hmem
      exact hold hf hsame.symm
    · rw [h, List.mem_append, List.mem_singleton] at hrow
      rcases hrow with hrow | rfl
      · exact hold hrow rfl
      · exact ⟨r, form, by simp, passed, rfl, rfl⟩

/-! ### A form to try -/

/-- A service for all origins that calls the public remote service without a token. -/
def Config.plain : Config := ⟨⟨Access.publicUrl, none, Binary64.ofInt 10⟩, []⟩

/-- A request that carries a JSON value. -/
def posting (path : Text) (body : Value) : Request :=
  ⟨"POST", "localhost", path, [], [], Utf8.encode (Json.write .compact body)⟩

/-- The body of a new form. -/
def formBody (items : List Value) : Value :=
  .obj [("title", .ofString " Visit "), ("airtableBaseId", .ofString "base"),
    ("airtableTableId", .ofString "table"), ("questions", .arr items)]

/-- A question with further members. -/
def item (key label : Text) (more : Members) : Value :=
  .obj ([(("questionKey" : Text), Value.str key), ("airtableFieldId", .str key), ("label", .str label),
    ("type", .ofString "email")] ++ more)

end Service
end Intake
