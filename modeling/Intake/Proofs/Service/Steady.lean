import Intake.Proofs.Service.Parts

/-!
# Steady requests

Most requests only read, or mark responses whose records changed. They leave the forms and the
responses that there were, and publish no event but those about records that are gone. The relation
between the states before and after is reflexive and transitive, and so the property is compositional.
-/

namespace Intake

namespace Store.ResponseRow

/-- What a response was when it was stored: marking does not change this. -/
def origin (r : ResponseRow) : ResponseRow := { r with status := [], isDeleted := false, updatedAt := 0 }

@[simp] theorem origin_synced (now : Nat) (r : ResponseRow) : (synced now r).origin = r.origin := rfl

@[simp] theorem origin_deleted (now : Nat) (r : ResponseRow) : (deleted now r).origin = r.origin := rfl

end Store.ResponseRow

namespace Service

open Store Http

/-- What does not depend on later changes of rows is the same for the same rows. -/
theorem map_of_origins {α β : Type} {origin : α → α} {xs ys : List α}
    (h : xs.map origin = ys.map origin) {g : α → β} (hg : ∀ a, g (origin a) = g a) :
    xs.map g = ys.map g := by
  have hcomp : g ∘ origin = g := funext hg
  have hmap := congrArg (List.map g) h
  rwa [List.map_map, List.map_map, hcomp] at hmap

/-- No form and no response comes or goes, and every event is about a record that is gone. -/
structure Steady (s t : State) : Prop where
  env : t.env = s.env
  forms : t.store.forms = s.store.forms
  responses : t.store.responses.map ResponseRow.origin = s.store.responses.map ResponseRow.origin
  formsNamed : s.formsNamed ≤ t.formsNamed
  responsesNamed : s.responsesNamed ≤ t.responsesNamed
  events : ∃ new, t.events = s.events ++ new ∧ ∀ e ∈ new, e.kind = Event.responseDeleted

namespace Steady

/-- Nothing but clock, numbers and the remote service changes. -/
theorem of_same {s t : State} (henv : t.env = s.env) (hstore : t.store = s.store)
    (hevents : t.events = s.events) (hforms : s.formsNamed ≤ t.formsNamed)
    (hresponses : s.responsesNamed ≤ t.responsesNamed) : Steady s t :=
  ⟨henv, by rw [hstore], by rw [hstore], hforms, hresponses, [], by simp [hevents], by simp⟩

theorem refl (s : State) : Steady s s := of_same rfl rfl rfl (Nat.le_refl _) (Nat.le_refl _)

theorem trans {s t u : State} (h : Steady s t) (g : Steady t u) : Steady s u := by
  obtain ⟨es, hes, hk⟩ := h.events
  obtain ⟨fs, hfs, hl⟩ := g.events
  refine ⟨g.env.trans h.env, g.forms.trans h.forms, g.responses.trans h.responses,
    h.formsNamed.trans g.formsNamed, h.responsesNamed.trans g.responsesNamed, es ++ fs, by rw [hfs, hes, List.append_assoc], ?_⟩
  intro e he
  rcases List.mem_append.1 he with he | he
  · exact hk e he
  · exact hl e he

end Steady

namespace Action

/-- Every run of the action is steady. -/
abbrev Keeps {α : Type} (a : Action α) : Prop := Leads Steady a

/-- Marking responses changes none of them in what it was when it was stored. -/
theorem keeps_mark {f : ResponseRow → ResponseRow} (hf : ∀ r, (f r).origin = r.origin) (id : Text) :
    Keeps (change (mark f id)) := by
  intro s
  rw [exec_change]
  split
  · exact Steady.refl s
  · refine ⟨rfl, rfl, ?_, Nat.le_refl _, Nat.le_refl _, [], by simp, by simp⟩
    simp only [mark, List.map_map]
    refine List.map_congr_left fun r _ => ?_
    simp only [Function.comp]
    split
    · exact hf r
    · rfl

theorem compositional_keeps : Compositional @Keeps :=
  compositional_leads Steady.refl Steady.trans
    (fun _ => .of_same rfl rfl rfl (Nat.le_refl _) (Nat.le_refl _))
    (fun _ _ => .of_same rfl rfl rfl (Nat.le_refl _) (Nat.le_refl _))
    (fun id now => keeps_mark (ResponseRow.origin_synced now) id)
    (fun id now => keeps_mark (ResponseRow.origin_deleted now) id)
    (fun _ payload =>
      ⟨rfl, rfl, rfl, Nat.le_refl _, Nat.le_refl _, [⟨Event.responseDeleted, payload⟩], rfl, by simp⟩)

end Action
end Service
end Intake
