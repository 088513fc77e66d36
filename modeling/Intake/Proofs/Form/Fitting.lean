import Intake.Proofs.Service.Provenance

/-!
# Rules that fit their form

A rule fits a form when it is well-formed and refers to other questions only. The rules that the first
gate sees all fit, and reducing and storing them changes nothing about that. But a question that gives
its rule under the second name only shows the first gate no rule at all; what stands there is stored as
it is. So whether a stored form is sound depends on these rules alone.

        "conditionalRules"    first gate ──▶ reduced ──▶ stored        fits
        "conditional_rules"                              stored        fits or not
-/

namespace Intake

namespace Rules

/-- The rule of the question at place `i` is well-formed, and every question that it refers to is at
another place. -/
structure Fits (keys : List Text) (i : Nat) (rules : Value) : Prop where
  wellFormed : Rules.wellFormed rules = true
  references : ∀ ref ∈ Rules.references rules, ∃ j, j ≠ i ∧ keys[j]? = some ref

/-- No rule fits everywhere. -/
theorem fits_null (keys : List Text) (i : Nat) : Fits keys i .null where
  wellFormed := rfl
  references _ href := absurd href List.not_mem_nil

end Rules

namespace Question

/-- The rules of all questions fit. -/
def AllFit (qs : List Question) : Prop :=
  ∀ i q, qs[i]? = some q → Rules.Fits (qs.map (·.key)) i q.rulesValue

/-- The rule that an item gives under the second name only. -/
def unreadRule? (item : Value) : Option Value :=
  match item.members? with
  | some ms => if ms.has rulesName.wire then none else ms.get? rulesName.plain
  | none => none

theorem unreadRule?_eq_some {ms : Members} {v : Value} : unreadRule? (.obj ms) = some v ↔
    ms.get? "conditionalRules" = none ∧ ms.get? "conditional_rules" = some v := by
  change (if Members.has ms "conditionalRules" then none else ms.get? "conditional_rules") = some v ↔ _
  unfold Members.has
  cases ms.get? "conditionalRules" <;> simp

/-- Such a rule is stored as it is. -/
theorem RuleOf.eq_of_unread {ms : Members} {q : Question} {v : Value} (h : RuleOf ms q)
    (hv : unreadRule? (.obj ms) = some v) : q.rulesValue = v := by
  obtain ⟨hwire, hplain⟩ := unreadRule?_eq_some.1 hv
  cases h with
  | none hnull => rw [hwire] at hnull; cases hnull
  | checked _ hchecked => rw [hwire] at hchecked; cases hchecked
  | unchecked _ hrules => rw [hrules, hplain]; rfl

/-- The key of an item as it comes back from the store. -/
def storedKey (item : Value) : Text := (Payload.keyOf item).joined

end Question

/-- The rules that the first gate does not see fit. -/
def Payload.UnreadFit (items : List Value) : Prop :=
  ∀ i item v, items[i]? = some item → Question.unreadRule? item = some v →
    Rules.Fits (items.map Question.storedKey) i v.settled

/-- The stored form is sound: it can be loaded, and the rules of all its questions fit. -/
def Store.FormRow.Sound (row : Store.FormRow) : Prop :=
  ∃ qs, row.questions? = some qs ∧ Question.AllFit qs

namespace NewForm

variable {payload : Value} {items : List Value} {form : NewForm} (h : form.MadeOf payload items)

include h

/-- The keys of the stored questions. -/
theorem MadeOf.storedKeys :
    (form.questions.map (·.settled)).map (·.key) = items.map Question.storedKey := by
  have hkeys : (items.map Payload.keyOf).map Text.joined =
      (form.questions.map (·.key)).map Text.joined := by rw [h.keys]
  rw [List.map_map, List.map_map] at hkeys
  rw [List.map_map]
  exact hkeys.symm

/-- A question and its item stand at the same place. -/
theorem MadeOf.item_of_question {i : Nat} {q : Question} (hq : form.questions[i]? = some q) :
    ∃ item, items[i]? = some item ∧ Question.MadeOf item q := by
  obtain ⟨hi, rfl⟩ := List.getElem?_eq_some_iff.1 hq
  have hi' : i < items.length := h.questions.length_eq ▸ hi
  exact ⟨items[i], List.getElem?_eq_getElem hi', h.questions.get hi' hi⟩

theorem MadeOf.question_of_item {i : Nat} {item : Value} (hitem : items[i]? = some item) :
    ∃ q, form.questions[i]? = some q ∧ Question.MadeOf item q := by
  obtain ⟨hi, rfl⟩ := List.getElem?_eq_some_iff.1 hitem
  have hi' : i < form.questions.length := h.questions.length_eq ▸ hi
  exact ⟨form.questions[i], List.getElem?_eq_getElem hi', h.questions.get hi hi'⟩

/-- A rule that the first gate saw fits the stored form. -/
theorem MadeOf.fits_of_checked {i : Nat} {item v : Value} {r : RuleRecord}
    (hitem : items[i]? = some item) (hv : Visibility.rawRules item = v)
    (hr : RuleRecord.check v = .ok r) :
    Rules.Fits (items.map Question.storedKey) i (r.settled.dump .wire) := by
  have hmem : item ∈ items := List.mem_of_getElem? hitem
  have hwell := h.accepted.rules item hmem
  rw [hv] at hwell
  have hseen := RuleRecord.seenIn_of_check hr hwell
  have hnamed := RuleRecord.named_of_check hr
  have hstored := r.settled.seenIn_dump
  refine ⟨?_, fun ref href => ?_⟩
  · rw [hstored.wellFormed, RuleRecord.isSound_settled hnamed, ← hseen.wellFormed, hwell]
  · rw [hstored.references, RuleRecord.references_settled hnamed] at href
    -- a reference holds no halves, and so the key that it names comes back as it was
    have hjoined : ref.joined = ref := Text.joined_eq_self (hnamed.encodable_of_mem href)
    rw [← hseen.references, ← hv] at href
    obtain ⟨hother, hkey⟩ := h.accepted.references item hmem ref href
    obtain ⟨other, hmem, rfl⟩ := List.mem_map.1 hkey
    obtain ⟨j, hj, rfl⟩ := List.getElem_of_mem hmem
    refine ⟨j, ?_, ?_⟩
    · rintro rfl
      rw [List.getElem?_eq_getElem hj] at hitem
      exact hother (congrArg Payload.keyOf (Option.some.inj hitem))
    · rw [List.getElem?_map, List.getElem?_eq_getElem hj, Option.map_some, Question.storedKey]
      exact congrArg some hjoined

/-- The rules of the stored form fit exactly when those fit that the first gate did not see. -/
theorem MadeOf.allFit_iff :
    Question.AllFit (form.questions.map (·.settled)) ↔ Payload.UnreadFit items := by
  unfold Question.AllFit Payload.UnreadFit
  rw [h.storedKeys]
  constructor
  · intro hfit i item v hitem hv
    obtain ⟨q, hq, hmade⟩ := h.question_of_item hitem
    have hsettled := hfit i q.settled (by rw [List.getElem?_map, hq]; rfl)
    obtain ⟨ms, rfl, hrule⟩ := hmade.rule
    rw [Question.rulesValue_settled, hrule.eq_of_unread hv] at hsettled
    exact hsettled
  · intro hfit i q hq
    rw [List.getElem?_map, Option.map_eq_some_iff] at hq
    obtain ⟨q, hq, rfl⟩ := hq
    obtain ⟨item, hitem, hmade⟩ := h.item_of_question hq
    obtain ⟨ms, rfl, hrule⟩ := hmade.rule
    rw [Question.rulesValue_settled]
    cases hrule with
    | none _ hrules => rw [hrules]; exact Rules.fits_null _ i
    | checked v hwire _ r hr hrules =>
      rw [hrules, RuleRecord.settled_dump]
      exact h.fits_of_checked hitem (Value.member_obj_of_get? hwire) hr
    | unchecked hwire hrules =>
      rw [hrules]
      cases hplain : Members.get? ms "conditional_rules" with
      | none => exact Rules.fits_null _ i
      | some v => exact hfit i _ v hitem (Question.unreadRule?_eq_some.2 ⟨hwire, hplain⟩)

end NewForm

namespace Service

/-- Every stored form goes back to a request, and it is sound exactly when the rules fit that the payload
gives under the second name only. -/
theorem stored_form_sound_iff (env : Environment) (c : Config) (turns : List Turn) :
    ∀ row ∈ (course env c turns).state.store.forms, ∃ r form items, Turn.request r ∈ turns ∧
      verdict (Action.bodyOf r) = .ok (.ok form) ∧ row.Keeps form ∧
      (Action.bodyOf r).member "questions" = .arr items ∧
      (row.Sound ↔ Payload.UnreadFit items) := by
  intro row hrow
  obtain ⟨r, form, hr, passed, hkeeps⟩ := stored_form env c turns hrow
  obtain ⟨items, hmade⟩ := NewForm.madeOf_of_verdict passed
  have hquestions := hkeeps.questions?_eq (regular_bodyOf r) hmade
  refine ⟨r, form, items, hr, passed, hkeeps, hmade.accepted.questions, ?_⟩
  rw [← hmade.allFit_iff, Store.FormRow.Sound, hquestions]
  constructor
  · rintro ⟨qs, hqs, hfit⟩
    rwa [Option.some.inj hqs]
  · intro hfit
    exact ⟨_, rfl, hfit⟩

/-- A run that creates a form whose rule has no conditions and stands under the second name. -/
def unreadRun : List Turn :=
  [.request (posting "/forms" (formBody [item "a" "A"
    [("conditional_rules", .obj [("logic", .ofString "AND"), ("conditions", .arr [])])]]))]

/-- The form is stored, and so its soundness hangs on that rule. -/
theorem stored_form_sound_iff_unread :
    ∃ row ∈ (course .standard .plain unreadRun).state.store.forms, ∃ r form items,
      Turn.request r ∈ unreadRun ∧ verdict (Action.bodyOf r) = .ok (.ok form) ∧ row.Keeps form ∧
      (Action.bodyOf r).member "questions" = .arr items ∧
      (row.Sound ↔ Payload.UnreadFit items) := by
  have hlength : 0 < (course .standard .plain unreadRun).state.store.forms.length := by decide +kernel
  have hmem := List.getElem_mem hlength
  exact ⟨_, hmem, stored_form_sound_iff .standard .plain unreadRun _ hmem⟩

/-- Not every stored form is sound. -/
theorem stored_form_unsound :
    ¬ ∀ (env : Environment) (c : Config) (turns : List Turn),
      ∀ row ∈ (course env c turns).state.store.forms, row.Sound := by
  intro hsound
  have hstored : (course .standard .plain unreadRun).state.store.forms.any (fun row =>
      row.questions?.any fun qs => qs.any fun q => !Rules.wellFormed q.rulesValue) = true := by
    decide +kernel
  obtain ⟨row, hrow, hany⟩ := List.any_eq_true.1 hstored
  obtain ⟨qs, hqs, hfit⟩ := hsound .standard .plain unreadRun row hrow
  rw [hqs, Option.any_some] at hany
  obtain ⟨q, hq, hbad⟩ := List.any_eq_true.1 hany
  obtain ⟨i, hi⟩ := List.getElem?_of_mem hq
  rw [(hfit i q hi).wellFormed] at hbad
  cases hbad

end Service
end Intake
