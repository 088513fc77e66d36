import Intake.Form.Payload
import Intake.Proofs.Rule.References
import Mathlib.Data.List.Induction

/-!
# The gate of a form

A payload passes the gate when its envelope is complete, its questions are filled in under distinct keys,
and the rules of each question are well-formed and refer to other questions of the form. Any other payload
has a first fault, and this one is reported. The shapes of all questions come before the rules of any: a
question that is not filled in hides the rules of the questions in front of it.

        envelope ──▶ shapes   q₁ q₂ q₃ … ──▶ rules   q₁ q₂ q₃ … ──▶ accepted
           │                    │                      │
        fields missing       format, key again      malformed, stray reference
-/

namespace Intake.Payload

/-- What the gate makes sure of. -/
structure Accepted (payload : Value) (items : List Value) : Prop where
  envelope : filled envelopeFields payload = true
  questions : payload.member "questions" = .arr items
  shapes : ∀ q ∈ items, filled questionFields q = true
  keys : (items.map keyOf).Nodup
  rules : ∀ q ∈ items, Rules.wellFormed (Visibility.rawRules q) = true
  references : ∀ q ∈ items, ∀ ref ∈ Rules.references (Visibility.rawRules q),
    ref ≠ keyOf q ∧ ref ∈ items.map keyOf

/-- The envelope is complete, with these questions in it. -/
structure Enveloped (payload : Value) (items : List Value) : Prop where
  envelope : filled envelopeFields payload = true
  questions : payload.member "questions" = .arr items

/-- The questions are filled in, and no two have the same key. -/
structure ShapesSound (items : List Value) : Prop where
  shapes : ∀ q ∈ items, filled questionFields q = true
  keys : (items.map keyOf).Nodup

/-- The rules of the question are well-formed and refer to other questions of these keys. -/
structure RulesSound (keys : List Text) (q : Value) : Prop where
  rules : Rules.wellFormed (Visibility.rawRules q) = true
  references : ∀ ref ∈ Rules.references (Visibility.rawRules q), ref ≠ keyOf q ∧ ref ∈ keys

/-! ### Faults -/

/-- What is wrong with the shape of a question that follows questions of these keys: the code of the fault
and the question that it names. -/
inductive ShapeFault (earlier : List Text) (q : Value) : Text → Option Text → Prop where
  | format (h : filled questionFields q = false) :
      ShapeFault earlier q "invalid_question_format" none
  | repeated (hfilled : filled questionFields q = true) (h : keyOf q ∈ earlier) :
      ShapeFault earlier q "duplicate_question_key" (some (keyOf q))

/-- What is wrong with the rules of a question among questions of these keys. -/
inductive RuleFault (keys : List Text) (q : Value) : Text → Option Text → Prop where
  | malformed (h : Rules.wellFormed (Visibility.rawRules q) = false) :
      RuleFault keys q "invalid_conditional_rules" (some (keyOf q))
  | stray (hrules : Rules.wellFormed (Visibility.rawRules q) = true) (ref : Text)
      (href : ref ∈ Rules.references (Visibility.rawRules q)) (h : ref = keyOf q ∨ ref ∉ keys) :
      RuleFault keys q "unknown_condition_reference" (some (keyOf q))

/-- The first fault of a payload: in its envelope, else in the shape of a question behind questions of
sound shape, else in the rules of a question behind questions with sound rules. -/
inductive FirstFault (payload : Value) : Text → Option Text → Prop where
  | envelope (h : ∀ items, ¬ Enveloped payload items) :
      FirstFault payload "missing_required_fields" none
  | shape {before : List Value} {q : Value} {after : List Value} {code : Text} {key : Option Text}
      (henvelope : Enveloped payload (before ++ q :: after)) (hbefore : ShapesSound before)
      (h : ShapeFault (before.map keyOf) q code key) : FirstFault payload code key
  | rule {before : List Value} {q : Value} {after : List Value} {code : Text} {key : Option Text}
      (henvelope : Enveloped payload (before ++ q :: after))
      (hshapes : ShapesSound (before ++ q :: after))
      (hbefore : ∀ p ∈ before, RulesSound ((before ++ q :: after).map keyOf) p)
      (h : RuleFault ((before ++ q :: after).map keyOf) q code key) : FirstFault payload code key

section Refusal

variable {α : Type} {verdict : Except FormError α} {code : Text} {key : Option Text}

/-- The verdict is a rejection with this code that names this question. -/
def Refuses (verdict : Except FormError α) (code : Text) (key : Option Text) : Prop :=
  ∃ e, verdict = .error e ∧ e.code = code ∧ e.question? = key

theorem Refuses.unique {code' : Text} {key' : Option Text} (h : Refuses verdict code key)
    (h' : Refuses verdict code' key') : code = code' ∧ key = key' := by
  obtain ⟨e, he, rfl, rfl⟩ := h
  obtain ⟨e', he', rfl, rfl⟩ := h'
  rw [he] at he'
  cases he'
  exact ⟨rfl, rfl⟩

theorem Refuses.ne_ok (h : Refuses verdict code key) (a : α) : verdict ≠ .ok a := by
  obtain ⟨e, rfl, -⟩ := h
  intro hok
  cases hok

end Refusal

/-! ### Shapes -/

theorem shapesSound_concat {items : List Value} {q : Value} : ShapesSound (items ++ [q]) ↔
    ShapesSound items ∧ filled questionFields q = true ∧ keyOf q ∉ items.map keyOf := by
  constructor
  · rintro ⟨hshapes, hkeys⟩
    rw [List.map_append, List.nodup_append] at hkeys
    refine ⟨⟨fun p hp => hshapes p (List.mem_append_left _ hp), hkeys.1⟩,
      hshapes q (List.mem_append_right _ List.mem_cons_self), fun hmem => ?_⟩
    exact hkeys.2.2 _ hmem _ List.mem_cons_self rfl
  · rintro ⟨⟨hshapes, hkeys⟩, hfilled, hnew⟩
    refine ⟨?_, ?_⟩
    · intro p hp
      rcases List.mem_append.1 hp with hp | hp
      · exact hshapes p hp
      · rw [List.mem_singleton.1 hp]
        exact hfilled
    · rw [List.map_append, List.nodup_append]
      refine ⟨hkeys, by simp, ?_⟩
      rintro a ha b hb rfl
      rw [List.map_singleton, List.mem_singleton] at hb
      exact hnew (hb ▸ ha)

/-- The shapes of all questions are sound, or one of them has the first fault. By induction from the end
of the list: what comes later does not change the first fault. -/
theorem shapes_cases (items : List Value) : ShapesSound items ∨
    ∃ before q after code key, items = before ++ q :: after ∧ ShapesSound before ∧
      ShapeFault (before.map keyOf) q code key := by
  induction items using List.reverseRecOn with
  | nil => exact .inl ⟨by simp, List.nodup_nil⟩
  | append_singleton items q ih =>
    rcases ih with hsound | ⟨before, p, after, code, key, rfl, hbefore, hfault⟩
    · cases hfilled : filled questionFields q with
      | false => exact .inr ⟨items, q, [], _, _, rfl, hsound, .format hfilled⟩
      | true =>
        by_cases hmem : keyOf q ∈ items.map keyOf
        · exact .inr ⟨items, q, [], _, _, rfl, hsound, .repeated hfilled hmem⟩
        · exact .inl (shapesSound_concat.2 ⟨hsound, hfilled, hmem⟩)
    · exact .inr ⟨before, p, after ++ [q], code, key, by simp, hbefore, hfault⟩

/-- The check gets past questions of sound shape, with their keys. -/
theorem checkShapes_append {before : List Value} (h : ShapesSound before) (rest : List Value) :
    checkShapes [] (before ++ rest) = checkShapes (before.map keyOf) rest := by
  induction before using List.reverseRecOn generalizing rest with
  | nil => rfl
  | append_singleton before q ih =>
    obtain ⟨hbefore, hfilled, hnew⟩ := shapesSound_concat.1 h
    rw [List.append_assoc, ih hbefore, List.singleton_append, checkShapes, if_pos hfilled,
      if_neg hnew, List.map_append, List.map_singleton]

theorem checkShapes_of_sound {items : List Value} (h : ShapesSound items) :
    checkShapes [] items = .ok (items.map keyOf) := by
  have hall := checkShapes_append h []
  rwa [List.append_nil] at hall

/-- At a fault the check stops. -/
theorem checkShapes_of_fault {earlier : List Text} {q : Value} {code : Text} {key : Option Text}
    (h : ShapeFault earlier q code key) (rest : List Value) :
    Refuses (checkShapes earlier (q :: rest)) code key := by
  cases h with
  | format h => exact ⟨.questionFormat, by rw [checkShapes, h]; rfl, rfl, rfl⟩
  | repeated hfilled h =>
    exact ⟨.duplicateKey (keyOf q), by rw [checkShapes, if_pos hfilled, if_pos h], rfl, rfl⟩

/-! ### Rules -/

theorem strayReference?_eq_none {keys : List Text} {q : Value} : strayReference? keys q = none ↔
    ∀ ref ∈ Rules.references (Visibility.rawRules q), ref ≠ keyOf q ∧ ref ∈ keys := by
  rw [strayReference?, List.find?_eq_none]
  simp

/-- The rules of all questions are sound, or one of them has the first fault. -/
theorem rules_cases (keys : List Text) (items : List Value) : (∀ q ∈ items, RulesSound keys q) ∨
    ∃ before q after code key, items = before ++ q :: after ∧ (∀ p ∈ before, RulesSound keys p) ∧
      RuleFault keys q code key := by
  induction items with
  | nil => exact .inl (by simp)
  | cons q items ih =>
    cases hrules : Rules.wellFormed (Visibility.rawRules q) with
    | false => exact .inr ⟨[], q, items, _, _, rfl, by simp, .malformed hrules⟩
    | true =>
      cases hstray : strayReference? keys q with
      | none =>
        have hq : RulesSound keys q := ⟨hrules, strayReference?_eq_none.1 hstray⟩
        rcases ih with hsound | ⟨before, p, after, code, key, rfl, hbefore, hfault⟩
        · exact .inl (List.forall_mem_cons.2 ⟨hq, hsound⟩)
        · exact .inr ⟨q :: before, p, after, code, key, rfl,
            List.forall_mem_cons.2 ⟨hq, hbefore⟩, hfault⟩
      | some ref =>
        have hfault := List.find?_some hstray
        exact .inr ⟨[], q, items, _, _, rfl, by simp,
          .stray hrules ref (List.mem_of_find?_eq_some hstray) (by simpa using hfault)⟩

/-- The check gets past questions with sound rules. -/
theorem checkRules_append {keys : List Text} {before : List Value}
    (h : ∀ q ∈ before, RulesSound keys q) (rest : List Value) :
    checkRules keys (before ++ rest) = checkRules keys rest := by
  induction before with
  | nil => rfl
  | cons q before ih =>
    rw [List.forall_mem_cons] at h
    rw [List.cons_append, checkRules, if_pos h.1.rules, strayReference?_eq_none.2 h.1.references]
    exact ih h.2

theorem checkRules_of_sound {keys : List Text} {items : List Value}
    (h : ∀ q ∈ items, RulesSound keys q) : checkRules keys items = .ok () := by
  have hall := checkRules_append h []
  rwa [List.append_nil] at hall

theorem checkRules_of_fault {keys : List Text} {q : Value} {code : Text} {key : Option Text}
    (h : RuleFault keys q code key) (rest : List Value) :
    Refuses (checkRules keys (q :: rest)) code key := by
  cases h with
  | malformed h => exact ⟨.badRules (keyOf q), by rw [checkRules, h]; rfl, rfl, rfl⟩
  | stray hrules ref href h =>
    -- the check names the first stray reference, which need not be this one
    cases hstray : strayReference? keys q with
    | none =>
      obtain ⟨hother, hknown⟩ := strayReference?_eq_none.1 hstray ref href
      rcases h with heq | hunknown
      · exact absurd heq hother
      · exact absurd hknown hunknown
    | some first =>
      exact ⟨.unknownReference (keyOf q) first, by rw [checkRules, if_pos hrules, hstray], rfl, rfl⟩

/-! ### Payloads -/

/-- A field that is filled in is given under its wire name. -/
theorem get?_of_filled {fields : List Text} {ms : Members} {f : Text}
    (h : filled fields (.obj ms) = true) (hf : f ∈ fields) :
    ∃ v, ms.get? f = some v ∧ blank v = false := by
  rw [filled, Bool.and_eq_true, List.all_eq_true] at h
  have hblank := h.2 f hf
  rw [Bool.not_eq_true', Value.member, Members.getD] at hblank
  cases hget : ms.get? f with
  | none => rw [hget] at hblank; cases hblank
  | some v => rw [hget] at hblank; exact ⟨v, rfl, hblank⟩

theorem isObject_of_filled {fields : List Text} {v : Value} (h : filled fields v = true) :
    ∃ ms : Members, v = .obj ms := by
  rw [filled, Bool.and_eq_true] at h
  cases v with
  | obj ms => exact ⟨ms, rfl⟩
  | _ => cases h.1

/-- Every payload is accepted or has a first fault. -/
theorem accepted_or_fault (payload : Value) :
    (∃ items, Accepted payload items) ∨ ∃ code key, FirstFault payload code key := by
  by_cases henvelope : ∃ items, Enveloped payload items
  · obtain ⟨items, henvelope⟩ := henvelope
    rcases shapes_cases items with hshapes | ⟨before, q, after, code, key, rfl, hbefore, hfault⟩
    · rcases rules_cases (items.map keyOf) items with
        hrules | ⟨before, q, after, code, key, rfl, hbefore, hfault⟩
      · exact .inl ⟨items, henvelope.envelope, henvelope.questions, hshapes.shapes, hshapes.keys,
          fun q hq => (hrules q hq).rules, fun q hq => (hrules q hq).references⟩
      · exact .inr ⟨code, key, .rule henvelope hshapes hbefore hfault⟩
    · exact .inr ⟨code, key, .shape henvelope hbefore hfault⟩
  · exact .inr ⟨_, _, .envelope (not_exists.1 henvelope)⟩

/-- With a complete envelope the questions decide. -/
theorem check_of_enveloped {payload : Value} {items : List Value} (h : Enveloped payload items) :
    check payload = (checkShapes [] items).bind fun keys => checkRules keys items := by
  obtain ⟨ms, rfl⟩ := isObject_of_filled h.envelope
  simp only [check, h.envelope, h.questions]
  cases checkShapes [] items with
  | ok keys => rfl
  | error e => rfl

theorem check_of_accepted {payload : Value} {items : List Value} (h : Accepted payload items) :
    check payload = .ok () := by
  rw [check_of_enveloped ⟨h.envelope, h.questions⟩, checkShapes_of_sound ⟨h.shapes, h.keys⟩]
  exact checkRules_of_sound fun q hq => ⟨h.rules q hq, h.references q hq⟩

theorem check_of_not_enveloped {payload : Value} (h : ∀ items, ¬ Enveloped payload items) :
    Refuses (check payload) "missing_required_fields" none := by
  unfold check
  split
  · split
    · rename_i items hfilled hitems
      exact absurd ⟨hfilled, hitems⟩ (h items)
    · exact ⟨.fieldsMissing, rfl, rfl, rfl⟩
  · exact ⟨.bodyNotObject, rfl, rfl, rfl⟩

/-- The first fault is the one that is reported. -/
theorem check_of_firstFault {payload : Value} {code : Text} {key : Option Text}
    (h : FirstFault payload code key) : Refuses (check payload) code key := by
  cases h with
  | envelope h => exact check_of_not_enveloped h
  | shape henvelope hbefore hfault =>
    obtain ⟨e, he, hcode, hkey⟩ := checkShapes_of_fault hfault _
    rw [check_of_enveloped henvelope, checkShapes_append hbefore, he]
    exact ⟨e, rfl, hcode, hkey⟩
  | rule henvelope hshapes hbefore hfault =>
    rw [check_of_enveloped henvelope, checkShapes_of_sound hshapes, Except.bind,
      checkRules_append hbefore]
    exact checkRules_of_fault hfault _

theorem accepted_of_check {payload : Value} (h : check payload = .ok ()) :
    ∃ items, Accepted payload items := by
  rcases accepted_or_fault payload with haccepted | ⟨code, key, hfault⟩
  · exact haccepted
  · exact absurd h ((check_of_firstFault hfault).ne_ok ())

/-- **A payload passes exactly when it is sound, and otherwise its first fault is reported.** For every
value: it passes exactly when the envelope is complete, the questions are filled in under distinct keys,
and their rules are well-formed and refer to other questions of the form; and it is rejected with a code
that names a question exactly when these are the code and the question of its first fault. -/
theorem first_fault_is_reported (payload : Value) :
    (check payload = .ok () ↔ ∃ items, Accepted payload items) ∧
    ∀ code key, (∃ e, check payload = .error e ∧ e.code = code ∧ e.question? = key) ↔
      FirstFault payload code key := by
  refine ⟨⟨accepted_of_check, fun ⟨_, h⟩ => check_of_accepted h⟩, fun code key => ?_⟩
  constructor
  · intro hrefused
    rcases accepted_or_fault payload with ⟨items, haccepted⟩ | ⟨code', key', hfault⟩
    · exact absurd (check_of_accepted haccepted) (Refuses.ne_ok hrefused ())
    · obtain ⟨rfl, rfl⟩ := Refuses.unique hrefused (check_of_firstFault hfault)
      exact hfault
  · exact check_of_firstFault

/-- A question whose rule refers to the question itself. -/
def selfish : Value :=
  .obj [("questionKey", .ofString "a"), ("airtableFieldId", .ofString "f"), ("label", .ofString "A"),
    ("type", .ofString "email"),
    ("conditionalRules", Rules.written "AND" [Condition.written "a" "equals" (.int 1)])]

/-- That the second question repeats the key is reported before the rule of the first one. -/
example : check (.obj [("title", .ofString "T"), ("airtableBaseId", .ofString "b"),
    ("airtableTableId", .ofString "t"), ("questions", .arr [selfish, selfish])]) =
    .error (.duplicateKey "a") := by rfl

end Intake.Payload
