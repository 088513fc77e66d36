import Intake.Schema.Scalar

/-!
# Passing the checks of a record

A record passes exactly when every field passes. So what is known of a record that passed is one fact
for each field: under which value the field was given, and that this value passed the field's check.
-/

namespace Intake

namespace Checked

variable {α β : Type}

@[simp] theorem fault_ne_ok {f : Fault} {a : α} : (fault f : Checked α) ≠ .ok a := by simp [fault]

@[simp] theorem within_eq_ok {s : Step} {c : Checked α} {a : α} : within s c = .ok a ↔ c = .ok a := by
  cases c <;> simp [within]

/-- Checks side by side pass exactly when all pass. -/
theorem also_eq_ok {f : Checked (α → β)} {c : Checked α} {b : β} :
    f.also c = .ok b ↔ ∃ g a, f = .ok g ∧ c = .ok a ∧ g a = b := by
  cases f <;> cases c <;> simp [also, both]

/-- The items of a list pass exactly when each passes. -/
theorem itemsFrom_eq_ok {check : Value → Checked α} {n : Nat} {items : List Value} {as : List α} :
    itemsFrom check n items = .ok as ↔ items.map check = as.map .ok := by
  induction items generalizing n as with
  | nil => cases as <;> simp [itemsFrom]
  | cons v vs ih =>
    rw [itemsFrom, List.map_cons]
    cases as with
    | nil =>
      cases hv : check v <;> cases hvs : itemsFrom check (n + 1) vs <;>
        simp [both, within]
    | cons a as =>
      rw [List.map_cons, List.cons.injEq, ← ih (n := n + 1)]
      cases hv : check v <;> cases hvs : itemsFrom check (n + 1) vs <;>
        simp [both, within]

theorem list_eq_ok {check : Value → Checked α} {v : Value} {as : List α} :
    list check v = .ok as ↔ ∃ items, v = .arr items ∧ items.map check = as.map .ok := by
  cases v <;> simp [list, itemsFrom_eq_ok]

theorem object_eq_ok {v : Value} {ms : Members} : object v = .ok ms ↔ v = .obj ms := by
  cases v <;> simp [object]

theorem record_eq_ok {name : Text} {fields : Members → Checked α} {v : Value} {a : α} :
    record name fields v = .ok a ↔ ∃ ms, v = .obj ms ∧ fields ms = .ok a := by
  cases v <;> simp [record]

end Checked

namespace FieldName

variable {α : Type}

/-- The value that a field is given: under its wire name, or else under its plain name. -/
def value? (n : FieldName) (ms : Members) : Option Value := (n.given? ms).map (·.2)

theorem value?_of_wire {n : FieldName} {ms : Members} {v : Value} (h : ms.get? n.wire = some v) :
    n.value? ms = some v := by
  simp [value?, given?, h]

theorem value?_of_plain {n : FieldName} {ms : Members} (h : ms.get? n.wire = none) :
    n.value? ms = ms.get? n.plain := by
  unfold value? given?
  rw [h]
  cases ms.get? n.plain <;> rfl

theorem value?_same (name : Text) (ms : Members) : (same name).value? ms = ms.get? name := by
  unfold value? given? same
  cases ms.get? name <;> rfl

/-- A field that must be given passes when it is given and its value passes. -/
theorem required_eq_ok {n : FieldName} {check : Value → Checked α} {ms : Members} {a : α} :
    n.required check ms = .ok a ↔ ∃ v, n.value? ms = some v ∧ check v = .ok a := by
  unfold required value?
  cases n.given? ms <;> simp

theorem required_of_wire {n : FieldName} {check : Value → Checked α} {ms : Members} {v : Value} {a : α}
    (hv : ms.get? n.wire = some v) (ha : check v = .ok a) : n.required check ms = .ok a :=
  required_eq_ok.2 ⟨v, value?_of_wire hv, ha⟩

/-- A field with a default passes when its value passes, or when it is not given. -/
theorem withDefault_eq_ok {n : FieldName} {d a : α} {check : Value → Checked α} {ms : Members} :
    n.withDefault d check ms = .ok a ↔
      (∃ v, n.value? ms = some v ∧ check v = .ok a) ∨ n.value? ms = none ∧ d = a := by
  unfold withDefault value?
  cases n.given? ms <;> simp

theorem withDefault_of_wire {n : FieldName} {d a : α} {check : Value → Checked α} {ms : Members}
    {v : Value} (hv : ms.get? n.wire = some v) (ha : check v = .ok a) :
    n.withDefault d check ms = .ok a :=
  withDefault_eq_ok.2 (.inl ⟨v, value?_of_wire hv, ha⟩)

end FieldName

namespace Schema

theorem text_eq_ok {v : Value} {t : Text} : text v = .ok t ↔ v = .str t := by
  cases v <;> simp [text]

theorem unicodeText_eq_ok {v : Value} {t : Text} :
    unicodeText v = .ok t ↔ v = .str t ∧ t.encodable = true := by
  cases v with
  | str s =>
    rw [unicodeText]
    split
    · rename_i h
      constructor
      · intro heq
        cases heq
        exact ⟨rfl, h⟩
      · rintro ⟨heq, -⟩
        cases heq
        rfl
    · rename_i h
      constructor
      · intro heq
        exact absurd heq Checked.fault_ne_ok
      · rintro ⟨heq, ht⟩
        cases heq
        exact absurd ht h
  | _ => simp [unicodeText]

theorem nonEmptyText_eq_ok {v : Value} {t : Text} :
    nonEmptyText v = .ok t ↔ v = .str t ∧ t.encodable = true ∧ t ≠ [] := by
  rw [nonEmptyText]
  cases hv : unicodeText v with
  | failed issues =>
    have hne : unicodeText v ≠ .ok t := by simp [hv]
    rw [Ne, unicodeText_eq_ok] at hne
    constructor
    · intro heq
      cases heq
    · rintro ⟨h, ht, -⟩
      exact absurd ⟨h, ht⟩ hne
  | ok s =>
    obtain ⟨rfl, hs⟩ := unicodeText_eq_ok.1 hv
    cases s with
    | nil =>
      constructor
      · intro heq
        exact absurd heq Checked.fault_ne_ok
      · rintro ⟨heq, -, hne⟩
        cases heq
        exact absurd rfl hne
    | cons c s =>
      simp only [Checked.ok.injEq, Value.str.injEq]
      constructor
      · rintro rfl
        exact ⟨rfl, hs, by simp⟩
      · rintro ⟨rfl, -⟩
        rfl

/-- A choice passes as what its name stands for. -/
theorem choice_eq_ok {α : Type} {names : List Text} {ofName? : Text → Option α} {v : Value} {a : α} :
    choice names ofName? v = .ok a ↔ ∃ t, v = .str t ∧ t.encodable = true ∧ ofName? t = some a := by
  cases v with
  | str s =>
    rw [choice]
    split
    · rename_i h
      cases hs : ofName? s <;> simp [h, hs]
    · rename_i h
      simp [h]
  | _ => simp [choice]

end Schema
end Intake
