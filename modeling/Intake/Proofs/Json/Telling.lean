import Intake.Http.Reply
import Intake.Proofs.Json.Settled

/-!
# Values that can be told

A JSON text that every client can read holds no number that is not finite and no half of a code point.
A value without these two is plain. It is plain exactly when its parts are, and leaving private members
out keeps it plain.
-/

namespace Intake

namespace Value

/-- Every client can read the value. -/
structure Plain (v : Value) : Prop where
  finite : v.allReal Binary64.isFinite = true
  encodable : v.allText Text.encodable = true

/-- The values that can be told are the plain ones. -/
theorem isOk_renderable {v : Value} : v.renderable.isOk = true ↔ v.Plain := by
  rw [renderable]
  constructor
  · intro h
    split at h
    · cases h
    · rename_i hfinite
      split at h
      · cases h
      · rename_i hencodable
        exact ⟨by simpa using hfinite, by simpa using hencodable⟩
  · rintro ⟨hfinite, hencodable⟩
    rw [hfinite, hencodable]
    rfl

instance (v : Value) : Decidable v.Plain := decidable_of_iff _ isOk_renderable

theorem renderable_of_plain {v : Value} (h : v.Plain) : v.renderable = .ok v := by
  rw [renderable, h.finite, h.encodable]
  rfl

/-! ### Parts -/

@[simp] theorem plain_null : Plain .null := ⟨rfl, rfl⟩

@[simp] theorem plain_bool (b : Bool) : Plain (.bool b) := ⟨rfl, rfl⟩

@[simp] theorem plain_int (n : Int) : Plain (.int n) := ⟨rfl, rfl⟩

@[simp] theorem plain_str {t : Text} : Plain (.str t) ↔ t.encodable = true :=
  ⟨fun h => h.encodable, fun h => ⟨rfl, h⟩⟩

@[simp] theorem plain_arr {vs : List Value} : Plain (.arr vs) ↔ ∀ v ∈ vs, v.Plain := by
  constructor
  · rintro ⟨hfinite, hencodable⟩ v hv
    exact ⟨allRealItems_iff.1 hfinite v hv, allTextItems_iff.1 hencodable v hv⟩
  · intro h
    exact ⟨allRealItems_iff.2 fun v hv => (h v hv).finite,
      allTextItems_iff.2 fun v hv => (h v hv).encodable⟩

@[simp] theorem plain_obj {ms : Members} :
    Plain (.obj ms) ↔ ∀ e ∈ ms, e.1.encodable = true ∧ e.2.Plain := by
  constructor
  · rintro ⟨hfinite, hencodable⟩ e he
    obtain ⟨hkey, hvalue⟩ := allTextMembers_iff.1 hencodable e he
    exact ⟨hkey, allRealMembers_iff.1 hfinite e he, hvalue⟩
  · intro h
    exact ⟨allRealMembers_iff.2 fun e he => (h e he).2.finite,
      allTextMembers_iff.2 fun e he => ⟨(h e he).1, (h e he).2.encodable⟩⟩

/-! ### Leaving private members out -/

theorem publishedItems_eq_map (vs : List Value) : publishedItems vs = vs.map published := by
  induction vs with
  | nil => rfl
  | cons v vs ih => rw [publishedItems, ih, List.map_cons]

mutual
/-- What is left of a plain value is plain. -/
theorem plain_published : ∀ v : Value, v.Plain → v.published.Plain
  | .null, h => h
  | .bool _, h => h
  | .int _, h => h
  | .real _, h => h
  | .str _, h => h
  | .arr items, h => plain_arr.2 (plain_publishedItems items (plain_arr.1 h))
  | .obj ms, h => plain_obj.2 (plain_publishedMembers ms (plain_obj.1 h))
theorem plain_publishedItems : ∀ vs : List Value, (∀ v ∈ vs, v.Plain) →
    ∀ v ∈ publishedItems vs, v.Plain
  | [], h => h
  | v :: vs, h => by
    rw [List.forall_mem_cons] at h
    rw [publishedItems, List.forall_mem_cons]
    exact ⟨plain_published v h.1, plain_publishedItems vs h.2⟩
theorem plain_publishedMembers : ∀ ms : List (Text × Value),
    (∀ e ∈ ms, e.1.encodable = true ∧ e.2.Plain) →
    ∀ e ∈ publishedMembers ms, e.1.encodable = true ∧ e.2.Plain
  | [], h => h
  | (k, v) :: ms, h => by
    rw [List.forall_mem_cons] at h
    have hrest := plain_publishedMembers ms h.2
    rw [publishedMembers]
    split
    · exact hrest
    · exact List.forall_mem_cons.2 ⟨⟨h.1.1, plain_published v h.1.2⟩, hrest⟩
end

end Value
end Intake
