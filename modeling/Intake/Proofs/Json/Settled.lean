import Intake.Proofs.Json.Escape
import Intake.Proofs.Json.Members
import Intake.Proofs.Number.Rounding

/-!
# Settled and regular values

A value that was written comes back settled: in its strings the halves of code points are put together,
and members whose keys became the same that way are one. A value is regular when no object in it names a
key twice and its real numbers are floating-point numbers. A regular value whose strings have no halves
is settled already.
-/

namespace Intake

namespace Value

mutual
/-- The value as it comes back. -/
def settled : Value → Value
  | .str s => .str s.joined
  | .arr items => .arr (settledItems items)
  | .obj ms => .obj (Members.ofPairs (settledMembers ms))
  | .null => .null
  | .bool b => .bool b
  | .int n => .int n
  | .real x => .real x
/-- Items as they come back. -/
def settledItems : List Value → List Value
  | [] => []
  | v :: vs => settled v :: settledItems vs
/-- Members as they come back, before repeated keys are set. -/
def settledMembers : List (Text × Value) → List (Text × Value)
  | [] => []
  | (k, v) :: rest => (k.joined, settled v) :: settledMembers rest
end

mutual
/-- No object names a key twice, and every real number is a floating-point number. -/
def Regular : Value → Prop
  | .real x => x.Sound
  | .arr items => RegularItems items
  | .obj ms => (Members.keys ms).Nodup ∧ RegularMembers ms
  | _ => True
/-- Every item is regular. -/
def RegularItems : List Value → Prop
  | [] => True
  | v :: vs => Regular v ∧ RegularItems vs
/-- Every member is regular. -/
def RegularMembers : List (Text × Value) → Prop
  | [] => True
  | (_, v) :: rest => Regular v ∧ RegularMembers rest
end

theorem regularItems_iff {vs : List Value} : RegularItems vs ↔ ∀ v ∈ vs, v.Regular := by
  induction vs with
  | nil => simp [RegularItems]
  | cons v vs ih => simp [RegularItems, ih]

theorem regularMembers_iff {ms : List (Text × Value)} : RegularMembers ms ↔ ∀ e ∈ ms, e.2.Regular := by
  induction ms with
  | nil => simp [RegularMembers]
  | cons e ms ih =>
    obtain ⟨k, v⟩ := e
    simp [RegularMembers, ih]

theorem allTextItems_iff {p : Text → Bool} {vs : List Value} :
    allTextItems p vs = true ↔ ∀ v ∈ vs, v.allText p = true := by
  induction vs with
  | nil => simp [allTextItems]
  | cons v vs ih => simp [allTextItems, ih]

theorem allTextMembers_iff {p : Text → Bool} {ms : List (Text × Value)} :
    allTextMembers p ms = true ↔ ∀ e ∈ ms, p e.1 = true ∧ e.2.allText p = true := by
  induction ms with
  | nil => simp [allTextMembers]
  | cons e ms ih =>
    obtain ⟨k, v⟩ := e
    simp [allTextMembers, ih, and_assoc]

theorem allRealItems_iff {p : Binary64 → Bool} {vs : List Value} :
    allRealItems p vs = true ↔ ∀ v ∈ vs, v.allReal p = true := by
  induction vs with
  | nil => simp [allRealItems]
  | cons v vs ih => simp [allRealItems, ih]

theorem allRealMembers_iff {p : Binary64 → Bool} {ms : List (Text × Value)} :
    allRealMembers p ms = true ↔ ∀ e ∈ ms, e.2.allReal p = true := by
  induction ms with
  | nil => simp [allRealMembers]
  | cons e ms ih =>
    obtain ⟨k, v⟩ := e
    simp [allRealMembers, ih]

theorem settledItems_eq_map (vs : List Value) : settledItems vs = vs.map settled := by
  induction vs with
  | nil => rfl
  | cons v vs ih => rw [settledItems, ih, List.map_cons]

theorem settledMembers_eq_map (ms : List (Text × Value)) :
    settledMembers ms = ms.map fun e => (e.1.joined, e.2.settled) := by
  induction ms with
  | nil => rfl
  | cons e ms ih =>
    obtain ⟨k, v⟩ := e
    rw [settledMembers, ih, List.map_cons]

/-- An object whose keys have no halves comes back with the same keys. -/
theorem settled_obj {ms : Members} (hnodup : ms.keys.Nodup)
    (hkeys : ms.keys.all Text.encodable = true) :
    (Value.obj ms).settled = .obj (ms.map fun e => (e.1, e.2.settled)) := by
  have hmap : settledMembers ms = ms.map fun e => (e.1, e.2.settled) := by
    rw [settledMembers_eq_map]
    refine List.map_congr_left fun e he => ?_
    rw [List.all_eq_true] at hkeys
    rw [Text.joined_eq_self (hkeys e.1 (List.mem_map_of_mem he))]
  have hsame : Members.keys (ms.map fun e => (e.1, e.2.settled)) = ms.keys := by
    rw [Members.keys, List.map_map]; rfl
  rw [settled, hmap, Members.ofPairs_eq_self (by rw [hsame]; exact hnodup)]

mutual
/-- What has no halves of code points comes back as it was. -/
theorem settled_eq_self : ∀ v : Value, v.Regular → v.allText Text.encodable = true → v.settled = v
  | .null, _, _ => rfl
  | .bool _, _, _ => rfl
  | .int _, _, _ => rfl
  | .real _, _, _ => rfl
  | .str s, _, ht => by rw [settled, Text.joined_eq_self ht]
  | .arr items, hv, ht => by rw [settled, settledItems_eq_self items hv ht]
  | .obj ms, hv, ht => by
    rw [settled, settledMembers_eq_self ms hv.2 ht, Members.ofPairs_eq_self hv.1]
theorem settledItems_eq_self : ∀ vs : List Value, RegularItems vs →
    allTextItems Text.encodable vs = true → settledItems vs = vs
  | [], _, _ => rfl
  | v :: vs, hv, ht => by
    rw [allTextItems, Bool.and_eq_true] at ht
    rw [settledItems, settled_eq_self v hv.1 ht.1, settledItems_eq_self vs hv.2 ht.2]
theorem settledMembers_eq_self : ∀ ms : List (Text × Value), RegularMembers ms →
    allTextMembers Text.encodable ms = true → settledMembers ms = ms
  | [], _, _ => rfl
  | (k, v) :: ms, hv, ht => by
    rw [allTextMembers, Bool.and_eq_true, Bool.and_eq_true] at ht
    rw [settledMembers, Text.joined_eq_self ht.1.1, settled_eq_self v hv.1 ht.1.2,
      settledMembers_eq_self ms hv.2 ht.2]
end

end Value

end Intake
